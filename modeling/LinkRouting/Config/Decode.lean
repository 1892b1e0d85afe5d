import LinkRouting.Config.Document
import LinkRouting.Config.Schema

namespace LinkRouting.Config

/-- Where kinds of documents differ. -/
structure Reading where
  /-- Whether a list may not be longer than the record that it stands for. -/
  exact : Bool
  /-- What may stand under the name of an alternative that holds nothing. -/
  hollow : Document → Bool

namespace Reading

/-- JSON documents. -/
def strict : Reading where
  exact := true
  hollow
    | .null => true
    | _ => false

/-- Configuration files. -/
def lenient : Reading where
  exact := false
  hollow
    | .list [] | .table [] => true
    | _ => false

/-- The fields of a record by their names.  A record is a table of them, of which unknown ones do
not count, or a list of them in order, and a date is a record without any. -/
def fields (reading : Reading) (names : List String) : Document → Option (List (Option Document))
  | .table members => some (names.map fun name => members.lookup name)
  | .list items =>
      if reading.exact && names.length < items.length then none
      else some ((List.range names.length).map fun index => items[index]?)
  | .moment => if reading.exact then none else some (names.map fun _ => none)
  | _ => none

end Reading

def optionalField (read : Document → Option α) (default : α) : Option Document → Option α
  | none => some default
  | some document => read document

def requiredField (read : Document → Option α) (field : Option Document) : Option α :=
  field.bind read

def readBoolean : Document → Option Bool
  | .boolean value => some value
  | _ => none

def readText : Document → Option String
  | .text value => some value
  | _ => none

/-- A text, or nothing where nothing is written as such. -/
def readOptionalText : Document → Option (Option String)
  | .null => some none
  | .text value => some (some value)
  | _ => none

def readPriority : Document → Option Nat
  | .integer value => if 0 ≤ value ∧ value < 0x100000000 then some value.toNat else none
  | _ => none

def readList (read : Document → Option α) : Document → Option (List α)
  | .list items => items.mapM read
  | _ => none

def LogFormat.ofName? : String → Option LogFormat
  | "pretty" => some .pretty
  | "json" => some .json
  | _ => none

def LogFormat.name : LogFormat → String
  | pretty => "pretty"
  | json => "json"

def readLogFormat (reading : Reading) : Document → Option LogFormat
  | .text name => LogFormat.ofName? name
  | .table [(name, content)] => if reading.hollow content then LogFormat.ofName? name else none
  | _ => none

def readOptions (reading : Reading) (document : Document) : Option Options :=
  match reading.fields ["decode_plus_symbols", "treat_host_as_path_component"] document with
  | some [plus, host] => do
      let default : Options := {}
      let decodePlus ← optionalField readBoolean default.decodePlus plus
      let hostAsComponent ← optionalField readBoolean default.hostAsComponent host
      some { decodePlus, hostAsComponent }
  | _ => none

def readLogging (reading : Reading) (document : Document) : Option Logging :=
  match reading.fields ["log_level", "log_format"] document with
  | some [level, format] => do
      let default : Logging := {}
      let level ← optionalField readText default.level level
      let format ← optionalField (readLogFormat reading) default.format format
      some { level, format }
  | _ => none

def readRouteEntry (reading : Reading) (document : Document) : Option RouteEntry :=
  match reading.fields ["pattern", "patterns", "priority", "target"] document with
  | some [pattern, patterns, priority, target] => do
      let pattern ← optionalField readOptionalText none pattern
      let patterns ← optionalField (readList readText) [] patterns
      let priority ← optionalField readPriority 0 priority
      let target ← requiredField readText target
      some { pattern, patterns, priority, target }
  | _ => none

def readSchemeEntry (reading : Reading) (document : Document) : Option SchemeEntry :=
  match reading.fields ["name", "fallback_to_global", "routes"] document with
  | some [name, fallback, routes] => do
      let name ← requiredField readText name
      let fallback ← optionalField readBoolean false fallback
      let routes ← optionalField (readList (readRouteEntry reading)) [] routes
      some { name, fallback, routes }
  | _ => none

def ofDocument? (reading : Reading) (document : Document) : Option Config :=
  match reading.fields ["options", "observability", "routes", "schemes"] document with
  | some [options, logging, routes, schemes] => do
      let options ← optionalField (readOptions reading) {} options
      let logging ← optionalField (readLogging reading) {} logging
      let routes ← optionalField (readList (readRouteEntry reading)) [] routes
      let schemes ← optionalField (readList (readSchemeEntry reading)) [] schemes
      some { options, logging, routes, schemes }
  | _ => none

def ofJson? (json : Json) : Option Config :=
  ofDocument? .strict (.ofJson json)

end LinkRouting.Config
