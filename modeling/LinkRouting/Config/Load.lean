import LinkRouting.Config.Decode
import LinkRouting.Config.Validation
import LinkRouting.Toml.Parse

namespace LinkRouting.Config

inductive LoadError where
  /-- The text is no document, or the document no route table. -/
  | malformed
  | invalid (problems : List Problem)
deriving DecidableEq, Repr

def ofToml? (text : String) : Option Config :=
  (Toml.parse? text).bind (ofDocument? .lenient)

def checked (config : Config) : Except LoadError Config :=
  match config.problems with
  | [] => .ok config
  | problems => .error (.invalid problems)

def load (text : String) : Except LoadError Config :=
  match ofToml? text with
  | none => .error .malformed
  | some config => config.checked

end LinkRouting.Config
