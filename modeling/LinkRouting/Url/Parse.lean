import LinkRouting.Text.Blank
import LinkRouting.Text.Cut
import LinkRouting.Url.Authority
import LinkRouting.Url.Path

namespace LinkRouting.Url

/-! Reading a URL, which always has to have a scheme: nothing is relative to anything.  Control
characters and blanks at its ends do not count, and breaks hardly anywhere: only in the path of a
file can they make a difference.
-/

/-- Where a URL points to, without query and fragment. -/
structure Location where
  authority : Option Authority
  path : List Char
deriving DecidableEq, Repr

def locateHost [Names] (kind : SchemeKind) (scheme : String) (text : List Char) (followed : Bool) :
    Except UrlError Location :=
  let inside := text.takeWhile fun c => !kind.endsAuthority c
  let after := text.drop inside.length
  match readAuthority kind scheme inside (followed || !after.isEmpty) with
  | .error error => .error error
  | .ok (authority, rest) =>
      let text := rest ++ after
      if text.isEmpty ∧ kind.special = false then .ok ⟨authority, []⟩
      else .ok ⟨authority, pathOf kind (behindSlash kind text)⟩

def localFile (text : List Char) : Location :=
  ⟨some ⟨[], [], none⟩, pathOf .file text⟩

/-- Reads what follows the two slashes of a file.  A drive letter is no host, and the local host
is none. -/
def locateFile [Names] (text : List Char) : Except UrlError Location :=
  let inside := text.takeWhile fun c => !SchemeKind.file.slash c
  let after := text.drop inside.length
  let hostText := Text.withoutBreaks inside
  if hostText.isEmpty ∨ isDriveLetter hostText then .ok (localFile text)
  else
    match domainHost hostText with
    | .error error => .error error
    | .ok host =>
        if host = "localhost".toList then .ok (localFile after)
        else
          let trail := Trail.ofChars .file (behindSlash .file after)
          .ok ⟨some ⟨[], if trail.onDrive then [] else host, none⟩,
            renderSegments .file trail.segments⟩

/-- Reads what stands between the colon of the scheme and the query. -/
def locate [Names] (kind : SchemeKind) (scheme : String) (text : List Char) (followed : Bool) :
    Except UrlError Location :=
  match kind with
  | .network =>
      locateHost kind scheme ((Text.withoutBreaks text).dropWhile kind.slash) followed
  | .file =>
      match (behindSlash? kind text).bind (behindSlash? kind) with
      | some rest => locateFile rest
      | none => .ok (localFile (behindSlash kind text))
  | .other =>
      match Text.withoutBreaks text with
      | '/' :: '/' :: rest => locateHost kind scheme rest followed
      | '/' :: rest => .ok ⟨none, pathOf kind rest⟩
      | text => .ok ⟨none, encodeControls text⟩

def parse [Names] (text : String) : Except UrlError Url :=
  match splitScheme? (Text.trimBoth (fun c => c.toNat ≤ 0x20) text.toList) with
  | none => .error .noScheme
  | some (scheme, rest) =>
      let kind := SchemeKind.ofScheme scheme
      let (rest, fragment) := Text.cut '#' rest
      let (rest, query) := Text.cut '?' rest
      match locate kind scheme rest (query.isSome || fragment.isSome) with
      | .error error => .error error
      | .ok location =>
          .ok ⟨scheme, location.authority, location.path,
            query.map fun text => encodeQuery kind (Text.withoutBreaks text),
            fragment.map fun text => encodeFragment (Text.withoutBreaks text)⟩

end LinkRouting.Url
