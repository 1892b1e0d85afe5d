import LinkRouting.Request.Query
import LinkRouting.Text.Blank
import LinkRouting.Url.Parse

namespace LinkRouting

structure Options where
  /-- Read plus signs in query values and in parameters of the path as spaces. -/
  decodePlus : Bool := true
  /-- Take every host for the first component of the path. -/
  hostAsComponent : Bool := false
deriving DecidableEq, Repr, Inhabited

structure FragmentParts where
  /-- What is written behind the path, either nothing or a hash and the path of the fragment. -/
  pathEnd : List Char
  items : List Query.Item
deriving DecidableEq, Repr

namespace FragmentParts

/-- Splits a fragment at its question mark.  Without one, the fragment is a query if it can be
meant as one, and otherwise a path. -/
def ofFragment (plus : Bool) (fragment : List Char) : FragmentParts :=
  let (path, query) :=
    match Text.cut '?' fragment with
    | (path, some query) => (path, query)
    | (_, none) => (fragment, fragment)
  let items := Query.items plus query
  let meant := Query.meant items
  let isQuery := meant && path == query
  ⟨if path.isEmpty || isQuery then [] else '#' :: path, if meant then items else []⟩

end FragmentParts

/-- The URL `source`, taken apart. -/
structure Request where
  source : String
  url : Url
  options : Options
  additional : Params
  components : List String
  query : Params
deriving DecidableEq

namespace Request

/-- A host that is no name on a network: it holds no dot and is not the local host. -/
def isComponent (host : List Char) : Bool :=
  host ≠ "localhost".toList && !host.contains '.'

/-- The path, behind the host where that counts as a component. -/
def hostedPath (options : Options) (url : Url) : List Char :=
  match url.host? with
  | none => url.path
  | some host =>
      if options.hostAsComponent || isComponent host then
        host ++ '/' :: url.path.dropWhile (· == '/')
      else url.path

/-- The pieces between slashes.  Slashes at the ends do not count, others all do. -/
def splitPath (path : List Char) : List String :=
  let inner := Text.trimBoth (· == '/') path
  if inner.isEmpty then [] else (inner.splitOn '/').map String.ofList

def ofUrl (source : String) (url : Url) (options : Options) (additional : Params) : Request :=
  let fragment := FragmentParts.ofFragment options.decodePlus (url.fragment.getD [])
  let items := Query.items options.decodePlus (url.query.getD []) ++ fragment.items
  { source, url, options, additional
    components := splitPath (hostedPath options url ++ fragment.pathEnd)
    query := Query.params items }

def parse [Url.Names] (source : String) (options : Options) (additional : Params) :
    Except UrlError Request :=
  (Url.parse source).map fun url => ofUrl source url options additional

end Request

end LinkRouting
