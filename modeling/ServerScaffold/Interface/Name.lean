import ServerScaffold.Text.Search
import ServerScaffold.Text.Words

/-!
Names in the spellings that code needs, and the names of operations that are called after their route.
-/
namespace ServerScaffold.Interface

/-- A name as given, and in four spellings. -/
structure Name where
  original : String
  pascal : String
  camel : String
  snake : String
  screaming : String
deriving DecidableEq, Repr

def plainName (name : String) : List Char := Text.sanitize name.toList

def pascalName (name : String) : String := String.ofList (Text.pascalCase (plainName name))

def camelName (name : String) : String := String.ofList (Text.camelCase (plainName name))

def snakeName (name : String) : String := String.ofList (Text.snakeCase (plainName name))

def screamingName (name : String) : String := String.ofList (Text.screamingCase (plainName name))

def Name.of (name : String) : Name :=
  ⟨name, pascalName name, camelName name, snakeName name, screamingName name⟩

/-- The singular of an English plural, by its ending. -/
def singular (word : List Char) : List Char :=
  match word.reverse with
  | 's' :: 'e' :: 'i' :: c :: stem => (c :: stem).reverse ++ ['y']
  | 's' :: 'e' :: c :: stem =>
    if c = 's' ∨ c = 'x' ∨ c = 'z' then (c :: stem).reverse else ('e' :: c :: stem).reverse
  | 's' :: c :: stem => if c = 's' then word else (c :: stem).reverse
  | _ => word

def isPlaceholder (segment : List Char) : Bool :=
  segment.head? == some '\x7b' && segment.getLast? == some '\x7d'

def segments (path : List Char) : List (List Char) :=
  (path.splitOn '/').filter fun segment => !segment.isEmpty

def verb (method : String) (endsInPlaceholder : Bool) : List Char :=
  let upper := method.toList.map Char.toUpper
  if upper = "GET".toList then (if endsInPlaceholder then "get" else "list").toList
  else if upper = "POST".toList then "create".toList
  else if upper = "PUT".toList then "update".toList
  else upper.map Char.toLower

/-- The resources of a route, the last one in the singular if the route ends in a placeholder. -/
def resources (endsInPlaceholder : Bool) : List (List Char) → List (List Char)
  | [] => []
  | [last] => [if endsInPlaceholder then singular last else last]
  | part :: rest => part :: resources endsInPlaceholder rest

/-- A verb for the method, and the resources of the path: `GET /pets/\x7bpetId\x7d` is `getPet`. -/
def routeName (method path : String) : String :=
  let parts := segments path.toList
  let endsInPlaceholder := parts.getLast?.any isPlaceholder
  let named := parts.filter fun part => !isPlaceholder part
  String.ofList (verb method endsInPlaceholder ++
    (resources endsInPlaceholder named).flatMap Text.pascalCase)

end ServerScaffold.Interface
