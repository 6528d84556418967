import ServerScaffold.Api.Document

/-!
Routes of the generated server, and the methods it registers them under.
-/
namespace ServerScaffold.Cpp

/-- Writes a path, where `open_` holds what has been read since an opening brace, backwards. -/
def routeFrom (open_ : Option (List Char)) : List Char → List Char
  | [] =>
    match open_ with
    | none => []
    | some name => '\x7b' :: name.reverse
  | c :: rest =>
    match open_ with
    | none => if c = '\x7b' then routeFrom (some []) rest else c :: routeFrom none rest
    | some name =>
      if c = '\x7d' then ':' :: name.reverse ++ routeFrom none rest
      else routeFrom (some (c :: name)) rest

/-- A path with each name in braces replaced by the name after a colon. -/
def route (path : String) : String := String.ofList (routeFrom none path.toList)

def methodName (method : Api.Method) : String :=
  match method.upperName.toList with
  | [] => ""
  | first :: rest => String.ofList (first :: rest.map Char.toLower)

end ServerScaffold.Cpp
