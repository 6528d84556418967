import ServerScaffold.Cpp.TypeExpr

/-!
The values that members are initialised with.
-/
namespace ServerScaffold.Cpp

open Interface (Leaf Node)

/-- A text in double quotes, with its quotes and backslashes escaped. -/
def quoted (text : String) : String :=
  let escaped (c : Char) : List Char := if c = '"' ∨ c = '\\' then ['\\', c] else [c]
  String.ofList ('"' :: text.toList.flatMap escaped ++ ['"'])

/-- A number becomes a float by its suffix, after a point. -/
def floatText (text : String) : String :=
  if text.toList.contains '.' then text ++ "f" else text ++ ".0f"

def leafInitial (kind : Leaf) (default : Option String) : String :=
  match kind with
  | .string | .date | .dateTime | .byteArray | .binary | .uuid | .uri | .enumeration _ =>
    quoted (default.getD "")
  | .boolean =>
    match default with
    | some text => String.ofList (Text.lowerText text.toList)
    | none => "false"
  | .float => floatText (default.getD "0.0")
  | .double => default.getD "0.0"
  | .long => default.getD "0" ++ "L"
  | .integer => default.getD "0"
  | .any => nullToken

/-- The initial value of a node. Collections begin empty, and hold what is no scalar by shared
pointers. -/
def initial (settings : Settings) (node : Node) : String :=
  match node with
  | .leaf kind _ => leafInitial kind node.defaultText?
  | .holder .map _ _ => (resolve settings node).unqualified.text ++ "()"
  | .holder _ element _ =>
    let held := (resolve settings element).unqualified
    let held := if held.isScalar then held else .shared held
    (TypeExpr.container (outerType settings node) [held]).text ++ "()"
  | .ref _ _ =>
    match resolve settings node with
    | .model _ name => makeSharedToken ++ "<" ++ name ++ ">()"
    | _ => nullToken
  | .union _ _ => nullToken

end ServerScaffold.Cpp
