import ServerScaffold.Api.Schema
import ServerScaffold.Interface.Node

/-!
The node of a schema. A reference keeps its name. Alternatives make a union, a single part stands for
the whole, and otherwise the type keyword decides together with the format.
-/
namespace ServerScaffold.Interface

open Api (Keywords Additional Schema TypeName)

variable {σ : Type}

/-- The branches of a choice: `oneOf`, or `anyOf` where there is no `oneOf`. -/
def branches (k : Keywords σ) : List σ := if k.oneOf.isEmpty then k.anyOf else k.oneOf

def texts (values : List Literal) : List String :=
  values.filterMap fun value => match value with
    | .atom (.text text) => some text
    | _ => none

def stringLeaf (k : Keywords σ) : Leaf :=
  match texts k.values with
  | [] =>
    match k.format with
    | some "date" => .date
    | some "date-time" => .dateTime
    | some "byte" => .byteArray
    | some "binary" => .binary
    | some "uuid" => .uuid
    | some "uri" => .uri
    | _ => .string
  | values => .enumeration values

def arrayNode (k : Keywords Node) : Node :=
  .holder (if k.uniqueItems = some true then .set else .array) (k.items.getD (.leaf .any none))
    k.default

/-- An object is a map if nothing but `additionalProperties` describes it. -/
def objectNode (k : Keywords Node) : Node :=
  if k.properties.isEmpty then
    match k.additional with
    | some (.schema element) => .holder .map element k.default
    | some (.flag true) => .holder .map (.leaf .any none) k.default
    | _ => .leaf .any k.default
  else .leaf .any k.default

def typedNode (k : Keywords Node) : Option TypeName → Node
  | some .string => .leaf (stringLeaf k) k.default
  | some .integer => .leaf (if k.format = some "int64" then .long else .integer) k.default
  | some .number => .leaf (if k.format = some "float" then .float else .double) k.default
  | some .boolean => .leaf .boolean k.default
  | some .array => arrayNode k
  | some .object => objectNode k
  | some .null => .leaf .any k.default
  | none => if k.items.isSome then arrayNode k else objectNode k

/-- The node of keywords whose parts are nodes already. -/
def classify (k : Keywords Node) : Node :=
  match branches k, k.allOf with
  | branch :: rest, _ => .union (branch :: rest) k.default
  | [], [part] => part.setDefault k.default
  | [], [] => typedNode k (k.type.bind (·.primary?))
  | [], _ => .leaf .any k.default

def schemaNode : Schema → Node :=
  Schema.fold (fun pointer => .ref (Api.pointerName pointer) none) classify

theorem node_of_ref (pointer : String) :
    schemaNode (.ref pointer) = .ref (Api.pointerName pointer) none := rfl

theorem node_of_keywords (k : Keywords Schema) :
    schemaNode (.inline k) = classify (k.map schemaNode) := Schema.fold_inline _ _ k

end ServerScaffold.Interface
