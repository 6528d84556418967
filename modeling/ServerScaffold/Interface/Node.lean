import ServerScaffold.Literal

/-!
Nodes: what a schema comes to as a type. A node is a leaf, a reference by name, a collection of one
element type, or a union; and it carries the default that the description gives it.
-/
namespace ServerScaffold.Interface

open Source (Atom)

inductive Leaf where
  | boolean
  | integer | long
  | float | double
  | string
  | date | dateTime
  | byteArray | binary
  | uuid | uri
  | enumeration (values : List String)
  /-- A free-form object, or whatever has no closer match. -/
  | any
deriving DecidableEq, Repr

inductive Container where
  | array | set | map
deriving DecidableEq, Repr

inductive Node where
  | leaf (kind : Leaf) (default : Option Literal)
  | ref (name : String) (default : Option Literal)
  | holder (container : Container) (element : Node) (default : Option Literal)
  | union (branches : List Node) (default : Option Literal)
deriving Repr

namespace Node

instance : Inhabited Node := ⟨.leaf .any none⟩

def default? : Node → Option Literal
  | .leaf _ value | .ref _ value | .holder _ _ value | .union _ value => value

def setDefault (value : Option Literal) : Node → Node
  | .leaf kind _ => .leaf kind value
  | .ref name _ => .ref name value
  | .holder container element _ => .holder container element value
  | .union branches _ => .union branches value

def override (value : Option Literal) (node : Node) : Node :=
  match value with
  | none => node
  | some _ => node.setDefault value

/-- The default as it would be written in code: texts bare, all else as its text. A null is none. -/
def defaultText? (node : Node) : Option String :=
  match node.default? with
  | none | some (.atom .null) => none
  | some (.atom (.text value)) => some value
  | some value => some value.text

mutual

/-- The names referred to, in order and with repetitions. -/
def refs : Node → List String
  | .leaf _ _ => []
  | .ref name _ => [name]
  | .holder _ element _ => element.refs
  | .union branches _ => branchRefs branches

def branchRefs : List Node → List String
  | [] => []
  | branch :: rest => branch.refs ++ branchRefs rest

end

theorem branch_refs (branches : List Node) : branchRefs branches = branches.flatMap refs := by
  induction branches with
  | nil => rfl
  | cons branch rest ih => simp [branchRefs, ih]

mutual

def replace (target : String → Option Literal → Node) : Node → Node
  | .leaf kind value => .leaf kind value
  | .ref name value => target name value
  | .holder container element value => .holder container (element.replace target) value
  | .union branches value => .union (replaceAll target branches) value

def replaceAll (target : String → Option Literal → Node) : List Node → List Node
  | [] => []
  | branch :: rest => branch.replace target :: replaceAll target rest

end

theorem replace_all (target : String → Option Literal → Node) (branches : List Node) :
    replaceAll target branches = branches.map (replace target) := by
  induction branches with
  | nil => rfl
  | cons branch rest ih => simp [replaceAll, ih]

end Node

end ServerScaffold.Interface
