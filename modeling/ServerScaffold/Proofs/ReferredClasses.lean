import ServerScaffold.Proofs.ResolvedTypes

/-!
Which classes stand in the type of a node. They are the classes of the names that the node refers to, less those
that are types of the target already; but a union comes to one token, so what its branches refer to is not among
them. What a type needs to be declared is these classes, and beside them nothing but tokens.
-/
namespace ServerScaffold

namespace Interface.Node

/-- The names referred to outside of unions, in order and with repetitions. -/
def openRefs : Node → List String
  | .leaf _ _ => []
  | .ref name _ => [name]
  | .holder _ element _ => element.openRefs
  | .union _ _ => []

/-- Whether no part of the node is a union. -/
def unionFree : Node → Bool
  | .leaf _ _ | .ref _ _ => true
  | .holder _ element _ => element.unionFree
  | .union _ _ => false

theorem openRefs_subset (node : Node) : node.openRefs ⊆ node.refs := by
  induction node using Node.induct with
  | leaf kind value => exact List.nil_subset _
  | ref name value => exact List.Subset.refl _
  | holder container element value ih => exact ih
  | union branches value => exact List.nil_subset _

theorem openRefs_unionFree (node : Node) (free : node.unionFree = true) : node.openRefs = node.refs := by
  induction node using Node.induct with
  | leaf kind value => rfl
  | ref name value => rfl
  | holder container element value ih => exact ih free
  | union branches value => contradiction

end Interface.Node

namespace Cpp

open Interface (Node)

mutual

/-- The names of the classes in a type, in order and with repetitions. -/
def classes : TypeExpr → List String
  | .scalar _ => []
  | .container _ args => argClasses args
  | .model _ name => [name]
  | .optional inner | .shared inner => classes inner

def argClasses : List TypeExpr → List String
  | [] => []
  | arg :: rest => classes arg ++ argClasses rest

end

theorem arg_classes (args : List TypeExpr) : argClasses args = args.flatMap classes := by
  induction args with
  | nil => rfl
  | cons arg rest ih => exact congrArg (classes arg ++ ·) ih

@[simp] theorem classes_scalar (token : String) : classes (.scalar token) = [] := rfl

@[simp] theorem classes_model (scope : Option String) (name : String) :
    classes (.model scope name) = [name] := rfl

@[simp] theorem classes_container (name : String) (args : List TypeExpr) :
    classes (.container name args) = args.flatMap classes := arg_classes args

/-- Whether a class of that name stands in a type, in whatever namespace. -/
def HasClass (type : TypeExpr) (name : String) : Prop := ∃ scope, Inside (.model scope name) type

theorem hasClass_of_mem {name : String} : ∀ type, name ∈ classes type → HasClass type name
  | .scalar _, member => absurd member List.not_mem_nil
  | .model scope own, member => by
    rw [List.mem_singleton.mp member]
    exact ⟨scope, .here⟩
  | .container token args, member => by
    rw [classes_container, List.mem_flatMap] at member
    obtain ⟨arg, listed, inArg⟩ := member
    obtain ⟨scope, inside⟩ := hasClass_of_mem arg inArg
    exact ⟨scope, .arg listed inside⟩
  | .optional inner, member => by
    obtain ⟨scope, inside⟩ := hasClass_of_mem inner member
    exact ⟨scope, .optional inside⟩
  | .shared inner, member => by
    obtain ⟨scope, inside⟩ := hasClass_of_mem inner member
    exact ⟨scope, .shared inside⟩

theorem mem_classes_iff {type : TypeExpr} {name : String} : name ∈ classes type ↔ HasClass type name := by
  constructor
  · exact hasClass_of_mem type
  · rintro ⟨scope, inside⟩
    induction inside with
    | here => exact List.mem_singleton_self name
    | arg listed inside ih =>
      rw [classes_container, List.mem_flatMap]
      exact ⟨_, listed, ih⟩
    | optional inside ih => exact ih
    | shared inside ih => exact ih

section

variable {settings : Settings} {type : TypeExpr} {name : String}

/-- The symbols of a regular type that are no tokens are its classes, in the same order. -/
theorem regular_symbols (regular : Regular settings type) :
    (symbols settings type).filter (fun symbol => !settings.isKnownToken symbol) = classes type := by
  induction regular with
  | @token token known =>
    simp only [symbols, classes_scalar]
    split
    · rfl
    · simp [known]
  | model unknown => simp [symbols, unknown]
  | @container name args known each ih =>
    simp only [symbols, classes_container, arg_symbols, List.filter_cons, known, Bool.not_true,
      Bool.false_eq_true, ↓reduceIte, List.filter_flatMap]
    exact List.flatMap_congr ih

theorem namedType_classes (settings : Settings) (name : String) :
    classes (namedType settings name) =
      [className settings name].filter fun name => !settings.isKnownToken name := by
  simp only [namedType]
  split
  · next known => simp [known]
  · next unknown => simp [unknown]

theorem known_classes (known : settings.isKnownToken name = true) : classes (namedType settings name) = [] := by
  rw [namedType_known known, classes_scalar]

theorem holder_classes {container : Interface.Container} {element : Node} {value : Option Literal} :
    classes (resolve settings (.holder container element value)) = classes (resolve settings element) := by
  cases container <;> simp [resolve]

/-- The classes in the type of a node are those of the names that it refers to outside of unions, in the same
order, without those that are tokens. -/
theorem resolve_classes (config : Config) (node : Node) :
    classes (resolve (.ofConfig config) node) =
      (node.openRefs.map (className (.ofConfig config))).filter fun name =>
        !(Settings.ofConfig config).isKnownToken name := by
  induction node using Node.induct with
  | leaf kind value => exact known_classes (type_name_known config (leaf_name_listed kind))
  | ref name value => exact namedType_classes _ name
  | holder container element value ih => exact holder_classes.trans ih
  | union branches value => exact known_classes (type_name_known config (by simp [typeNames]))

theorem resolve_hasClass_iff {config : Config} {node : Node} :
    HasClass (resolve (.ofConfig config) node) name ↔
      ∃ referred ∈ node.openRefs, className (.ofConfig config) referred = name ∧
        (Settings.ofConfig config).isKnownToken name = false := by
  rw [← mem_classes_iff, resolve_classes, List.mem_filter, List.mem_map, Bool.not_eq_true']
  constructor
  · rintro ⟨⟨referred, listed, same⟩, unknown⟩
    exact ⟨referred, listed, same, unknown⟩
  · rintro ⟨referred, listed, same, unknown⟩
    exact ⟨⟨referred, listed, same⟩, unknown⟩

theorem hasClass_iff_symbol {config : Config} {node : Node} :
    HasClass (resolve (.ofConfig config) node) name ↔
      name ∈ symbols (.ofConfig config) (resolve (.ofConfig config) node) ∧
        (Settings.ofConfig config).isKnownToken name = false := by
  rw [← mem_classes_iff, ← regular_symbols (resolve_regular config node), List.mem_filter, Bool.not_eq_true']

end

/-- Whatever the options say, the classes in the type of a node are those of the names that it refers to outside
of unions, without those that are tokens. Of the symbols that the type needs to be declared these are just the
ones that are no tokens; so they all come from names that the node refers to, and if no part of it is a union
from all such names but those that are tokens. -/
theorem classes_are_referred_to (config : Config) (node : Node) :
    let settings := Settings.ofConfig config
    let type := resolve settings node
    (∀ name, HasClass type name ↔ ∃ referred ∈ node.openRefs,
      className settings referred = name ∧ settings.isKnownToken name = false) ∧
    (∀ symbol, HasClass type symbol ↔ symbol ∈ symbols settings type ∧ settings.isKnownToken symbol = false) ∧
    (∀ symbol ∈ symbols settings type, HasClass type symbol →
      ∃ referred ∈ node.refs, className settings referred = symbol) ∧
    (node.unionFree = true → ∀ symbol, HasClass type symbol ↔ ∃ referred ∈ node.refs,
      className settings referred = symbol ∧ settings.isKnownToken symbol = false) := by
  intro settings type
  refine ⟨fun name => resolve_hasClass_iff, fun symbol => hasClass_iff_symbol, ?_, ?_⟩
  · intro symbol _ holds
    obtain ⟨referred, listed, same, -⟩ := resolve_hasClass_iff.mp holds
    exact ⟨referred, node.openRefs_subset listed, same⟩
  · intro free symbol
    rw [← node.openRefs_unionFree free]
    exact resolve_hasClass_iff

theorem named_stores_have_one_class :
    let config : Config := { modelNamePrefix := "Shop_" }
    let node : Node := .holder .map (.holder .array (.ref "pet_store" none) none) none
    node.unionFree = true ∧
      ∀ symbol, HasClass (resolve (.ofConfig config) node) symbol ↔ symbol = "Shop_PetStore" := by
  intro config node
  have spelled : className (.ofConfig config) "pet_store" = "Shop_PetStore" := by decide
  have unknown : (Settings.ofConfig config).isKnownToken "Shop_PetStore" = false := by decide
  obtain ⟨-, -, -, whole⟩ := classes_are_referred_to config node
  refine ⟨rfl, fun symbol => ?_⟩
  rw [whole rfl symbol]
  constructor
  · rintro ⟨referred, listed, same, -⟩
    obtain rfl := List.mem_singleton.mp listed
    rw [← same, spelled]
  · rintro rfl
    exact ⟨"pet_store", List.mem_singleton_self _, spelled, unknown⟩

end Cpp

end ServerScaffold
