import ServerScaffold.Context.Model
import ServerScaffold.Context.Operation
import ServerScaffold.Proofs.ResolvedTypes

/-!
What the type of a parameter becomes at the place where it is carried. A query wraps the type that the node has
everywhere else, a header gives it up for the raw value, and all other places leave it alone. A query puts the type
into the namespace of the models once more before it wraps it; but whatever stands in the type of a node is where it
belongs, so that changes nothing.
-/
namespace ServerScaffold

namespace Interface.Node

/-- The element inside of all containers. -/
def core : Node → Node
  | .holder _ element _ => element.core
  | node => node

end Interface.Node

namespace Cpp

open Interface (Node)

variable {settings : Settings} {type part : TypeExpr}

theorem qualified_regular (regular : Regular settings type) : type.qualified settings.modelScope? = type := by
  cases regular with
  | token known => rfl
  | container known each => rfl
  | model unknown => cases settings.modelScope? <;> rfl

/-- No part of the type of a node is put into a second namespace, or into a first one that it lacks. -/
theorem resolve_qualified (config : Config) (node : Node) (inside : Inside part (resolve (.ofConfig config) node)) :
    part.qualified (Settings.ofConfig config).modelScope? = part :=
  qualified_regular (regular_inside (resolve_regular config node) inside)

theorem namedType_baseType (settings : Settings) (name : String) :
    (namedType settings name).baseType = (namedType settings name).unqualified.text := by
  unfold namedType
  simp only
  split <;> rfl

/-- The base type of a node is what its innermost element is called without a namespace. -/
theorem resolve_baseType (settings : Settings) (node : Node) :
    (resolve settings node).baseType = (resolve settings node.core).unqualified.text := by
  induction node using Node.induct with
  | leaf kind value => exact namedType_baseType settings _
  | ref name value => exact namedType_baseType settings _
  | union branches value => exact namedType_baseType settings _
  | holder container element value ih =>
    have innermost : (Node.holder container element value).core = element.core := rfl
    rw [innermost, ← ih]
    cases container <;> rfl

end Cpp

namespace Context

open Cpp (Config Inside Settings declaration resolve)

variable {config : Config} {parameter : Interface.Parameter}

/-- In a query a parameter is always optional, in its type and in its base type, but for the base type of a token. -/
theorem of_query (carried : parameter.location = .query) :
    Parameter.of (.ofConfig config) parameter =
      { Parameter.plain (.ofConfig config) parameter with
        dataType := "std::optional<" ++ declaration (.ofConfig config) parameter.node ++ ">"
        baseType :=
          if (resolve (.ofConfig config) parameter.node).isScalar then
            (resolve (.ofConfig config) parameter.node).baseType
          else "std::optional<" ++ (resolve (.ofConfig config) parameter.node).baseType ++ ">"
        isOptional := true } := by
  have once := Cpp.resolve_qualified config parameter.node .here
  rw [Parameter.of, adaptation, carried]
  simp only [once]
  split <;> rfl

theorem of_header (settings : Settings) (carried : parameter.location = .header) :
    Parameter.of settings parameter =
      { Parameter.plain settings parameter with
        dataType := "std::optional<Pistache::Http::Header::Raw>"
        baseType := "std::optional<Pistache::Http::Header::Raw>" } := by
  rw [Parameter.of, adaptation, carried]
  rfl

/-- At a place that is no query and no header a parameter is at most told whether it can be read as a text. -/
theorem of_elsewhere (settings : Settings) (noQuery : parameter.location ≠ .query)
    (noHeader : parameter.location ≠ .header) :
    ∃ readAsText, Parameter.of settings parameter =
      { Parameter.plain settings parameter with isStringOrDate := readAsText } := by
  unfold Parameter.of adaptation
  split
  · contradiction
  · contradiction
  · exact ⟨_, rfl⟩
  · exact ⟨_, rfl⟩

/-- Whatever the options say, a query wraps the type that the node of a parameter has as a member and as an answer,
and its base type unless the type is a token, and can always be left out. A header is the raw value if it is there.
At every other place both types are those of the node. -/
theorem types_by_location (config : Config) (parameter : Interface.Parameter) :
    let settings := Settings.ofConfig config
    let type := resolve settings parameter.node
    let declared := declaration settings parameter.node
    let context := Parameter.of settings parameter
    (∀ name required description,
      (Property.of settings { name, node := parameter.node, required, description }).dataType = declared) ∧
    (∀ operation : Interface.Operation,
      (Operation.of settings { operation with response := some parameter.node }).response = some declared) ∧
    (∀ part, Inside part type → part.qualified settings.modelScope? = part) ∧
    type.baseType = (resolve settings parameter.node.core).unqualified.text ∧
    match parameter.location with
    | .query =>
      context.dataType = "std::optional<" ++ declared ++ ">" ∧ context.isOptional = true ∧
        context.baseType = if type.isScalar then type.baseType else "std::optional<" ++ type.baseType ++ ">"
    | .header =>
      context.dataType = "std::optional<Pistache::Http::Header::Raw>" ∧
        context.baseType = "std::optional<Pistache::Http::Header::Raw>" ∧
        context.isOptional = !parameter.required
    | _ =>
      context.dataType = declared ∧ context.baseType = type.baseType ∧
        context.isOptional = !parameter.required := by
  intro settings type declared context
  refine ⟨fun name required description => rfl, fun operation => rfl, ?_, Cpp.resolve_baseType settings _, ?_⟩
  · intro part inside
    exact Cpp.resolve_qualified config parameter.node inside
  · unfold context
    split
    · next carried =>
      rw [of_query carried]
      exact ⟨rfl, rfl, rfl⟩
    · next carried =>
      rw [of_header settings carried]
      exact ⟨rfl, rfl, rfl⟩
    · next noQuery noHeader =>
      obtain ⟨readAsText, kept⟩ := of_elsewhere settings noQuery noHeader
      rw [kept]
      exact ⟨rfl, rfl, rfl⟩

example :
    let tags : Interface.Parameter := ⟨"tags", .query, .holder .array (.ref "pet_tag" none) none, true, none⟩
    let context := Parameter.of (.ofConfig { modelPackage := "shop" }) tags
    (context.dataType, context.baseType) =
      ("std::optional<std::vector<shop::PetTag>>", "std::optional<PetTag>") := by
  decide

end Context

end ServerScaffold
