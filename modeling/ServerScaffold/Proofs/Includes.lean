import ServerScaffold.Context.Server
import ServerScaffold.Proofs.Directives
import ServerScaffold.Proofs.References

/-!
The headers that the generated code includes. Whatever a model or an operation includes is the header of
a generated model, except for an alias that mentions itself, whose inner reference stays.
-/
namespace ServerScaffold.Context

open Cpp (className header standard)
open Interface (Mentions aliasesOf namedParts)
open ServerScaffold.Api (Document Schema pointerName)

def HasModel (server : Server) (classname : String) : Prop :=
  ∃ model ∈ server.models, model.classname = classname

/-- An alias that mentions itself, if need be through others, has the class. -/
def OfRecursiveAlias (document : Document) (classname : String) : Prop :=
  ∃ name, Relation.TransGen (Mentions (aliasesOf document)) name name ∧
    className standard name = classname

/-- An alias that a schema is composed of has the class. -/
def OfComposedAlias (document : Document) (schema : Schema) (classname : String) : Prop :=
  ∃ pointer ∈ Interface.composedPointers schema, pointerName pointer ∈ (aliasesOf document).keys ∧
    className standard (pointerName pointer) = classname

section

variable {document : Document} {source : Interface} {classname name : String}

theorem named_has_model {naming : Interface.Naming}
    (assembled : Interface.Assembled naming document source)
    (key : name ∈ (namedParts document).schemas.keys) (plain : name ∉ (aliasesOf document).keys) :
    HasModel (Server.of {} source) (className standard name) := by
  obtain ⟨schema, entry⟩ := Table.key_has_entry key
  have member := (Interface.mem_models assembled).mpr ⟨name, schema, entry, plain, rfl⟩
  refine ⟨_, List.mem_map_of_mem member, ?_⟩
  cases schema <;> rfl

/-- A name left in a node leads to a model, unless it is an alias that mentions itself. -/
theorem left_has_model {naming : Interface.Naming}
    (assembled : Interface.Assembled naming document source) {schema : Schema}
    (left : name ∈ (Interface.inlineAliases (aliasesOf document) (Interface.schemaNode schema)).refs)
    (key : name ∈ (namedParts document).schemas.keys) :
    HasModel (Server.of {} source) (className standard name) ∨
      OfRecursiveAlias document (className standard name) := by
  obtain ⟨start, _, leaves⟩ := (Interface.mem_refs_inlined _ _).mp left
  rcases Interface.leaves_recursive leaves with onPath | plain | recursive
  · exact absurd onPath List.not_mem_nil
  · exact Or.inl (named_has_model assembled key plain)
  · exact Or.inr ⟨name, recursive, rfl⟩

theorem property_refs_imported {aliases : Table Interface.Node} {own : String} {schema : Schema}
    {property : Interface.Property}
    (member : property ∈ (Interface.model aliases own schema).properties) :
    ∀ name ∈ property.node.refs, name ∈ (Interface.model aliases own schema).imports := by
  cases schema with
  | ref pointer => exact absurd member List.not_mem_nil
  | inline k =>
    intro name mentioned
    have found : name ∈ (Interface.model aliases own (.inline k)).properties.flatMap (·.node.refs) :=
      List.mem_flatMap.mpr ⟨property, member, mentioned⟩
    exact List.mem_eraseDups.mpr (List.mem_append_left _ (List.mem_append_left _ found))

/-- The headers of classes that a model includes are those of the names it imports. -/
theorem model_header {aliases : Table Interface.Node} {own : String} {schema : Schema}
    (member : header classname ∈
      (Model.of standard (Interface.model aliases own schema)).imports) :
    ∃ name ∈ (Interface.model aliases own schema).imports, className standard name = classname := by
  refine Cpp.header_has_name (fun symbol listed => ?_) member
  rw [List.mem_eraseDups, List.mem_append, List.mem_map, List.mem_flatMap] at listed
  rcases listed with ⟨name, imported, rfl⟩ | ⟨property, listed, ofNode⟩
  · exact Or.inr ⟨name, imported, rfl⟩
  · refine (Cpp.node_symbols ofNode).imp_right ?_
    rintro ⟨name, mentioned, same⟩
    exact ⟨name, property_refs_imported listed name mentioned, same⟩

theorem operation_header {operation : Interface.Operation}
    (imports : operation.imports = (operation.nodes.flatMap Interface.Node.refs).eraseDups)
    (member : header classname ∈ (Operation.of standard operation).imports) :
    ∃ name ∈ operation.imports, className standard name = classname := by
  have imported {node : Interface.Node} (listed : node ∈ operation.nodes) :
      ∀ name ∈ node.refs, name ∈ operation.imports := by
    intro name mentioned
    rw [imports, List.mem_eraseDups]
    exact List.mem_flatMap.mpr ⟨node, listed, mentioned⟩
  have ofNode {node : Interface.Node} {symbol : String} (listed : node ∈ operation.nodes)
      (found : symbol ∈ Cpp.symbols standard (Cpp.resolve standard node)) :
      standard.isKnownToken symbol = true ∨
        ∃ name ∈ operation.imports, symbol = className standard name := by
    refine (Cpp.node_symbols found).imp_right ?_
    rintro ⟨name, mentioned, same⟩
    exact ⟨name, imported listed name mentioned, same⟩
  refine Cpp.header_has_name (fun symbol listed => ?_) member
  simp only [operationSymbols, List.mem_eraseDups, List.mem_append, List.mem_map, List.mem_flatMap,
    Option.mem_toList] at listed
  rcases listed with (⟨name, imported, rfl⟩ | ⟨parameter, listed, found⟩) | ⟨node, answer, found⟩
  · exact Or.inr ⟨name, imported, rfl⟩
  · exact ofNode (List.mem_append_left _ (List.mem_map_of_mem listed)) found
  · exact ofNode (List.mem_append_right _ (Option.mem_toList.mpr answer)) found

end

/-- Every header of a class that is included is that of a generated model or of an alias that mentions
itself, which are the aliases that are left of themselves; for a model nothing is said about the aliases
it is composed of. -/
theorem included_headers_have_models {document : Document} {server : Server}
    (generated : Server.ofDocument {} document = .ok server) :
    (∀ api ∈ server.apis, ∀ operation ∈ api.operations, ∀ classname,
      header classname ∈ operation.imports →
        HasModel server classname ∨ OfRecursiveAlias document classname) ∧
    (∀ context ∈ server.models, ∃ name schema,
      (name, schema) ∈ (namedParts document).schemas.entries ∧
      name ∉ (aliasesOf document).keys ∧ context.classname = className standard name ∧
      ∀ classname, header classname ∈ context.imports →
        HasModel server classname ∨ OfRecursiveAlias document classname ∨
          OfComposedAlias document schema classname) ∧
    ∀ name ∈ (aliasesOf document).keys,
      (name ∈ (Interface.inlineAliases (aliasesOf document) (.ref name none)).refs ↔
        Relation.TransGen (Mentions (aliasesOf document)) name name) := by
  obtain ⟨source, built, rfl⟩ := server_ofDocument.mp generated
  obtain ⟨assembled, named⟩ := Interface.document_ok.mp built
  have known := List.forall_mem_append.mp named
  refine ⟨?_, ?_, ?_⟩
  · intro api listed operation member classname included
    obtain ⟨group, _, rfl⟩ := List.mem_map.mp listed
    obtain ⟨result, there, rfl⟩ := api_operation member
    obtain ⟨path, item, method, given, found, body, ofBody, _, looked, rfl⟩ :=
      Interface.operation_has_route assembled there
    obtain ⟨name, imported, rfl⟩ :=
      operation_header (Interface.composed_imports found body ofBody) included
    obtain ⟨schema, _, left⟩ := (Interface.mem_operation_imports looked).mp imported
    exact left_has_model assembled left (known.2 name (List.mem_flatMap.mpr ⟨_, there, imported⟩))
  · intro context listed
    obtain ⟨result, there, rfl⟩ := List.mem_map.mp listed
    obtain ⟨own, schema, entry, plain, rfl⟩ := (Interface.mem_models assembled).mp there
    refine ⟨own, schema, entry, plain, by cases schema <;> rfl, fun classname included => ?_⟩
    obtain ⟨name, imported, rfl⟩ := model_header included
    have key := known.1 name (List.mem_flatMap.mpr ⟨_, there, imported⟩)
    rcases (Interface.mem_model_imports schema).mp imported with
      ⟨part, _, left⟩ | ⟨pointer, composed, rfl⟩
    · exact (left_has_model assembled left key).imp_right Or.inl
    -- References of a composition are imported as they stand, without putting aliases in place.
    · by_cases isAlias : pointerName pointer ∈ (aliasesOf document).keys
      · exact Or.inr (Or.inr ⟨pointer, composed, isAlias, rfl⟩)
      · exact Or.inl (named_has_model assembled key isAlias)
  · intro name key
    rw [← Interface.alias_left_iff key, Interface.mem_refs_inlined]
    simp

/-- A list that holds itself, a model that has such a list, one with a named text, and one that is
composed of that text. -/
def looped : Document where
  openapi := "3.0.3"
  info := { title := "Loops", version := "1" }
  paths := ⟨[("/pets", { operation? := fun
    | .get => some {
        operationId := some "listPets"
        responses := ⟨[("200", { content := ⟨[("application/json",
          ⟨some (.ref "#/components/schemas/Pet")⟩)], by decide⟩ })], by decide⟩ }
    | _ => none })], by decide⟩
  components := some { schemas := ⟨[
    ("Loop", .inline { type := some (.single .array), items := some (.ref "#/components/schemas/Loop") }),
    ("Holder", .inline { properties := [("loop", .ref "#/components/schemas/Loop")] }),
    ("Name", .inline { type := some (.single .string) }),
    ("Pet", .inline { properties := [("name", .ref "#/components/schemas/Name"),
      ("holder", .ref "#/components/schemas/Holder")] }),
    ("Label", .inline {
      allOf := [.ref "#/components/schemas/Name"]
      properties := [("id", .inline { type := some (.single .integer) })] })], by decide⟩ }

theorem looped_generated : ∃ server, Server.ofDocument {} looped = .ok server ∧
    server.models.map (fun model => (model.classname, model.imports)) =
      [("Holder", ["#include \"Loop.h\"", "#include <vector>"]),
        ("Pet", ["#include \"Holder.h\"", "#include <string>"]),
        ("Label", ["#include \"Name.h\""])] ∧
    server.apis.map (fun api => api.operations.map (·.imports)) = [[["#include \"Pet.h\""]]] := by
  have evaluated : (Server.ofDocument {} looped).toOption.map (fun server =>
      (server.models.map (fun model => (model.classname, model.imports)),
        server.apis.map fun api => api.operations.map (·.imports))) =
      some ([("Holder", ["#include \"Loop.h\"", "#include <vector>"]),
        ("Pet", ["#include \"Holder.h\"", "#include <string>"]),
        ("Label", ["#include \"Name.h\""])], [[["#include \"Pet.h\""]]]) := by
    decide
  cases generated : Server.ofDocument {} looped with
  | error error =>
    rw [generated] at evaluated
    contradiction
  | ok server =>
    rw [generated] at evaluated
    exact ⟨server, rfl, Prod.ext_iff.mp (Option.some.inj evaluated)⟩

theorem looped_headers_have_models : ∃ server, Server.ofDocument {} looped = .ok server ∧
    ∃ api ∈ server.apis, ∃ operation ∈ api.operations, header "Pet" ∈ operation.imports ∧
      (HasModel server "Pet" ∨ OfRecursiveAlias looped "Pet") := by
  obtain ⟨server, generated, _, apis⟩ := looped_generated
  have ofApi : [["#include \"Pet.h\""]] ∈
      server.apis.map fun api => api.operations.map (·.imports) := apis ▸ List.mem_cons_self
  obtain ⟨api, listed, operations⟩ := List.mem_map.mp ofApi
  have ofOperation : ["#include \"Pet.h\""] ∈ api.operations.map (·.imports) :=
    operations ▸ List.mem_cons_self
  obtain ⟨operation, member, imports⟩ := List.mem_map.mp ofOperation
  have included : header "Pet" ∈ operation.imports := imports ▸ List.mem_cons_self
  exact ⟨server, generated, api, listed, operation, member, included,
    (included_headers_have_models generated).1 api listed operation member "Pet" included⟩

/-- The list that holds itself leaves an include behind for which there is no model, and so does the text
that a model is composed of. -/
theorem looped_headers_without_model : ∃ server, Server.ofDocument {} looped = .ok server ∧
    ∀ classname ∈ ["Loop", "Name"], (∃ model ∈ server.models, header classname ∈ model.imports) ∧
      ¬ HasModel server classname := by
  obtain ⟨server, generated, models, _⟩ := looped_generated
  have included {own other : String} {imports : List String}
      (listed : (own, imports) ∈ server.models.map fun model => (model.classname, model.imports))
      (member : header other ∈ imports) : ∃ model ∈ server.models, header other ∈ model.imports := by
    obtain ⟨model, found, same⟩ := List.mem_map.mp listed
    obtain ⟨_, rfl⟩ := Prod.mk.inj same
    exact ⟨model, found, member⟩
  have classes : server.models.map (·.classname) = ["Holder", "Pet", "Label"] := by
    have first := congrArg (List.map Prod.fst) models
    rwa [List.map_map] at first
  have absent {classname : String} (missing : classname ∉ ["Holder", "Pet", "Label"]) :
      ¬ HasModel server classname := by
    rintro ⟨model, found, rfl⟩
    exact missing (classes ▸ List.mem_map_of_mem found)
  rw [models] at included
  refine ⟨server, generated, List.forall_mem_cons.mpr ⟨⟨?_, absent (by decide)⟩, ?_⟩⟩
  · exact included List.mem_cons_self List.mem_cons_self
  · refine List.forall_mem_singleton.mpr ⟨?_, absent (by decide)⟩
    exact included (List.mem_cons_of_mem _ (List.mem_cons_of_mem _ List.mem_cons_self))
      List.mem_cons_self

end ServerScaffold.Context
