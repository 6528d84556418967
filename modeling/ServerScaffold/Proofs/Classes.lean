import ServerScaffold.Context.Server
import ServerScaffold.Proofs.Assembly
import ServerScaffold.Proofs.ClassNames

/-!
What a reference to a schema and the model of the schema agree on. Both go by the class of its name, and the
reference is that class in its namespace, unless the name is a token of the target: then it is that token.
-/
namespace ServerScaffold

namespace Cpp

open Interface (Node)

variable {name : String}

example : targetTokens = ["int", "char", "bool", "long", "float", "double", "int32_t", "int64_t",
    "std::vector", "std::map", "std::set", "std::string", "nlohmann::json"] := by
  decide

/-- The node is the class in the namespace of the models, begins as a shared object, and needs its header. -/
structure StandsForClass (node : Node) (classname : String) : Prop where
  type : resolve standard node = .model (some "org::openapitools::server::model") classname
  declared : declaration standard node = "org::openapitools::server::model::" ++ classname
  initially : initial standard node = "std::make_shared<" ++ classname ++ ">()"
  included : directives standard (symbols standard (resolve standard node)) = [header classname]

/-- The node is the token itself, begins as nothing, and needs the header that the library has for it, if any. -/
structure StandsForToken (node : Node) (token : String) : Prop where
  type : resolve standard node = .scalar token
  declared : declaration standard node = token
  initially : initial standard node = "nullptr"
  included : directives standard (symbols standard (resolve standard node)) =
    (includeDirectives.get? token).toList

theorem ref_stands_for_class (value : Option Literal) (free : name ∉ targetTokens) :
    StandsForClass (.ref name value) (className standard name) := by
  have unknown : standard.isKnownToken name = false :=
    Bool.eq_false_iff.mpr fun known => free ((known_iff_target standard_builtIn).mp known)
  have classUnknown := class_unknown standard_builtIn unknown
  have scope : standard.modelScope? = some "org::openapitools::server::model" := by decide
  have type : resolve standard (.ref name value) =
      .model (some "org::openapitools::server::model") (className standard name) :=
    scope ▸ namedType_unknown standard_builtIn unknown
  have needed : needsHeader standard (className standard name) = true := by
    simp only [Settings.isKnownToken, Bool.or_eq_false_iff] at classUnknown
    simp [needsHeader, classUnknown]
  refine ⟨type, ?_, ?_, ?_⟩
  · rw [declaration, type, TypeExpr.text, String.append_assoc]
    rfl
  · simp only [initial, type]
    rfl
  · rw [type, symbols, directives_single, plain_directive (standard_class_plain name), if_pos needed]
    rfl

theorem ref_stands_for_token (value : Option Literal) (token : name ∈ targetTokens) :
    className standard name = name ∧ StandsForToken (.ref name value) name := by
  have known := (known_iff_target standard_builtIn).mpr token
  have itself : className standard name = name := className_known known
  have type : resolve standard (.ref name value) = .scalar name := namedType_known known
  refine ⟨itself, type, ?_, ?_, ?_⟩
  · rw [declaration, type, TypeExpr.text]
  · simp only [initial, type]
    rfl
  · have noHeader := known_needs_no_header standard_builtIn known
    rw [type, symbols]
    cases primitive : standard.isPrimitive name with
    | true =>
      have apart : ∀ token ∈ primitiveTokens, includeDirectives.get? token = none := by decide
      have listed : name ∈ primitiveTokens := List.contains_iff_mem.mp primitive
      rw [apart name listed]
      rfl
    | false =>
      simp only [Bool.false_eq_true, ↓reduceIte]
      rw [directives_single, plain_directive (tokens_plain name token), noHeader, primitive]
      rfl

end Cpp

namespace Context

open Cpp (StandsForClass StandsForToken standard targetTokens)
open Interface (aliasesOf namedParts)
open ServerScaffold.Api (Document Schema)

/-- Every reference to a schema stands for the class of its model, unless the schema is called like a token of
the target: then it stands for that token, and the class of the model is called so too. -/
theorem references_meet_classes {document : Document} {server : Server}
    (generated : Server.ofDocument {} document = .ok server) {name : String} {schema : Schema}
    (entry : (name, schema) ∈ (namedParts document).schemas.entries)
    (modelled : name ∉ (aliasesOf document).keys) :
    ∃ context ∈ server.models,
      context = Model.of standard (Interface.model (aliasesOf document) name schema) ∧
      ∀ value, (name ∉ targetTokens → StandsForClass (.ref name value) context.classname) ∧
        (name ∈ targetTokens → context.classname = name ∧ StandsForToken (.ref name value) name) := by
  obtain ⟨source, built, rfl⟩ := server_ofDocument.mp generated
  obtain ⟨assembled, -⟩ := Interface.document_ok.mp built
  have member := (Interface.mem_models assembled).mpr ⟨name, schema, entry, modelled, rfl⟩
  have classname : (Model.of standard (Interface.model (aliasesOf document) name schema)).classname =
      Cpp.className standard name := by
    cases schema <;> rfl
  refine ⟨_, List.mem_map_of_mem member, rfl, fun value => ⟨fun free => ?_, fun token => ?_⟩⟩
  · exact classname ▸ Cpp.ref_stands_for_class value free
  · obtain ⟨itself, stands⟩ := Cpp.ref_stands_for_token value token
    exact ⟨classname.trans itself, stands⟩

/-- A schema that is called like a token of the target, one that is not, and a model with a member of each. -/
def measured : Document where
  openapi := "3.0.3"
  info := { title := "Measures", version := "1" }
  components := some { schemas := ⟨[
    ("float", .inline { type := some (.single .object) }),
    ("pet_store", .inline { type := some (.single .object) }),
    ("Holder", .inline { properties := [("size", .ref "#/components/schemas/float"),
      ("store", .ref "#/components/schemas/pet_store")] })], by decide⟩ }

theorem store_stands_for_class : ∃ server, Server.ofDocument {} measured = .ok server ∧
    ∃ context ∈ server.models, context.classname = "PetStore" ∧
      StandsForClass (.ref "pet_store" none) context.classname := by
  obtain ⟨server, generated⟩ : ∃ server, Server.ofDocument {} measured = .ok server := ⟨_, rfl⟩
  have entry : ("pet_store", Schema.inline { type := some (.single .object) }) ∈
      (namedParts measured).schemas.entries := List.mem_cons_of_mem _ List.mem_cons_self
  have modelled : "pet_store" ∉ (aliasesOf measured).keys := by decide
  have free : "pet_store" ∉ targetTokens := by decide
  obtain ⟨context, member, same, stands⟩ := references_meet_classes generated entry modelled
  refine ⟨server, generated, context, member, ?_, (stands none).1 free⟩
  rw [same]
  decide

/-- The model is there, but a member that refers to it is a number that begins as a pointer. -/
theorem float_is_no_class : "float" ∉ (aliasesOf measured).keys ∧
    (∃ server, Server.ofDocument {} measured = .ok server ∧
      (∃ context ∈ server.models, context.classname = "float") ∧
      ∃ holder ∈ server.models, holder.classname = "Holder" ∧
        holder.vars.map (fun member => (member.name, member.dataType, member.defaultValue)) =
          [("Size", "float", "nullptr"),
            ("Store", "org::openapitools::server::model::PetStore", "std::make_shared<PetStore>()")] ∧
        holder.imports = [Cpp.header "PetStore"]) ∧
    ¬ StandsForClass (.ref "float" none) "float" := by
  refine ⟨by decide, ⟨_, rfl, by decide, by decide⟩, fun stands => ?_⟩
  have declared : Cpp.declaration standard (.ref "float" none) = "float" := by decide
  exact absurd (declared.symm.trans stands.declared) (by decide)

end Context

end ServerScaffold
