import ServerScaffold.Proofs.Refusals

/-!
The verdict on the references of a built interface. `RefersTo` says where a name stands in a node, a model
or an operation, without the lists in which names are collected; the imports of a model or an operation are
exactly the names it refers to, and the first of them that is no named schema is reported.
-/
namespace ServerScaffold.Interface

open Api (Components Document)

/-- A reference to a name stands in a node, at any depth. -/
inductive Node.RefersTo (name : String) : Node → Prop where
  | here {value : Option Literal} : RefersTo name (.ref name value)
  | element {container : Container} {element : Node} {value : Option Literal}
      (inside : RefersTo name element) : RefersTo name (.holder container element value)
  | branch {branches : List Node} {branch : Node} {value : Option Literal}
      (listed : branch ∈ branches) (inside : RefersTo name branch) :
      RefersTo name (.union branches value)

/-- A model refers to a name in the node of a property or of a branch, or is composed of it. -/
inductive Model.RefersTo (name : String) (model : Model) : Prop where
  | property {property : Property} (listed : property ∈ model.properties)
      (inside : property.node.RefersTo name)
  | branch {branch : Node} (listed : branch ∈ model.branches) (inside : branch.RefersTo name)
  | composed (listed : name ∈ model.interfaces)

/-- An operation refers to a name in the node of a parameter or of the response. -/
inductive Operation.RefersTo (name : String) (operation : Operation) : Prop where
  | parameter {parameter : Parameter} (listed : parameter ∈ operation.parameters)
      (inside : parameter.node.RefersTo name)
  | response {node : Node} (given : operation.response = some node) (inside : node.RefersTo name)

section

variable {name : String}

theorem mem_refs_iff (node : Node) : name ∈ node.refs ↔ node.RefersTo name := by
  constructor
  · intro member
    induction node using Node.induct with
    | leaf kind value => exact absurd member List.not_mem_nil
    | ref other value =>
      obtain rfl := List.mem_singleton.mp member
      exact .here
    | holder container element value ih => exact .element (ih member)
    | union branches value ih =>
      rw [Node.refs_union] at member
      obtain ⟨branch, listed, inside⟩ := List.mem_flatMap.mp member
      exact .branch listed (ih branch listed inside)
  · intro refers
    induction refers with
    | here => exact List.mem_singleton_self name
    | element _ ih => exact ih
    | branch listed _ ih =>
      rw [Node.refs_union]
      exact List.mem_flatMap.mpr ⟨_, listed, ih⟩

theorem keyword_model_imports {aliases : Table Node} {own : String} {k : Api.Keywords Api.Schema} :
    name ∈ (keywordModel aliases own k).imports ↔ (keywordModel aliases own k).RefersTo name := by
  have listed : name ∈ (keywordModel aliases own k).imports ↔
      ((∃ property ∈ (keywordModel aliases own k).properties, name ∈ property.node.refs) ∨
        ∃ branch ∈ (keywordModel aliases own k).branches, name ∈ branch.refs) ∨
      name ∈ (keywordModel aliases own k).interfaces := by
    simp only [keywordModel, List.mem_eraseDups, List.mem_append, List.mem_flatMap]
  rw [listed]
  constructor
  · rintro ((⟨property, there, inside⟩ | ⟨branch, there, inside⟩) | there)
    · exact .property there ((mem_refs_iff _).mp inside)
    · exact .branch there ((mem_refs_iff _).mp inside)
    · exact .composed there
  · intro refers
    cases refers with
    | property there inside => exact Or.inl (Or.inl ⟨_, there, (mem_refs_iff _).mpr inside⟩)
    | branch there inside => exact Or.inl (Or.inr ⟨_, there, (mem_refs_iff _).mpr inside⟩)
    | composed there => exact Or.inr there

theorem bare_model_imports {aliases : Table Node} {own pointer : String} :
    name ∈ (model aliases own (.ref pointer)).imports ↔
      (model aliases own (.ref pointer)).RefersTo name := by
  constructor
  · intro listed
    exact .composed listed
  · intro refers
    cases refers with
    | property there _ | branch there _ => exact absurd there List.not_mem_nil
    | composed there => exact there

theorem model_imports_iff {components : Components} {aliases : Table Node} {result : Model}
    (member : result ∈ modelsOf components aliases) : name ∈ result.imports ↔ result.RefersTo name := by
  obtain ⟨own, schema, -, -, rfl⟩ := mem_modelsOf.mp member
  cases schema with
  | ref pointer => exact bare_model_imports
  | inline k => exact keyword_model_imports

theorem operation_imports_iff {components : Components} {aliases : Table Node} {naming : Naming}
    {path : String} {item : Api.PathItem} {method : Api.Method} {source : Api.Operation}
    {result : Operation}
    (built : operation components aliases naming path item method source = .ok result) :
    name ∈ result.imports ↔ result.RefersTo name := by
  obtain ⟨found, body, ofBody, _, rfl⟩ := operation_ok.mp built
  rw [composed_imports, List.mem_eraseDups, List.mem_flatMap]
  constructor
  · rintro ⟨node, listed, inside⟩
    rcases List.mem_append.mp listed with ofParameter | ofResponse
    · obtain ⟨parameter, there, rfl⟩ := List.mem_map.mp ofParameter
      exact .parameter there ((mem_refs_iff _).mp inside)
    · exact .response (Option.mem_toList.mp ofResponse) ((mem_refs_iff _).mp inside)
  · intro refers
    cases refers with
    | parameter there inside =>
      exact ⟨_, List.mem_append_left _ (List.mem_map_of_mem there), (mem_refs_iff _).mpr inside⟩
    | response given inside =>
      exact ⟨_, List.mem_append_right _ (Option.mem_toList.mpr given), (mem_refs_iff _).mpr inside⟩

end

section

variable {naming : Naming} {document : Document} {operations : List Operation}

theorem built_imports_iff
    (built : operationsOf (namedParts document) (aliasesOf document) naming document.paths =
      .ok operations) {result : Operation} (member : result ∈ operations) {name : String} :
    name ∈ result.imports ↔ result.RefersTo name := by
  rw [operations_of_routes] at built
  obtain ⟨route, _, done⟩ := pair_of_right (mapM_ok.mp built) member
  exact operation_imports_iff done

theorem document_of_built_ok
    (built : operationsOf (namedParts document) (aliasesOf document) naming document.paths =
      .ok operations) {source : Interface} (done : ofDocument naming document = .ok source) :
    source.models = modelsOf (namedParts document) (aliasesOf document) ∧
      source.operations = operations := by
  obtain ⟨assembled, _⟩ := document_ok.mp done
  have again := mapM_ok.mpr assembled.operations
  rw [← operations_of_routes, built] at again
  exact ⟨assembled.models, (Except.ok.inj again).symm⟩

theorem missing_none_iff_refers
    (built : operationsOf (namedParts document) (aliasesOf document) naming document.paths =
      .ok operations) :
    missingName? (namedParts document) (modelsOf (namedParts document) (aliasesOf document))
        operations = none ↔
      (∀ model ∈ modelsOf (namedParts document) (aliasesOf document), ∀ name, model.RefersTo name →
        name ∈ (namedParts document).schemas.keys) ∧
      ∀ operation ∈ operations, ∀ name, operation.RefersTo name →
        name ∈ (namedParts document).schemas.keys := by
  rw [missing_none, List.forall_mem_append, List.forall_mem_flatMap, List.forall_mem_flatMap]
  constructor
  · rintro ⟨ofModels, ofOperations⟩
    constructor
    · intro model member name refers
      exact ofModels model member name ((model_imports_iff member).mpr refers)
    · intro operation member name refers
      exact ofOperations operation member name ((built_imports_iff built member).mpr refers)
  · rintro ⟨ofModels, ofOperations⟩
    constructor
    · intro model member name imported
      exact ofModels model member name ((model_imports_iff member).mp imported)
    · intro operation member name imported
      exact ofOperations operation member name ((built_imports_iff built member).mp imported)

end

/-- When all operations can be built, the description is built just if every name that a model or an
operation refers to is a named schema. These names are the imports, and the first one missing is reported. -/
theorem built_iff_referred_names_known {naming : Naming} {document : Document}
    {operations : List Operation}
    (built : operationsOf (namedParts document) (aliasesOf document) naming document.paths =
      .ok operations) :
    ((∃ source, ofDocument naming document = .ok source) ↔
      (∀ model ∈ modelsOf (namedParts document) (aliasesOf document), ∀ name, model.RefersTo name →
        name ∈ (namedParts document).schemas.keys) ∧
      ∀ operation ∈ operations, ∀ name, operation.RefersTo name →
        name ∈ (namedParts document).schemas.keys) ∧
    (∀ source, ofDocument naming document = .ok source →
      source.models = modelsOf (namedParts document) (aliasesOf document) ∧
      source.operations = operations ∧
      (∀ model ∈ source.models, ∀ name, name ∈ model.imports ↔ model.RefersTo name) ∧
      ∀ operation ∈ source.operations, ∀ name, name ∈ operation.imports ↔ operation.RefersTo name) ∧
    ∀ error, ofDocument naming document = .error error ↔ ∃ before name after,
      (modelsOf (namedParts document) (aliasesOf document)).flatMap (·.imports) ++
        operations.flatMap (·.imports) = before ++ name :: after ∧
      (∀ earlier ∈ before, earlier ∈ (namedParts document).schemas.keys) ∧
      name ∉ (namedParts document).schemas.keys ∧
      error = .notFound ("#/components/schemas/" ++ name) := by
  refine ⟨?_, ?_, ?_⟩
  · rw [← missing_none_iff_refers built, document_of_built built, finished]
    cases missingName? (namedParts document) (modelsOf (namedParts document) (aliasesOf document))
      operations <;> simp
  · intro source done
    obtain ⟨models, same⟩ := document_of_built_ok built done
    rw [models, same]
    exact ⟨rfl, rfl, fun model member name => model_imports_iff member,
      fun operation member name => built_imports_iff built member⟩
  · intro error
    rw [document_of_built built, finished]
    constructor
    · intro failed
      split at failed
      · next name missing =>
        obtain ⟨before, after, split, earlier, absent⟩ := missing_some.mp missing
        exact ⟨before, name, after, split, earlier, absent, (Except.error.inj failed).symm⟩
      · contradiction
    · rintro ⟨before, name, after, split, earlier, absent, rfl⟩
      rw [missing_some.mpr ⟨before, after, split, earlier, absent⟩]
      rfl

/-- Pets with a list of tags, which is given by a pointer, and an operation that answers with pets. -/
def kennel (tag : String) : Document where
  openapi := "3.0.3"
  info := { title := "Kennel", version := "1" }
  paths := ⟨[("/pets", { operation? := fun
    | .get => some {
        operationId := some "listPets"
        responses := ⟨[("200", { content := ⟨[("application/json", ⟨some (.inline {
          type := some (.single .array)
          items := some (.ref "#/components/schemas/Pet") })⟩)], by decide⟩ })], by decide⟩ }
    | _ => none })], List.nodup_singleton "/pets"⟩
  components := some { schemas := ⟨[
    ("Pet", .inline { properties := [
      ("owner", .ref "#/components/schemas/Owner"),
      ("tags", .inline { type := some (.single .array), items := some (.ref tag) })] }),
    ("Owner", .inline { type := some (.single .object) }),
    ("Tag", .inline { type := some (.single .object) })], by simp⟩ }

theorem kennel_verdict :
    (∃ source, ofDocument {} (kennel "#/components/schemas/Tag") = .ok source ∧
      ∀ operation ∈ source.operations, ∀ name, name ∈ operation.imports ↔ operation.RefersTo name) ∧
    ofDocument {} (kennel "#/components/schemas/Missing") =
      .error (.notFound "#/components/schemas/Missing") := by
  have built (tag : String) : ∃ operations, operationsOf (namedParts (kennel tag))
      (aliasesOf (kennel tag)) {} (kennel tag).paths = .ok operations := ⟨_, rfl⟩
  constructor
  · obtain ⟨operations, built⟩ := built "#/components/schemas/Tag"
    have done : ∃ source, ofDocument {} (kennel "#/components/schemas/Tag") = .ok source := ⟨_, rfl⟩
    obtain ⟨source, done⟩ := done
    exact ⟨source, done, ((built_iff_referred_names_known built).2.1 source done).2.2.2⟩
  · obtain ⟨operations, built⟩ := built "#/components/schemas/Missing"
    refine ((built_iff_referred_names_known built).2.2 _).mpr
      ⟨["Owner"], "Missing", operations.flatMap (·.imports), ?_, by decide, by decide, rfl⟩
    have models : (modelsOf (namedParts (kennel "#/components/schemas/Missing"))
        (aliasesOf (kennel "#/components/schemas/Missing"))).flatMap (·.imports) =
        ["Owner", "Missing"] := by decide
    rw [models]
    rfl

end ServerScaffold.Interface
