import ServerScaffold.Context.Server
import ServerScaffold.Proofs.Inlining
import ServerScaffold.Proofs.Occurrences

/-!
Giving the definition of an alias in the place of a branch that refers to it. The node of the branch is the
same, and with it the aliases, the operations and the other models; but a reference among the branches counts
as one that the model is composed of, and a definition does not.
-/
namespace ServerScaffold

open Api (Document Keywords Schema pointerName)

/-- A description in which a named schema is given otherwise. -/
def Api.Document.withSchema (document : Document) (name : String) (schema : Schema) : Document :=
  { document with components := document.components.map fun components =>
      { components with schemas := components.schemas.insert name schema } }

namespace Interface

/-- One entry of a choice is given otherwise. -/
inductive BranchPut (old new : Schema) (k : Keywords Schema) : Keywords Schema → Prop where
  | oneOf {before after : List Schema} (split : k.oneOf = before ++ old :: after) :
      BranchPut old new k { k with oneOf := before ++ new :: after }
  | anyOf {before after : List Schema} (split : k.anyOf = before ++ old :: after) :
      BranchPut old new k { k with anyOf := before ++ new :: after }

section Keywords

variable {old new : Schema} {k k' : Keywords Schema}

/-- Beside `oneOf` the entries of `anyOf` are no branches, so that there nothing may be given otherwise. -/
theorem branches_put (put : BranchPut old new k k') :
    branches k ≠ [] ∧ (branches k' = branches k ∨
      ∃ before after, branches k = before ++ old :: after ∧ branches k' = before ++ new :: after) := by
  cases put with
  | @oneOf before after split =>
    have effective : branches k = before ++ old :: after := by simp [branches, split]
    have effective' : branches { k with oneOf := before ++ new :: after } = before ++ new :: after := by
      simp [branches]
    exact ⟨by simp [effective], Or.inr ⟨before, after, effective, effective'⟩⟩
  | @anyOf before after split =>
    cases choice : k.oneOf with
    | nil =>
      have effective : branches k = before ++ old :: after := by simp [branches, choice, split]
      exact ⟨by simp [effective], Or.inr ⟨before, after, effective, by simp [branches]⟩⟩
    | cons first rest =>
      exact ⟨by simp [branches, choice], Or.inl (by simp [branches, choice])⟩

theorem branches_put_some (put : BranchPut old new k k') : branches k' ≠ [] := by
  obtain ⟨some, same | ⟨before, after, -, split⟩⟩ := branches_put put
  · rw [same]
    exact some
  · simp [split]

theorem properties_put (put : BranchPut old new k k') : properties k' = properties k := by
  cases put <;> rfl

theorem form_put (put : BranchPut old new k k') : formParameters k' = formParameters k := by
  cases put <;> rfl

/-- A choice is a union, and no alias by itself. -/
theorem choice_no_target (some : branches k ≠ []) : aliasTarget? (.inline k) = none := by
  have union : (schemaNode (.inline k)).isPlain = false := by
    obtain ⟨first, rest, listed⟩ := List.exists_cons_of_ne_nil some
    simp [node_of_keywords, classify, branches_map, listed, Node.isPlain]
  simp [aliasTarget?, union]

end Keywords

section Aliases

variable {schemas : Table Schema} {own : String} {k k' : Keywords Schema}

/-- What is no alias by itself is passed over, wherever it stands. -/
theorem aliasTable_passed {before after : List (String × Schema)}
    (split : schemas.entries = before ++ (own, .inline k) :: after)
    (noTarget : aliasTarget? (.inline k) = none) :
    aliasTable schemas = (before ++ after).foldl addBareAlias (.ofList ((before ++ after).filterMap
      fun (name, schema) => (aliasTarget? schema).map (name, ·))) := by
  unfold aliasTable
  simp [split, noTarget, addBareAlias]

theorem aliasTable_insert (entry : (own, .inline k) ∈ schemas.entries) (some : branches k ≠ [])
    (some' : branches k' ≠ []) : aliasTable (schemas.insert own (.inline k')) = aliasTable schemas := by
  obtain ⟨before, after, split⟩ := List.append_of_mem entry
  have there := Table.entries_insert_there (.inline k') split
  rw [aliasTable_passed there (choice_no_target some'), aliasTable_passed split (choice_no_target some)]

theorem choice_no_alias (entry : (own, .inline k) ∈ schemas.entries) (some : branches k ≠ []) :
    own ∉ (aliasTable schemas).keys :=
  no_target_no_alias entry (choice_no_target some)

end Aliases

section Models

variable {aliases : Table Node} {own : String} {old new : Schema} {k k' : Keywords Schema}

/-- What a schema comes to as a branch, once aliases are put in place. -/
def branchNode (aliases : Table Node) (schema : Schema) : Node := inlineAliases aliases (schemaNode schema)

theorem branch_nodes_put (put : BranchPut old new k k')
    (same : branchNode aliases new = branchNode aliases old) :
    (branches k').map (branchNode aliases) = (branches k).map (branchNode aliases) := by
  obtain ⟨-, kept | ⟨before, after, split, split'⟩⟩ := branches_put put
  · rw [kept]
  · simp [split, split', same]

/-- Only what the model is composed of, and what it imports for that, may differ. -/
theorem model_put (put : BranchPut old new k k')
    (same : branchNode aliases new = branchNode aliases old) :
    model aliases own (.inline k') = { model aliases own (.inline k) with
      imports := (model aliases own (.inline k')).imports
      interfaces := interfaces k' } := by
  have choices := branch_nodes_put put same
  have members := properties_put put
  unfold branchNode at choices
  simp only [model, keywordModel, choices, members]
  cases put <;> rfl

theorem interfaces_put {pointer : String} {definition : Keywords Schema}
    (put : BranchPut (.ref pointer) (.inline definition) k k') :
    interfaces k' ⊆ interfaces k ∧
      (branches k' = branches k ∧ interfaces k' = interfaces k ∨
        branches k' ≠ branches k ∧ (interfaces k).length = (interfaces k').length + 1) := by
  have parts : k'.allOf = k.allOf := by cases put <;> rfl
  unfold interfaces
  rw [parts]
  obtain ⟨-, kept | ⟨before, after, split, split'⟩⟩ := branches_put put
  · rw [kept]
    exact ⟨List.Subset.refl _, Or.inl ⟨rfl, rfl⟩⟩
  · have fewer : (branches k').filterMap refName? ⊆ (branches k).filterMap refName? := by
      intro name listed
      simp only [split, split', List.filterMap_append, List.filterMap_cons, refName?,
        List.mem_append, List.mem_cons] at listed ⊢
      exact listed.imp_right Or.inr
    have differs : branches k' ≠ branches k := by simp [split, split']
    rw [List.filterMap_append, List.filterMap_append]
    refine ⟨List.append_subset.mpr ⟨List.subset_append_left _ _, ?_⟩, Or.inr ⟨differs, ?_⟩⟩
    · exact List.Subset.trans fewer (List.subset_append_right _ _)
    · simp only [split, split', List.filterMap_append, List.filterMap_cons, refName?, List.length_append,
        List.length_cons]
      omega

theorem imports_put {pointer : String} {definition : Keywords Schema}
    (put : BranchPut (.ref pointer) (.inline definition) k k')
    (same : branchNode aliases (.inline definition) = branchNode aliases (.ref pointer)) :
    (model aliases own (.inline k')).imports ⊆ (model aliases own (.inline k)).imports := by
  have choices := branch_nodes_put put same
  have members := properties_put put
  have composed := (interfaces_put put).1
  unfold branchNode at choices
  intro name listed
  simp only [model, keywordModel, List.mem_eraseDups, List.mem_append, choices, members] at listed ⊢
  exact listed.imp_right fun inside => composed inside

end Models

section Documents

variable {document : Document} {own : String} {old new : Schema} {k k' : Keywords Schema}

theorem namedParts_withSchema (schema : Schema) (key : own ∈ (namedParts document).schemas.keys) :
    namedParts (document.withSchema own schema) =
      { namedParts document with schemas := (namedParts document).schemas.insert own schema } := by
  unfold namedParts Api.Document.withSchema at *
  cases given : document.components with
  | some components => rfl
  | none =>
    rw [given] at key
    exact absurd key List.not_mem_nil

theorem aliasesOf_put (put : BranchPut old new k k')
    (component : (own, .inline k) ∈ (namedParts document).schemas.entries) :
    aliasesOf (document.withSchema own (.inline k')) = aliasesOf document := by
  unfold aliasesOf
  rw [namedParts_withSchema _ (Table.key_of_entry component)]
  exact aliasTable_insert component (branches_put put).1 (branches_put_some put)

/-- A form reads the members of a schema, and if these are the same it comes to the same. -/
theorem bodyParameters_insert (form : formParameters k' = formParameters k) {components : Api.Components}
    (component : (own, .inline k) ∈ components.schemas.entries) (body : Api.RequestBody) :
    bodyParameters { components with schemas := components.schemas.insert own (.inline k') } body =
      bodyParameters components body := by
  unfold bodyParameters
  cases content : body.content.entries with
  | nil => rfl
  | cons entry rest =>
    obtain ⟨contentType, media⟩ := entry
    cases given : media.schema with
    | none => simp only [given]
    | some schema =>
      cases schema with
      | inline _ => simp only [given]
      | ref pointer =>
        by_cases called : pointerName pointer = own
        · have there := Table.get_eq_some.mpr component
          simp only [given, called, Table.get_insert_same, there, form]
        · simp only [given, Table.get_insert_other called]

theorem operation_insert (form : formParameters k' = formParameters k) {components : Api.Components}
    (component : (own, .inline k) ∈ components.schemas.entries) (aliases : Table Node) (naming : Naming)
    (path : String) (item : Api.PathItem) (method : Api.Method) (source : Api.Operation) :
    operation { components with schemas := components.schemas.insert own (.inline k') } aliases naming
        path item method source =
      operation components aliases naming path item method source := by
  unfold operation
  simp only [bodyParameters_insert form component]

/-- Of the models only that of the schema itself may differ. -/
theorem modelsOf_insert {components : Api.Components} {aliases : Table Node} (k' : Keywords Schema)
    (component : (own, .inline k) ∈ components.schemas.entries) (plain : own ∉ aliases.keys) :
    ∃ before after,
      modelsOf components aliases = before ++ model aliases own (.inline k) :: after ∧
      modelsOf { components with schemas := components.schemas.insert own (.inline k') } aliases =
        before ++ model aliases own (.inline k') :: after := by
  obtain ⟨before, after, split⟩ := List.append_of_mem component
  have there := Table.entries_insert_there (.inline k') split
  have noAlias := Table.not_contains_iff.mpr plain
  unfold modelsOf
  simp only [split, there, List.filterMap_append, List.filterMap_cons, noAlias]
  exact ⟨_, _, rfl, rfl⟩

/-- Putting aliases in place comes to the same for a reference to an alias and for its definition. -/
theorem branchNode_definition {pointer : String} {definition : Keywords Schema}
    (named : (pointerName pointer, .inline definition) ∈ (namedParts document).schemas.entries)
    (isAlias : pointerName pointer ∈ (aliasesOf document).keys)
    (noWayBack : ¬ Relation.TransGen (Mentions (aliasesOf document)) (pointerName pointer)
      (pointerName pointer)) :
    branchNode (aliasesOf document) (.inline definition) =
      branchNode (aliasesOf document) (.ref pointer) := by
  obtain ⟨target, entry⟩ := Table.key_has_entry isAlias
  have found := Table.get_eq_some.mpr entry
  obtain ⟨schema, there, rfl⟩ := aliasTable_target found
  obtain rfl := Table.entry_unique named there
  unfold branchNode
  rw [node_of_ref, inlined_reference found noWayBack]
  rfl

/-- The interface of a description in which a reference to an alias among the branches of a schema is given
as the definition of the alias. -/
theorem definition_in_place {naming : Naming} {source : Interface} {pointer : String}
    {definition : Keywords Schema} (built : ofDocument naming document = .ok source)
    (component : (own, .inline k) ∈ (namedParts document).schemas.entries)
    (put : BranchPut (.ref pointer) (.inline definition) k k')
    (same : branchNode (aliasesOf document) (.inline definition) =
      branchNode (aliasesOf document) (.ref pointer)) :
    ∃ before after,
      source.models = before ++ model (aliasesOf document) own (.inline k) :: after ∧
      ofDocument naming (document.withSchema own (.inline k')) =
        .ok { source with models := before ++ model (aliasesOf document) own (.inline k') :: after } := by
  obtain ⟨assembled, named⟩ := document_ok.mp built
  have key := Table.key_of_entry component
  have plain : own ∉ (aliasesOf document).keys := choice_no_alias component (branches_put put).1
  obtain ⟨before, after, models, models'⟩ := modelsOf_insert k' component plain
  have listed := assembled.models.trans models
  refine ⟨before, after, listed, document_ok.mpr ⟨?_, ?_⟩⟩
  · refine ⟨assembled.title, assembled.description, assembled.version, ?_, ?_, assembled.groups⟩
    · rw [aliasesOf_put put component, namedParts_withSchema _ key, models']
    · rw [aliasesOf_put put component, namedParts_withSchema _ key]
      refine List.Forall₂.imp ?_ assembled.operations
      intro route result done
      rw [operation_insert (form_put put) component]
      exact done
  · intro name imported
    rw [namedParts_withSchema _ key, Table.keys_insert]
    refine Or.inr (named name ?_)
    rw [listed]
    simp only [List.flatMap_append, List.flatMap_cons, List.mem_append] at imported ⊢
    exact imported.imp_left (Or.imp_right (Or.imp_left fun inside => imports_put put same inside))

end Documents

end Interface

namespace Context

open Cpp (Config Settings)
open Interface (BranchPut Mentions aliasesOf branchNode branches interfaces namedParts)

/-- A choice in which there is plain text and nothing without a type. -/
def offersText (settings : Settings) (model : Interface.Model) : Bool :=
  !model.isEnum && 1 < model.branches.length &&
    model.branches.any (fun branch => Cpp.declaration settings branch == Cpp.stringToken) &&
    !model.branches.any isAny

/-- What the templates are told about a named schema of a description. -/
def schemaContext (config : Config) (document : Document) (name : String) (k : Keywords Schema) : Model :=
  Model.of (.ofConfig config) (Interface.model (aliasesOf document) name (.inline k))

section

variable {config : Config} {document : Document} {own pointer : String}
  {k k' definition : Keywords Schema}

theorem offersText_put (settings : Settings) (put : BranchPut (.ref pointer) (.inline definition) k k')
    (same : branchNode (aliasesOf document) (.inline definition) =
      branchNode (aliasesOf document) (.ref pointer)) :
    offersText settings (Interface.model (aliasesOf document) own (.inline k')) =
      offersText settings (Interface.model (aliasesOf document) own (.inline k)) := by
  rw [Interface.model_put put same]
  rfl

theorem context_put (put : BranchPut (.ref pointer) (.inline definition) k k')
    (same : branchNode (aliasesOf document) (.inline definition) =
      branchNode (aliasesOf document) (.ref pointer)) :
    schemaContext config document own k' = { schemaContext config document own k with
      imports := (schemaContext config document own k').imports
      isStringEnumContainer := (schemaContext config document own k').isStringEnumContainer } := by
  unfold schemaContext
  rw [Interface.model_put put same]
  rfl

/-- The flag is kept if it does not hang on the references, or if these are none of the two numbers between
which it changes. -/
theorem flag_put_iff (put : BranchPut (.ref pointer) (.inline definition) k k')
    (same : branchNode (aliasesOf document) (.inline definition) =
      branchNode (aliasesOf document) (.ref pointer)) :
    (schemaContext config document own k').isStringEnumContainer =
        (schemaContext config document own k).isStringEnumContainer ↔
      branches k' = branches k ∨
        offersText (.ofConfig config) (Interface.model (aliasesOf document) own (.inline k)) = false ∨
        (interfaces k).length ∉ [1, 2] := by
  have flag (keywords : Keywords Schema) :
      (schemaContext config document own keywords).isStringEnumContainer =
        (offersText (.ofConfig config) (Interface.model (aliasesOf document) own (.inline keywords)) &&
          (interfaces keywords).length == 1) := rfl
  rw [flag k', flag k, offersText_put _ put same]
  obtain ⟨-, ⟨kept, composed⟩ | ⟨differs, fewer⟩⟩ := Interface.interfaces_put put
  · simp [kept, composed]
  · cases offersText (.ofConfig config) (Interface.model (aliasesOf document) own (.inline k)) with
    | false => simp
    | true =>
      rw [Bool.true_and, Bool.true_and, Bool.eq_iff_iff, beq_iff_eq, beq_iff_eq, fewer]
      simp only [differs, false_or, Bool.true_eq_false, List.mem_cons, List.not_mem_nil, or_false]
      omega

end

/-- Giving the definition of an alias in the place of a branch that refers to it changes in the context only
that of the schema, and there only what it includes and the flag of a choice between text and one
enumeration. The flag is kept just if the entry is no branch, the choice is no such choice anyway, or the
schema is composed of neither one nor two references. -/
theorem definition_in_place_keeps_flag_iff {config : Config} {document : Document} {server : Server}
    {own pointer : String} {k k' definition : Keywords Schema}
    (generated : Server.ofDocument config document = .ok server)
    (component : (own, .inline k) ∈ (namedParts document).schemas.entries)
    (named : (pointerName pointer, .inline definition) ∈ (namedParts document).schemas.entries)
    (isAlias : pointerName pointer ∈ (aliasesOf document).keys)
    (noWayBack : ¬ Relation.TransGen (Mentions (aliasesOf document)) (pointerName pointer)
      (pointerName pointer))
    (put : BranchPut (.ref pointer) (.inline definition) k k') :
    (∃ before after, server.models = before ++ schemaContext config document own k :: after ∧
      Server.ofDocument config (document.withSchema own (.inline k')) =
        .ok { server with models := before ++ schemaContext config document own k' :: after }) ∧
    schemaContext config document own k' = { schemaContext config document own k with
      imports := (schemaContext config document own k').imports
      isStringEnumContainer := (schemaContext config document own k').isStringEnumContainer } ∧
    ((schemaContext config document own k').isStringEnumContainer =
        (schemaContext config document own k).isStringEnumContainer ↔
      branches k' = branches k ∨
        offersText (.ofConfig config) (Interface.model (aliasesOf document) own (.inline k)) = false ∨
        (interfaces k).length ∉ [1, 2]) := by
  have same := Interface.branchNode_definition named isAlias noWayBack
  refine ⟨?_, context_put put same, flag_put_iff put same⟩
  obtain ⟨source, built, rfl⟩ := server_ofDocument.mp generated
  obtain ⟨before, after, listed, done⟩ := Interface.definition_in_place built component put same
  refine ⟨before.map (Model.of (.ofConfig config)), after.map (Model.of (.ofConfig config)), ?_, ?_⟩
  · simp [Server.of, listed, schemaContext]
  · refine server_ofDocument.mpr ⟨_, done, ?_⟩
    simp [Server.of, schemaContext]

/-- A named text, two enumerations, and a choice between some of them. -/
def palette (choice : Keywords Schema) : Document where
  openapi := "3.0.3"
  info := { title := "Palette", version := "1" }
  components := some { schemas := ⟨[
    ("Label", .inline { type := some (.single .string) }),
    ("Color", .inline { type := some (.single .string), values := [.atom (.text "red")] }),
    ("Shade", .inline { type := some (.single .string), values := [.atom (.text "dark")] }),
    ("Choice", .inline choice)], by simp⟩ }

def chosen (entries : List Schema) : Keywords Schema := { anyOf := entries }

def label : Keywords Schema := { type := some (.single .string) }

/-- The classes generated for a palette, each with the flag of a choice between text and one enumeration. -/
def paletteFlags (document : Document) : Option (List (String × Bool)) :=
  (Server.ofDocument {} document).toOption.map fun server =>
    server.models.map fun model => (model.classname, model.isStringEnumContainer)

/-- Between a reference to a text and one enumeration the flag is not set, and with the text in place it is. -/
theorem label_in_place_sets_flag :
    let choice := chosen [.ref "#/components/schemas/Label", .ref "#/components/schemas/Color"]
    let choice' := chosen [.inline label, .ref "#/components/schemas/Color"]
    ("Choice", .inline choice) ∈ (namedParts (palette choice)).schemas.entries ∧
    ("Label", .inline label) ∈ (namedParts (palette choice)).schemas.entries ∧
    "Label" ∈ (aliasesOf (palette choice)).keys ∧
    ¬ Relation.TransGen (Mentions (aliasesOf (palette choice))) "Label" "Label" ∧
    BranchPut (.ref "#/components/schemas/Label") (.inline label) choice choice' ∧
    paletteFlags (palette choice) = some [("Color", false), ("Shade", false), ("Choice", false)] ∧
    paletteFlags ((palette choice).withSchema "Choice" (.inline choice')) =
      some [("Color", false), ("Shade", false), ("Choice", true)] := by
  intro choice choice'
  have split : choice.anyOf =
    [] ++ .ref "#/components/schemas/Label" :: [.ref "#/components/schemas/Color"] := rfl
  refine ⟨by simp [palette, namedParts], by simp [palette, namedParts, label], by decide, ?_, .anyOf split,
    by decide, by decide⟩
  exact Interface.no_way_back (fun _ => 0) (by decide) "Label"

/-- With two enumerations beside it the text may be given either way. -/
theorem label_beside_two_keeps_flag :
    let choice := chosen [.ref "#/components/schemas/Color", .ref "#/components/schemas/Label",
      .ref "#/components/schemas/Shade"]
    let choice' := chosen [.ref "#/components/schemas/Color", .inline label,
      .ref "#/components/schemas/Shade"]
    let given := schemaContext {} (palette choice) "Choice" choice
    let given' := schemaContext {} (palette choice) "Choice" choice'
    BranchPut (.ref "#/components/schemas/Label") (.inline label) choice choice' ∧
    ∃ server before after, Server.ofDocument {} (palette choice) = .ok server ∧
      server.models = before ++ given :: after ∧
      Server.ofDocument {} ((palette choice).withSchema "Choice" (.inline choice')) =
        .ok { server with models := before ++ given' :: after } ∧
      given'.isStringEnumContainer = given.isStringEnumContainer := by
  intro choice choice' given given'
  have done : (Server.ofDocument {} (palette choice)).isOk = true := by decide
  have component : ("Choice", .inline choice) ∈ (namedParts (palette choice)).schemas.entries := by
    simp [palette, namedParts]
  have called : pointerName "#/components/schemas/Label" = "Label" := by decide
  have named : (pointerName "#/components/schemas/Label", .inline label) ∈
      (namedParts (palette choice)).schemas.entries := by
    simp [called, palette, namedParts, label]
  have isAlias : pointerName "#/components/schemas/Label" ∈ (aliasesOf (palette choice)).keys := by
    rw [called]
    decide
  have split : choice.anyOf = [.ref "#/components/schemas/Color"] ++
    .ref "#/components/schemas/Label" :: [.ref "#/components/schemas/Shade"] := rfl
  have put : BranchPut (.ref "#/components/schemas/Label") (.inline label) choice choice' := .anyOf split
  cases generated : Server.ofDocument {} (palette choice) with
  | error error =>
    rw [generated] at done
    contradiction
  | ok server =>
    have kept := definition_in_place_keeps_flag_iff generated component named isAlias
      (Interface.no_way_back (fun _ => 0) (by decide) _) put
    obtain ⟨⟨before, after, listed, inPlace⟩, -, flag⟩ := kept
    exact ⟨put, server, before, after, rfl, listed, inPlace, flag.mpr (Or.inr (Or.inr (by decide)))⟩

end Context

end ServerScaffold
