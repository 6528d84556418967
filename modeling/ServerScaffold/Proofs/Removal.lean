import ServerScaffold.Proofs.Completeness
import ServerScaffold.Proofs.References

/-!
Taking a named schema out of a description. If nothing outside its definition refers to it, only its own
model goes with it: the aliases are those from before without the name, no node that is left leads to it,
and so the other models and all operations come out as they were.
-/
namespace ServerScaffold

open Api (Document Keywords Occurs Schema pointerName)

/-- A description in which one named schema is left out. -/
def Api.Document.withoutSchema (document : Document) (name : String) : Document :=
  { document with components := document.components.map fun components =>
      { components with schemas := components.schemas.without name } }

namespace Interface

section Aliases

variable {schemas : Table Schema} {name own : String}

theorem directAliases_without (schemas : Table Schema) (name : String) :
    directAliases (schemas.without name) = entriesWithout name (directAliases schemas) := by
  unfold directAliases
  rw [Table.entries_without]
  induction schemas.entries with
  | nil => rfl
  | cons entry rest ih =>
    obtain ⟨own, schema⟩ := entry
    by_cases same : own = name
    · rw [entriesWithout_same same, ih]
      cases found : aliasTarget? schema with
      | none => simp [found]
      | some node => simp [found, entriesWithout_same, same]
    · rw [entriesWithout_other same, List.filterMap_cons, List.filterMap_cons, ih]
      cases found : aliasTarget? schema with
      | none => simp [found]
      | some node => simp [found, entriesWithout_other, same]

theorem addBareAlias_removed (found : Table Node) (schema : Schema) :
    (addBareAlias found (name, schema)).without name = found.without name := by
  cases schema with
  | inline k => rfl
  | ref pointer =>
    unfold addBareAlias
    simp only
    split
    · exact Table.insert_without found name _
    · rfl

theorem addBareAlias_kept (found : Table Node) {schema : Schema} (different : own ≠ name)
    (elsewhere : ∀ pointer, schema = .ref pointer → pointerName pointer ≠ name) :
    (addBareAlias found (own, schema)).without name =
      addBareAlias (found.without name) (own, schema) := by
  cases schema with
  | inline k => rfl
  | ref pointer =>
    unfold addBareAlias
    simp only [Table.contains_without (elsewhere pointer rfl)]
    split
    · exact Table.insert_other_without found different _
    · rfl

theorem sweep_without {entries : List (String × Schema)} (found : Table Node)
    (elsewhere : ∀ own pointer, (own, .ref pointer) ∈ entries → own ≠ name →
      pointerName pointer ≠ name) :
    (entriesWithout name entries).foldl addBareAlias (found.without name) =
      (entries.foldl addBareAlias found).without name := by
  induction entries generalizing found with
  | nil => rfl
  | cons entry rest ih =>
    obtain ⟨own, schema⟩ := entry
    have later : ∀ own pointer, (own, .ref pointer) ∈ rest → own ≠ name → pointerName pointer ≠ name :=
      fun own pointer listed => elsewhere own pointer (List.mem_cons_of_mem _ listed)
    by_cases same : own = name
    · subst same
      rw [entriesWithout_same rfl, List.foldl_cons, ← ih _ later, addBareAlias_removed]
    · have here : ∀ pointer, schema = .ref pointer → pointerName pointer ≠ name :=
        fun pointer given => elsewhere own pointer (given ▸ List.mem_cons_self) same
      rw [entriesWithout_other same, List.foldl_cons, List.foldl_cons, ← ih _ later,
        addBareAlias_kept found same here]

/-- Without a schema that no other one points to, the aliases are the others. -/
theorem aliasTable_without (elsewhere : ∀ own pointer, (own, .ref pointer) ∈ schemas.entries →
      own ≠ name → pointerName pointer ≠ name) :
    aliasTable (schemas.without name) = (aliasTable schemas).without name := by
  have direct : Table.ofList (directAliases (schemas.without name)) =
      (Table.ofList (directAliases schemas)).without name := by
    apply Table.eq_of_entries
    rw [Table.entries_ofList (directAliases_distinct _), directAliases_without, Table.entries_without,
      Table.entries_ofList (directAliases_distinct _)]
  rw [aliasTable_eq, direct]
  exact sweep_without _ elsewhere

variable {aliases : Table Node}

theorem expand_without (free : ∀ own target, (own, target) ∈ aliases.entries → own ≠ name →
      name ∉ target.refs) (depth : Nat) (path : List String) {node : Node} (absent : name ∉ node.refs) :
    expand (aliases.without name) depth path node = expand aliases depth path node := by
  induction depth generalizing path node with
  | zero => rfl
  | succ depth ih =>
    rw [expand_succ, expand_succ]
    refine Node.replace_congr node fun other mentioned value => ?_
    have different : other ≠ name := fun same => absent (same ▸ mentioned)
    unfold placed
    rw [Table.get_without different]
    split
    · rfl
    · split
      · rfl
      · next target found =>
        have without : name ∉ (target.override value).refs := by
          rw [Node.refs_override]
          exact free other target (Table.get_eq_some.mp found) different
        exact ih (other :: path) without

/-- A node that does not lead to a name is the same with and without the alias of that name. -/
theorem inlineAliases_without (free : ∀ own target, (own, target) ∈ aliases.entries → own ≠ name →
      name ∉ target.refs) {node : Node} (absent : name ∉ node.refs) :
    inlineAliases (aliases.without name) node = inlineAliases aliases node := by
  have shorter : (aliases.without name).entries.length ≤ aliases.entries.length :=
    List.length_filter_le _ _
  obtain ⟨extra, length⟩ := Nat.exists_eq_add_of_le shorter
  -- The table that is left has fewer names, so its own depth may be smaller; it is enough for both.
  calc inlineAliases (aliases.without name) node
      = expand (aliases.without name) ((aliases.without name).entries.length + extra) [] node :=
        (expand_enough (within_start _) extra node).symm
    _ = expand (aliases.without name) aliases.entries.length [] node := by rw [← length]
    _ = inlineAliases aliases node := expand_without free _ [] absent

end Aliases

/-- No reference outside the definition of a named schema leads to it. -/
def Unreferenced (document : Document) (name : String) : Prop :=
  ∀ pointer, RefOccurs (document.withoutSchema name) pointer → pointerName pointer ≠ name

section

variable {document : Document} {name : String}

theorem namedParts_without (document : Document) (name : String) :
    namedParts (document.withoutSchema name) =
      { namedParts document with schemas := (namedParts document).schemas.without name } := by
  unfold namedParts Api.Document.withoutSchema
  cases document.components with
  | some components => rfl
  | none =>
    have empty : (∅ : Table Schema).without name = ∅ := Table.eq_of_entries rfl
    simp [empty]

theorem entry_without {own : String} {schema : Schema} :
    (own, schema) ∈ (namedParts (document.withoutSchema name)).schemas.entries ↔
      (own, schema) ∈ (namedParts document).schemas.entries ∧ own ≠ name := by
  rw [namedParts_without]
  exact Table.mem_entries_without

theorem node_free {schema : Schema}
    (free : ∀ pointer, Occurs pointer schema → pointerName pointer ≠ name) :
    name ∉ (schemaNode schema).refs := by
  intro member
  obtain ⟨pointer, kept, same⟩ := (mem_refs_node schema).mp member
  exact free pointer (kept_occurs kept) same

variable (unreferenced : Unreferenced document name)

include unreferenced

theorem entry_free {own : String} {schema : Schema}
    (entry : (own, schema) ∈ (namedParts document).schemas.entries) (different : own ≠ name) :
    ∀ pointer, Occurs pointer schema → pointerName pointer ≠ name := by
  intro pointer occurs
  have stands : Stands (document.withoutSchema name) schema :=
    .component (entry_without.mpr ⟨entry, different⟩)
  exact unreferenced pointer ⟨schema, stands, occurs⟩

theorem aliasesOf_without :
    aliasesOf (document.withoutSchema name) = (aliasesOf document).without name := by
  unfold aliasesOf
  rw [namedParts_without]
  apply aliasTable_without
  intro own pointer entry different
  exact entry_free unreferenced entry different pointer .here

theorem inlined_without {node : Node} (absent : name ∉ node.refs) :
    inlineAliases (aliasesOf (document.withoutSchema name)) node =
      inlineAliases (aliasesOf document) node := by
  rw [aliasesOf_without unreferenced]
  refine inlineAliases_without (fun own target listed different => ?_) absent
  obtain ⟨schema, entry, rfl⟩ := aliasTable_target (Table.get_eq_some.mpr listed)
  exact node_free (entry_free unreferenced entry different)

theorem model_without {own : String} {schema : Schema}
    (entry : (own, schema) ∈ (namedParts document).schemas.entries) (different : own ≠ name) :
    model (aliasesOf (document.withoutSchema name)) own schema =
      model (aliasesOf document) own schema := by
  cases schema with
  | ref pointer => rfl
  | inline k =>
    have same : ∀ node ∈ (properties k).map (·.node) ++ (branches k).map schemaNode,
        inlineAliases (aliasesOf (document.withoutSchema name)) node =
          inlineAliases (aliasesOf document) node := by
      intro node listed
      rw [property_nodes] at listed
      obtain ⟨part, member, rfl⟩ := List.mem_map.mp listed
      have free : ∀ pointer, Occurs pointer part → pointerName pointer ≠ name :=
        fun pointer inside => entry_free unreferenced entry different pointer (member_occurs member inside)
      exact inlined_without unreferenced (node_free free)
    obtain ⟨ofProperties, ofBranches⟩ := List.forall_mem_append.mp same
    have members : (properties k).map (fun property => { property with
          node := inlineAliases (aliasesOf (document.withoutSchema name)) property.node }) =
        (properties k).map fun property => { property with
          node := inlineAliases (aliasesOf document) property.node } :=
      List.map_congr_left fun property listed => by
        rw [ofProperties property.node (List.mem_map_of_mem listed)]
    have choices : (branches k).map (fun branch =>
          inlineAliases (aliasesOf (document.withoutSchema name)) (schemaNode branch)) =
        (branches k).map fun branch => inlineAliases (aliasesOf document) (schemaNode branch) :=
      List.map_congr_left fun branch listed => ofBranches _ (List.mem_map_of_mem listed)
    simp only [model, keywordModel, members, choices]

omit unreferenced in
theorem models_without {entries : List (String × Schema)} {aliases others : Table Node}
    (same : ∀ own schema, (own, schema) ∈ entries → own ≠ name →
      others.contains own = aliases.contains own ∧ model others own schema = model aliases own schema) :
    ((entriesWithout name entries).filterMap fun (own, schema) =>
        if others.contains own then none else some (model others own schema)) =
      (entries.filterMap fun (own, schema) =>
        if aliases.contains own then none else some (model aliases own schema)).filter
          fun model => model.name ≠ name := by
  induction entries with
  | nil => rfl
  | cons entry rest ih =>
    obtain ⟨own, schema⟩ := entry
    have later := ih fun own schema listed => same own schema (List.mem_cons_of_mem _ listed)
    rw [List.filterMap_cons]
    by_cases removed : own = name
    · have out : (model aliases own schema).name = name := by rw [model_name, removed]
      rw [entriesWithout_same removed, later]
      cases known : aliases.contains own <;> simp [known, out]
    · have stays : (model aliases own schema).name ≠ name := by rwa [model_name]
      obtain ⟨known, there⟩ := same own schema List.mem_cons_self removed
      rw [entriesWithout_other removed, List.filterMap_cons, later]
      cases known' : aliases.contains own <;> simp [known, known', there, stays]

theorem modelsOf_without :
    modelsOf (namedParts (document.withoutSchema name)) (aliasesOf (document.withoutSchema name)) =
      (modelsOf (namedParts document) (aliasesOf document)).filter fun model => model.name ≠ name := by
  have entries : (namedParts (document.withoutSchema name)).schemas.entries =
      entriesWithout name (namedParts document).schemas.entries := by
    rw [namedParts_without]
    rfl
  unfold modelsOf
  rw [entries]
  refine models_without fun own schema entry different => ⟨?_, ?_⟩
  · rw [aliasesOf_without unreferenced]
    exact Table.contains_without different
  · exact model_without unreferenced entry different

end

section

variable {document : Document} {name path : String} {item : Api.PathItem} {method : Api.Method}
  {source : Api.Operation} {found : List Api.Parameter} {body : Option Api.RequestBody}
  {ofBody : List Parameter}

theorem body_parameters_same {components others : Api.Components} {whole : Api.RequestBody}
    (same : ∀ contentType media pointer, (contentType, media) ∈ whole.content.entries →
      media.schema = some (.ref pointer) →
      others.schemas.get? (pointerName pointer) = components.schemas.get? (pointerName pointer)) :
    bodyParameters others whole = bodyParameters components whole := by
  unfold bodyParameters
  cases content : whole.content.entries with
  | nil => rfl
  | cons entry rest =>
    obtain ⟨contentType, media⟩ := entry
    have first : (contentType, media) ∈ whole.content.entries := content ▸ List.mem_cons_self
    cases given : media.schema with
    | none => simp only [given]
    | some schema =>
      cases schema with
      | inline k => simp only [given]
      | ref pointer => simp only [given, same contentType media pointer first given]

variable (unreferenced : Unreferenced document name)
  (route : (path, item, method, source) ∈ routes document.paths)
  (looked : LookedUp (namedParts document) item source found body ofBody)

include unreferenced route looked

/-- What is looked up for an operation is found without the schema as well: no form is called by its name. -/
theorem looked_up_without :
    LookedUp (namedParts (document.withoutSchema name)) item source found body ofBody := by
  have request : source.requestBody.mapM (followed requestBodyStart
      (namedParts (document.withoutSchema name)).requestBodies) = .ok body := by
    rw [namedParts_without]
    exact looked.request
  refine ⟨?_, request, ?_⟩
  · rw [namedParts_without]
    exact looked.parameters
  · cases body with
    | none => exact looked.parts
    | some whole =>
      refine Eq.trans (body_parameters_same fun contentType media pointer content given => ?_) looked.parts
      have route' : (path, item, method, source) ∈ routes (document.withoutSchema name).paths := route
      have stands : Stands (document.withoutSchema name) (.ref pointer) :=
        content_stands route' request content given
      rw [namedParts_without]
      exact Table.get_without (unreferenced pointer ⟨_, stands, .here⟩)

theorem operation_node_free {schema : Schema}
    (listed : schema ∈ operationSchemas (namedParts (document.withoutSchema name)) source found body) :
    name ∉ (schemaNode schema).refs := by
  have looked' := looked_up_without unreferenced route looked
  apply node_free
  intro pointer inside
  exact unreferenced pointer (operation_schema_occurs route looked' listed inside)

theorem parameter_free {parameter : Parameter}
    (listed : parameter ∈ (merged found).map declared ++ ofBody) : name ∉ parameter.node.refs := by
  rcases List.mem_append.mp listed with ofFound | ofBodyPart
  · obtain ⟨source, member, rfl⟩ := List.mem_map.mp ofFound
    cases given : source.schema with
    | none => simp [declared, given]
    | some schema =>
      have listed := List.mem_filterMap.mpr ⟨source, member, given⟩
      simp only [declared, given]
      exact operation_node_free unreferenced route looked
        (List.mem_append_left _ (List.mem_append_left _ listed))
  · have nodes := body_nodes (looked_up_without unreferenced route looked).parts
    have listed : parameter.node ∈ ofBody.map (·.node) := List.mem_map_of_mem ofBodyPart
    rw [nodes] at listed
    obtain ⟨schema, listed, same⟩ := List.mem_map.mp listed
    rw [← same]
    exact operation_node_free unreferenced route looked
      (List.mem_append_left _ (List.mem_append_right _ listed))

theorem composed_without (naming : Naming) :
    composed (aliasesOf (document.withoutSchema name)) naming path method source found body ofBody =
      composed (aliasesOf document) naming path method source found body ofBody := by
  have parameters : ((merged found).map declared ++ ofBody).map
        (inlinedParameter (aliasesOf (document.withoutSchema name))) =
      ((merged found).map declared ++ ofBody).map (inlinedParameter (aliasesOf document)) := by
    refine List.map_congr_left fun parameter listed => ?_
    unfold inlinedParameter
    rw [inlined_without unreferenced (parameter_free unreferenced route looked listed)]
  have response : (answerSchema? source).map (fun schema =>
        inlineAliases (aliasesOf (document.withoutSchema name)) (schemaNode schema)) =
      (answerSchema? source).map fun schema =>
        inlineAliases (aliasesOf document) (schemaNode schema) := by
    refine Option.map_congr fun schema given => ?_
    exact inlined_without unreferenced (operation_node_free unreferenced route looked
      (List.mem_append_right _ (Option.mem_toList.mpr given)))
  simp only [composed, parameters, response]

end

/-- A schema that nothing else refers to can be taken out of a description that is built: what is left is
built as well, and only the schema's own model is gone. -/
theorem unreferenced_schema_can_go {naming : Naming} {document : Document} {source : Interface}
    {name : String} (built : ofDocument naming document = .ok source)
    (unreferenced : Unreferenced document name) :
    ofDocument naming (document.withoutSchema name) =
      .ok { source with models := source.models.filter fun model => model.name ≠ name } := by
  obtain ⟨assembled, named⟩ := document_ok.mp built
  have assembled' : Assembled naming (document.withoutSchema name)
      { source with models := source.models.filter fun model => model.name ≠ name } := by
    refine ⟨assembled.title, assembled.description, assembled.version, ?_, ?_, assembled.groups⟩
    · rw [modelsOf_without unreferenced, assembled.models]
    · have listed := (List.forall₂_and_left _ _).mpr ⟨fun _ route => route, assembled.operations⟩
      refine List.Forall₂.imp ?_ listed
      rintro ⟨path, item, method, given⟩ result ⟨route, done⟩
      obtain ⟨found, body, ofBody, looked, rfl⟩ := operation_ok.mp done
      exact operation_ok.mpr ⟨found, body, ofBody, looked_up_without unreferenced route looked,
        (composed_without unreferenced route looked naming).symm⟩
  refine document_ok.mpr ⟨assembled', ?_⟩
  intro imported listed
  -- Only a reference that is left leads to an import, so the name that is gone is not among them.
  obtain ⟨pointer, checked, same⟩ := import_is_checked assembled' listed
  have different : imported ≠ name := same ▸ unreferenced pointer (checked_occurs checked)
  have before : imported ∈ source.models.flatMap (·.imports) ++ source.operations.flatMap (·.imports) := by
    rcases List.mem_append.mp listed with ofModel | ofOperation
    · obtain ⟨model, member, inside⟩ := List.mem_flatMap.mp ofModel
      exact List.mem_append_left _ (List.mem_flatMap.mpr ⟨model, List.mem_of_mem_filter member, inside⟩)
    · exact List.mem_append_right _ ofOperation
  rw [namedParts_without]
  exact Table.mem_keys_without.mpr ⟨named imported before, different⟩

/-- Pets with tags and with a name that is an alias, and beside them an owner, which goes on to refer to
itself and to pets. -/
def petsAndOwner : Document where
  openapi := "3.0.3"
  info := { title := "Pets", version := "1" }
  paths := ⟨[("/pets", { operation? := fun
    | .get => some {
        operationId := some "listPets"
        responses := ⟨[("200", { content := ⟨[("application/json",
          ⟨some (.ref "#/components/schemas/Pet")⟩)], List.nodup_singleton _⟩ })], List.nodup_singleton _⟩ }
    | _ => none })], List.nodup_singleton "/pets"⟩
  components := some { schemas := ⟨[
    ("Pet", .inline { properties := [
      ("name", .ref "#/components/schemas/Name"),
      ("tags", .inline { type := some (.single .array), items := some (.ref "#/components/schemas/Tag") })] }),
    ("Owner", .inline { properties := [
      ("friend", .ref "#/components/schemas/Owner"),
      ("pet", .ref "#/components/schemas/Pet")] }),
    ("Tag", .inline { type := some (.single .object) }),
    ("Name", .inline { type := some (.single .string) })], by simp⟩ }

theorem owner_unreferenced : Unreferenced petsAndOwner "Owner" := by
  rintro pointer ⟨schema, stands, occurs⟩
  have listed := (Api.mem_pointers schema).mpr occurs
  have route {path : String} {item : Api.PathItem} {method : Api.Method} {source : Api.Operation}
      (route : (path, item, method, source) ∈ routes (petsAndOwner.withoutSchema "Owner").paths) :
      source = _ := congrArg (·.2.2.2) (List.mem_singleton.mp route)
  cases stands with
  | component entry =>
    have others : ∀ entry ∈ (namedParts (petsAndOwner.withoutSchema "Owner")).schemas.entries,
        ∀ pointer ∈ entry.2.pointers, pointerName pointer ≠ "Owner" := by decide
    exact others _ entry pointer listed
  | namedParameter entry _ => exact absurd entry List.not_mem_nil
  | namedBody entry _ _ => exact absurd entry List.not_mem_nil
  | pathParameter entry listed _ =>
    obtain ⟨-, rfl⟩ := Prod.mk.inj (List.mem_singleton.mp entry)
    exact absurd listed List.not_mem_nil
  | parameter found listed _ =>
    obtain rfl := route found
    exact absurd listed List.not_mem_nil
  | body found inPlace _ _ =>
    obtain rfl := route found
    contradiction
  | response found entry content given =>
    obtain rfl := route found
    obtain ⟨-, rfl⟩ := Prod.mk.inj (List.mem_singleton.mp entry)
    obtain ⟨-, rfl⟩ := Prod.mk.inj (List.mem_singleton.mp content)
    obtain rfl := Option.some.inj given
    obtain rfl := List.mem_singleton.mp listed
    decide

theorem owner_can_go : ∃ source, ofDocument {} petsAndOwner = .ok source ∧
    source.models.map (·.name) = ["Pet", "Owner", "Tag"] ∧
    ofDocument {} (petsAndOwner.withoutSchema "Owner") =
      .ok { source with models := source.models.filter fun model => model.name ≠ "Owner" } := by
  have done : ∃ source, ofDocument {} petsAndOwner = .ok source ∧
      source.models.map (·.name) = ["Pet", "Owner", "Tag"] := ⟨_, rfl, by decide⟩
  obtain ⟨source, built, names⟩ := done
  exact ⟨source, built, names, unreferenced_schema_can_go built owner_unreferenced⟩

end Interface

end ServerScaffold
