import ServerScaffold.Api.Reading
import ServerScaffold.Proofs.Readers
import ServerScaffold.Proofs.References

/-!
What descriptions are like that have been read. The properties of a schema are read as a table, so no schema
that stands in a description names a property twice, at whatever depth.
-/
namespace ServerScaffold

namespace Api

open Source

section Schemas

/-- A schema that names no property twice, and of whose parts none does. -/
inductive Schema.NamesOnce : Schema → Prop where
  | ref (pointer : String) : NamesOnce (.ref pointer)
  | inPlace {k : Keywords Schema} (names : (k.properties.map Prod.fst).Nodup)
      (inside : ∀ part ∈ k.parts, NamesOnce part) : NamesOnce (.inline k)

theorem Schema.NamesOnce.properties_distinct {k : Keywords Schema} (once : (Schema.inline k).NamesOnce) :
    (k.properties.map Prod.fst).Nodup := by
  cases once with
  | inPlace names _ => exact names

/-- The same of the keywords of a schema, place by place. -/
structure Keywords.NamesOnce (k : Keywords Schema) : Prop where
  names : (k.properties.map Prod.fst).Nodup
  properties : ∀ entry ∈ k.properties, entry.2.NamesOnce
  additional : ∀ given ∈ k.additional, ∀ part ∈ given.parts, part.NamesOnce
  items : ∀ part ∈ k.items, part.NamesOnce
  allOf : ∀ part ∈ k.allOf, part.NamesOnce
  oneOf : ∀ part ∈ k.oneOf, part.NamesOnce
  anyOf : ∀ part ∈ k.anyOf, part.NamesOnce

theorem namesOnce_inline {k : Keywords Schema} (once : k.NamesOnce) : (Schema.inline k).NamesOnce := by
  refine .inPlace once.names fun part listed => ?_
  rcases part_cases listed with ⟨name, listed⟩ | given | given | listed | listed | listed
  · exact once.properties _ listed
  · exact once.additional _ given part (List.mem_singleton_self part)
  · exact once.items part given
  · exact once.allOf part listed
  · exact once.oneOf part listed
  · exact once.anyOf part listed

theorem namesOnce_nothing : ({} : Keywords Schema).NamesOnce where
  names := List.nodup_nil
  properties := List.forall_mem_nil _
  additional _ absent := nomatch absent
  items _ absent := nomatch absent
  allOf := List.forall_mem_nil _
  oneOf := List.forall_mem_nil _
  anyOf := List.forall_mem_nil _

theorem additional_namesOnce {fitPart : Fit Schema} (gives : fitPart.Gives Schema.NamesOnce) :
    Fit.Gives (fun given : Additional Schema => ∀ part ∈ given.parts, part.NamesOnce)
      (Fit.orElse (fun value => (Fit.bool value).map .flag) fun value => (fitPart value).map .schema) := by
  refine Fit.gives_orElse (Fit.gives_map (Fit.gives_any _) fun _ _ => List.forall_mem_nil _) ?_
  refine Fit.gives_map gives fun part once other listed => ?_
  obtain rfl := List.mem_singleton.mp listed
  exact once

/-- No keyword that is put into a schema makes a property come twice: the properties are read as a table. -/
theorem keywords_namesOnce {fitPart : Fit Schema} (gives : fitPart.Gives Schema.NamesOnce) :
    Fit.Gives Keywords.NamesOnce (Fit.record (keywordFields fitPart) {}) := by
  refine Fit.gives_record namesOnce_nothing ?_
  simp only [keywordFields, List.forall_mem_cons]
  refine ⟨?type, ?format, ?description, ?default, ?properties, ?required, ?additional, ?items, ?uniqueItems,
    ?allOf, ?oneOf, ?anyOf, ?values, List.forall_mem_nil _⟩
  case properties =>
    exact Fit.keeps_field (Fit.gives_table gives) fun found each _ once =>
      { once with names := found.distinct, properties := each }
  case additional =>
    exact Fit.keeps_field (Fit.gives_optional (additional_namesOnce gives)) fun _ each _ once =>
      { once with additional := each }
  case items =>
    exact Fit.keeps_field (Fit.gives_optional gives) fun _ each _ once => { once with items := each }
  case allOf => exact Fit.keeps_field (Fit.gives_list gives) fun _ each _ once => { once with allOf := each }
  case oneOf => exact Fit.keeps_field (Fit.gives_list gives) fun _ each _ once => { once with oneOf := each }
  case anyOf => exact Fit.keeps_field (Fit.gives_list gives) fun _ each _ once => { once with anyOf := each }
  -- the other keywords hold no schemas
  all_goals exact Fit.keeps_field (Fit.gives_any _) fun _ _ _ once => { once with names := once.names }

theorem fitSchemaWithin_namesOnce (depth : Nat) : (fitSchemaWithin depth).Gives Schema.NamesOnce := by
  induction depth with
  | zero => exact fun _ _ fits => nomatch fits
  | succ depth ih =>
    exact Fit.gives_orElse (Fit.gives_map (Fit.gives_any _) fun pointer _ => .ref pointer)
      (Fit.gives_map (keywords_namesOnce ih) fun _ => namesOnce_inline)

theorem fitSchema_namesOnce : fitSchema.Gives Schema.NamesOnce :=
  fun value => fitSchemaWithin_namesOnce value.height value

end Schemas

section Parts

/-- What is put in place, and not only pointed to, has a property. -/
def OrRef.InPlace {α : Type} (P : α → Prop) (given : OrRef α) : Prop := ∀ value, given = .inline value → P value

def MediaType.NamesOnce (media : MediaType) : Prop := ∀ schema ∈ media.schema, schema.NamesOnce

def Parameter.NamesOnce (parameter : Parameter) : Prop := ∀ schema ∈ parameter.schema, schema.NamesOnce

def RequestBody.NamesOnce (body : RequestBody) : Prop := ∀ entry ∈ body.content.entries, entry.2.NamesOnce

def Response.NamesOnce (response : Response) : Prop := ∀ entry ∈ response.content.entries, entry.2.NamesOnce

structure Operation.NamesOnce (operation : Operation) : Prop where
  parameters : ∀ given ∈ operation.parameters, given.InPlace Parameter.NamesOnce
  requestBody : ∀ given ∈ operation.requestBody, given.InPlace RequestBody.NamesOnce
  responses : ∀ entry ∈ operation.responses.entries, entry.2.NamesOnce

structure PathItem.NamesOnce (item : PathItem) : Prop where
  parameters : ∀ given ∈ item.parameters, given.InPlace Parameter.NamesOnce
  operations : ∀ method, ∀ operation ∈ item.operation? method, operation.NamesOnce

structure Components.NamesOnce (components : Components) : Prop where
  schemas : ∀ entry ∈ components.schemas.entries, entry.2.NamesOnce
  parameters : ∀ entry ∈ components.parameters.entries, entry.2.InPlace Parameter.NamesOnce
  requestBodies : ∀ entry ∈ components.requestBodies.entries, entry.2.InPlace RequestBody.NamesOnce

/-- A description that names no property twice anywhere. -/
structure Document.NamesOnce (document : Document) : Prop where
  paths : ∀ entry ∈ document.paths.entries, entry.2.NamesOnce
  components : ∀ components ∈ document.components, components.NamesOnce

theorem orRef_gives {α : Type} {P : α → Prop} {fit : Fit α} (gives : fit.Gives P) :
    (fitOrRef fit).Gives (OrRef.InPlace P) := by
  refine Fit.gives_orElse (Fit.gives_map (Fit.gives_any _) fun _ _ _ same => nomatch same) ?_
  refine Fit.gives_map gives fun value holds other same => ?_
  obtain rfl := OrRef.inline.inj same
  exact holds

theorem table_gives {α : Type} {P : α → Prop} {read : Reader α} (gives : read.Gives P) :
    (readTable read).Gives fun found => ∀ entry ∈ found.entries, P entry.2 :=
  fun from_ depth tree => Reading.gives_bind (Reader.gives_entries gives from_ depth tree) fun _ each =>
    Reading.gives_pure fun entry listed => each entry (Table.mem_ofList listed)

theorem fitMediaType_namesOnce : fitMediaType.Gives MediaType.NamesOnce := by
  refine Fit.gives_record (fun _ absent => nomatch absent) (List.forall_mem_singleton.mpr ?_)
  exact Fit.keeps_field (Fit.gives_optional fitSchema_namesOnce) fun _ once _ _ => once

theorem fitParameter_namesOnce : fitParameter.Gives Parameter.NamesOnce := by
  refine Fit.gives_record (fun _ absent => nomatch absent) ?_
  simp only [List.forall_mem_cons]
  refine ⟨?name, ?place, ?description, ?required, ?schema, List.forall_mem_nil _⟩
  case name | place => exact Fit.keeps_needed (Fit.gives_any _) fun _ _ _ once => once
  case description | required => exact Fit.keeps_field (Fit.gives_any _) fun _ _ _ once => once
  case schema => exact Fit.keeps_field (Fit.gives_optional fitSchema_namesOnce) fun _ once _ _ => once

theorem fitRequestBody_namesOnce : fitRequestBody.Gives RequestBody.NamesOnce := by
  refine Fit.gives_record (List.forall_mem_nil _) ?_
  simp only [List.forall_mem_cons]
  refine ⟨?description, ?content, ?required, List.forall_mem_nil _⟩
  case content => exact Fit.keeps_needed (Fit.gives_table fitMediaType_namesOnce) fun _ once _ _ => once
  case description | required => exact Fit.keeps_field (Fit.gives_any _) fun _ _ _ once => once

theorem readSchema_namesOnce : readSchema.Gives Schema.NamesOnce :=
  Reader.gives_alternative fitSchema_namesOnce

theorem readParameter_namesOnce : readParameter.Gives (OrRef.InPlace Parameter.NamesOnce) :=
  Reader.gives_alternative (orRef_gives fitParameter_namesOnce)

theorem readRequestBody_namesOnce : readRequestBody.Gives (OrRef.InPlace RequestBody.NamesOnce) :=
  Reader.gives_alternative (orRef_gives fitRequestBody_namesOnce)

theorem readMediaType_namesOnce : readMediaType.Gives MediaType.NamesOnce := by
  refine Reader.gives_record (fun _ absent => nomatch absent) (List.forall_mem_singleton.mpr ?_)
  exact Reader.keeps_field (Reader.gives_optional readSchema_namesOnce) fun _ once _ _ => once

theorem readResponse_namesOnce : readResponse.Gives Response.NamesOnce := by
  refine Reader.gives_record (List.forall_mem_nil _) ?_
  simp only [List.forall_mem_cons]
  refine ⟨?description, ?content, List.forall_mem_nil _⟩
  case description => exact Reader.keeps_field (Reader.gives_any _) fun _ _ _ once => once
  case content => exact Reader.keeps_field (table_gives readMediaType_namesOnce) fun _ once _ _ => once

theorem readOperation_namesOnce : readOperation.Gives Operation.NamesOnce := by
  refine Reader.gives_record ⟨List.forall_mem_nil _, (fun _ absent => nomatch absent), List.forall_mem_nil _⟩ ?_
  simp only [List.forall_mem_cons]
  refine ⟨?operationId, ?summary, ?tags, ?parameters, ?requestBody, ?responses, List.forall_mem_nil _⟩
  case parameters =>
    exact Reader.keeps_field (Reader.gives_list readParameter_namesOnce) fun _ each _ once =>
      { once with parameters := each }
  case requestBody =>
    exact Reader.keeps_field (Reader.gives_optional readRequestBody_namesOnce) fun _ each _ once =>
      { once with requestBody := each }
  case responses =>
    exact Reader.keeps_field (table_gives readResponse_namesOnce) fun _ each _ once =>
      { once with responses := each }
  all_goals exact Reader.keeps_field (Reader.gives_any _) fun _ _ _ once => ⟨once.1, once.2, once.3⟩

theorem readPathItem_namesOnce : readPathItem.Gives PathItem.NamesOnce := by
  refine Reader.gives_record ⟨List.forall_mem_nil _, fun _ _ absent => nomatch absent⟩ ?_
  refine List.forall_mem_cons.mpr ⟨?parameters, List.forall_mem_map.mpr fun method _ => ?operation⟩
  case parameters =>
    exact Reader.keeps_field (Reader.gives_list readParameter_namesOnce) fun _ each _ once =>
      { once with parameters := each }
  case operation =>
    refine Reader.keeps_counted (Reader.gives_optional readOperation_namesOnce) fun given each item once =>
      { once with operations := fun other operation listed => ?_ }
    dsimp only at listed
    split at listed
    · exact each operation listed
    · exact once.operations other operation listed

theorem namesOnce_components : ({} : Components).NamesOnce :=
  ⟨List.forall_mem_nil _, List.forall_mem_nil _, List.forall_mem_nil _⟩

theorem readComponents_namesOnce : readComponents.Gives Components.NamesOnce := by
  refine Reader.gives_record namesOnce_components ?_
  simp only [List.forall_mem_cons]
  refine ⟨?schemas, ?parameters, ?requestBodies, List.forall_mem_nil _⟩
  case schemas =>
    exact Reader.keeps_field (table_gives readSchema_namesOnce) fun _ each _ once =>
      { once with schemas := each }
  case parameters =>
    exact Reader.keeps_field (table_gives readParameter_namesOnce) fun _ each _ once =>
      { once with parameters := each }
  case requestBodies =>
    exact Reader.keeps_field (table_gives readRequestBody_namesOnce) fun _ each _ once =>
      { once with requestBodies := each }

theorem readDocument_namesOnce : readDocument.Gives Document.NamesOnce := by
  refine Reader.gives_record ⟨List.forall_mem_nil _, fun _ absent => nomatch absent⟩ ?_
  simp only [List.forall_mem_cons]
  refine ⟨?openapi, ?info, ?paths, ?components, List.forall_mem_nil _⟩
  case openapi | info => exact Reader.keeps_needed (Reader.gives_any _) fun _ _ _ once => ⟨once.1, once.2⟩
  case paths =>
    exact Reader.keeps_field (table_gives readPathItem_namesOnce) fun _ each _ once =>
      { once with paths := each }
  case components =>
    exact Reader.keeps_field (Reader.gives_optional readComponents_namesOnce) fun _ each _ once =>
      { once with components := each }

end Parts

theorem mapError_ok {ε ε' α : Type} {f : ε → ε'} {result : Except ε α} {found : α}
    (done : result.mapError f = .ok found) : result = .ok found := by
  cases result with
  | error _ => contradiction
  | ok _ => exact congrArg Except.ok (Except.ok.inj done)

theorem readText_gives {α : Type} {P : α → Prop} {read : Reader α} (gives : read.Gives P) {format : Format}
    {text : String} {found : α} (done : readText read format text = .ok found) : P found := by
  cases format with
  | yaml =>
    have done := mapError_ok done
    unfold fromYaml at done
    split at done
    · contradiction
    · next tree there =>
      obtain ⟨⟨found, after⟩, run, done⟩ := Interface.bind_ok.mp done
      obtain rfl := Except.ok.inj done
      exact gives _ _ _ _ _ _ run
  | json =>
    have done := mapError_ok done
    unfold fromJson at done
    split at done
    next tree rest _ =>
      obtain ⟨⟨value, after⟩, run, done⟩ := Interface.bind_ok.mp done
      have holds := gives _ _ _ _ _ _ run
      dsimp only at done
      split at done
      · split at done
        · obtain rfl := Except.ok.inj done
          exact holds
        · contradiction
      · contradiction

/-- A description that has been read names no property twice, in no schema that stands in it. -/
theorem read_namesOnce {format : Format} {text : String} {document : Document}
    (done : Document.read format text = .ok document) : document.NamesOnce := by
  obtain ⟨found, read, done⟩ := Interface.bind_ok.mp done
  split at done
  · obtain rfl := Except.ok.inj done
    exact readText_gives readDocument_namesOnce read
  · contradiction

end Api

namespace Interface

open Api (Document Schema)

theorem stands_namesOnce {document : Document} (once : document.NamesOnce) {schema : Schema}
    (stands : Stands document schema) : schema.NamesOnce := by
  have parts : (namedParts document).NamesOnce := by
    unfold namedParts
    cases given : document.components with
    | none => exact Api.namesOnce_components
    | some components => exact once.components components given
  cases stands with
  | component entry => exact parts.schemas _ entry
  | namedParameter entry given => exact parts.parameters _ entry _ rfl _ given
  | namedBody entry content given => exact parts.requestBodies _ entry _ rfl _ content _ given
  | pathParameter entry listed given => exact (once.paths _ entry).parameters _ listed _ rfl _ given
  | parameter route listed given =>
    obtain ⟨entry, there⟩ := mem_routes.mp route
    exact ((once.paths _ entry).operations _ _ there).parameters _ listed _ rfl _ given
  | body route inPlace content given =>
    obtain ⟨entry, there⟩ := mem_routes.mp route
    exact ((once.paths _ entry).operations _ _ there).requestBody _ inPlace _ rfl _ content _ given
  | response route listed content given =>
    obtain ⟨entry, there⟩ := mem_routes.mp route
    exact ((once.paths _ entry).operations _ _ there).responses _ listed _ content _ given

end Interface
end ServerScaffold
