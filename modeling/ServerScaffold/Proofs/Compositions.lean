import ServerScaffold.Proofs.Branches
import ServerScaffold.Proofs.Completeness

/-!
What a model is composed of. The references among the parts and the branches of a schema are its compositions,
and each of them is imported. Beside `oneOf` the entries of `anyOf` are no branches: there they are not read at
all, so that a description comes to the same whatever they are.
-/
namespace ServerScaffold.Interface

open Api (Document Keywords Schema pointerName)

/-- A reference that stands among some schemas ends with the name. -/
def RefersBy (parts : List Schema) (name : String) : Prop :=
  ∃ pointer, .ref pointer ∈ parts ∧ pointerName pointer = name

section Names

variable {first second : List Schema} {k : Keywords Schema} {aliases : Table Node} {name own : String}

theorem refersBy_append : RefersBy (first ++ second) name ↔ RefersBy first name ∨ RefersBy second name := by
  simp only [RefersBy, List.mem_append, or_and_right, exists_or]

theorem mem_interfaces : name ∈ interfaces k ↔ RefersBy (k.allOf ++ branches k) name := by
  rw [interfaces, List.mem_filterMap]
  constructor
  · rintro ⟨part, listed, same⟩
    cases part with
    | ref pointer => exact ⟨pointer, listed, Option.some.inj same⟩
    | inline _ => contradiction
  · rintro ⟨pointer, listed, rfl⟩
    exact ⟨_, listed, rfl⟩

/-- The branches are one of the two lists, and `anyOf` only where it stands alone. -/
theorem branches_cases (k : Keywords Schema) :
    k.oneOf = [] ∧ branches k = k.anyOf ∨ k.oneOf ≠ [] ∧ branches k = k.oneOf := by
  unfold branches
  cases k.oneOf with
  | nil => exact Or.inl ⟨rfl, rfl⟩
  | cons first rest => exact Or.inr ⟨List.cons_ne_nil _ _, rfl⟩

theorem branches_of_choice (choice : k.oneOf ≠ []) : branches k = k.oneOf := by
  rcases branches_cases k with ⟨alone, -⟩ | ⟨-, same⟩
  · exact absurd alone choice
  · exact same

theorem composed_of_part (refers : RefersBy (k.allOf ++ branches k) name) :
    RefersBy (k.allOf ++ k.anyOf ++ k.oneOf) name := by
  simp only [refersBy_append] at refers ⊢
  rcases branches_cases k with ⟨-, same⟩ | ⟨-, same⟩
  · rw [same] at refers
    exact Or.inl refers
  · rw [same] at refers
    exact refers.imp_left Or.inl

/-- All compositions are among parts and branches just if `anyOf` adds nothing where it is passed over. -/
theorem composed_kept_iff (k : Keywords Schema) :
    (∀ name, RefersBy (k.allOf ++ k.anyOf ++ k.oneOf) name → RefersBy (k.allOf ++ branches k) name) ↔
      k.oneOf = [] ∨ ∀ name, RefersBy k.anyOf name → RefersBy (k.allOf ++ k.oneOf) name := by
  rcases branches_cases k with ⟨alone, same⟩ | ⟨choice, same⟩
  · simp [same, alone]
  · rw [same]
    constructor
    · intro kept
      refine Or.inr fun name refers => kept name ?_
      exact refersBy_append.mpr (Or.inl (refersBy_append.mpr (Or.inr refers)))
    · rintro (alone | covered) name refers
      · exact absurd alone choice
      · simp only [refersBy_append] at refers covered ⊢
        rcases refers with (ofPart | ofAny) | ofOne
        · exact Or.inl ofPart
        · exact covered name ofAny
        · exact Or.inr ofOne

theorem composed_is_imported (listed : name ∈ (model aliases own (.inline k)).interfaces) :
    name ∈ (model aliases own (.inline k)).imports := by
  simp only [model, keywordModel, List.mem_eraseDups, List.mem_append]
  exact Or.inr listed

end Names

section Unread

variable {document : Document} {own : String} {k k' : Keywords Schema}

/-- Two choices that come to the same as a model and as a form. -/
structure SameChoice (k k' : Keywords Schema) : Prop where
  some : branches k ≠ []
  some' : branches k' ≠ []
  form : formParameters k' = formParameters k
  model : ∀ aliases name, model aliases name (.inline k') = model aliases name (.inline k)

/-- A description comes to the same if one of its choices is given as another that comes to the same. -/
theorem ofDocument_sameChoice (naming : Naming) (same : SameChoice k k')
    (entry : (own, .inline k) ∈ (namedParts document).schemas.entries) :
    ofDocument naming (document.withSchema own (.inline k')) = ofDocument naming document := by
  have key := Table.key_of_entry entry
  have parts := namedParts_withSchema (.inline k') key
  have aliases : aliasesOf (document.withSchema own (.inline k')) = aliasesOf document := by
    unfold aliasesOf
    rw [parts]
    exact aliasTable_insert entry same.some same.some'
  have plain : own ∉ (aliasesOf document).keys := choice_no_alias entry same.some
  have models : modelsOf (namedParts (document.withSchema own (.inline k'))) (aliasesOf document) =
      modelsOf (namedParts document) (aliasesOf document) := by
    obtain ⟨before, after, models, models'⟩ := modelsOf_insert k' entry plain
    rw [parts, models', same.model, models]
  have operations : operationsOf (namedParts (document.withSchema own (.inline k'))) (aliasesOf document) naming
      document.paths = operationsOf (namedParts document) (aliasesOf document) naming document.paths := by
    simp only [operations_of_routes, parts, operation_insert same.form entry]
  have rest : finished (document.withSchema own (.inline k')) = finished document := by
    funext operations
    have missing : missingName? (namedParts (document.withSchema own (.inline k'))) =
        missingName? (namedParts document) := by
      funext models operations
      simp only [missingName?, parts, Table.contains_insert_there _ key]
    have put : together (document.withSchema own (.inline k')) operations = together document operations := by
      unfold together
      rw [aliases, models]
      rfl
    unfold finished
    rw [aliases, models, missing, put]
  have paths : (document.withSchema own (.inline k')).paths = document.paths := rfl
  rw [ofDocument_eq, ofDocument_eq, aliases, paths, operations, rest]

theorem branches_anyOf (choice : k.oneOf ≠ []) (others : List Schema) :
    branches { k with anyOf := others } = branches k := by
  have choice' : ({ k with anyOf := others } : Keywords Schema).oneOf ≠ [] := choice
  rw [branches_of_choice choice, branches_of_choice choice']

/-- Beside `oneOf` nothing is read from `anyOf`. -/
theorem sameChoice_anyOf (choice : k.oneOf ≠ []) (others : List Schema) :
    SameChoice k { k with anyOf := others } := by
  have branches := branches_anyOf choice others
  have some : Interface.branches k ≠ [] := by rwa [branches_of_choice choice]
  refine ⟨some, by rwa [branches], rfl, fun aliases name => ?_⟩
  have members : properties { k with anyOf := others } = properties k := rfl
  have composed : interfaces { k with anyOf := others } = interfaces k := by
    rw [interfaces, interfaces, branches]
  simp only [model, keywordModel, members, composed, branches]

end Unread

/-- A model is composed of nothing but what the references among the parts and alternatives of its schema name,
and imports all of it. It is composed of all that just if there is no `oneOf`, or if beside it no reference in
`anyOf` names anything new. Beside `oneOf` the description comes to the same whatever stands in `anyOf`. -/
theorem compositions_kept_iff {document : Document} {result : Model} {k : Keywords Schema}
    (built : result ∈ modelsOf (namedParts document) (aliasesOf document))
    (entry : (result.name, .inline k) ∈ (namedParts document).schemas.entries) :
    (∀ name ∈ result.interfaces, name ∈ result.imports ∧ RefersBy (k.allOf ++ k.anyOf ++ k.oneOf) name) ∧
    ((∀ name, RefersBy (k.allOf ++ k.anyOf ++ k.oneOf) name → name ∈ result.interfaces ∧ name ∈ result.imports) ↔
      k.oneOf = [] ∨ ∀ name, RefersBy k.anyOf name → RefersBy (k.allOf ++ k.oneOf) name) ∧
    (k.oneOf ≠ [] → ∀ naming others,
      ofDocument naming (document.withSchema result.name (.inline { k with anyOf := others })) =
        ofDocument naming document) := by
  obtain ⟨name, schema, there, -, rfl⟩ := mem_modelsOf.mp built
  rw [model_name] at entry ⊢
  obtain rfl := Table.entry_unique entry there
  have listed {name' : String} : name' ∈ (model (aliasesOf document) name (.inline k)).interfaces ↔
      RefersBy (k.allOf ++ branches k) name' := mem_interfaces
  refine ⟨?_, ?_, fun choice naming others => ofDocument_sameChoice naming (sameChoice_anyOf choice others) entry⟩
  · intro name' composed
    exact ⟨composed_is_imported composed, composed_of_part (listed.mp composed)⟩
  · rw [← composed_kept_iff]
    refine forall_congr' fun name' => imp_congr_right fun _ => ?_
    rw [← listed]
    exact and_iff_left_of_imp composed_is_imported

/-- Pets beside the kinds that they may be. -/
def shelter (pet : Keywords Schema) : Document where
  openapi := "3.0.3"
  info := { title := "Shelter", version := "1" }
  components := some { schemas := ⟨[
    ("Cat", .inline { type := some (.single .object) }),
    ("Dog", .inline { type := some (.single .object) }),
    ("Pet", .inline pet)], by simp⟩ }

def cat : Schema := .ref "#/components/schemas/Cat"

def dog : Schema := .ref "#/components/schemas/Dog"

/-- All three lists stand together, and `anyOf` names nothing that the others do not name. -/
def anyPet : Keywords Schema where
  allOf := [dog]
  oneOf := [cat]
  anyOf := [dog, cat]

theorem anyPet_composed : ∃ result ∈ modelsOf (namedParts (shelter anyPet)) (aliasesOf (shelter anyPet)),
    (∀ name, RefersBy (anyPet.allOf ++ anyPet.anyOf ++ anyPet.oneOf) name →
      name ∈ result.interfaces ∧ name ∈ result.imports) ∧
    ofDocument {} ((shelter anyPet).withSchema result.name (.inline { anyPet with
      anyOf := [.ref "#/components/schemas/Missing"] })) = ofDocument {} (shelter anyPet) := by
  have entry : ("Pet", .inline anyPet) ∈ (namedParts (shelter anyPet)).schemas.entries := by
    simp [namedParts, shelter]
  have built : model (aliasesOf (shelter anyPet)) "Pet" (.inline anyPet) ∈
      modelsOf (namedParts (shelter anyPet)) (aliasesOf (shelter anyPet)) :=
    mem_modelsOf.mpr ⟨"Pet", _, entry, by decide, rfl⟩
  obtain ⟨-, kept, unread⟩ := compositions_kept_iff built entry
  refine ⟨_, built, kept.mpr (Or.inr ?_), unread (List.cons_ne_nil _ _) {} _⟩
  rintro name ⟨pointer, listed, rfl⟩
  exact ⟨pointer, listed, rfl⟩

/-- A pet is one kind, and any of others: the others are left out. -/
theorem dog_beside_choice_left_out :
    ∃ result, ofDocument {} (shelter { oneOf := [cat], anyOf := [dog] }) = .ok result ∧
      result.models.map (fun model => (model.name, model.interfaces, model.imports)) =
        [("Cat", [], []), ("Dog", [], []), ("Pet", ["Cat"], ["Cat"])] :=
  ⟨_, rfl, rfl⟩

end ServerScaffold.Interface
