import Mathlib.Data.List.Nodup
import ServerScaffold.Proofs.Forms
import ServerScaffold.Proofs.Readings

/-!
Where the members of a model come from. The parts of a schema that stand in place declare members, and so does
the schema itself; the model lists what each of them declares, one after the other. So a member comes as often
as it is declared, and it is required just where the keywords say so that declare it there.
-/
namespace ServerScaffold.Interface

open Api (Components Document Keywords Schema)

def inPlace? : Schema → Option (Keywords Schema)
  | .ref _ => none
  | .inline k => some k

/-- The keywords that declare the members of a model: those of the parts in place, then those of the schema. -/
def declarations : Schema → List (Keywords Schema)
  | .ref _ => []
  | .inline k => k.allOf.filterMap inPlace? ++ [k]

def declaredNames (given : Keywords Schema) : List String := given.properties.map Prod.fst

def Model.memberNames (model : Model) : List String := model.properties.map (·.name)

section Listing

variable {components : Components} {aliases : Table Node} {name : String} {schema : Schema} {result : Model}

theorem partProperties_inPlace (k : Keywords Schema) :
    partProperties k = (k.allOf.filterMap inPlace?).flatMap ownProperties := by
  unfold partProperties
  induction k.allOf with
  | nil => rfl
  | cons part rest ih =>
    cases part with
    | ref pointer => exact ih
    | inline inner => exact congrArg (ownProperties inner ++ ·) ih

theorem properties_declared (k : Keywords Schema) :
    properties k = (declarations (.inline k)).flatMap ownProperties := by
  rw [properties_parts, partProperties_inPlace, declarations, List.flatMap_append, List.flatMap_singleton]

/-- A model lists what its declarations list, one after the other. -/
theorem model_properties (aliases : Table Node) (name : String) (schema : Schema) :
    (model aliases name schema).properties =
      (declarations schema).flatMap fun given => (ownProperties given).map (inlinedProperty aliases) := by
  cases schema with
  | ref pointer => rfl
  | inline k =>
    have listed : (model aliases name (.inline k)).properties = (properties k).map (inlinedProperty aliases) := rfl
    rw [listed, properties_declared, List.map_flatMap]

theorem model_memberNames (aliases : Table Node) (name : String) (schema : Schema) :
    (model aliases name schema).memberNames = (declarations schema).flatMap declaredNames := by
  rw [Model.memberNames, model_properties, List.map_flatMap]
  refine List.flatMap_congr fun given _ => ?_
  simp [ownProperties, inlinedProperty, declaredNames, Function.comp_def]

/-- Whether a property is required is said by the keywords that declare it. -/
theorem mem_model_properties {property : Property} :
    property ∈ (model aliases name schema).properties ↔ ∃ given ∈ declarations schema, ∃ entry ∈ given.properties,
      property = ⟨entry.1, inlineAliases aliases (schemaNode entry.2), given.required.contains entry.1,
        schemaDescription? entry.2⟩ := by
  simp [model_properties, ownProperties, inlinedProperty, eq_comm]

theorem property_declared {property : Property} (listed : property ∈ (model aliases name schema).properties) :
    ∃ given ∈ declarations schema, property.name ∈ declaredNames given ∧
      (property.required = true ↔ property.name ∈ given.required) := by
  obtain ⟨given, declares, entry, there, rfl⟩ := mem_model_properties.mp listed
  exact ⟨given, declares, List.mem_map_of_mem there, List.contains_iff_mem⟩

theorem declared_is_property {given : Keywords Schema} (declares : given ∈ declarations schema) {member : String}
    (declared : member ∈ declaredNames given) : ∃ property ∈ (model aliases name schema).properties,
      property.name = member ∧ (property.required = true ↔ member ∈ given.required) := by
  obtain ⟨entry, there, rfl⟩ := List.mem_map.mp declared
  exact ⟨_, mem_model_properties.mpr ⟨given, declares, entry, there, rfl⟩, rfl, List.contains_iff_mem⟩

end Listing

section Counting

variable {given : List (Keywords Schema)}

/-- The keywords of a schema and of its parts name no member twice, if nothing in the schema does. -/
theorem declarations_once {schema : Schema} (once : schema.NamesOnce) :
    ∀ given ∈ declarations schema, (declaredNames given).Nodup := by
  cases once with
  | ref pointer => exact List.forall_mem_nil _
  | @inPlace k names inside =>
    intro given listed
    rcases List.mem_append.mp listed with ofPart | own
    · obtain ⟨part, there, same⟩ := List.mem_filterMap.mp ofPart
      cases part with
      | ref pointer => contradiction
      | inline inner =>
        obtain rfl := Option.some.inj same
        exact (inside _ (Api.part_of_allOf there)).properties_distinct
    · obtain rfl := List.mem_singleton.mp own
      exact names

theorem count_declared (once : ∀ keywords ∈ given, (declaredNames keywords).Nodup) (member : String) :
    (given.flatMap declaredNames).count member = given.countP fun keywords => member ∈ declaredNames keywords := by
  induction given with
  | nil => rfl
  | cons first rest ih =>
    obtain ⟨here, later⟩ := List.forall_mem_cons.mp once
    rw [List.flatMap_cons, List.count_append, List.countP_cons, ih later, Nat.add_comm]
    by_cases declared : member ∈ declaredNames first
    · simp [declared, List.count_eq_one_of_mem here declared]
    · simp [declared, List.count_eq_zero_of_not_mem declared]

end Counting

def word : Schema := .inline { type := some (.single .string) }

/-- What every animal has. -/
def animal : Keywords Schema where
  required := ["name"]
  properties := [("name", word)]

/-- What a tag adds, for an animal that has a name. -/
def tagged : Keywords Schema where
  required := ["name", "tag"]
  properties := [("tag", word)]

/-- A tagged animal that may have a keeper. -/
def pet : Keywords Schema where
  allOf := [.inline animal, .inline tagged]
  properties := [("keeper", word)]

/-- A description of one schema and no operations. -/
def petDocument (k : Keywords Schema) : Document where
  openapi := "3.0.3"
  info := { title := "Pets", version := "1" }
  components := some { schemas := ⟨[("Pet", .inline k)], List.nodup_singleton _⟩ }

theorem words_once {k : Keywords Schema} (names : (declaredNames k).Nodup) (words : ∀ part ∈ k.parts, part = word) :
    (Schema.inline k).NamesOnce := by
  refine .inPlace names fun part listed => ?_
  rw [words part listed]
  exact .inPlace List.nodup_nil (List.forall_mem_nil _)

theorem pet_once : (namedParts (petDocument pet)).NamesOnce where
  schemas := by
    have ofAnimal : (Schema.inline animal).NamesOnce := words_once (by decide) (List.forall_mem_singleton.mpr rfl)
    have ofTag : (Schema.inline tagged).NamesOnce := words_once (by decide) (List.forall_mem_singleton.mpr rfl)
    have ofKeeper : word.NamesOnce := words_once List.nodup_nil (List.forall_mem_nil _)
    refine List.forall_mem_singleton.mpr (.inPlace (by decide) ?_)
    exact List.forall_mem_cons.mpr ⟨ofKeeper, List.forall_mem_cons.mpr ⟨ofAnimal, List.forall_mem_singleton.mpr ofTag⟩⟩
  parameters := List.forall_mem_nil _
  requestBodies := List.forall_mem_nil _

theorem pet_built : model (aliasesOf (petDocument pet)) "Pet" (.inline pet) ∈
    modelsOf (namedParts (petDocument pet)) (aliasesOf (petDocument pet)) :=
  mem_modelsOf.mpr ⟨"Pet", _, List.mem_singleton_self _, by decide, rfl⟩

/-- A member comes in a model as often as it is declared: by a part in place, or by the schema itself. So the
members of the model are distinct just if no two of these declare the same. -/
theorem members_distinct_iff_declared_once {components : Components} {aliases : Table Node} {result : Model}
    (once : components.NamesOnce) (built : result ∈ modelsOf components aliases) :
    ∃ schema, (result.name, schema) ∈ components.schemas.entries ∧
      (∀ member, result.memberNames.count member =
        (declarations schema).countP fun given => member ∈ declaredNames given) ∧
      (result.memberNames.Nodup ↔ (declarations schema).Pairwise fun first second =>
        ∀ member ∈ declaredNames first, member ∉ declaredNames second) := by
  obtain ⟨name, schema, entry, -, rfl⟩ := mem_modelsOf.mp built
  have each := declarations_once (once.schemas _ entry)
  rw [model_name, model_memberNames]
  refine ⟨schema, entry, count_declared each, ?_⟩
  rw [List.nodup_flatMap]
  exact and_iff_right each

theorem pet_members_distinct : (namedParts (petDocument pet)).NamesOnce ∧
    ∃ result ∈ modelsOf (namedParts (petDocument pet)) (aliasesOf (petDocument pet)),
      result.memberNames = ["name", "tag", "keeper"] ∧ result.memberNames.Nodup := by
  refine ⟨pet_once, _, pet_built, rfl, ?_⟩
  obtain ⟨schema, entry, -, distinct⟩ := members_distinct_iff_declared_once pet_once pet_built
  obtain ⟨-, rfl⟩ := Prod.mk.inj (List.mem_singleton.mp entry)
  exact distinct.mpr (by decide)

/-- The name is declared for all animals and for pets again, so a pet has two members with it. -/
theorem renamed_pet_has_two_names :
    let renamed : Keywords Schema := { allOf := [.inline animal], properties := [("name", word)] }
    ∃ result, ofDocument {} (petDocument renamed) = .ok result ∧
      result.models.map (fun model => (model.name, model.memberNames)) = [("Pet", ["name", "name"])] :=
  ⟨_, rfl, rfl⟩

/-- A property of a model is required just if the keywords that declare it list it so. So it is required just
if any of the parts in place or the schema itself lists it, unless it is declared where it is not listed. -/
theorem required_as_merged_iff {components : Components} {aliases : Table Node} {result : Model}
    (built : result ∈ modelsOf components aliases) :
    ∃ schema, (result.name, schema) ∈ components.schemas.entries ∧
      (∀ property ∈ result.properties, ∃ given ∈ declarations schema,
        property.name ∈ declaredNames given ∧ (property.required = true ↔ property.name ∈ given.required)) ∧
      ((∀ property ∈ result.properties,
          property.required = true ↔ ∃ given ∈ declarations schema, property.name ∈ given.required) ↔
        ∀ given ∈ declarations schema, ∀ other ∈ declarations schema, ∀ member ∈ declaredNames given,
          member ∈ other.required → member ∈ given.required) := by
  obtain ⟨name, schema, entry, -, rfl⟩ := mem_modelsOf.mp built
  refine ⟨schema, (model_name aliases name schema).symm ▸ entry, fun property => property_declared, ?_, ?_⟩
  · intro merged given declares other requires member declared listed
    obtain ⟨property, there, rfl, own⟩ := declared_is_property declares declared
    exact own.mp ((merged property there).mpr ⟨other, requires, listed⟩)
  · intro alike property there
    obtain ⟨given, declares, declared, own⟩ := property_declared there
    rw [own]
    constructor
    · exact fun listed => ⟨given, declares, listed⟩
    · rintro ⟨other, requires, listed⟩
      exact alike given declares other requires _ declared listed

theorem pet_required_as_merged :
    ∃ result ∈ modelsOf (namedParts (petDocument pet)) (aliasesOf (petDocument pet)),
      ∀ property ∈ result.properties,
        property.required = true ↔ ∃ given ∈ declarations (.inline pet), property.name ∈ given.required := by
  refine ⟨_, pet_built, ?_⟩
  obtain ⟨schema, entry, -, merged⟩ := required_as_merged_iff pet_built
  obtain ⟨-, rfl⟩ := Prod.mk.inj (List.mem_singleton.mp entry)
  exact merged.mpr (by decide)

/-- All pets must have a name, but it is declared by a part that does not say so. -/
theorem called_pet_needs_no_name :
    let called : Keywords Schema := { allOf := [.inline { properties := [("name", word)] }], required := ["name"] }
    ∃ result, ofDocument {} (petDocument called) = .ok result ∧
      result.models.map (fun model => model.properties.map fun property => (property.name, property.required)) =
        [[("name", false)]] :=
  ⟨_, rfl, rfl⟩

end ServerScaffold.Interface
