import ServerScaffold.Proofs.Assembly
import ServerScaffold.Proofs.AliasClosure
import ServerScaffold.Proofs.Occurrences

/-!
The values of an enumeration. As a named schema it is a model, which lists every value, also one that is no
text; in place it is a node, which lists the texts alone. So the two list the same just if all values are texts.
-/
namespace ServerScaffold.Interface

open Api (Components Document Keywords Schema)

/-- Keywords that enumerate texts, perhaps with other values among them. -/
structure TextEnumeration (k : Keywords Schema) : Prop where
  noParts : k.allOf = []
  noChoice : k.oneOf = []
  noAlternative : k.anyOf = []
  string : k.type.bind (·.primary?) = some .string
  listed : ∃ text, .atom (.text text) ∈ k.values

/-- The text that a value is. -/
def valueText? : Literal → Option String
  | .atom (.text text) => some text
  | _ => none

section

variable {values : List Literal} {value : Literal} {k : Keywords Schema} {name text : String}

theorem valueText_eq_some : valueText? value = some text ↔ value = .atom (.text text) := by
  unfold valueText?
  split
  · simp
  · next noText =>
    constructor
    · nofun
    · rintro rfl
      exact absurd rfl (noText text)

theorem texts_eq (values : List Literal) : texts values = values.filterMap valueText? := rfl

theorem mem_texts : text ∈ texts values ↔ .atom (.text text) ∈ values := by
  rw [texts_eq, List.mem_filterMap]
  simp only [valueText_eq_some, exists_eq_right]

theorem enumText_eq (value : Literal) : enumText value = (valueText? value).getD value.text := by
  unfold enumText
  split
  · rfl
  · next noText =>
    have none : valueText? value = none :=
      Option.eq_none_iff_forall_not_mem.mpr fun text found => noText text (valueText_eq_some.mp found)
    rw [none, Option.getD_none]

/-- What is written for all values is what the texts among them are, just if there are no others. -/
theorem written_eq_texts_iff : values.map enumText = texts values ↔
    ∀ value ∈ values, ∃ text, value = .atom (.text text) := by
  constructor
  · intro same value listed
    have count : values.countP (fun value => (valueText? value).isSome) = values.length := by
      rw [← List.length_filterMap_eq_countP, ← texts_eq, ← same, List.length_map]
    obtain ⟨text, found⟩ := Option.isSome_iff_exists.mp (List.countP_eq_length.mp count value listed)
    exact ⟨text, valueText_eq_some.mp found⟩
  · intro all
    rw [texts_eq, ← List.filterMap_eq_map]
    refine List.filterMap_congr fun value listed => ?_
    obtain ⟨text, rfl⟩ := all value listed
    rfl

theorem enumeration_node (enumeration : TextEnumeration k) :
    schemaNode (.inline k) = .leaf (.enumeration (texts k.values)) k.default := by
  have noBranch : branches (k.map schemaNode) = [] := by
    rw [branches_map, branches, enumeration.noChoice, enumeration.noAlternative]
    rfl
  have noPart : (k.map schemaNode).allOf = [] := by simp [Keywords.map, enumeration.noParts]
  have string : (k.map schemaNode).type.bind (·.primary?) = some .string := enumeration.string
  obtain ⟨text, listed⟩ := enumeration.listed
  obtain ⟨first, rest, found⟩ := List.exists_cons_of_ne_nil (List.ne_nil_of_mem (mem_texts.mpr listed))
  have leaf : stringLeaf (k.map schemaNode) = .enumeration (texts k.values) := by
    have values : texts (k.map schemaNode).values = first :: rest := found
    rw [stringLeaf, values, found]
  rw [node_of_keywords, classify, noBranch, noPart, string, typedNode, leaf]
  rfl

/-- With a value it is no alias. -/
theorem enumeration_no_alias {schemas : Table Schema} (entry : (name, .inline k) ∈ schemas.entries)
    (some : k.values ≠ []) : name ∉ (aliasTable schemas).keys := by
  refine no_target_no_alias entry ?_
  simp [aliasTarget?, some]

end

/-- A named schema that enumerates texts has a model. The model has all its values, those that are no texts as
they are written; in place the schema comes to the enumeration of the texts. The two list the same just if
there are no other values. -/
theorem enumeration_values_agree_iff {components : Components} {name : String} {k : Keywords Schema}
    (entry : (name, .inline k) ∈ components.schemas.entries) (enumeration : TextEnumeration k) :
    ∃ result ∈ modelsOf components (aliasTable components.schemas), ∃ inPlace,
      result.name = name ∧ result.isEnum = true ∧
      schemaNode (.inline k) = .leaf (.enumeration inPlace) k.default ∧
      result.values = k.values.map (fun value => (valueText? value).getD value.text) ∧
      inPlace = k.values.filterMap valueText? ∧
      (result.values = inPlace ↔ ∀ value ∈ k.values, ∃ text, value = .atom (.text text)) := by
  obtain ⟨text, listed⟩ := enumeration.listed
  have some : k.values ≠ [] := List.ne_nil_of_mem listed
  have plain := enumeration_no_alias entry some
  refine ⟨_, mem_modelsOf.mpr ⟨name, _, entry, plain, rfl⟩, texts k.values, rfl, ?_, enumeration_node enumeration,
    ?_, texts_eq _, written_eq_texts_iff⟩
  · simp [model, keywordModel, some]
  · exact List.map_congr_left fun value _ => enumText_eq value

/-- A named enumeration and no operations. -/
def statusDocument (k : Keywords Schema) : Document where
  openapi := "3.0.3"
  info := { title := "Status", version := "1" }
  components := some { schemas := ⟨[("Status", .inline k)], List.nodup_singleton _⟩ }

def statuses (values : List Literal) : Keywords Schema where
  type := some (.several [.string, .null])
  values := values

theorem statuses_enumerate {values : List Literal} {text : String} (listed : .atom (.text text) ∈ values) :
    TextEnumeration (statuses values) :=
  ⟨rfl, rfl, rfl, rfl, text, listed⟩

theorem plain_statuses_agree :
    let k := statuses [.atom (.text "sit"), .atom (.text "stay")]
    ∃ result ∈ modelsOf (namedParts (statusDocument k)) (aliasesOf (statusDocument k)),
      result.name = "Status" ∧ schemaNode (.inline k) = .leaf (.enumeration result.values) none := by
  intro k
  have entry : ("Status", .inline k) ∈ (namedParts (statusDocument k)).schemas.entries :=
    List.mem_singleton_self _
  have enumeration : TextEnumeration k := statuses_enumerate List.mem_cons_self
  obtain ⟨result, member, inPlace, name, -, node, -, -, agree⟩ := enumeration_values_agree_iff entry enumeration
  have same : result.values = inPlace := agree.mpr (by simp [k, statuses])
  exact ⟨result, member, name, same ▸ node⟩

/-- With nothing for a status that is not known, the model has one value more. -/
theorem unknown_status_in_model_only :
    let k := statuses [.atom (.text "sit"), .atom .null]
    TextEnumeration k ∧ schemaNode (.inline k) = .leaf (.enumeration ["sit"]) none ∧
    ∃ result, ofDocument {} (statusDocument k) = .ok result ∧
      result.models.map (fun model => (model.name, model.values)) = [("Status", ["sit", "null"])] :=
  ⟨statuses_enumerate List.mem_cons_self, rfl, _, rfl, rfl⟩

end ServerScaffold.Interface
