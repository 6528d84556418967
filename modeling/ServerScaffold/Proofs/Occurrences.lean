import ServerScaffold.Interface.Classify
import ServerScaffold.Proofs.Expansion

/-!
The references in a schema. A reference occurs if it stands anywhere inside; it is read if the node of
the schema comes to refer to its name. What a node passes over is passed over with all that is inside.
-/
namespace ServerScaffold

namespace Api

def Additional.parts {σ : Type} : Additional σ → List σ
  | .flag _ => []
  | .schema part => [part]

def Keywords.parts {σ : Type} (k : Keywords σ) : List σ :=
  k.properties.map Prod.snd ++ k.additional.toList.flatMap Additional.parts ++ k.items.toList ++
    k.allOf ++ k.oneOf ++ k.anyOf

section

variable {σ : Type} {k : Keywords σ} {part : σ}

theorem part_of_anyOf (listed : part ∈ k.anyOf) : part ∈ k.parts := List.mem_append_right _ listed

theorem part_of_oneOf (listed : part ∈ k.oneOf) : part ∈ k.parts :=
  List.mem_append_left _ (List.mem_append_right _ listed)

theorem part_of_allOf (listed : part ∈ k.allOf) : part ∈ k.parts :=
  List.mem_append_left _ (List.mem_append_left _ (List.mem_append_right _ listed))

/-- The parts that are given by a keyword of their own, not by a list of schemas. -/
theorem part_of_rest (listed : part ∈ k.properties.map Prod.snd ++
    k.additional.toList.flatMap Additional.parts ++ k.items.toList) : part ∈ k.parts :=
  List.mem_append_left _ (List.mem_append_left _ (List.mem_append_left _ listed))

theorem part_of_items (given : k.items = some part) : part ∈ k.parts :=
  part_of_rest (List.mem_append_right _ (Option.mem_toList.mpr given))

theorem part_of_additional (given : k.additional = some (.schema part)) : part ∈ k.parts :=
  part_of_rest (List.mem_append_left _ (List.mem_append_right _
    (List.mem_flatMap.mpr ⟨_, Option.mem_toList.mpr given, List.mem_singleton_self part⟩)))

theorem part_of_property {name : String} (listed : (name, part) ∈ k.properties) : part ∈ k.parts :=
  part_of_rest (List.mem_append_left _ (List.mem_append_left _ (List.mem_map_of_mem listed)))

theorem part_cases (member : part ∈ k.parts) :
    (∃ name, (name, part) ∈ k.properties) ∨ k.additional = some (.schema part) ∨
      k.items = some part ∨ part ∈ k.allOf ∨ part ∈ k.oneOf ∨ part ∈ k.anyOf := by
  simp only [Keywords.parts, List.mem_append, List.mem_map, List.mem_flatMap,
    Option.mem_toList] at member
  rcases member with ((((⟨⟨name, _⟩, listed, rfl⟩ | ⟨additional, given, listed⟩) | given) |
    listed) | listed) | listed
  · exact Or.inl ⟨name, listed⟩
  · cases additional with
    | flag _ => exact absurd listed List.not_mem_nil
    | schema other =>
      obtain rfl := List.mem_singleton.mp listed
      exact Or.inr (Or.inl given)
  · exact Or.inr (Or.inr (Or.inl given))
  · exact Or.inr (Or.inr (Or.inr (Or.inl listed)))
  · exact Or.inr (Or.inr (Or.inr (Or.inr (Or.inl listed))))
  · exact Or.inr (Or.inr (Or.inr (Or.inr (Or.inr listed))))

end

/-- Induction over schemas; what is below some keywords comes as the members of their parts. -/
theorem Schema.induct {motive : Schema → Prop} (ref : ∀ pointer, motive (.ref pointer))
    (inline : ∀ k, (∀ part ∈ k.parts, motive part) → motive (.inline k)) (schema : Schema) :
    motive schema := by
  -- One motive for each type that the recursor passes through: keywords, lists, options and pairs.
  refine @Schema.rec motive (fun k => ∀ part ∈ k.parts, motive part)
    (fun entries => ∀ entry ∈ entries, motive entry.2)
    (fun additional => ∀ part, additional = some (.schema part) → motive part)
    (fun items => ∀ part, items = some part → motive part)
    (fun parts => ∀ part ∈ parts, motive part) (fun entry => motive entry.2)
    (fun additional => ∀ part, additional = .schema part → motive part)
    ref inline ?keywords ?noProperty ?property ?noAdditional ?additional ?noItems ?items ?noPart ?part
    (fun _ _ here => here) ?flag ?schema schema
  case keywords =>
    intro _ _ _ _ _ _ _ _ _ _ _ _ _ properties additional items allOf oneOf anyOf part member
    rcases part_cases member with ⟨_, listed⟩ | given | given | listed | listed | listed
    · exact properties _ listed
    · exact additional part given
    · exact items part given
    · exact allOf part listed
    · exact oneOf part listed
    · exact anyOf part listed
  case noProperty | noPart => exact fun _ member => absurd member List.not_mem_nil
  case property | part => exact fun _ _ first rest => List.forall_mem_cons.mpr ⟨first, rest⟩
  case noAdditional | noItems => exact fun _ given => nomatch given
  case additional => exact fun _ here part given => here part (Option.some.inj given)
  case items => exact fun _ here part given => Option.some.inj given ▸ here
  case flag => exact fun _ _ given => nomatch given
  case schema => exact fun _ here _ given => Additional.schema.inj given ▸ here

inductive Occurs (pointer : String) : Schema → Prop where
  | here : Occurs pointer (.ref pointer)
  | inside {k : Keywords Schema} {part : Schema} (member : part ∈ k.parts)
      (rest : Occurs pointer part) : Occurs pointer (.inline k)

theorem Additional.parts_map {σ τ : Type} (f : σ → τ) (additional : Additional σ) :
    (additional.map f).parts = additional.parts.map f := by
  cases additional <;> rfl

theorem Keywords.parts_map {σ τ : Type} (f : σ → τ) (k : Keywords σ) :
    (k.map f).parts = k.parts.map f := by
  cases given : k.additional <;> cases given' : k.items <;>
    simp [Keywords.parts, Keywords.map, Additional.parts_map, given, given', Function.comp_def]

section

variable {σ τ υ : Type} {f g : σ → τ}

theorem Keywords.map_map (f : σ → τ) (g : τ → υ) (k : Keywords σ) : (k.map f).map g = k.map (g ∘ f) := by
  have additional : Additional.map g ∘ Additional.map f = Additional.map (g ∘ f) := by
    funext given
    cases given <;> rfl
  simp [Keywords.map, additional, Function.comp_def]

theorem Keywords.map_congr {k : Keywords σ} (same : ∀ part ∈ k.parts, f part = g part) : k.map f = k.map g := by
  unfold Keywords.map
  congr 1
  · exact List.map_congr_left fun (name, part) listed => congrArg (name, ·) (same part (part_of_property listed))
  · refine Option.map_congr fun additional given => ?_
    cases additional with
    | flag _ => rfl
    | schema part => exact congrArg Additional.schema (same part (part_of_additional given))
  · exact Option.map_congr fun part given => same part (part_of_items given)
  · exact List.map_congr_left fun part listed => same part (part_of_allOf listed)
  · exact List.map_congr_left fun part listed => same part (part_of_oneOf listed)
  · exact List.map_congr_left fun part listed => same part (part_of_anyOf listed)

theorem Keywords.map_self (k : Keywords σ) : k.map id = k := by
  have additional : (Additional.map id : Additional σ → Additional σ) = id := by
    funext given
    cases given <;> rfl
  simp [Keywords.map, additional]

end

/-- All pointers that occur in a schema. -/
def Schema.pointers : Schema → List String :=
  Schema.fold (fun pointer => [pointer]) (fun k => k.parts.flatten)

theorem mem_pointers {pointer : String} (schema : Schema) :
    pointer ∈ schema.pointers ↔ Occurs pointer schema := by
  induction schema using Schema.induct with
  | ref other =>
    rw [Schema.pointers, Schema.fold_ref, List.mem_singleton]
    constructor
    · rintro rfl
      exact .here
    · rintro ⟨⟩
      rfl
  | inline k ih =>
    rw [Schema.pointers, Schema.fold_inline, Keywords.parts_map, List.mem_flatten]
    constructor
    · rintro ⟨below, listed, inside⟩
      obtain ⟨part, member, rfl⟩ := List.mem_map.mp listed
      exact .inside member ((ih part member).mp inside)
    · rintro (_ | ⟨member, rest⟩)
      exact ⟨_, List.mem_map_of_mem member, (ih _ member).mpr rest⟩

end Api

namespace Interface

open Api (Keywords Schema Occurs)

/-- The parts that the node of some keywords is made of: the branches of a choice, a single part in the
place of the whole, the elements of an array, and the values of a map. -/
inductive ReadPart {σ : Type} (k : Keywords σ) : σ → Prop where
  | branch {part : σ} (listed : part ∈ branches k) : ReadPart k part
  | whole {part : σ} (noChoice : branches k = []) (single : k.allOf = [part]) : ReadPart k part
  | element {part : σ} (noChoice : branches k = []) (noParts : k.allOf = [])
      (array : k.type.bind (·.primary?) = some .array ∨ k.type.bind (·.primary?) = none)
      (given : k.items = some part) : ReadPart k part
  | value {part : σ} (noChoice : branches k = []) (noParts : k.allOf = [])
      (object : k.type.bind (·.primary?) = some .object ∨
        k.type.bind (·.primary?) = none ∧ k.items = none)
      (bare : k.properties = []) (given : k.additional = some (.schema part)) : ReadPart k part

/-- A reference that the node of a schema comes to refer to. -/
inductive Kept (pointer : String) : Schema → Prop where
  | here : Kept pointer (.ref pointer)
  | inside {k : Keywords Schema} {part : Schema} (read : ReadPart k part)
      (rest : Kept pointer part) : Kept pointer (.inline k)

section

variable {σ : Type} {k : Keywords σ} {part : σ} {name : String}

theorem read_part_is_part (read : ReadPart k part) : part ∈ k.parts := by
  cases read with
  | branch listed =>
    unfold branches at listed
    split at listed
    · exact Api.part_of_anyOf listed
    · exact Api.part_of_oneOf listed
  | whole _ single => exact Api.part_of_allOf (single ▸ List.mem_singleton_self part)
  | element _ _ _ given => exact Api.part_of_items given
  | value _ _ _ _ given => exact Api.part_of_additional given

theorem branches_map {τ : Type} (f : σ → τ) (k : Keywords σ) :
    branches (k.map f) = (branches k).map f := by
  unfold branches
  cases empty : k.oneOf with
  | nil => simp [Keywords.map, empty]
  | cons first rest => simp [Keywords.map, empty]

theorem mem_refs_array (f : σ → Node) (k : Keywords σ) :
    name ∈ (arrayNode (k.map f)).refs ↔ ∃ part, k.items = some part ∧ name ∈ (f part).refs := by
  cases given : k.items <;> simp [arrayNode, Keywords.map, given]

theorem mem_refs_object (f : σ → Node) (k : Keywords σ) :
    name ∈ (objectNode (k.map f)).refs ↔
      ∃ part, (k.properties = [] ∧ k.additional = some (.schema part)) ∧ name ∈ (f part).refs := by
  cases listed : k.properties with
  | cons first rest => simp [objectNode, Keywords.map, listed]
  | nil =>
    rcases given : k.additional with _ | _ | part
    · simp [objectNode, Keywords.map, listed, given]
    · rename_i allowed
      cases allowed <;> simp [objectNode, Keywords.map, listed, given, Api.Additional.map]
    · simp [objectNode, Keywords.map, listed, given, Api.Additional.map]

theorem read_of_choice (choice : branches k ≠ []) : ReadPart k part ↔ part ∈ branches k := by
  constructor
  · intro read
    cases read with
    | branch listed => exact listed
    | whole none | element none | value none => exact absurd none choice
  · exact .branch

theorem read_of_parts (noChoice : branches k = []) (parts : k.allOf ≠ []) :
    ReadPart k part ↔ k.allOf = [part] := by
  constructor
  · intro read
    cases read with
    | branch listed => simp [noChoice] at listed
    | whole _ single => exact single
    | element _ none | value _ none => exact absurd none parts
  · exact .whole noChoice

theorem read_of_type (noChoice : branches k = []) (noParts : k.allOf = []) :
    ReadPart k part ↔
      ((k.type.bind (·.primary?) = some .array ∨ k.type.bind (·.primary?) = none) ∧
        k.items = some part) ∨
      ((k.type.bind (·.primary?) = some .object ∨
          k.type.bind (·.primary?) = none ∧ k.items = none) ∧
        k.properties = [] ∧ k.additional = some (.schema part)) := by
  constructor
  · intro read
    cases read with
    | branch listed => simp [noChoice] at listed
    | whole _ single => simp [noParts] at single
    | element _ _ array given => exact Or.inl ⟨array, given⟩
    | value _ _ object bare given => exact Or.inr ⟨object, bare, given⟩
  · rintro (⟨array, given⟩ | ⟨object, bare, given⟩)
    · exact .element noChoice noParts array given
    · exact .value noChoice noParts object bare given

theorem mem_refs_typed (f : σ → Node) (noChoice : branches k = []) (noParts : k.allOf = []) :
    name ∈ (typedNode (k.map f) (k.type.bind (·.primary?))).refs ↔
      ∃ part, ReadPart k part ∧ name ∈ (f part).refs := by
  simp only [read_of_type noChoice noParts]
  rcases type : k.type.bind (·.primary?) with _ | (_ | _ | _ | _ | _ | _ | _)
  case some.array => simp [typedNode, mem_refs_array]
  case some.object => simp [typedNode, mem_refs_object]
  case none =>
    cases items : k.items with
    | some element =>
      have isArray : (k.map f).items.isSome = true := by simp [Keywords.map, items]
      simp [typedNode, isArray, mem_refs_array, items]
    | none =>
      have noArray : (k.map f).items.isSome = false := by simp [Keywords.map, items]
      simp [typedNode, noArray, mem_refs_object]
  -- The types that are left have no parts.
  all_goals simp [typedNode]

/-- A node refers to the names that the parts it is made of refer to. -/
theorem mem_refs_classify (f : σ → Node) (k : Keywords σ) :
    name ∈ (classify (k.map f)).refs ↔ ∃ part, ReadPart k part ∧ name ∈ (f part).refs := by
  have parts : (k.map f).allOf = k.allOf.map f := rfl
  cases choice : branches k with
  | cons first rest =>
    have some : branches k ≠ [] := by simp [choice]
    simp only [classify, branches_map, choice, read_of_choice some]
    simp [List.mem_flatMap]
  | nil =>
    rcases listed : k.allOf with _ | ⟨first, _ | ⟨second, rest⟩⟩
    · have plain : classify (k.map f) = typedNode (k.map f) (k.type.bind (·.primary?)) := by
        simp only [classify, branches_map, choice, parts, listed, List.map_nil]
        rfl
      rw [plain, mem_refs_typed f choice listed]
    · have some : k.allOf ≠ [] := by simp [listed]
      simp only [classify, branches_map, choice, parts, read_of_parts choice some, listed]
      simp
    · have some : k.allOf ≠ [] := by simp [listed]
      simp only [classify, branches_map, choice, parts, read_of_parts choice some, listed]
      simp

end

theorem kept_occurs {pointer : String} {schema : Schema} (kept : Kept pointer schema) :
    Occurs pointer schema := by
  induction kept with
  | here => exact .here
  | inside read _ ih => exact .inside (read_part_is_part read) ih

theorem mem_refs_node {name : String} (schema : Schema) :
    name ∈ (schemaNode schema).refs ↔ ∃ pointer, Kept pointer schema ∧ Api.pointerName pointer = name := by
  induction schema using Schema.induct with
  | ref pointer =>
    constructor
    · intro member
      exact ⟨pointer, .here, (List.mem_singleton.mp member).symm⟩
    · rintro ⟨_, kept, rfl⟩
      cases kept
      exact List.mem_singleton_self _
  | inline k ih =>
    rw [node_of_keywords, mem_refs_classify]
    constructor
    · rintro ⟨part, read, member⟩
      obtain ⟨pointer, kept, same⟩ := (ih part (read_part_is_part read)).mp member
      exact ⟨pointer, .inside read kept, same⟩
    · rintro ⟨pointer, kept, same⟩
      cases kept with
      | inside read kept =>
        exact ⟨_, read, (ih _ (read_part_is_part read)).mpr ⟨pointer, kept, same⟩⟩

end Interface

end ServerScaffold
