import ServerScaffold.Interface.Alias
import ServerScaffold.Proofs.Tables

/-!
Which named schemas are aliases. `Alias` is the least set that holds the schemas that are aliases by
themselves and, with a name, every bare reference to it. The table is filled in one sweep, so it finds
the bare references whose chain never points to a bare reference further down: `Swept`.
-/
namespace ServerScaffold.Interface

open Api (Schema pointerName)

/-- A schema in place without enumeration values whose node is plain. -/
def IsDirect (schemas : Table Schema) (name : String) : Prop :=
  ∃ k, (name, .inline k) ∈ schemas.entries ∧ k.values = [] ∧ (schemaNode (.inline k)).isPlain = true

/-- A schema that is nothing but a reference to `target`. -/
def IsBare (schemas : Table Schema) (name target : String) : Prop :=
  ∃ pointer, (name, .ref pointer) ∈ schemas.entries ∧ pointerName pointer = target

inductive Alias (schemas : Table Schema) : String → Prop where
  | direct {name : String} (own : IsDirect schemas name) : Alias schemas name
  | bare {name target : String} (reference : IsBare schemas name target)
      (known : Alias schemas target) : Alias schemas name

inductive Swept (schemas : Table Schema) : String → Prop where
  | direct {name : String} (own : IsDirect schemas name) : Swept schemas name
  | bare {name target : String} (reference : IsBare schemas name target)
      (known : Swept schemas target)
      (ready : IsDirect schemas target ∨ schemas.Precedes target name) : Swept schemas name

variable {schemas : Table Schema} {name target : String}

theorem direct_not_bare (own : IsDirect schemas name) : ¬ IsBare schemas name target := by
  rintro ⟨pointer, reference, _⟩
  obtain ⟨k, entry, _⟩ := own
  have same := Table.entry_unique entry reference
  contradiction

theorem bare_unique {other : String} (reference : IsBare schemas name target)
    (again : IsBare schemas name other) : target = other := by
  obtain ⟨pointer, entry, rfl⟩ := reference
  obtain ⟨pointer', entry', rfl⟩ := again
  have same := Table.entry_unique entry entry'
  rw [Schema.ref.inj same]

theorem bare_is_key (reference : IsBare schemas name target) : name ∈ schemas.keys := by
  obtain ⟨pointer, entry, _⟩ := reference
  exact Table.key_of_entry entry

theorem swept_is_key (swept : Swept schemas name) : name ∈ schemas.keys := by
  cases swept with
  | direct own =>
    obtain ⟨k, entry, _⟩ := own
    exact Table.key_of_entry entry
  | bare reference _ _ => exact bare_is_key reference

theorem swept_is_alias (swept : Swept schemas name) : Alias schemas name := by
  induction swept with
  | direct own => exact Alias.direct own
  | bare reference _ _ ih => exact Alias.bare reference ih

theorem aliasTarget_direct {schema : Schema} (entry : (name, schema) ∈ schemas.entries) :
    (aliasTarget? schema).isSome = true ↔ IsDirect schemas name := by
  cases schema with
  | ref pointer =>
    constructor
    · intro found
      simp [aliasTarget?] at found
    · intro own
      exact absurd ⟨pointer, entry, rfl⟩ (direct_not_bare own)
  | inline k =>
    constructor
    · intro found
      simp only [aliasTarget?, Option.isSome_ite, Bool.and_eq_true, List.isEmpty_iff] at found
      exact ⟨k, entry, found⟩
    · rintro ⟨k', entry', found⟩
      obtain rfl : k' = k := Schema.inline.inj (Table.entry_unique entry' entry)
      simpa [aliasTarget?, List.isEmpty_iff] using found

theorem aliasTarget_node {schema : Schema} {node : Node} (found : aliasTarget? schema = some node) :
    node = schemaNode schema := by
  cases schema with
  | ref pointer => simp [aliasTarget?] at found
  | inline k =>
    simp only [aliasTarget?, Option.ite_none_right_eq_some, Option.some.injEq] at found
    exact found.2.symm

def directAliases (schemas : Table Schema) : List (String × Node) :=
  schemas.entries.filterMap fun (name, schema) => (aliasTarget? schema).map (name, ·)

theorem aliasTable_eq (schemas : Table Schema) :
    aliasTable schemas = schemas.entries.foldl addBareAlias (.ofList (directAliases schemas)) := rfl

theorem mem_directAliases {node : Node} (found : (name, node) ∈ directAliases schemas) :
    ∃ schema, (name, schema) ∈ schemas.entries ∧ aliasTarget? schema = some node := by
  obtain ⟨⟨other, schema⟩, member, mapped⟩ := List.mem_filterMap.mp found
  obtain ⟨node', target, same⟩ := Option.map_eq_some_iff.mp mapped
  obtain ⟨rfl, rfl⟩ := Prod.mk.inj same
  exact ⟨schema, member, target⟩

theorem directAliases_distinct (schemas : Table Schema) :
    ((directAliases schemas).map Prod.fst).Nodup := by
  refine List.Nodup.sublist ?_ schemas.distinct
  unfold directAliases
  induction schemas.entries with
  | nil => simp
  | cons entry rest ih =>
    rw [List.filterMap_cons]
    split
    · exact ih.cons _
    · next found =>
      obtain ⟨node, _, rfl⟩ := Option.map_eq_some_iff.mp found
      exact ih.cons_cons _

theorem directAliases_keys :
    name ∈ (Table.ofList (directAliases schemas)).keys ↔ IsDirect schemas name := by
  rw [Table.keys, Table.entries_ofList (directAliases_distinct schemas)]
  constructor
  · intro key
    obtain ⟨⟨other, node⟩, found, rfl⟩ := List.mem_map.mp key
    obtain ⟨schema, member, target⟩ := mem_directAliases found
    exact (aliasTarget_direct member).mp (by simp [target])
  · intro own
    obtain ⟨k, member, _⟩ := id own
    obtain ⟨node, target⟩ := Option.isSome_iff_exists.mp ((aliasTarget_direct member).mpr own)
    exact List.mem_map.mpr ⟨(name, node), List.mem_filterMap.mpr ⟨_, member, by simp [target]⟩, rfl⟩

/-- What the table holds once the sweep has passed the schemas called `seen`. -/
structure SweptOver (schemas : Table Schema) (seen : List String) (found : Table Node) : Prop where
  keys : ∀ name, name ∈ found.keys ↔ IsDirect schemas name ∨ name ∈ seen ∧ Swept schemas name
  targets : ∀ name node, (name, node) ∈ found.entries →
    ∃ schema, (name, schema) ∈ schemas.entries ∧ node = schemaNode schema

theorem swept_over_start (schemas : Table Schema) :
    SweptOver schemas [] (.ofList (directAliases schemas)) where
  keys name := by simp [directAliases_keys]
  targets name node member := by
    rw [Table.entries_ofList (directAliases_distinct schemas)] at member
    obtain ⟨schema, there, target⟩ := mem_directAliases member
    exact ⟨schema, there, aliasTarget_node target⟩

/-- A schema in place is swept only if it is an alias by itself, and then it is there already. -/
theorem swept_over_inline {seen : List String} {found : Table Node} {k : Api.Keywords Schema}
    (entry : (name, .inline k) ∈ schemas.entries) (holds : SweptOver schemas seen found) :
    SweptOver schemas (seen ++ [name]) (addBareAlias found (name, .inline k)) where
  targets := holds.targets
  keys other := by
    have unchanged : addBareAlias found (name, .inline k) = found := rfl
    rw [unchanged, holds.keys]
    constructor
    · exact Or.imp_right fun ⟨earlier, swept⟩ => ⟨List.mem_append_left _ earlier, swept⟩
    · rintro (own | ⟨member, swept⟩)
      · exact Or.inl own
      · cases swept with
        | direct own => exact Or.inl own
        | bare reference known ready =>
          rcases List.mem_append.mp member with earlier | last
          · exact Or.inr ⟨earlier, .bare reference known ready⟩
          · obtain rfl := List.mem_singleton.mp last
            obtain ⟨pointer, again, _⟩ := reference
            exact absurd (Table.entry_unique again entry) (by simp)

/-- When the sweep comes to a bare reference, its target is there just if the reference is swept. -/
theorem target_found_iff {before after : List String} {found : Table Node}
    (split : schemas.keys = before ++ name :: after) (reference : IsBare schemas name target)
    (holds : SweptOver schemas before found) : target ∈ found.keys ↔ Swept schemas name := by
  rw [holds.keys]
  constructor
  · rintro (own | ⟨earlier, swept⟩)
    · exact .bare reference (.direct own) (Or.inl own)
    · exact .bare reference swept (Or.inr ((Table.precedes_iff split).mpr earlier))
  · intro swept
    cases swept with
    | direct own => exact absurd reference (direct_not_bare own)
    | bare again known ready =>
      obtain rfl := bare_unique again reference
      exact ready.imp_right fun earlier => ⟨(Table.precedes_iff split).mp earlier, known⟩

theorem swept_over_bare {before after : List String} {found : Table Node} {pointer : String}
    (split : schemas.keys = before ++ name :: after)
    (entry : (name, .ref pointer) ∈ schemas.entries) (holds : SweptOver schemas before found) :
    SweptOver schemas (before ++ [name]) (addBareAlias found (name, .ref pointer)) := by
  have ready := target_found_iff split ⟨pointer, entry, rfl⟩ holds
  -- The sweep writes the reference just if it finds the target, which is what `ready` compares.
  by_cases there : pointerName pointer ∈ found.keys
  · have written : addBareAlias found (name, .ref pointer) =
        found.insert name (.ref (pointerName pointer) none) := by
      simp [addBareAlias, Table.contains_iff.mpr there]
    rw [written]
    refine ⟨?_, ?_⟩
    · intro other
      rw [Table.keys_insert, holds.keys, List.mem_append, List.mem_singleton]
      constructor
      · rintro (rfl | own | ⟨earlier, swept⟩)
        · exact Or.inr ⟨Or.inr rfl, ready.mp there⟩
        · exact Or.inl own
        · exact Or.inr ⟨Or.inl earlier, swept⟩
      · rintro (own | ⟨earlier | rfl, swept⟩)
        · exact Or.inr (Or.inl own)
        · exact Or.inr (Or.inr ⟨earlier, swept⟩)
        · exact Or.inl rfl
    · intro other node member
      rcases Table.mem_entries_insert member with same | old
      · obtain ⟨rfl, rfl⟩ := Prod.mk.inj same
        exact ⟨.ref pointer, entry, (node_of_ref pointer).symm⟩
      · exact holds.targets other node old
  · have skipped : addBareAlias found (name, .ref pointer) = found := by
      simp [addBareAlias, Table.not_contains_iff.mpr there]
    rw [skipped]
    refine ⟨?_, holds.targets⟩
    intro other
    rw [holds.keys, List.mem_append, List.mem_singleton]
    constructor
    · exact Or.imp_right fun ⟨earlier, swept⟩ => ⟨Or.inl earlier, swept⟩
    · rintro (own | ⟨earlier | rfl, swept⟩)
      · exact Or.inl own
      · exact Or.inr ⟨earlier, swept⟩
      · exact absurd (ready.mpr swept) there

theorem swept_over_rest {before after : List (String × Schema)} {found : Table Node}
    (split : schemas.entries = before ++ after)
    (holds : SweptOver schemas (before.map Prod.fst) found) :
    SweptOver schemas schemas.keys (after.foldl addBareAlias found) := by
  -- The invariant speaks of the names passed so far, so each step moves one name to `before`.
  induction after generalizing before found with
  | nil =>
    have all : schemas.keys = before.map Prod.fst := by simp [Table.keys, split]
    exact all ▸ holds
  | cons entry rest ih =>
    obtain ⟨name, schema⟩ := entry
    have member : (name, schema) ∈ schemas.entries := by simp [split]
    have keys : schemas.keys = before.map Prod.fst ++ name :: rest.map Prod.fst := by
      simp [Table.keys, split]
    have next : SweptOver schemas (before.map Prod.fst ++ [name])
        (addBareAlias found (name, schema)) := by
      cases schema with
      | ref pointer => exact swept_over_bare keys member holds
      | inline k => exact swept_over_inline member holds
    have split' : schemas.entries = (before ++ [(name, schema)]) ++ rest := by simp [split]
    exact ih split' (by simpa using next)

theorem swept_over_all (schemas : Table Schema) :
    SweptOver schemas schemas.keys (aliasTable schemas) := by
  have split : schemas.entries = [] ++ schemas.entries := rfl
  rw [aliasTable_eq]
  exact swept_over_rest split (swept_over_start schemas)

/-- The sweep marks exactly the names that a chain of references ties to a direct alias without ever
pointing forward to a bare reference. -/
theorem aliasTable_keys : name ∈ (aliasTable schemas).keys ↔ Swept schemas name := by
  rw [(swept_over_all schemas).keys]
  constructor
  · rintro (own | ⟨_, swept⟩)
    · exact .direct own
    · exact swept
  · intro swept
    cases swept with
    | direct own => exact Or.inl own
    | bare reference known ready =>
      exact Or.inr ⟨bare_is_key reference, .bare reference known ready⟩

/-- A schema in place that is no alias by itself is none at all. -/
theorem no_target_no_alias {k : Api.Keywords Schema} (entry : (name, .inline k) ∈ schemas.entries)
    (noTarget : aliasTarget? (.inline k) = none) : name ∉ (aliasTable schemas).keys := by
  intro key
  cases aliasTable_keys.mp key with
  | direct direct =>
    have target := (aliasTarget_direct entry).mpr direct
    rw [noTarget] at target
    contradiction
  | bare reference _ _ =>
    obtain ⟨pointer, bare, -⟩ := reference
    exact nomatch Table.entry_unique entry bare

/-- The target of an alias is the node of its own schema. -/
theorem aliasTable_target {node : Node} (found : (aliasTable schemas).get? name = some node) :
    ∃ schema, (name, schema) ∈ schemas.entries ∧ node = schemaNode schema :=
  (swept_over_all schemas).targets name node (Table.get_eq_some.mp found)

/-- A bare reference to a bare reference to an alias. -/
def Chained (schemas : Table Schema) (name target : String) : Prop :=
  IsBare schemas name target ∧ Alias schemas target ∧ ∃ next, IsBare schemas target next

theorem alias_is_swept (ready : ∀ name target, Chained schemas name target →
    schemas.Precedes target name) (known : Alias schemas name) : Swept schemas name := by
  induction known with
  | direct own => exact .direct own
  | bare reference known ih =>
    refine .bare reference ih ?_
    -- A target that is no bare reference is there from the start, wherever it stands.
    cases known with
    | direct own => exact Or.inl own
    | bare next further =>
      exact Or.inr (ready _ _ ⟨reference, .bare next further, _, next⟩)

theorem swept_target_ready (chained : Chained schemas name target) (swept : Swept schemas name) :
    schemas.Precedes target name := by
  obtain ⟨reference, _, _, next⟩ := chained
  cases swept with
  | direct own => exact absurd reference (direct_not_bare own)
  | bare again _ ready =>
    obtain rfl := bare_unique again reference
    rcases ready with own | earlier
    · exact absurd next (direct_not_bare own)
    · exact earlier

section Reordering

variable {other : Table Schema}

theorem direct_of_perm (same : other.entries.Perm schemas.entries) :
    IsDirect other name ↔ IsDirect schemas name := by
  simp only [IsDirect, same.mem_iff]

theorem bare_of_perm (same : other.entries.Perm schemas.entries) :
    IsBare other name target ↔ IsBare schemas name target := by
  simp only [IsBare, same.mem_iff]

theorem alias_of_perm (same : other.entries.Perm schemas.entries) :
    Alias other name ↔ Alias schemas name := by
  constructor
  · intro known
    induction known with
    | direct own => exact .direct ((direct_of_perm same).mp own)
    | bare reference _ ih => exact .bare ((bare_of_perm same).mp reference) ih
  · intro known
    induction known with
    | direct own => exact .direct ((direct_of_perm same).mpr own)
    | bare reference _ ih => exact .bare ((bare_of_perm same).mpr reference) ih

theorem chained_of_perm (same : other.entries.Perm schemas.entries) :
    Chained other name target ↔ Chained schemas name target := by
  simp only [Chained, bare_of_perm same, alias_of_perm same]

/-- Moving a name that is not swept to the end loses nothing, since nothing was swept through it. -/
theorem swept_of_moved {moved : String} (same : other.entries.Perm schemas.entries)
    (unswept : ¬ Swept schemas moved)
    (order : ∀ first second, first ≠ moved → second ≠ moved →
      schemas.Precedes first second → other.Precedes first second)
    (swept : Swept schemas name) : Swept other name := by
  induction swept with
  | direct own => exact .direct ((direct_of_perm same).mpr own)
  | @bare name target reference known ready ih =>
    refine .bare ((bare_of_perm same).mpr reference) ih ?_
    refine ready.imp (direct_of_perm same).mpr (order target name ?_ ?_)
    · exact fun eq => unswept (eq ▸ known)
    · exact fun eq => unswept (eq ▸ .bare reference known ready)

/-- Every alias is swept in some order of the schemas. -/
theorem alias_swept_in_some_order (known : Alias schemas name) :
    ∃ other : Table Schema, other.entries.Perm schemas.entries ∧ Swept other name := by
  induction known with
  | direct own => exact ⟨schemas, .refl _, .direct own⟩
  | @bare name target reference _ ih =>
    obtain ⟨found, same, swept⟩ := ih
    by_cases done : Swept found name
    · exact ⟨found, same, done⟩
    have reference' := (bare_of_perm same).mpr reference
    obtain ⟨pointer, entry, _⟩ := id reference'
    -- The order that sweeps the target sweeps the reference too, once the reference stands last.
    obtain ⟨other, moved, last, order⟩ := Table.exists_moved_last entry
    have different : target ≠ name := fun eq => done (eq ▸ swept)
    have before : other.Precedes target name := last target (swept_is_key swept) different
    exact ⟨other, moved.trans same, .bare ((bare_of_perm moved).mpr reference')
      (swept_of_moved moved done order swept) (Or.inr before)⟩

/-- Put first, a reference to a bare reference is not swept. -/
theorem chained_unswept_in_some_order (chained : Chained schemas name target) :
    ∃ other : Table Schema, other.entries.Perm schemas.entries ∧ ¬ Swept other name := by
  obtain ⟨pointer, entry, _⟩ := id chained.1
  obtain ⟨other, same, first⟩ := Table.exists_moved_first entry
  have still := (chained_of_perm same).mpr chained
  exact ⟨other, same, fun swept => first target (swept_target_ready still swept)⟩

end Reordering

theorem contains_iff_swept : (aliasTable schemas).contains name = true ↔ Swept schemas name := by
  rw [Table.contains_iff, aliasTable_keys]

/-- The sweep finds the whole closure just if no chain of references points forward, and finds the same
names in every order just if there is no chain at all. -/
theorem sweep_closes_iff_targets_come_first (schemas : Table Schema) :
    (∀ name, (aliasTable schemas).contains name = true ↔ Swept schemas name) ∧
    ((∀ name, (aliasTable schemas).contains name = true ↔ Alias schemas name) ↔
      ∀ name target, Chained schemas name target → schemas.Precedes target name) ∧
    ((∀ other : Table Schema, other.entries.Perm schemas.entries →
        ∀ name, (aliasTable other).contains name = (aliasTable schemas).contains name) ↔
      ∀ name target, ¬ Chained schemas name target) := by
  refine ⟨fun name => contains_iff_swept, ⟨?_, ?_⟩, ⟨?_, ?_⟩⟩
  · intro closed name target chained
    have known : Alias schemas name := .bare chained.1 chained.2.1
    exact swept_target_ready chained (contains_iff_swept.mp ((closed name).mpr known))
  · intro ready name
    rw [contains_iff_swept]
    exact ⟨swept_is_alias, alias_is_swept ready⟩
  · intro agree name target chained
    have known : Alias schemas name := .bare chained.1 chained.2.1
    obtain ⟨found, sameFound, swept⟩ := alias_swept_in_some_order known
    obtain ⟨missed, sameMissed, unswept⟩ := chained_unswept_in_some_order chained
    have here := (agree found sameFound name).symm.trans (contains_iff_swept.mpr swept)
    exact unswept (contains_iff_swept.mp ((agree missed sameMissed name).trans here))
  · intro unchained other same name
    have still : ∀ name target, ¬ Chained other name target :=
      fun name target chained => unchained name target ((chained_of_perm same).mp chained)
    rw [Bool.eq_iff_iff, contains_iff_swept, contains_iff_swept]
    constructor
    · intro swept
      have known := (alias_of_perm same).mp (swept_is_alias swept)
      exact alias_is_swept (fun name target chained => absurd chained (unchained name target)) known
    · intro swept
      have known := (alias_of_perm same).mpr (swept_is_alias swept)
      exact alias_is_swept (fun name target chained => absurd chained (still name target)) known

/-- A reference to a reference to a text, each above its target. -/
def forwardChain : Table Schema where
  entries := [("Nick", .ref "#/components/schemas/Short"), ("Short", .ref "#/components/schemas/Name"),
    ("Name", .inline { type := some (.single .string) })]
  distinct := by decide

def backwardChain : Table Schema where
  entries := [("Name", .inline { type := some (.single .string) }),
    ("Short", .ref "#/components/schemas/Name"), ("Nick", .ref "#/components/schemas/Short")]
  distinct := by decide

theorem forward_chain_missed :
    Alias forwardChain "Nick" ∧ (aliasTable forwardChain).contains "Nick" = false ∧
      backwardChain.entries.Perm forwardChain.entries ∧
      (aliasTable backwardChain).contains "Nick" = true := by
  have name : IsDirect forwardChain "Name" :=
    ⟨{ type := some (.single .string) }, by simp [forwardChain], rfl, rfl⟩
  have short : IsBare forwardChain "Short" "Name" :=
    ⟨"#/components/schemas/Name", by simp [forwardChain], by decide⟩
  have nick : IsBare forwardChain "Nick" "Short" :=
    ⟨"#/components/schemas/Short", by simp [forwardChain], by decide⟩
  refine ⟨.bare nick (.bare short (.direct name)), by decide, ?_, by decide⟩
  exact (List.reverse_perm forwardChain.entries)

end ServerScaffold.Interface
