import Mathlib.Data.List.Nodup
import ServerScaffold.Table

/-!
What tables hold. Names are distinct, so a look-up is membership of the entry, and writing under a
name that is not there puts the entry at the end.
-/
namespace ServerScaffold

theorem putEntry_new {κ α : Type} [DecidableEq κ] {name : κ} (value : α)
    {entries : List (κ × α)} (absent : name ∉ entries.map Prod.fst) :
    putEntry name value entries = entries ++ [(name, value)] := by
  induction entries with
  | nil => rfl
  | cons entry rest ih =>
    rw [List.map_cons, List.mem_cons, not_or] at absent
    have different : entry.1 ≠ name := fun same => absent.1 same.symm
    simp [putEntry, different, ih absent.2]

theorem putEntry_there {κ α : Type} [DecidableEq κ] {name : κ} (old value : α)
    {before : List (κ × α)} (absent : name ∉ before.map Prod.fst) (after : List (κ × α)) :
    putEntry name value (before ++ (name, old) :: after) = before ++ (name, value) :: after := by
  induction before with
  | nil => simp [putEntry]
  | cons entry rest ih =>
    rw [List.map_cons, List.mem_cons, not_or] at absent
    have different : entry.1 ≠ name := fun same => absent.1 same.symm
    simp [putEntry, different, ih absent.2]

theorem mem_putEntry {κ α : Type} [DecidableEq κ] {name : κ} {value : α} {entry : κ × α}
    {entries : List (κ × α)} (written : entry ∈ putEntry name value entries) :
    entry = (name, value) ∨ entry ∈ entries := by
  induction entries with
  | nil => simpa [putEntry] using written
  | cons first rest ih =>
    unfold putEntry at written
    split at written
    · rcases List.mem_cons.mp written with same | later
      · exact Or.inl same
      · exact Or.inr (List.mem_cons_of_mem first later)
    · rcases List.mem_cons.mp written with same | later
      · exact Or.inr (same ▸ List.mem_cons_self)
      · exact (ih later).imp_right (List.mem_cons_of_mem first)

theorem put_mem_putEntry {κ α : Type} [DecidableEq κ] (name : κ) (value : α) (entries : List (κ × α)) :
    (name, value) ∈ putEntry name value entries := by
  induction entries with
  | nil => simp [putEntry]
  | cons entry rest ih =>
    unfold putEntry
    split
    · exact List.mem_cons_self
    · exact List.mem_cons_of_mem entry ih

theorem lookup_eq_some_iff_mem {α : Type} {name : String} {value : α}
    {entries : List (String × α)} (distinct : (entries.map Prod.fst).Nodup) :
    entries.lookup name = some value ↔ (name, value) ∈ entries := by
  induction entries with
  | nil => simp
  | cons entry rest ih =>
    obtain ⟨other, held⟩ := entry
    rw [List.map_cons, List.nodup_cons] at distinct
    by_cases same : name = other
    · subst other
      simp only [List.lookup_cons_self, Option.some.injEq, List.mem_cons, Prod.mk.injEq, true_and]
      constructor
      · exact fun eq => Or.inl eq.symm
      · rintro (eq | later)
        · exact eq.symm
        · exact absurd (List.mem_map_of_mem later) distinct.1
    · have differs : (name == other) = false := by simpa using same
      simp [List.lookup_cons, differs, same, ih distinct.2]

section

variable {κ α : Type} [DecidableEq κ] {name own : κ}

/-- The entries under all names but one. -/
def entriesWithout (name : κ) (entries : List (κ × α)) : List (κ × α) :=
  entries.filter fun entry => entry.1 ≠ name

theorem entriesWithout_same (same : own = name) (value : α) (rest : List (κ × α)) :
    entriesWithout name ((own, value) :: rest) = entriesWithout name rest := by
  simp [entriesWithout, same]

theorem entriesWithout_other (different : own ≠ name) (value : α) (rest : List (κ × α)) :
    entriesWithout name ((own, value) :: rest) = (own, value) :: entriesWithout name rest := by
  simp [entriesWithout, different]

theorem entriesWithout_put (name : κ) (value : α) (entries : List (κ × α)) :
    entriesWithout name (putEntry name value entries) = entriesWithout name entries := by
  induction entries with
  | nil => exact entriesWithout_same rfl value []
  | cons entry rest ih =>
    obtain ⟨own, held⟩ := entry
    by_cases same : own = name
    · simp only [putEntry, same, ↓reduceIte]
      rw [entriesWithout_same rfl, entriesWithout_same rfl]
    · simp only [putEntry, same, ↓reduceIte]
      rw [entriesWithout_other same, entriesWithout_other same, ih]

theorem entriesWithout_put_other (different : own ≠ name) (value : α) (entries : List (κ × α)) :
    entriesWithout name (putEntry own value entries) =
      putEntry own value (entriesWithout name entries) := by
  induction entries with
  | nil => exact entriesWithout_other different value []
  | cons entry rest ih =>
    obtain ⟨other, held⟩ := entry
    by_cases removed : other = name
    · have kept : other ≠ own := fun same => different (same.symm.trans removed)
      simp only [putEntry, kept, ↓reduceIte]
      rw [entriesWithout_same removed, entriesWithout_same removed, ih]
    · by_cases same : other = own
      · simp only [putEntry, same, ↓reduceIte]
        rw [entriesWithout_other different, entriesWithout_other different]
        simp [putEntry]
      · rw [entriesWithout_other removed]
        simp only [putEntry, same, ↓reduceIte]
        rw [entriesWithout_other removed, ih]

end

namespace Table

variable {α : Type} {table : Table α} {name : String} {value : α}

theorem contains_iff : table.contains name = true ↔ name ∈ table.keys := by
  simp [contains]

theorem not_contains_iff : table.contains name = false ↔ name ∉ table.keys := by
  simp [contains]

theorem key_of_entry (entry : (name, value) ∈ table.entries) : name ∈ table.keys :=
  List.mem_map_of_mem entry

theorem key_has_entry (key : name ∈ table.keys) : ∃ value, (name, value) ∈ table.entries := by
  obtain ⟨⟨other, value⟩, entry, same⟩ := List.mem_map.mp key
  exact ⟨value, same ▸ entry⟩

theorem entry_unique {other : α} (entry : (name, value) ∈ table.entries)
    (again : (name, other) ∈ table.entries) : value = other := by
  have same := List.inj_on_of_nodup_map table.distinct entry again rfl
  exact (Prod.ext_iff.mp same).2

theorem get_eq_some : table.get? name = some value ↔ (name, value) ∈ table.entries :=
  lookup_eq_some_iff_mem table.distinct

theorem get_eq_none : table.get? name = none ↔ name ∉ table.keys := by
  constructor
  · intro missing key
    obtain ⟨value, entry⟩ := key_has_entry key
    rw [get_eq_some.mpr entry] at missing
    contradiction
  · intro absent
    cases found : table.get? name with
    | none => rfl
    | some value => exact absurd (key_of_entry (get_eq_some.mp found)) absent

theorem keys_insert {other : String} :
    other ∈ (table.insert name value).keys ↔ other = name ∨ other ∈ table.keys := by
  unfold insert keys
  rw [names_putEntry]
  split
  · next key =>
    constructor
    · exact Or.inr
    · rintro (same | key')
      · exact same ▸ key
      · exact key'
  · simp [or_comm]

theorem contains_insert_there (value : α) (there : name ∈ table.keys) (other : String) :
    (table.insert name value).contains other = table.contains other := by
  rw [Bool.eq_iff_iff, contains_iff, contains_iff, keys_insert]
  exact or_iff_right_of_imp fun same => same ▸ there

theorem keys_insertAll {other : String} (entries : List (String × α)) :
    other ∈ (table.insertAll entries).keys ↔ other ∈ entries.map Prod.fst ∨ other ∈ table.keys := by
  induction entries generalizing table with
  | nil => simp [insertAll]
  | cons entry rest ih =>
    have step : table.insertAll (entry :: rest) = (table.insert entry.1 entry.2).insertAll rest := rfl
    rw [step, ih, keys_insert, List.map_cons, List.mem_cons]
    exact or_left_comm.trans or_assoc.symm

theorem mem_entries_insert {entry : String × α} (written : entry ∈ (table.insert name value).entries) :
    entry = (name, value) ∨ entry ∈ table.entries :=
  mem_putEntry written

theorem entries_insert_new (value : α) (absent : name ∉ table.keys) :
    (table.insert name value).entries = table.entries ++ [(name, value)] :=
  putEntry_new value absent

/-- Around an entry there is no other one under its name. -/
theorem absent_around {before after : List (String × α)}
    (split : table.entries = before ++ (name, value) :: after) :
    name ∉ before.map Prod.fst ∧ name ∉ after.map Prod.fst := by
  have distinct := table.distinct
  rw [split, List.map_append, List.map_cons, List.nodup_append] at distinct
  obtain ⟨-, ofRest, apart⟩ := distinct
  constructor
  · intro listed
    exact apart name listed name List.mem_cons_self rfl
  · exact (List.nodup_cons.mp ofRest).1

/-- Writing under a name that is there keeps its place. -/
theorem entries_insert_there {old : α} {before after : List (String × α)} (value : α)
    (split : table.entries = before ++ (name, old) :: after) :
    (table.insert name value).entries = before ++ (name, value) :: after := by
  have written : (table.insert name value).entries = putEntry name value table.entries := rfl
  rw [written, split]
  exact putEntry_there old value (absent_around split).1 after

theorem entries_insertAll_new (entries : List (String × α))
    (distinct : (table.keys ++ entries.map Prod.fst).Nodup) :
    (table.insertAll entries).entries = table.entries ++ entries := by
  induction entries generalizing table with
  | nil => simp [insertAll]
  | cons entry rest ih =>
    have absent : entry.1 ∉ table.keys := by
      intro key
      exact (List.nodup_append.mp distinct).2.2 _ key _ (by simp) rfl
    have written := entries_insert_new entry.2 absent
    have later : ((table.insert entry.1 entry.2).keys ++ rest.map Prod.fst).Nodup := by
      simpa [keys, written] using distinct
    calc (table.insertAll (entry :: rest)).entries
        = ((table.insert entry.1 entry.2).insertAll rest).entries := rfl
      _ = table.entries ++ entry :: rest := by rw [ih later, written]; simp

/-- A table written from entries under distinct names holds exactly these, in their order. -/
theorem entries_ofList {entries : List (String × α)} (distinct : (entries.map Prod.fst).Nodup) :
    (ofList entries).entries = entries := by
  have none : (∅ : Table α).keys = [] := rfl
  unfold ofList
  rw [entries_insertAll_new entries (by simpa [none] using distinct)]
  rfl

theorem mem_insertAll {given : List (String × α)} {entry : String × α}
    (listed : entry ∈ (table.insertAll given).entries) : entry ∈ given ∨ entry ∈ table.entries := by
  induction given generalizing table with
  | nil => exact Or.inr listed
  | cons first rest ih =>
    rcases ih listed with later | written
    · exact Or.inl (List.mem_cons_of_mem _ later)
    · rcases mem_entries_insert written with rfl | old
      · exact Or.inl List.mem_cons_self
      · exact Or.inr old

theorem mem_ofList {given : List (String × α)} {entry : String × α}
    (listed : entry ∈ (ofList given).entries) : entry ∈ given :=
  (mem_insertAll listed).resolve_right List.not_mem_nil

theorem eq_of_entries {other : Table α} (same : table.entries = other.entries) : table = other := by
  cases table
  cases other
  cases same
  rfl

/-- The table without what stands under a name; the other entries keep their order. -/
def without (table : Table α) (name : String) : Table α where
  entries := entriesWithout name table.entries
  distinct := table.distinct.sublist (List.filter_sublist.map Prod.fst)

section Without

variable {key : String}

theorem entries_without : (table.without name).entries = entriesWithout name table.entries := rfl

theorem mem_entries_without :
    (key, value) ∈ (table.without name).entries ↔ (key, value) ∈ table.entries ∧ key ≠ name := by
  simp [without, entriesWithout]

theorem mem_keys_without : key ∈ (table.without name).keys ↔ key ∈ table.keys ∧ key ≠ name := by
  constructor
  · intro there
    obtain ⟨value, entry⟩ := key_has_entry there
    obtain ⟨entry, different⟩ := mem_entries_without.mp entry
    exact ⟨key_of_entry entry, different⟩
  · rintro ⟨there, different⟩
    obtain ⟨value, entry⟩ := key_has_entry there
    exact key_of_entry (mem_entries_without.mpr ⟨entry, different⟩)

theorem contains_without (different : key ≠ name) :
    (table.without name).contains key = table.contains key := by
  rw [Bool.eq_iff_iff, contains_iff, contains_iff, mem_keys_without]
  exact and_iff_left different

theorem get_without (different : key ≠ name) : (table.without name).get? key = table.get? key := by
  cases found : table.get? key with
  | none =>
    rw [get_eq_none] at found ⊢
    exact fun there => found (mem_keys_without.mp there).1
  | some value =>
    rw [get_eq_some] at found ⊢
    exact mem_entries_without.mpr ⟨found, different⟩

theorem insert_without (table : Table α) (name : String) (value : α) :
    (table.insert name value).without name = table.without name :=
  eq_of_entries (entriesWithout_put name value table.entries)

theorem get_insert_same (table : Table α) (name : String) (value : α) :
    (table.insert name value).get? name = some value :=
  get_eq_some.mpr (put_mem_putEntry name value table.entries)

theorem get_insert_other (different : key ≠ name) (value : α) :
    (table.insert name value).get? key = table.get? key := by
  rw [← get_without different, insert_without, get_without different]

/-- After an insertion there are the new entry and those under other names. -/
theorem mem_insert_iff {other : α} :
    (key, other) ∈ (table.insert name value).entries ↔
      key = name ∧ other = value ∨ key ≠ name ∧ (key, other) ∈ table.entries := by
  by_cases same : key = name
  · have written : (key, value) ∈ (table.insert name value).entries :=
      same ▸ put_mem_putEntry name value table.entries
    constructor
    · intro there
      exact Or.inl ⟨same, entry_unique there written⟩
    · rintro (⟨-, rfl⟩ | ⟨different, -⟩)
      · exact written
      · exact absurd same different
  · have kept : (key, other) ∈ (table.insert name value).entries ↔
        (key, other) ∈ ((table.insert name value).without name).entries := by
      simp [mem_entries_without, same]
    rw [kept, insert_without, mem_entries_without]
    simp [same]

/-- After writing some entries there are these and those under other names. -/
theorem mem_insertAll_iff {other : α} {entries : List (String × α)}
    (distinct : (entries.map Prod.fst).Nodup) :
    (key, other) ∈ (table.insertAll entries).entries ↔
      (key, other) ∈ entries ∨ key ∉ entries.map Prod.fst ∧ (key, other) ∈ table.entries := by
  induction entries generalizing table with
  | nil => simp [insertAll]
  | cons entry rest ih =>
    obtain ⟨absent, distinct⟩ := List.nodup_cons.mp distinct
    have step : table.insertAll (entry :: rest) = (table.insert entry.1 entry.2).insertAll rest := rfl
    rw [step, ih distinct, mem_insert_iff]
    by_cases same : key = entry.1
    · simp [same, absent, Prod.ext_iff, or_comm]
    · simp [same, Prod.ext_iff]

theorem value_given_or_there {given : Table α} (listed : value ∈ (table.insertAll given.entries).values) :
    value ∈ given.values ∨ value ∈ table.values := by
  obtain ⟨⟨key, value⟩, entry, rfl⟩ := List.mem_map.mp listed
  rcases (mem_insertAll_iff given.distinct).mp entry with new | ⟨-, old⟩
  · exact Or.inl (List.mem_map_of_mem new)
  · exact Or.inr (List.mem_map_of_mem old)

theorem given_value_there {given : Table α} (listed : value ∈ given.values) :
    value ∈ (table.insertAll given.entries).values := by
  obtain ⟨⟨key, value⟩, entry, rfl⟩ := List.mem_map.mp listed
  exact List.mem_map_of_mem ((mem_insertAll_iff given.distinct).mpr (Or.inl entry))

/-- What is written last is found first. -/
theorem get_insertAll (table given : Table α) (name : String) :
    (table.insertAll given.entries).get? name = (given.get? name).or (table.get? name) := by
  cases new : given.get? name with
  | some value =>
    have entry := get_eq_some.mp new
    exact get_eq_some.mpr ((mem_insertAll_iff given.distinct).mpr (Or.inl entry))
  | none =>
    have absent := get_eq_none.mp new
    cases old : table.get? name with
    | some value =>
      have entry := get_eq_some.mp old
      exact get_eq_some.mpr ((mem_insertAll_iff given.distinct).mpr (Or.inr ⟨absent, entry⟩))
    | none =>
      rw [Option.or_none, get_eq_none, keys_insertAll]
      rintro (there | there)
      · exact absent there
      · exact get_eq_none.mp old there

theorem insert_other_without (table : Table α) (different : key ≠ name) (value : α) :
    (table.insert key value).without name = (table.without name).insert key value :=
  eq_of_entries (entriesWithout_put_other different value table.entries)

end Without

def reordered (table : Table α) (entries : List (String × α)) (same : entries.Perm table.entries) :
    Table α :=
  ⟨entries, (same.map Prod.fst).nodup_iff.mpr table.distinct⟩

/-- One name stands before another. -/
def Precedes (table : Table α) (first second : String) : Prop := [first, second].Sublist table.keys

theorem precedes_iff {first : String} {before after : List String}
    (split : table.keys = before ++ name :: after) :
    table.Precedes first name ↔ first ∈ before := by
  have distinct : (before ++ name :: after).Nodup := split ▸ table.distinct
  have absent : name ∉ after := (List.nodup_cons.mp (List.nodup_append.mp distinct).2.1).1
  unfold Precedes
  rw [split]
  constructor
  · intro pair
    obtain ⟨left, right, parts, inBefore, inAfter⟩ := List.sublist_append_iff.mp pair
    match left, parts, inBefore with
    | [], parts, _ =>
      subst parts
      have later : [name].Sublist after := inAfter.tail
      exact absurd (later.subset (List.mem_singleton_self name)) absent
    | found :: _, parts, inBefore =>
      obtain ⟨rfl, _⟩ := List.cons.inj parts
      exact inBefore.subset List.mem_cons_self
  · intro member
    exact (List.singleton_sublist.mpr member).append
      (List.singleton_sublist.mpr List.mem_cons_self)

/-- An entry can be moved to the end; the order of the other names stays. -/
theorem exists_moved_last (entry : (name, value) ∈ table.entries) :
    ∃ other : Table α, other.entries.Perm table.entries ∧
      (∀ first ∈ table.keys, first ≠ name → other.Precedes first name) ∧
      ∀ first second, first ≠ name → second ≠ name →
        table.Precedes first second → other.Precedes first second := by
  obtain ⟨before, after, split⟩ := List.append_of_mem entry
  have same : (before ++ after ++ [(name, value)]).Perm table.entries := by
    rw [split, List.append_assoc]
    exact (List.perm_append_singleton _ _).append_left before
  have keys : table.keys = before.map Prod.fst ++ name :: after.map Prod.fst := by
    simp [Table.keys, split]
  have moved : (table.reordered _ same).keys = (before ++ after).map Prod.fst ++ name :: [] := by
    simp [Table.keys, reordered]
  refine ⟨table.reordered _ same, same, ?_, ?_⟩
  · intro first key different
    rw [precedes_iff moved]
    simpa [keys, different] using key
  · intro first second hf hs pair
    have kept := List.Sublist.filter (· ≠ name) pair
    rw [keys] at kept
    have within : ((before.map Prod.fst ++ name :: after.map Prod.fst).filter (· ≠ name)).Sublist
        ((before ++ after).map Prod.fst) := by
      simp only [List.filter_append, List.map_append]
      exact List.filter_sublist.append (by simp)
    unfold Precedes
    rw [moved]
    simpa [hf, hs] using (kept.trans within).trans (List.sublist_append_left _ [name])

theorem exists_moved_first (entry : (name, value) ∈ table.entries) :
    ∃ other : Table α, other.entries.Perm table.entries ∧
      ∀ first, ¬ other.Precedes first name := by
  obtain ⟨before, after, split⟩ := List.append_of_mem entry
  have same : ((name, value) :: (before ++ after)).Perm table.entries := by
    rw [split]
    exact List.perm_middle.symm
  refine ⟨table.reordered _ same, same, ?_⟩
  intro first pair
  have moved : (table.reordered _ same).keys = [] ++ name :: (before ++ after).map Prod.fst := by
    simp [Table.keys, reordered]
  exact List.not_mem_nil ((precedes_iff moved).mp pair)

end Table

end ServerScaffold
