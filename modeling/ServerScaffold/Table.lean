/-!
Tables: values under distinct names, in the order in which the names first appear. Writing under a
name that is there replaces the value and keeps the place.
-/
namespace ServerScaffold

/-- Replaces the value under a name, or adds it at the end. -/
def putEntry {κ α : Type} [DecidableEq κ] (name : κ) (value : α) : List (κ × α) → List (κ × α)
  | [] => [(name, value)]
  | entry :: rest =>
    if entry.1 = name then (name, value) :: rest else entry :: putEntry name value rest

theorem names_putEntry {κ α : Type} [DecidableEq κ] (name : κ) (value : α)
    (entries : List (κ × α)) :
    (putEntry name value entries).map Prod.fst =
      if name ∈ entries.map Prod.fst then entries.map Prod.fst
      else entries.map Prod.fst ++ [name] := by
  induction entries with
  | nil => simp [putEntry]
  | cons entry rest ih =>
    by_cases same : entry.1 = name
    · simp [putEntry, same]
    · have different : name ≠ entry.1 := fun h => same h.symm
      simp only [putEntry, same, ↓reduceIte, List.map_cons, ih, List.mem_cons, different, false_or]
      split <;> simp

theorem distinct_putEntry {κ α : Type} [DecidableEq κ] (name : κ) (value : α)
    {entries : List (κ × α)} (distinct : (entries.map Prod.fst).Nodup) :
    ((putEntry name value entries).map Prod.fst).Nodup := by
  rw [names_putEntry]
  split
  · exact distinct
  · next absent =>
    rw [List.nodup_append]
    refine ⟨distinct, by simp, ?_⟩
    intro a ha b hb same
    rw [List.mem_singleton] at hb
    exact absent (hb ▸ same ▸ ha)

structure Table (α : Type) where
  entries : List (String × α)
  distinct : (entries.map Prod.fst).Nodup

namespace Table

variable {α β : Type}

instance [Repr α] : Repr (Table α) := ⟨fun table => reprPrec table.entries⟩

def empty : Table α := ⟨[], List.nodup_nil⟩

instance : EmptyCollection (Table α) := ⟨empty⟩

instance : Inhabited (Table α) := ⟨empty⟩

def keys (table : Table α) : List String := table.entries.map Prod.fst

def values (table : Table α) : List α := table.entries.map Prod.snd

def get? (table : Table α) (name : String) : Option α := table.entries.lookup name

def contains (table : Table α) (name : String) : Bool := table.keys.contains name

def insert (table : Table α) (name : String) (value : α) : Table α :=
  ⟨putEntry name value table.entries, distinct_putEntry name value table.distinct⟩

/-- Writes the entries one after the other. -/
def insertAll (table : Table α) (entries : List (String × α)) : Table α :=
  entries.foldl (fun table entry => table.insert entry.1 entry.2) table

def ofList (entries : List (String × α)) : Table α := insertAll ∅ entries

end Table

end ServerScaffold
