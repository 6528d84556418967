import ServerScaffold.Proofs.Tables
import ServerScaffold.Source.Fit
import ServerScaffold.Source.Reader

/-!
What holds of everything that is read. A reader may stop, and otherwise gives a value: what holds of the values
that its parts give holds of what it gives. Of a record it is enough that each field keeps it.
-/
namespace ServerScaffold

namespace Source

/-! Values that are fitted. -/

namespace Fit

variable {α β σ : Type} {P : α → Prop} {Q : β → Prop} {R : σ → Prop} {fit second : Fit α}
  {fields : List (Fit.Field σ)} {start : σ}

/-- What holds of everything that is fitted, whatever it is fitted from. -/
def Gives (P : α → Prop) (fit : Fit α) : Prop := ∀ value found, fit value = some found → P found

/-- What still holds of a record when the field is put into it. -/
def Field.Keeps (R : σ → Prop) (field : Field σ) : Prop :=
  field.fit.Gives fun put => ∀ record, R record → R (put record)

theorem gives_any (fit : Fit α) : Gives (fun _ => True) fit := fun _ _ _ => trivial

theorem gives_map {f : α → β} (gives : Gives P fit) (each : ∀ a, P a → Q (f a)) :
    Gives Q fun value => (fit value).map f := by
  intro value found fits
  obtain ⟨a, inside, rfl⟩ := Option.map_eq_some_iff.mp fits
  exact each a (gives value a inside)

theorem gives_orElse (first : Gives P fit) (other : Gives P second) : Gives P (orElse fit second) := by
  intro value found fits
  cases here : fit value with
  | some a =>
    obtain rfl : a = found := by simpa [orElse, here] using fits
    exact first value a here
  | none => exact other value found (by simpa [orElse, here] using fits)

theorem gives_optional (gives : Gives P fit) : Gives (fun found => ∀ a ∈ found, P a) (optional fit) := by
  intro value found fits
  unfold optional at fits
  split at fits
  · obtain rfl := Option.some.inj fits
    exact fun _ absent => nomatch absent
  · obtain ⟨a, inside, rfl⟩ := Option.map_eq_some_iff.mp fits
    rintro _ ⟨⟩
    exact gives _ a inside

theorem of_mapM {γ : Type} {step : γ → Option α} (each : ∀ c a, step c = some a → P a) {given : List γ}
    {found : List α} (fits : given.mapM step = some found) : ∀ a ∈ found, P a := by
  induction given generalizing found with
  | nil =>
    obtain rfl : [] = found := Option.some.inj fits
    exact List.forall_mem_nil _
  | cons c rest ih =>
    simp only [List.mapM_cons, bind, Option.bind_eq_some_iff] at fits
    obtain ⟨a, here, later, there, done⟩ := fits
    obtain rfl := Option.some.inj done
    exact List.forall_mem_cons.mpr ⟨each c a here, ih there⟩

theorem gives_list (gives : Gives P fit) : Gives (fun found => ∀ a ∈ found, P a) (list fit) := by
  intro value found fits
  unfold list at fits
  split at fits
  · exact of_mapM gives fits
  · contradiction

theorem gives_table (gives : Gives P fit) :
    Gives (fun found => ∀ entry ∈ found.entries, P entry.2) (table fit) := by
  refine gives_map (P := fun found => ∀ entry ∈ found, P entry.2) ?_ fun found each entry listed =>
    each entry (Table.mem_ofList listed)
  intro value found fits
  unfold entries at fits
  split at fits
  · refine of_mapM (P := fun entry => P entry.2) (fun pair entry fits => ?_) fits
    simp only [bind, Option.bind_eq_some_iff] at fits
    obtain ⟨key, -, a, fits, done⟩ := fits
    obtain rfl := Option.some.inj done
    exact gives _ a fits
  · contradiction

theorem keeps_field {name : String} {put : α → σ → σ} (gives : Gives P fit)
    (keeps : ∀ a, P a → ∀ record, R record → R (put a record)) : (field name fit put).Keeps R :=
  gives_map gives keeps

theorem keeps_needed {name : String} {put : α → σ → σ} (gives : Gives P fit)
    (keeps : ∀ a, P a → ∀ record, R record → R (put a record)) : (needed name fit put).Keeps R :=
  gives_map gives keeps

theorem fieldEntries_keeps (keeps : ∀ field ∈ fields, field.Keeps R) (given : List (Value × Value))
    (seen : List String) {record : σ} (before : R record) {found : List String × σ}
    (fits : fieldEntries fields given seen record = some found) : R found.2 := by
  induction given generalizing seen record with
  | nil =>
    obtain rfl := Option.some.inj fits
    exact before
  | cons entry rest ih =>
    obtain ⟨key, value⟩ := entry
    simp only [fieldEntries, bind, Option.bind_eq_some_iff] at fits
    obtain ⟨name?, -, fits⟩ := fits
    cases name? with
    | none => exact ih seen before fits
    | some name =>
      simp only [Option.bind_eq_some_iff] at fits
      obtain ⟨field, listed, fits⟩ := fits
      split at fits
      · contradiction
      · obtain ⟨put, fitted, fits⟩ := Option.bind_eq_some_iff.mp fits
        exact ih _ (keeps field (List.mem_of_find?_eq_some listed) value put fitted record before) fits

theorem fieldItems_keeps (keeps : ∀ field ∈ fields, field.Keeps R) (given : List Value) {record found : σ}
    (before : R record) (fits : fieldItems fields given record = some found) : R found := by
  induction fields generalizing given record with
  | nil =>
    cases given with
    | nil =>
      obtain rfl := Option.some.inj fits
      exact before
    | cons _ _ => contradiction
  | cons field fields ih =>
    cases given with
    | nil =>
      simp only [fieldItems] at fits
      split at fits
      · contradiction
      · obtain rfl := Option.some.inj fits
        exact before
    | cons item rest =>
      obtain ⟨first, later⟩ := List.forall_mem_cons.mp keeps
      simp only [fieldItems, bind, Option.bind_eq_some_iff] at fits
      obtain ⟨put, fitted, fits⟩ := fits
      exact ih later rest (first item put fitted record before) fits

/-- What holds of a record without its fields and is kept by each of them holds of every record. -/
theorem gives_record (before : R start) (keeps : ∀ field ∈ fields, field.Keeps R) :
    Gives R (record fields start) := by
  refine gives_orElse (fun value found fits => ?_) fun value found fits => ?_
  · unfold mapRecord at fits
    split at fits
    · obtain ⟨⟨seen, record⟩, fitted, fits⟩ := Option.bind_eq_some_iff.mp fits
      simp only [Option.ite_none_right_eq_some, Option.some.injEq] at fits
      obtain ⟨-, rfl⟩ := fits
      exact fieldEntries_keeps keeps _ _ before fitted
    · contradiction
  · unfold listRecord at fits
    split at fits
    · exact fieldItems_keeps keeps _ before fits
    · contradiction

end Fit

/-! Values that are read from a text, where reading may stop. -/

namespace Reading

variable {α β : Type} {P : α → Prop} {Q : β → Prop}

/-- What holds of everything that is read. -/
def Gives (P : α → Prop) (reading : Reading α) : Prop :=
  ∀ before found after, reading.run before = .ok (found, after) → P found

theorem gives_any (reading : Reading α) : Gives (fun _ => True) reading := fun _ _ _ _ => trivial

theorem gives_pure {a : α} (holds : P a) : Gives P (pure a) := by
  rintro before found after done
  obtain ⟨rfl, -⟩ := Prod.mk.inj (Except.ok.inj done)
  exact holds

theorem gives_throw (fault : Fault) : Gives P (throw fault) := fun _ _ _ done => nomatch done

theorem gives_bind {reading : Reading α} {next : α → Reading β} (first : Gives P reading)
    (rest : ∀ a, P a → Gives Q (next a)) : Gives Q (reading >>= next) := by
  intro before found after done
  rw [StateT.run_bind] at done
  cases here : reading.run before with
  | error fault =>
    rw [here] at done
    contradiction
  | ok result =>
    obtain ⟨a, between⟩ := result
    rw [here] at done
    exact rest a (first before a between here) between found after done

theorem gives_then {reading : Reading α} {next : α → Reading β} (rest : ∀ a, Gives Q (next a)) :
    Gives Q (reading >>= next) :=
  gives_bind (gives_any reading) fun a _ => rest a

theorem gives_mapM {γ : Type} {step : γ → Reading α} (each : ∀ c, Gives P (step c)) (given : List γ) :
    Gives (fun found => ∀ a ∈ found, P a) (given.mapM step) := by
  induction given with
  | nil => exact gives_pure (List.forall_mem_nil _)
  | cons c rest ih =>
    rw [List.mapM_cons]
    exact gives_bind (each c) fun a here => gives_bind ih fun later there =>
      gives_pure (List.forall_mem_cons.mpr ⟨here, there⟩)

end Reading

namespace Reader

open Reading (gives_pure gives_throw gives_bind gives_then gives_mapM)

variable {α σ : Type} {P : α → Prop} {R : σ → Prop} {read : Reader α} {fields : List (Reader.Field σ)}
  {start : σ}

/-- What holds of everything that is read, whatever it is read from. -/
def Gives (P : α → Prop) (read : Reader α) : Prop :=
  ∀ from_ depth tree, Reading.Gives P (read from_ depth tree)

/-- What still holds of a record when the field is put into it. -/
def Field.Keeps (R : σ → Prop) (field : Field σ) : Prop :=
  Gives (fun put => ∀ record, R record → R (put record)) field.read

theorem gives_any (read : Reader α) : Gives (fun _ => True) read := fun _ _ _ => Reading.gives_any _

theorem gives_optional (gives : Gives P read) : Gives (fun found => ∀ a ∈ found, P a) (optional read) := by
  intro from_ depth tree
  have some_given (tree : Tree) : Reading.Gives (fun found => ∀ a ∈ found, P a)
      (return some (← read from_ depth tree)) :=
    gives_bind (gives from_ depth tree) fun a holds => gives_pure fun _ same => by
      obtain rfl := Option.some.inj same
      exact holds
  refine gives_then fun tree => ?_
  split
  · exact gives_pure fun _ absent => nomatch absent
  · exact gives_pure fun _ absent => nomatch absent
  · split
    · exact gives_pure fun _ absent => nomatch absent
    · exact some_given _
    · exact gives_throw _
  · exact some_given _

theorem gives_list (gives : Gives P read) : Gives (fun found => ∀ a ∈ found, P a) (list read) := by
  intro from_ depth tree
  refine gives_then fun tree => ?_
  split
  · exact gives_pure (List.forall_mem_nil _)
  · split
    · exact gives_pure (List.forall_mem_nil _)
    · exact gives_throw _
  · exact gives_then fun depth => gives_bind (gives_mapM (gives from_ depth) _) fun found each =>
      gives_then fun _ => gives_pure each
  · exact gives_throw _

theorem gives_entries (gives : Gives P read) :
    Gives (fun found => ∀ entry ∈ found, P entry.2) (entries read) := by
  intro from_ depth tree
  refine gives_then fun tree => ?_
  split
  · exact gives_pure (List.forall_mem_nil _)
  · split
    · exact gives_pure (List.forall_mem_nil _)
    · exact gives_throw _
  · refine gives_then fun depth => ?_
    refine gives_bind (gives_mapM (P := fun entry => P entry.2) (fun entry => ?_) _) fun found each =>
      gives_then fun _ => gives_pure each
    exact gives_then fun key => gives_bind (gives from_ depth entry.2) fun a holds => gives_pure holds
  · exact gives_throw _

theorem gives_alternative {kind : String} {fit : Fit α} (gives : Fit.Gives P fit) :
    Gives P (alternative kind fit) := by
  intro from_ depth tree
  refine gives_then fun value => ?_
  split
  · next found fits => exact gives_pure (gives value found fits)
  · exact gives_throw _

theorem keeps_field {name : String} {put : α → σ → σ} (gives : Gives P read)
    (keeps : ∀ a, P a → ∀ record, R record → R (put a record)) : (field name read put).Keeps R :=
  fun from_ depth tree => gives_bind (gives from_ depth tree) fun a holds => gives_pure (keeps a holds)

theorem keeps_counted {name : String} {put : α → σ → σ} (gives : Gives P read)
    (keeps : ∀ a, P a → ∀ record, R record → R (put a record)) : (counted name read put).Keeps R := by
  have kept : (field name read put).Keeps R := keeps_field gives keeps
  exact kept

theorem keeps_needed {name : String} {put : α → σ → σ} (gives : Gives P read)
    (keeps : ∀ a, P a → ∀ record, R record → R (put a record)) : (needed name read put).Keeps R := by
  have kept : (field name read put).Keeps R := keeps_field gives keeps
  exact kept

theorem fieldEntries_keeps (keeps : ∀ field ∈ fields, field.Keeps R) (from_ : Origin) (depth : Nat)
    (given : List (Tree × Tree)) (seen : List String) {record : σ} (before : R record) :
    Reading.Gives (fun found => R found.2) (fieldEntries fields from_ depth given seen record) := by
  induction given generalizing seen record with
  | nil => exact gives_pure before
  | cons entry rest ih =>
    obtain ⟨k, value⟩ := entry
    refine gives_then fun name => ?_
    split
    · exact gives_then fun _ => ih seen before
    · next found listed =>
      have kept := keeps found (List.mem_of_find?_eq_some listed) from_ depth value
      split
      · exact gives_throw _
      · exact gives_bind kept fun put puts => ih _ (puts record before)

theorem fieldItems_keeps (keeps : ∀ field ∈ fields, field.Keeps R) (expected : String) (from_ : Origin)
    (depth : Nat) (stop : Option Fault) (length : Nat) (given : List Tree) {record : σ} (before : R record) :
    Reading.Gives R (fieldItems expected from_ depth stop length fields given record) := by
  induction fields generalizing given length record with
  | nil => exact gives_then fun _ => gives_pure before
  | cons field fields ih =>
    cases given with
    | nil =>
      refine gives_then fun _ => ?_
      split
      · exact gives_throw _
      · exact gives_pure before
    | cons item rest =>
      obtain ⟨first, later⟩ := List.forall_mem_cons.mp keeps
      exact gives_bind (first from_ depth item) fun put puts => ih later _ rest (puts record before)

/-- What holds of a record without its fields and is kept by each of them holds of every record. -/
theorem gives_record {label : String} (before : R start) (keeps : ∀ field ∈ fields, field.Keeps R) :
    Gives R (record label fields start) := by
  intro from_ depth tree
  unfold record
  extract_lets readMap
  have ofMap (found : List (Tree × Tree)) (stop : Option Fault) (depth : Nat) :
      Reading.Gives R (readMap found stop depth) := by
    refine gives_bind (fieldEntries_keeps keeps from_ depth found [] before) fun entries kept => ?_
    refine gives_then fun _ => ?_
    split
    · exact gives_throw _
    · exact gives_pure kept
  refine gives_then fun tree => ?_
  split
  · exact ofMap _ _ _
  · split
    · exact ofMap _ _ _
    · exact gives_throw _
  · exact gives_then fun depth => ofMap _ _ _
  · split
    · exact gives_then fun depth => fieldItems_keeps keeps _ from_ depth _ _ _ before
    · exact gives_throw _
  · exact gives_throw _

end Reader
end Source

end ServerScaffold
