import ServerScaffold.Api.Schema

/-!
What searches in a text find. A start is stripped just off the texts that begin with it, and a cut at the
last mark leaves no mark behind it; so the name that a pointer ends with holds no slash.
-/
namespace ServerScaffold

namespace Text

variable {mark : Char} {start text rest before after : List Char}

theorem stripStart_cons (s c : Char) (start text : List Char) :
    stripStart? (s :: start) (c :: text) = if s = c then stripStart? start text else none := rfl

theorem stripStart_append (start rest : List Char) : stripStart? start (start ++ rest) = some rest := by
  induction start with
  | nil => rfl
  | cons s start ih => rw [List.cons_append, stripStart_cons, if_pos rfl, ih]

theorem stripStart_eq_some : stripStart? start text = some rest ↔ text = start ++ rest := by
  constructor
  · intro found
    induction start generalizing text with
    | nil => exact Option.some.inj found
    | cons s start ih =>
      cases text with
      | nil => contradiction
      | cons c text =>
        rw [stripStart_cons] at found
        by_cases same : s = c
        · rw [if_pos same] at found
          rw [ih found, List.cons_append, same]
        · rw [if_neg same] at found
          contradiction
  · rintro rfl
    exact stripStart_append start rest

theorem replaceFirst_start (pattern replacement rest : List Char) :
    replaceFirst pattern replacement (pattern ++ rest) = replacement ++ rest := by
  cases text : pattern ++ rest with
  | nil =>
    obtain ⟨rfl, rfl⟩ := List.append_eq_nil_iff.mp text
    simp [replaceFirst]
  | cons c later =>
    have found : stripStart? pattern (c :: later) = some rest := text ▸ stripStart_append pattern rest
    simp [replaceFirst, found]

theorem cutAtLast_absent (absent : mark ∉ text) : cutAtLast? mark text = none := by
  induction text with
  | nil => rfl
  | cons c text ih =>
    rw [List.mem_cons, not_or] at absent
    have different : c ≠ mark := fun same => absent.1 same.symm
    simp [cutAtLast?, ih absent.2, different]

theorem cutAtLast_append (before : List Char) (absent : mark ∉ after) :
    cutAtLast? mark (before ++ mark :: after) = some (before, mark :: after) := by
  induction before with
  | nil => simp [cutAtLast?, cutAtLast_absent absent]
  | cons c before ih => simp [cutAtLast?, ih]

theorem exists_last (member : mark ∈ text) :
    ∃ before after, text = before ++ mark :: after ∧ mark ∉ after := by
  obtain ⟨after, before, split, absent⟩ := List.eq_append_cons_of_mem (List.mem_reverse.mpr member)
  refine ⟨before.reverse, after.reverse, ?_, by simpa using absent⟩
  rw [← List.reverse_reverse text, split]
  simp

theorem afterLast_append (before : List Char) (absent : mark ∉ after) :
    afterLast mark (before ++ mark :: after) = after := by
  simp [afterLast, cutAtLast_append before absent]

theorem not_mem_afterLast (mark : Char) (text : List Char) : mark ∉ afterLast mark text := by
  by_cases member : mark ∈ text
  · obtain ⟨before, after, rfl, absent⟩ := exists_last member
    rw [afterLast_append before absent]
    exact absent
  · rw [afterLast, cutAtLast_absent member]
    exact member

/-- A run of some characters ends where the first other one stands, so it can be told from what follows it. -/
theorem run_unique {inside : Char → Bool} {run other rest further : List Char}
    (ofRun : ∀ c ∈ run, inside c = true) (ofOther : ∀ c ∈ other, inside c = true)
    (ends : ∀ c ∈ rest.head?, inside c = false) (endsToo : ∀ c ∈ further.head?, inside c = false)
    (same : run ++ rest = other ++ further) : run = other ∧ rest = further := by
  have taken (run rest : List Char) (ofRun : ∀ c ∈ run, inside c = true)
      (ends : ∀ c ∈ rest.head?, inside c = false) : (run ++ rest).takeWhile inside = run := by
    rw [List.takeWhile_append_of_pos ofRun]
    cases rest with
    | nil => simp
    | cons c rest => simp [ends c rfl]
  have runs : run = other := by
    rw [← taken run rest ofRun ends, same, taken other further ofOther endsToo]
  subst runs
  exact ⟨rfl, List.append_cancel_left same⟩

/-- A text is cut at the first of some marks in one way only. -/
theorem cut_unique {other further : List Char} (ofBefore : mark ∉ before) (ofOther : mark ∉ other)
    (same : before ++ mark :: after = other ++ mark :: further) : before = other ∧ after = further := by
  have unmarked {text : List Char} (absent : mark ∉ text) : ∀ c ∈ text, (c != mark) = true := by
    intro c member
    have different : c ≠ mark := fun same => absent (same ▸ member)
    simpa using different
  have cut := run_unique (unmarked ofBefore) (unmarked ofOther) (by simp) (by simp) same
  exact ⟨cut.1, (List.cons.inj cut.2).2⟩

end Text

namespace Api

theorem pointerName_no_slash (pointer : String) : '/' ∉ (pointerName pointer).toList := by
  rw [pointerName, String.toList_ofList]
  exact Text.not_mem_afterLast '/' pointer.toList

/-- Behind a start that ends in a slash, a name without one is the last segment. -/
theorem pointerName_append {start name : String} (folder : List Char)
    (slash : start.toList = folder ++ ['/']) (absent : '/' ∉ name.toList) :
    pointerName (start ++ name) = name := by
  have whole : (start ++ name).toList = folder ++ '/' :: name.toList := by
    rw [String.toList_append, slash, List.append_assoc, List.singleton_append]
  rw [pointerName, whole, Text.afterLast_append folder absent, String.ofList_toList]

end Api

end ServerScaffold
