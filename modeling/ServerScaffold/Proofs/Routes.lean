import ServerScaffold.Cpp.Route
import ServerScaffold.Proofs.Searches

/-!
What becomes of a path. A path can be read in one way only: as placeholders, each a name in braces with the text
before it, and a rest where no brace that opens is closed. Its route has the name behind a colon for every
placeholder, and all else as it stands, be it a brace without a partner.
-/
namespace ServerScaffold.Cpp

/-- A name in braces, and the text before it, which opens no brace. -/
structure Placeholder where
  before : List Char
  name : List Char
  unopened : '\x7b' ∉ before
  unclosed : '\x7d' ∉ name

namespace Placeholder

def text (placeholder : Placeholder) : List Char :=
  placeholder.before ++ '\x7b' :: (placeholder.name ++ ['\x7d'])

def routed (placeholder : Placeholder) : List Char := placeholder.before ++ ':' :: placeholder.name

end Placeholder

/-- No brace that opens is followed, sooner or later, by one that closes. -/
def Unpaired (text : List Char) : Prop := ¬ ['\x7b', '\x7d'].Sublist text

/-- A path as its placeholders in order, and what stands behind the last of them. -/
structure PathTemplate where
  placeholders : List Placeholder
  rest : List Char
  unpaired : Unpaired rest

namespace PathTemplate

def text (template : PathTemplate) : List Char :=
  template.placeholders.flatMap Placeholder.text ++ template.rest

def routed (template : PathTemplate) : List Char :=
  template.placeholders.flatMap Placeholder.routed ++ template.rest

end PathTemplate

variable {before name text rest further : List Char}

section Unpaired

theorem unpaired_behind (unopened : '\x7b' ∉ before) : Unpaired (before ++ text) ↔ Unpaired text := by
  induction before with
  | nil => exact Iff.rfl
  | cons c before ih =>
    rw [List.mem_cons, not_or] at unopened
    rw [← ih unopened.2, List.cons_append, Unpaired, Unpaired, List.sublist_cons_iff]
    simp [unopened.1]

theorem unpaired_opened : Unpaired ('\x7b' :: text) ↔ '\x7d' ∉ text := by
  rw [Unpaired, List.cons_sublist_cons, List.singleton_sublist]

theorem unpaired_of_unopened (unopened : '\x7b' ∉ text) : Unpaired text := by
  rw [← List.append_nil text, unpaired_behind unopened]
  exact fun paired => List.cons_ne_nil _ _ (List.sublist_nil.mp paired)

theorem placeholder_paired (placeholder : Placeholder) (rest : List Char) :
    ¬ Unpaired (placeholder.text ++ rest) := by
  simp only [Placeholder.text, List.append_assoc, List.cons_append]
  rw [unpaired_behind placeholder.unopened, unpaired_opened]
  simp

end Unpaired

section Reading

variable {c : Char}

theorem routeFrom_opens (rest : List Char) : routeFrom none ('\x7b' :: rest) = routeFrom (some []) rest := rfl

theorem routeFrom_copies (other : c ≠ '\x7b') (rest : List Char) :
    routeFrom none (c :: rest) = c :: routeFrom none rest := if_neg other

theorem routeFrom_closes (taken rest : List Char) :
    routeFrom (some taken) ('\x7d' :: rest) = ':' :: (taken.reverse ++ routeFrom none rest) := rfl

theorem routeFrom_takes (other : c ≠ '\x7d') (taken rest : List Char) :
    routeFrom (some taken) (c :: rest) = routeFrom (some (c :: taken)) rest := if_neg other

theorem routeFrom_copied (unopened : '\x7b' ∉ before) (rest : List Char) :
    routeFrom none (before ++ rest) = before ++ routeFrom none rest := by
  induction before with
  | nil => rfl
  | cons c before ih =>
    rw [List.mem_cons, not_or] at unopened
    have copied : c ≠ '\x7b' := fun same => unopened.1 same.symm
    rw [List.cons_append, routeFrom_copies copied, ih unopened.2, List.cons_append]

theorem routeFrom_closed (taken : List Char) (unclosed : '\x7d' ∉ name) (rest : List Char) :
    routeFrom (some taken) (name ++ '\x7d' :: rest) = ':' :: (taken.reverse ++ name ++ routeFrom none rest) := by
  induction name generalizing taken with
  | nil => rw [List.nil_append, routeFrom_closes, List.append_nil]
  | cons c name ih =>
    rw [List.mem_cons, not_or] at unclosed
    have inside : c ≠ '\x7d' := fun same => unclosed.1 same.symm
    rw [List.cons_append, routeFrom_takes inside, ih (c :: taken) unclosed.2, List.reverse_cons,
      List.append_assoc taken.reverse, List.singleton_append]

theorem routeFrom_unclosed (taken : List Char) (unclosed : '\x7d' ∉ text) :
    routeFrom (some taken) text = '\x7b' :: (taken.reverse ++ text) := by
  induction text generalizing taken with
  | nil => exact congrArg ('\x7b' :: ·) (List.append_nil _).symm
  | cons c text ih =>
    rw [List.mem_cons, not_or] at unclosed
    have inside : c ≠ '\x7d' := fun same => unclosed.1 same.symm
    rw [routeFrom_takes inside, ih (c :: taken) unclosed.2, List.reverse_cons, List.append_assoc,
      List.singleton_append]

theorem routeFrom_unpaired (unpaired : Unpaired text) : routeFrom none text = text := by
  by_cases opened : '\x7b' ∈ text
  · obtain ⟨before, after, rfl, unopened⟩ := List.eq_append_cons_of_mem opened
    rw [unpaired_behind unopened, unpaired_opened] at unpaired
    rw [routeFrom_copied unopened, routeFrom_opens, routeFrom_unclosed [] unpaired]
    rfl
  · have copied : routeFrom none (text ++ []) = text ++ [] := routeFrom_copied opened []
    rwa [List.append_nil] at copied

theorem routeFrom_placeholder (placeholder : Placeholder) (rest : List Char) :
    routeFrom none (placeholder.text ++ rest) = placeholder.routed ++ routeFrom none rest := by
  simp only [Placeholder.text, Placeholder.routed, List.append_assoc, List.cons_append, List.nil_append]
  rw [routeFrom_copied placeholder.unopened, routeFrom_opens, routeFrom_closed [] placeholder.unclosed]
  rfl

theorem routeFrom_template (template : PathTemplate) : routeFrom none template.text = template.routed := by
  obtain ⟨placeholders, rest, unpaired⟩ := template
  simp only [PathTemplate.text, PathTemplate.routed]
  induction placeholders with
  | nil => exact routeFrom_unpaired unpaired
  | cons placeholder placeholders ih =>
    rw [List.flatMap_cons, List.append_assoc, routeFrom_placeholder, ih, List.flatMap_cons, List.append_assoc]

theorem exists_template (path : List Char) : ∃ template : PathTemplate, template.text = path := by
  by_cases opened : '\x7b' ∈ path
  · obtain ⟨before, more, rfl, unopened⟩ := List.eq_append_cons_of_mem opened
    by_cases closed : '\x7d' ∈ more
    · obtain ⟨name, rest, rfl, unclosed⟩ := List.eq_append_cons_of_mem closed
      obtain ⟨template, rfl⟩ := exists_template rest
      exact ⟨⟨⟨before, name, unopened, unclosed⟩ :: template.placeholders, template.rest, template.unpaired⟩,
        by simp [PathTemplate.text, Placeholder.text]⟩
    · have unpaired : Unpaired (before ++ '\x7b' :: more) := by
        rw [unpaired_behind unopened, unpaired_opened]
        exact closed
      exact ⟨⟨[], _, unpaired⟩, rfl⟩
  · exact ⟨⟨[], path, unpaired_of_unopened opened⟩, rfl⟩
termination_by path.length

theorem placeholder_unique {first second : Placeholder}
    (same : first.text ++ rest = second.text ++ further) : first = second ∧ rest = further := by
  simp only [Placeholder.text, List.append_assoc, List.cons_append, List.nil_append] at same
  obtain ⟨befores, opened⟩ := Text.cut_unique first.unopened second.unopened same
  obtain ⟨names, rests⟩ := Text.cut_unique first.unclosed second.unclosed opened
  cases first
  cases second
  simp_all

/-- A path is read in one way only, since a brace that opens is closed by the next one that closes. -/
theorem template_unique {first second : PathTemplate} (same : first.text = second.text) : first = second := by
  obtain ⟨placeholders, rest, unpaired⟩ := first
  obtain ⟨others, further, unpairedToo⟩ := second
  simp only [PathTemplate.text] at same
  suffices parts : placeholders = others ∧ rest = further by
    obtain ⟨rfl, rfl⟩ := parts
    rfl
  induction placeholders generalizing others with
  | nil =>
    cases others with
    | nil => exact ⟨rfl, same⟩
    | cons other others =>
      rw [List.flatMap_nil, List.nil_append, List.flatMap_cons, List.append_assoc] at same
      exact absurd (same ▸ unpaired) (placeholder_paired other _)
  | cons placeholder placeholders ih =>
    cases others with
    | nil =>
      rw [List.flatMap_nil, List.nil_append, List.flatMap_cons, List.append_assoc] at same
      exact absurd (same ▸ unpairedToo) (placeholder_paired placeholder _)
    | cons other others =>
      rw [List.flatMap_cons, List.append_assoc, List.flatMap_cons, List.append_assoc] at same
      obtain ⟨rfl, later⟩ := placeholder_unique same
      obtain ⟨rfl, rfl⟩ := ih others later
      exact ⟨rfl, rfl⟩

end Reading

/-- Every path has one reading as placeholders and a rest, and its route is that reading with colons for braces. -/
theorem route_of_template (path : String) : ∃ template : PathTemplate, template.text = path.toList ∧
    (∀ other : PathTemplate, other.text = path.toList → other = template) ∧
    (route path).toList = template.routed := by
  obtain ⟨template, read⟩ := exists_template path.toList
  refine ⟨template, read, ?_, ?_⟩
  · intro other readToo
    exact template_unique (readToo.trans read.symm)
  · rw [route, String.toList_ofList, ← read, routeFrom_template]

example : route "/pets/\x7bpetId\x7d/\x7da\x7b\x7bb\x7d\x7b" = "/pets/:petId/\x7da:\x7bb\x7b" := by rfl

end ServerScaffold.Cpp
