import ServerScaffold.Proofs.Spelling

/-!
The runs of letters and numerals in a text, and what sanitizing makes of them. A text is read in one way only: as runs
that are as long as they can be, with gaps around them. Sanitizing a name keeps its runs, with an underscore between any
two, and nothing of its gaps; so no spelling of a name shows more than its runs.
-/
namespace ServerScaffold

namespace Text

variable {mark : Char} {text gap run : List Char} {parts : List (List Char)}

/-- The runs of a text in order. Before each is a gap, which may be empty, and behind it nothing that it could go on
with. -/
inductive HasRuns : List Char → List (List Char) → Prop where
  | gap {gap : List Char} (outside : ∀ c ∈ gap, isAlphanumeric c = false) : HasRuns gap []
  | run {gap run rest : List Char} {later : List (List Char)} (outside : ∀ c ∈ gap, isAlphanumeric c = false)
      (some : run ≠ []) (letters : ∀ c ∈ run, isAlphanumeric c = true)
      (ends : ∀ c ∈ rest.head?, isAlphanumeric c = false) (behind : HasRuns rest later) :
      HasRuns (gap ++ (run ++ rest)) (run :: later)

section Runs

/-- Runs end where there is neither letter nor numeral. All else about them follows from this. -/
theorem runs_append_break (outside : isAlphanumeric mark = false) (before after : List Char) :
    runs (before ++ mark :: after) = runs before ++ runs after := by
  have breaks : (!isAlphanumeric mark) = true := by simp [outside]
  unfold runs
  rw [List.splitOnP_append_cons (p := fun c => !isAlphanumeric c) before after breaks,
    List.filter_append]

theorem runs_cons_break (outside : isAlphanumeric mark = false) (text : List Char) :
    runs (mark :: text) = runs text :=
  runs_append_break outside [] text

theorem runs_of_letters (some : run ≠ []) (letters : ∀ c ∈ run, isAlphanumeric c = true) :
    runs run = [run] := by
  have unbroken : ∀ c ∈ run, (!isAlphanumeric c) = false := fun c member => by simp [letters c member]
  unfold runs
  rw [List.splitOnP_eq_singleton unbroken]
  simpa using some

theorem runs_behind_gap (outside : ∀ c ∈ gap, isAlphanumeric c = false) (text : List Char) :
    runs (gap ++ text) = runs text := by
  induction gap with
  | nil => rfl
  | cons c gap ih =>
    obtain ⟨here, later⟩ := List.forall_mem_cons.mp outside
    rw [List.cons_append, runs_cons_break here, ih later]

theorem runs_of_reading (reading : HasRuns text parts) : runs text = parts := by
  induction reading with
  | @gap gap outside => simpa [runs] using runs_behind_gap outside []
  | @run gap run rest later outside some letters ends _ ih =>
    rw [runs_behind_gap outside, ← ih]
    cases rest with
    | nil => rw [List.append_nil, runs_of_letters some letters]; rfl
    | cons c rest =>
      have mark : isAlphanumeric c = false := ends c rfl
      rw [runs_append_break mark, runs_cons_break mark, runs_of_letters some letters]
      rfl

theorem reading_begins {rest : List Char} (some : run ≠ []) (letters : ∀ c ∈ run, isAlphanumeric c = true)
    (ends : ∀ c ∈ rest.head?, isAlphanumeric c = false) (behind : HasRuns rest parts) :
    HasRuns (run ++ rest) (run :: parts) :=
  .run (List.forall_mem_nil _) some letters ends behind

theorem reading_break (outside : isAlphanumeric mark = false) (reading : HasRuns text parts) :
    HasRuns (mark :: text) parts := by
  cases reading with
  | gap others => exact .gap (List.forall_mem_cons.mpr ⟨outside, others⟩)
  | @run gap run rest later others some letters ends behind =>
    have longer : ∀ c ∈ mark :: gap, isAlphanumeric c = false := List.forall_mem_cons.mpr ⟨outside, others⟩
    exact .run longer some letters ends behind

/-- A letter is a run by itself, unless a run comes next that it can go on with. -/
theorem reading_letter {c : Char} (letter : isAlphanumeric c = true) (reading : HasRuns text parts) :
    ∃ parts, HasRuns (c :: text) parts := by
  have single : ∀ d ∈ [c], isAlphanumeric d = true := List.forall_mem_singleton.mpr letter
  have alone (ends : ∀ d ∈ text.head?, isAlphanumeric d = false) : HasRuns ([c] ++ text) ([c] :: parts) :=
    reading_begins (List.cons_ne_nil c []) single ends reading
  cases reading with
  | gap outside => exact ⟨_, alone fun d first => outside d (List.mem_of_mem_head? first)⟩
  | @run gap run rest later outside some letters ends behind =>
    cases gap with
    | nil =>
      have longer : ∀ d ∈ c :: run, isAlphanumeric d = true := List.forall_mem_cons.mpr ⟨letter, letters⟩
      exact ⟨_, reading_begins (List.cons_ne_nil c run) longer ends behind⟩
    | cons d gap =>
      have next : isAlphanumeric d = false := outside d List.mem_cons_self
      exact ⟨_, alone fun e first => Option.some.inj first ▸ next⟩

theorem exists_reading (text : List Char) : ∃ parts, HasRuns text parts := by
  -- from the end of the text, so that the runs behind a character have been read before it
  induction text with
  | nil => exact ⟨[], .gap (List.forall_mem_nil _)⟩
  | cons c text ih =>
    obtain ⟨parts, reading⟩ := ih
    cases letter : isAlphanumeric c with
    | true => exact reading_letter letter reading
    | false => exact ⟨parts, reading_break letter reading⟩

theorem hasRuns_iff : HasRuns text parts ↔ runs text = parts := by
  constructor
  · exact runs_of_reading
  · rintro rfl
    obtain ⟨parts, reading⟩ := exists_reading text
    rwa [runs_of_reading reading]

end Runs

section Sanitized

theorem intercalate_cons (sep first : List Char) (rest : List (List Char)) :
    sep.intercalate (first :: rest) = first ++ rest.flatMap (sep ++ ·) := by
  induction rest generalizing first with
  | nil => simp
  | cons next rest ih => rw [List.intercalate_cons_cons, ih, List.flatMap_cons, List.append_assoc, List.append_assoc]

theorem joinRuns_gap (started pending : Bool) (outside : ∀ c ∈ gap, isAlphanumeric c = false) (rest : List Char) :
    joinRuns started pending (gap ++ rest) = joinRuns started (pending || !gap.isEmpty) rest := by
  induction gap generalizing pending with
  | nil => simp
  | cons c gap ih =>
    obtain ⟨here, later⟩ := List.forall_mem_cons.mp outside
    simp [joinRuns, here, ih true later]

theorem joinRuns_letters (letters : ∀ c ∈ run, isAlphanumeric c = true) (rest : List Char) :
    joinRuns true false (run ++ rest) = run ++ joinRuns true false rest := by
  induction run with
  | nil => rfl
  | cons c run ih =>
    obtain ⟨here, later⟩ := List.forall_mem_cons.mp letters
    simp [joinRuns, here, ih later]

/-- Only the first letter of a run looks at what has been read before. -/
theorem joinRuns_run (started pending : Bool) (some : run ≠ []) (letters : ∀ c ∈ run, isAlphanumeric c = true)
    (rest : List Char) :
    joinRuns started pending (run ++ rest) =
      (if started && pending then ['_'] else []) ++ (run ++ joinRuns true false rest) := by
  obtain ⟨c, run, rfl⟩ := List.exists_cons_of_ne_nil some
  obtain ⟨here, later⟩ := List.forall_mem_cons.mp letters
  rw [List.cons_append, joinRuns, if_pos here, joinRuns_letters later]
  split <;> simp

/-- Before the first run nothing is written, and behind a run, where a gap comes if anything does, each of the others
comes with an underscore. -/
theorem joinRuns_reading (reading : HasRuns text parts) :
    joinRuns false false text = ['_'].intercalate parts ∧
    ((∀ c ∈ text.head?, isAlphanumeric c = false) → joinRuns true false text = parts.flatMap (['_'] ++ ·)) := by
  induction reading with
  | @gap gap outside =>
    have nothing (started : Bool) : joinRuns started false gap = [] := by
      simpa [joinRuns] using joinRuns_gap started false outside []
    exact ⟨nothing false, fun _ => nothing true⟩
  | @run gap run rest later outside some letters ends _ ih =>
    have written (started : Bool) : joinRuns started false (gap ++ (run ++ rest)) =
        (if started && !gap.isEmpty then ['_'] else []) ++ (run ++ later.flatMap (['_'] ++ ·)) := by
      rw [joinRuns_gap started false outside, joinRuns_run started _ some letters, ih.2 ends, Bool.false_or]
    refine ⟨?_, fun begins => ?_⟩
    · rw [written, intercalate_cons]
      rfl
    · have apart : gap ≠ [] := by
        rintro rfl
        obtain ⟨c, run, rfl⟩ := List.exists_cons_of_ne_nil some
        have letter : isAlphanumeric c = true := letters c List.mem_cons_self
        exact absurd ((begins c rfl).symm.trans letter) Bool.false_ne_true
      rw [written, if_pos (by simpa using apart), List.flatMap_cons, List.append_assoc]

theorem sanitize_reading (reading : HasRuns text parts) :
    sanitize text = if parts = [] then "unnamed".toList else ['_'].intercalate parts := by
  rw [sanitize, (joinRuns_reading reading).1]
  cases reading with
  | gap _ => rfl
  | @run _ run _ later _ some _ _ _ =>
    obtain ⟨c, run, rfl⟩ := List.exists_cons_of_ne_nil some
    rw [intercalate_cons, if_neg (List.cons_ne_nil _ _)]
    rfl

theorem reading_joined (reading : HasRuns text parts) : HasRuns (['_'].intercalate parts) parts := by
  induction reading with
  | gap _ => exact .gap (List.forall_mem_nil _)
  | @run _ run _ later _ some letters _ _ ih =>
    rw [intercalate_cons]
    cases later with
    | nil => exact reading_begins some letters nofun (.gap (List.forall_mem_nil _))
    | cons next later =>
      have behind : HasRuns ('_' :: ['_'].intercalate (next :: later)) (next :: later) := reading_break rfl ih
      rw [intercalate_cons] at behind
      exact reading_begins some letters (fun c first => Option.some.inj first ▸ rfl) behind

theorem sanitize_sanitize (text : List Char) : sanitize (sanitize text) = sanitize text := by
  obtain ⟨parts, reading⟩ := exists_reading text
  have once := sanitize_reading reading
  rw [once]
  split
  · rfl
  · next listed => rw [sanitize_reading (reading_joined reading), if_neg listed]

end Sanitized

end Text

namespace Interface

open Text (HasRuns)

/-- The characters of every name have one reading as runs. A sanitized name is these runs with single underscores between
them, or `unnamed` if there are none, and it stays as it is when it is sanitized again; and whatever gaps other names
have, those of the same runs are spelled alike. -/
theorem spelled_by_runs (name : String) :
    ∃ parts, (∀ others, HasRuns name.toList others ↔ others = parts) ∧
      plainName name = (if parts = [] then "unnamed".toList else ['_'].intercalate parts) ∧
      plainName (String.ofList (plainName name)) = plainName name ∧
      ∀ other : String, HasRuns other.toList parts → Name.of other = { Name.of name with original := other } := by
  obtain ⟨parts, reading⟩ := Text.exists_reading name.toList
  have plain := Text.sanitize_reading reading
  refine ⟨parts, fun others => ?_, plain, ?_, fun other readToo => ?_⟩
  · rw [Text.hasRuns_iff, Text.runs_of_reading reading, eq_comm]
  · rw [plainName, String.toList_ofList]
    exact Text.sanitize_sanitize name.toList
  · have same : plainName other = plainName name := (Text.sanitize_reading readToo).trans plain.symm
    simp only [Name.of, pascalName, camelName, snakeName, screamingName, same]

example : plainName "?pet--store2?" = "pet_store2".toList := by rfl

end Interface

end ServerScaffold
