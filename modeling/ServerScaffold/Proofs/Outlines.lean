import Mathlib.Data.List.Basic
import ServerScaffold.Proofs.Runs

/-!
What is left of a name in its spellings. Punctuation only separates words, so a name is spelled by its words;
and of an ASCII name the camel case keeps the outline: its letters and numerals in order, without their case,
and which of the letters begin a word.
-/
namespace ServerScaffold

namespace Text

section Words

variable {text word : List Char}

theorem splitOnP_flatten (breaks : Char → Bool) (text : List Char) :
    (text.splitOnP breaks).flatten = text.filter fun c => !breaks c := by
  induction text with
  | nil => rfl
  | cons c rest ih =>
    obtain ⟨head, tail, parts⟩ := List.exists_cons_of_ne_nil (List.splitOnP_ne_nil breaks rest)
    rw [List.splitOnP_cons_eq_if_modifyHead, List.filter_cons, ← ih, parts]
    cases breaks c <;> simp

/-- No letter and no numeral of a text is lost in its words. -/
theorem words_flatten (text : List Char) : (words text).flatten = text.filter isAlphanumeric := by
  have ofRun : ∀ run ∈ runs text, (splitRun .none [] run).flatten = run := by
    intro run listed
    have some : run ≠ [] := by simpa using (List.mem_filter.mp listed).2
    simpa using splitRun_flatten .none [] some
  calc (words text).flatten
      = (runs text).flatMap fun run => (splitRun .none [] run).flatten := by
        simp [words, List.flatMap_def, List.flatten_flatten, Function.comp_def]
    _ = (runs text).flatten := by
        rw [List.flatMap_congr ofRun, List.flatMap_id']
    _ = text.filter isAlphanumeric := by
        rw [runs, List.flatten_filter_not_isEmpty, splitOnP_flatten]
        simp

theorem splitRun_words_some (case : Case) (word run : List Char) (begun : case = .upper → word ≠ []) :
    ∀ found ∈ splitRun case word run, found ≠ [] := by
  fun_induction splitRun case word run with
  | case1 => simp
  | case2 => simp
  | case3 case word c next rest lower ih =>
    exact List.forall_mem_cons.mpr ⟨by simp, ih (by simp)⟩
  | case4 case word c next rest _ acronym ih =>
    exact List.forall_mem_cons.mpr ⟨by simpa using begun acronym.1, ih (by simp)⟩
  | case5 case word c next rest _ _ ih => exact ih (by simp)

theorem word_some (listed : word ∈ words text) : word ≠ [] := by
  obtain ⟨run, -, inRun⟩ := List.mem_flatMap.mp listed
  exact splitRun_words_some .none [] run (by simp) word inRun

end Words

section Sanitized

/-- A text without letters and numerals stands for `unnamed`. -/
def lettered (text : List Char) : List Char :=
  if text.any isAlphanumeric then text else "unnamed".toList

theorem lettered_any (text : List Char) : ∃ c ∈ lettered text, isAlphanumeric c = true := by
  unfold lettered
  split
  · next some => exact List.any_eq_true.mp some
  · exact ⟨'u', by decide, by decide⟩

theorem words_sanitize (text : List Char) : words (sanitize text) = words (lettered text) := by
  obtain ⟨parts, reading⟩ := exists_reading text
  have same : runs (sanitize text) = runs (lettered text) := by
    rw [sanitize_reading reading]
    cases reading with
    | gap outside =>
      have none : ¬ text.any isAlphanumeric = true := by simpa using outside
      rw [if_pos rfl, lettered, if_neg none]
    | @run gap run rest later outside some letters ends behind =>
      obtain ⟨c, run, rfl⟩ := List.exists_cons_of_ne_nil some
      have letter : (gap ++ (c :: run ++ rest)).any isAlphanumeric = true := by simp [letters c List.mem_cons_self]
      have whole := HasRuns.run outside some letters ends behind
      rw [if_neg (List.cons_ne_nil _ _), lettered, if_pos letter, runs_of_reading whole,
        runs_of_reading (reading_joined whole)]
  rw [words, same, words]

end Sanitized

section Outline

/-- The characters of a word, of which the first begins it. -/
def marks : List Char → List (Char × Bool)
  | [] => []
  | c :: rest => (c, true) :: rest.map (·, false)

/-- A numeral looks the same wherever it stands, so only letters are marked. -/
def folded (mark : Char × Bool) : Char × Bool := (mark.1.toLower, mark.2 && mark.1.isAlpha)

/-- The letters and numerals of a text, in lower case, with a mark on the letters that begin a word. -/
def outline (text : List Char) : List (Char × Bool) := ((words text).flatMap marks).map folded

def glyph (mark : Char × Bool) : Char := if mark.2 then mark.1.toUpper else mark.1.toLower

def ofGlyph (c : Char) : Char × Bool := (c.toLower, c.isUpper)

def ofFolded (mark : Char × Bool) : Char := if mark.2 then mark.1.toUpper else mark.1

def isAsciiLetter (c : Char) : Bool := isAscii c && c.isAlphanum

instance {P : Char → Prop} [DecidablePred P] : Decidable (∀ c, isAsciiLetter c = true → P c) :=
  decidable_of_iff (∀ c, isAscii c = true → c.isAlphanum = true → P c) (by simp [isAsciiLetter])

theorem letter_glyphs : ∀ c, isAsciiLetter c = true → ∀ begins,
    ofGlyph (glyph (c, begins)) = folded (c, begins) ∧
    ofFolded (folded (c, begins)) = glyph (c, begins) := by
  decide

theorem glyph_folded {mark : Char × Bool} (letter : isAsciiLetter mark.1 = true) :
    ofGlyph (glyph mark) = folded mark ∧ ofFolded (folded mark) = glyph mark :=
  letter_glyphs mark.1 letter mark.2

theorem letter_cases : ∀ {c}, isAsciiLetter c = true →
    c.toLower.isAlpha = c.isAlpha ∧ c.toLower.isUpper = false ∧
      c.toLower.toUpper.toLower = c.toLower ∧ isAscii c.toLower = true := by
  decide

/-- Glyphs show as much as marks do. -/
theorem glyphs_eq_iff {first second : List (Char × Bool)}
    (ofFirst : ∀ mark ∈ first, isAsciiLetter mark.1 = true)
    (ofSecond : ∀ mark ∈ second, isAsciiLetter mark.1 = true) :
    first.map glyph = second.map glyph ↔ first.map folded = second.map folded := by
  have read (list : List (Char × Bool)) (letters : ∀ mark ∈ list, isAsciiLetter mark.1 = true) :
      list.map folded = (list.map glyph).map ofGlyph ∧ list.map glyph = (list.map folded).map ofFolded := by
    rw [List.map_map, List.map_map]
    exact ⟨List.map_congr_left fun mark member => (glyph_folded (letters mark member)).1.symm,
      List.map_congr_left fun mark member => (glyph_folded (letters mark member)).2.symm⟩
  constructor
  · intro same
    rw [(read first ofFirst).1, (read second ofSecond).1, same]
  · intro same
    rw [(read first ofFirst).2, (read second ofSecond).2, same]

variable {text other word : List Char}

theorem word_ascii (ascii : ∀ c ∈ text, isAscii c = true) (listed : word ∈ words text) :
    ∀ c ∈ word, isAsciiLetter c = true := by
  intro c member
  have kept : c ∈ text.filter isAlphanumeric :=
    words_flatten text ▸ List.mem_flatten.mpr ⟨word, listed, member⟩
  obtain ⟨inText, letter⟩ := List.mem_filter.mp kept
  simpa [isAsciiLetter, isAlphanumeric, ascii c inText] using letter

theorem lowerWord_ascii (letters : ∀ c ∈ word, isAsciiLetter c = true) :
    lowerWord word = word.map Char.toLower := by
  fun_induction lowerWord word with
  | case1 => rfl
  | case2 => exact absurd (letters 'Σ' List.mem_cons_self) (by decide)
  | case3 c rest _ ih =>
    obtain ⟨here, later⟩ := List.forall_mem_cons.mp letters
    rw [ih later, lowerCase, if_pos (Bool.and_eq_true_iff.mp here).1]
    rfl

theorem marks_letters (letters : ∀ c ∈ word, isAsciiLetter c = true) :
    ∀ mark ∈ marks word, isAsciiLetter mark.1 = true := by
  cases word with
  | nil => simp [marks]
  | cons c rest => simpa [marks] using letters

theorem capitalized_ascii (letters : ∀ c ∈ word, isAsciiLetter c = true) :
    capitalized word = (marks word).map glyph := by
  cases word with
  | nil => rfl
  | cons c rest =>
    obtain ⟨here, later⟩ := List.forall_mem_cons.mp letters
    rw [capitalized, lowerWord_ascii later, upperCase, if_pos (Bool.and_eq_true_iff.mp here).1]
    simp [marks, glyph, Function.comp_def]

/-- The camel case of an ASCII text begins in lower case and goes on with the glyphs of its marks. -/
theorem camelCase_ascii (ascii : ∀ c ∈ text, isAscii c = true) (some : words text ≠ []) :
    ∃ (c : Char) (marked : List (Char × Bool)), isAsciiLetter c = true ∧
      (∀ mark ∈ marked, isAsciiLetter mark.1 = true) ∧
      camelCase text = c.toLower :: marked.map glyph ∧
      outline text = (c.toLower, c.isAlpha) :: marked.map folded := by
  have letters : ∀ word ∈ words text, ∀ c ∈ word, isAsciiLetter c = true :=
    fun word listed => word_ascii ascii listed
  have nonempty : ∀ word ∈ words text, word ≠ [] := fun word listed => word_some listed
  obtain ⟨first, rest, listed⟩ := List.exists_cons_of_ne_nil some
  rw [listed] at letters nonempty
  obtain ⟨ofFirst, ofRest⟩ := List.forall_mem_cons.mp letters
  obtain ⟨c, tail, rfl⟩ := List.exists_cons_of_ne_nil (nonempty first List.mem_cons_self)
  have later : ∀ mark ∈ rest.flatMap marks, isAsciiLetter mark.1 = true :=
    List.forall_mem_flatMap.mpr fun word member => marks_letters (ofRest word member)
  have shown : rest.flatMap capitalized = (rest.flatMap marks).map glyph := by
    rw [List.map_flatMap]
    exact List.flatMap_congr fun word member => capitalized_ascii (ofRest word member)
  refine ⟨c, tail.map (·, false) ++ rest.flatMap marks, ofFirst c List.mem_cons_self, ?_, ?_, ?_⟩
  · refine List.forall_mem_append.mpr ⟨?_, later⟩
    exact List.forall_mem_map.mpr fun d member => ofFirst d (List.mem_cons_of_mem c member)
  · rw [camelCase, listed]
    simp only [lowerWord_ascii ofFirst, shown]
    simp [glyph, Function.comp_def]
  · rw [outline, listed]
    simp [marks, folded]

theorem words_some (letter : ∃ c ∈ text, isAlphanumeric c = true) : words text ≠ [] := by
  obtain ⟨c, member, alphanumeric⟩ := letter
  intro nothing
  have kept : c ∈ text.filter isAlphanumeric := List.mem_filter.mpr ⟨member, alphanumeric⟩
  rw [← words_flatten, nothing] at kept
  exact List.not_mem_nil kept

end Outline

end Text

namespace Interface

open Text (folded glyph isAscii isAsciiLetter lettered)

def isAsciiName (name : String) : Bool := name.toList.all isAscii

/-- The outline of a name. All names without letters and numerals have that of `unnamed`. -/
def outline (name : String) : List (Char × Bool) := Text.outline (lettered name.toList)

theorem camelName_lettered (name : String) :
    camelName name = String.ofList (Text.camelCase (lettered name.toList)) := by
  unfold camelName plainName Text.camelCase
  rw [Text.words_sanitize]

/-- A pascal case begins, and not with the lower case of ASCII. -/
theorem pascalName_head (name : String) :
    ∃ c rest, (pascalName name).toList = c :: rest ∧ c.isLower = false := by
  have some := Text.words_some (Text.lettered_any name.toList)
  obtain ⟨first, later, listed⟩ := List.exists_cons_of_ne_nil some
  have word : first ∈ Text.words (lettered name.toList) := listed ▸ List.mem_cons_self
  obtain ⟨c, tail, rfl⟩ := List.exists_cons_of_ne_nil (Text.word_some word)
  obtain ⟨d, more, upper⟩ := List.exists_cons_of_ne_nil (Text.upperCase_some c)
  refine ⟨d, more ++ (Text.lowerWord tail ++ later.flatMap Text.capitalized), ?_, ?_⟩
  · rw [pascalName, String.toList_ofList, Text.pascalCase, plainName, Text.words_sanitize, listed]
    simp [Text.capitalized, upper]
  · exact Text.upperCase_not_lower c d (upper ▸ List.mem_cons_self)

variable {name first second : String}

theorem lettered_ascii (ascii : isAsciiName name = true) : ∀ c ∈ lettered name.toList, isAscii c = true := by
  unfold lettered
  split
  · exact List.all_eq_true.mp ascii
  · have unnamed : "unnamed".toList.all isAscii = true := by decide
    exact List.all_eq_true.mp unnamed

theorem camelName_ascii (ascii : isAsciiName name = true) :
    ∃ (c : Char) (marked : List (Char × Bool)), isAsciiLetter c = true ∧
      (∀ mark ∈ marked, isAsciiLetter mark.1 = true) ∧
      (camelName name).toList = c.toLower :: marked.map glyph ∧
      outline name = (c.toLower, c.isAlpha) :: marked.map folded := by
  rw [camelName_lettered, String.toList_ofList]
  exact Text.camelCase_ascii (lettered_ascii ascii) (Text.words_some (Text.lettered_any _))

/-- The camel case of ASCII names shows their outlines, and nothing else of them. -/
theorem camelName_eq_iff (ofFirst : isAsciiName first = true) (ofSecond : isAsciiName second = true) :
    camelName first = camelName second ↔ outline first = outline second := by
  obtain ⟨c, marked, letter, letters, camel, shape⟩ := camelName_ascii ofFirst
  obtain ⟨d, others, letter', letters', camel', shape'⟩ := camelName_ascii ofSecond
  have kind : c.toLower = d.toLower → c.isAlpha = d.isAlpha := by
    intro same
    rw [← (Text.letter_cases letter).1, ← (Text.letter_cases letter').1, same]
  rw [← String.toList_inj, camel, camel', shape, shape', List.cons.injEq, List.cons.injEq,
    Text.glyphs_eq_iff letters letters', Prod.mk.injEq]
  constructor
  · rintro ⟨start, rest⟩
    exact ⟨⟨start, kind start⟩, rest⟩
  · rintro ⟨⟨start, -⟩, rest⟩
    exact ⟨start, rest⟩

end Interface

end ServerScaffold
