import ServerScaffold.Proofs.Identifiers

/-!
Which variables are called by a reserved word. Words are told from names and from camel cases before the first
letter of a camel case is raised, so only a reserved word with a capital can come of that; and just those names
come to it whose words are the four letters of `NULL`.
-/
namespace ServerScaffold

namespace Text

section Letters

variable {c letter : Char}

/-- Whether no text of a case map is made of some letters of ASCII, and no shift leads to one of them. -/
def avoids (letters : List Char) (texts : List (Nat × List Nat)) (shifts : List (Nat × Nat × Nat × Int)) : Bool :=
  texts.all (fun entry => entry.2.any fun code => !letters.contains (Char.ofNat code)) &&
    letters.all fun letter => isAscii letter && Nat.blt 0 letter.toNat &&
      (targetRanges [] shifts).all fun range =>
        Nat.blt range.2 letter.toNat || Nat.blt letter.toNat range.1

/-- No character beyond ASCII has its other case among letters that the case map avoids. -/
theorem mapCase_outside {letters : List Char} {texts : List (Nat × List Nat)} {shifts : List (Nat × Nat × Nat × Int)}
    (avoided : avoids letters texts shifts = true) (beyond : isAscii c = false) :
    ∃ mapped ∈ mapCase texts shifts c, mapped ∉ letters := by
  obtain ⟨apart, off⟩ := Bool.and_eq_true_iff.mp avoided
  unfold mapCase
  split
  · next found =>
    have some := List.all_eq_true.mp apart _ (List.mem_of_find?_eq_some found)
    obtain ⟨code, listed, outside⟩ := List.any_eq_true.mp some
    exact ⟨Char.ofNat code, List.mem_map_of_mem listed, by simpa using outside⟩
  · refine ⟨Char.ofNat (shifted shifts c.toNat), List.mem_singleton_self _, fun letter => ?_⟩
    have tested := List.all_eq_true.mp off _ letter
    simp only [isAscii, Bool.and_eq_true, decide_eq_true_eq, Nat.blt_eq] at tested
    obtain ⟨⟨inAscii, positive⟩, none⟩ := tested
    have reached : Char.ofNat (shifted shifts c.toNat) ∈ mapCase [] shifts c := List.mem_singleton_self _
    exact mapCase_off positive inAscii none beyond _ reached ⟨Nat.le_refl _, Nat.le_refl _⟩

/-- The letters of `NULL`. -/
def nullCapitals : List Char := ['N', 'U', 'L']

theorem null_avoided : avoids nullCapitals upperCaseTexts upperCaseShifts = true ∧
    avoids (nullCapitals.map Char.toLower) lowerCaseTexts lowerCaseShifts = true := by
  decide

theorem upperCase_in_ascii (capitals : ∀ mapped ∈ upperCase c, mapped ∈ nullCapitals) : isAscii c = true := by
  by_contra beyond
  rw [Bool.not_eq_true] at beyond
  have mapped : upperCase c = mapCase upperCaseTexts upperCaseShifts c := by simp [upperCase, beyond]
  obtain ⟨other, member, outside⟩ := mapCase_outside null_avoided.1 beyond
  exact outside (capitals other (mapped ▸ member))

theorem lowerCase_in_ascii (small : ∀ mapped ∈ lowerCase c, mapped ∈ nullCapitals.map Char.toLower) :
    isAscii c = true := by
  by_contra beyond
  rw [Bool.not_eq_true] at beyond
  have mapped : lowerCase c = mapCase lowerCaseTexts lowerCaseShifts c := by simp [lowerCase, beyond]
  obtain ⟨other, member, outside⟩ := mapCase_outside null_avoided.2 beyond
  exact outside (small other (mapped ▸ member))

theorem null_cases (letter : Char) (capital : letter ∈ nullCapitals) :
    letter.toLower.toUpper = letter ∧ letter.isUpper = true ∧
      letter.toLower ∈ nullCapitals.map Char.toLower ∧ letter.toLower ≠ 'ς' := by
  simp only [nullCapitals, List.mem_cons, List.not_mem_nil, or_false] at capital
  rcases capital with rfl | rfl | rfl <;> decide

/-- What is raised to letters of `NULL` is one of these letters, in either case. -/
theorem raised_to_letter (capitals : ∀ mapped ∈ upperCase c, mapped ∈ nullCapitals) :
    ∃ letter ∈ nullCapitals, upperCase c = [letter] ∧ lowerWord [c] = [letter.toLower] := by
  have ascii := upperCase_in_ascii capitals
  have upper : upperCase c = [c.toUpper] := by simp [upperCase, ascii]
  have noSigma : c ≠ 'Σ' := by
    rintro rfl
    exact absurd ascii (by decide)
  rw [upper, List.forall_mem_singleton] at capitals
  refine ⟨c.toUpper, capitals, upper, ?_⟩
  simp [lowerWord, lowerCase, ascii, ascii_lowered ascii, noSigma]

theorem lowered_to_letter (capital : letter ∈ nullCapitals) (lowered : lowerCase c = [letter.toLower]) :
    upperCase c = [letter] := by
  obtain ⟨raised, -, small, -⟩ := null_cases letter capital
  have ascii : isAscii c = true := lowerCase_in_ascii (by simpa [lowered] using small)
  have lower : c.toLower = letter.toLower := by simpa [lowerCase, ascii] using lowered
  rw [upperCase, if_pos ascii, ← ascii_raised ascii, lower, raised]

end Letters

section Words

variable {word text rest : List Char} {letter first : Char} {words : List (List Char)}

theorem lowerWord_eq_nil : lowerWord word = [] ↔ word = [] := by
  unfold lowerWord
  split
  · simp
  · simp
  · simp [lowerCase_some]

theorem lowerWord_not_upper (word : List Char) : ∀ c ∈ lowerWord word, c.isUpper = false := by
  fun_induction lowerWord word with
  | case1 => simp
  | case2 => simp
  | case3 c rest _ ih => exact List.forall_mem_append.mpr ⟨lowerCase_not_upper c, ih⟩

/-- A part of a lower case that holds letters of `NULL` only, which are capitals, is empty. -/
theorem no_capitals (part : List Char) (small : ∀ c ∈ part, c.isUpper = false)
    (capitals : ∀ c ∈ part, c ∈ nullCapitals) : part = [] := by
  refine List.eq_nil_iff_forall_not_mem.mpr fun c member => ?_
  have upper := (null_cases c (capitals c member)).2.1
  rw [small c member] at upper
  contradiction

theorem capitalized_letter (some : word ≠ []) (capitals : ∀ c ∈ capitalized word, c ∈ nullCapitals) :
    ∃ letter ∈ nullCapitals, capitalized word = [letter] ∧ lowerWord word = [letter.toLower] := by
  obtain ⟨c, more, rfl⟩ := List.exists_cons_of_ne_nil some
  obtain ⟨ofFirst, ofMore⟩ := List.forall_mem_append.mp capitals
  have nothing := no_capitals (lowerWord more) (lowerWord_not_upper more) ofMore
  obtain rfl := lowerWord_eq_nil.mp nothing
  obtain ⟨letter, capital, upper, lower⟩ := raised_to_letter ofFirst
  refine ⟨letter, capital, ?_, lower⟩
  rw [capitalized, upper]
  rfl

theorem letter_capitalized (capital : letter ∈ nullCapitals) (lowered : lowerWord word = [letter.toLower]) :
    capitalized word = [letter] := by
  obtain ⟨-, -, -, noSigma⟩ := null_cases letter capital
  unfold lowerWord at lowered
  split at lowered
  · contradiction
  · exact absurd (List.cons.inj lowered).1.symm noSigma
  · next c rest _ =>
    -- the first character has a lower case, so nothing is left for the others
    obtain ⟨d, more, lower⟩ := List.exists_cons_of_ne_nil (lowerCase_some c)
    rw [lower, List.cons_append, List.cons.injEq, List.append_eq_nil_iff] at lowered
    obtain ⟨rfl, rfl, nothing⟩ := lowered
    rw [lowerWord_eq_nil.mp nothing, capitalized, lowered_to_letter capital lower]
    rfl

/-- Capitalized words come to letters of `NULL` just if each of them is one of these letters. -/
theorem capitals_iff (some : ∀ word ∈ words, word ≠ []) (capitals : ∀ c ∈ text, c ∈ nullCapitals) :
    words.flatMap capitalized = text ↔ words.map lowerWord = text.map fun c => [c.toLower] := by
  induction words generalizing text with
  | nil => cases text <;> simp
  | cons word words ih =>
    obtain ⟨here, later⟩ := List.forall_mem_cons.mp some
    constructor
    · rintro rfl
      obtain ⟨ofWord, ofWords⟩ := List.forall_mem_append.mp (List.flatMap_cons ▸ capitals)
      obtain ⟨letter, -, shown, lowered⟩ := capitalized_letter here ofWord
      rw [List.flatMap_cons, shown, List.map_cons, lowered, (ih later ofWords).mp rfl]
      rfl
    · intro lowered
      obtain ⟨letter, rest, rfl, same, sameRest⟩ := List.map_eq_cons_iff.mp lowered.symm
      obtain ⟨capital, capitalRest⟩ := List.forall_mem_cons.mp capitals
      rw [List.flatMap_cons, letter_capitalized capital same.symm, (ih later capitalRest).mpr sameRest.symm]
      rfl

/-- A camel case shows letters of `NULL`, of which all but the first are capitals, just if these letters are the
words. -/
theorem camelCase_letters_iff (capitals : ∀ c ∈ rest, c ∈ nullCapitals) :
    camelCase text = first.toLower :: rest ↔
      (Text.words text).map lowerWord = (first :: rest).map fun c => [c.toLower] := by
  have some : ∀ word ∈ Text.words text, word ≠ [] := fun word listed => word_some listed
  unfold camelCase
  split
  · next none => simp [none]
  · next word words listed =>
    rw [listed] at some ⊢
    obtain ⟨here, later⟩ := List.forall_mem_cons.mp some
    rw [List.map_cons, List.map_cons, List.cons.injEq, ← capitals_iff later capitals]
    constructor
    · intro camel
      obtain ⟨d, more, lower⟩ := List.exists_cons_of_ne_nil (mt lowerWord_eq_nil.mp here)
      rw [lower, List.cons_append, List.cons.injEq] at camel
      obtain ⟨rfl, shown⟩ := camel
      have small := (List.forall_mem_cons.mp (lower ▸ lowerWord_not_upper word)).2
      have none := no_capitals more small fun c member => capitals c (shown ▸ List.mem_append_left _ member)
      rw [lower, none, ← shown, none]
      exact ⟨rfl, rfl⟩
    · rintro ⟨lower, shown⟩
      rw [lower, shown]
      rfl

theorem snakeCase_eq_iff {parts : List (List Char)} (some : Text.words text ≠ []) (listed : parts ≠ [])
    (unmarked : ∀ part ∈ parts, '_' ∉ part) :
    snakeCase text = ['_'].intercalate parts ↔ (Text.words text).map lowerWord = parts := by
  have spelled : ∀ part ∈ (Text.words text).map lowerWord, '_' ∉ part := by
    refine List.forall_mem_map.mpr fun word inText mark => ?_
    exact absurd (lowerWord_isSpelled (word_alphanumeric inText) '_' mark) (by decide)
  constructor
  · intro same
    rw [← List.splitOn_intercalate '_' spelled (by simpa using some), ← List.splitOn_intercalate '_' unmarked listed]
    exact congrArg (List.splitOn '_') same
  · rintro rfl
    rfl

end Words

end Text

namespace Cpp

open Interface (camelName plainName snakeName)
open Text (nullCapitals)

variable {settings : Settings} {name : String}

theorem plainName_words (name : String) : Text.words (plainName name) ≠ [] := by
  rw [plainName, Text.words_sanitize]
  exact Text.words_some (Text.lettered_any _)

/-- A name is `nULL` in camel case just if its words are the letters of that. -/
theorem camelName_null_iff : camelName name = "nULL" ↔ snakeName name = "n_u_l_l" := by
  have camel : camelName name = "nULL" ↔ Text.camelCase (plainName name) = 'N'.toLower :: ['U', 'L', 'L'] := by
    rw [← String.toList_inj, camelName, String.toList_ofList]
    rfl
  have snake : snakeName name = "n_u_l_l" ↔
      Text.snakeCase (plainName name) = ['_'].intercalate [['n'], ['u'], ['l'], ['l']] := by
    rw [← String.toList_inj, snakeName, String.toList_ofList]
    rfl
  have capitals : ∀ c ∈ ['U', 'L', 'L'], c ∈ nullCapitals := by simp [nullCapitals]
  have unmarked : ∀ part ∈ [['n'], ['u'], ['l'], ['l']], '_' ∉ part := by simp
  rw [camel, snake, Text.camelCase_letters_iff capitals,
    Text.snakeCase_eq_iff (plainName_words name) (List.cons_ne_nil _ _) unmarked]
  rfl

/-- A camel case begins, and not with a capital of ASCII. -/
theorem camelName_head (name : String) : ∃ c rest, (camelName name).toList = c :: rest ∧ c.isUpper = false := by
  obtain ⟨word, words, listed⟩ := List.exists_cons_of_ne_nil (plainName_words name)
  have some : word ≠ [] := Text.word_some (listed ▸ List.mem_cons_self)
  obtain ⟨c, more, lower⟩ := List.exists_cons_of_ne_nil (mt Text.lowerWord_eq_nil.mp some)
  refine ⟨c, more ++ words.flatMap Text.capitalized, ?_, ?_⟩
  · simp [camelName, Text.camelCase, listed, lower]
  · exact Text.lowerWord_not_upper word c (lower ▸ List.mem_cons_self)

/-- But for `NULL` all reserved words begin with a small letter, and none of them with the usual prefix. -/
theorem reserved_begin : reservedWords.all (fun word => word == "NULL" ||
    word.toList.head?.any Char.isLower && !(['r', '_'].isPrefixOf word.toList)) = true := by
  decide

theorem begin_of_reserved (reserved : isReserved name = true) : name = "NULL" ∨
    name.toList.head?.any Char.isLower = true ∧ ['r', '_'].isPrefixOf name.toList = false := by
  have listed : name ∈ reservedWords := by simpa [isReserved] using reserved
  simpa only [Bool.or_eq_true, beq_iff_eq, Bool.and_eq_true, Bool.not_eq_true'] using
    List.all_eq_true.mp reserved_begin name listed

/-- Of the camel cases with a raised first letter only `NULL` is reserved. -/
theorem upperFirst_reserved_iff :
    isReserved (upperFirst (camelName name)) = true ↔ camelName name = "nULL" := by
  constructor
  · intro reserved
    obtain ⟨c, rest, camel, small⟩ := camelName_head name
    have raised : (upperFirst (camelName name)).toList = Text.upperCase c ++ rest := by simp [upperFirst, camel]
    have null : upperFirst (camelName name) = "NULL" := by
      refine (begin_of_reserved reserved).resolve_right fun lower => ?_
      obtain ⟨d, more, upper⟩ := List.exists_cons_of_ne_nil (Text.upperCase_some c)
      have notLower := Text.upperCase_not_lower c d (upper ▸ List.mem_cons_self)
      simp [raised, upper, notLower] at lower
    have letters : Text.upperCase c ++ rest = ['N', 'U', 'L', 'L'] := by
      rw [← raised, null]
      rfl
    have capitals : ∀ mapped ∈ Text.upperCase c ++ rest, mapped ∈ nullCapitals := by
      simp [letters, nullCapitals]
    have ascii := Text.upperCase_in_ascii (List.forall_mem_append.mp capitals).1
    rw [Text.upperCase, if_pos ascii, List.singleton_append, List.cons.injEq] at letters
    have first : c = 'n' := calc
      c = c.toLower := (Text.ascii_kept ascii small).symm
      _ = c.toUpper.toLower := (Text.ascii_lowered ascii).symm
      _ = 'n' := congrArg Char.toLower letters.1
    rw [← String.toList_inj, camel, first, letters.2]
    rfl
  · intro camel
    rw [camel]
    rfl

/-- Neither a name that is reserved nor a reserved camel case has the letters of `NULL` for its words. -/
theorem spelling_reserved_apart (reserved : isReserved (variableSpelling name) = true) :
    snakeName name ≠ "n_u_l_l" := by
  intro snake
  have camel := camelName_null_iff.mpr snake
  by_cases kept : name ∈ keptWords
  · have apart : keptWords.all (fun word => camelName word != "nULL") = true := by
      rw [kept_words_listed]
      decide
    simpa [camel] using List.all_eq_true.mp apart name kept
  · rw [spelling_free kept, camel] at reserved
    exact absurd reserved (by decide)

theorem prefixed_unreserved (word : String) : isReserved ("r_" ++ word) = false := by
  refine Bool.eq_false_iff.mpr fun reserved => ?_
  rcases begin_of_reserved reserved with null | ⟨-, apart⟩
  · simp [← String.toList_inj] at null
  · simp at apart

/-- Behind the usual prefix a variable is called by a reserved word just if its first letter is raised and the words
of its name are the four letters of `NULL`. -/
theorem variable_reserved_iff (usual : settings.reservedWordPrefix = "r_") (name : String) :
    isReserved (variableName settings name) = true ↔
      settings.variableNameFirstCharacterUppercase = true ∧ snakeName name = "n_u_l_l" := by
  rw [variableName_eq, usual]
  cases reserved : isReserved (variableSpelling name) with
  | true => simp [prefixed_unreserved, spelling_reserved_apart reserved]
  | false =>
    have camel := spelling_unreserved reserved
    rw [camel] at reserved
    cases raised : settings.variableNameFirstCharacterUppercase with
    | true => simp [camel, upperFirst_reserved_iff, camelName_null_iff]
    | false => simp [camel, reserved]

/-- Without a raised first letter the letters of `NULL` make no reserved word, and with it the word itself does not. -/
theorem null_names_set_apart :
    let plain := { standard with variableNameFirstCharacterUppercase := false }
    plain.reservedWordPrefix = "r_" ∧ isReserved (variableName plain "n_u_l_l") = false ∧
      standard.reservedWordPrefix = "r_" ∧ isReserved (variableName standard "NULL") = false := by
  intro plain
  have usual : plain.reservedWordPrefix = "r_" := rfl
  have usualToo : standard.reservedWordPrefix = "r_" := rfl
  have oneWord : snakeName "NULL" ≠ "n_u_l_l" := by decide
  refine ⟨usual, Bool.eq_false_iff.mpr ?_, usualToo, Bool.eq_false_iff.mpr ?_⟩
  · rw [ne_eq, variable_reserved_iff usual]
    exact fun both => absurd both.1 (by decide)
  · rw [ne_eq, variable_reserved_iff usualToo]
    exact fun both => oneWord both.2

/-- The letters of `NULL`, joined by underscores, make a variable of that name. -/
theorem joined_letters_reserved : variableName standard "n_u_l_l" = "NULL" ∧ isReserved "NULL" = true := by
  decide

end Cpp

end ServerScaffold
