import ServerScaffold.Interface.Name

/-!
The characters of a spelled name. The words of a name are made of its letters and numerals, and the case
maps turn these into characters that are neither blank nor ASCII punctuation.
-/
namespace ServerScaffold.Text

theorem splitOnP_part {breaks : Char → Bool} {text part : List Char}
    (member : part ∈ text.splitOnP breaks) : ∀ c ∈ part, breaks c = false := by
  induction text generalizing part with
  | nil =>
    rw [List.splitOnP_nil, List.mem_singleton] at member
    simp [member]
  | cons first rest ih =>
    rw [List.splitOnP_cons_eq_if_modifyHead] at member
    split at member
    · rcases List.mem_cons.mp member with rfl | later
      · simp
      · exact ih later
    · next noBreak =>
      obtain ⟨head, tail, parts⟩ := List.exists_cons_of_ne_nil (List.splitOnP_ne_nil breaks rest)
      rw [parts, List.modifyHead_cons] at member
      rcases List.mem_cons.mp member with rfl | later
      · have ofHead := ih (parts ▸ List.mem_cons_self)
        exact List.forall_mem_cons.mpr ⟨by simpa using noBreak, ofHead⟩
      · exact ih (parts ▸ List.mem_cons_of_mem head later)

theorem run_alphanumeric {text run : List Char} (member : run ∈ runs text) :
    ∀ c ∈ run, isAlphanumeric c = true := by
  intro c inRun
  have outside := splitOnP_part (List.mem_filter.mp member).1 c inRun
  simpa using outside

theorem splitRun_flatten (case : Case) (word : List Char) {run : List Char} (some : run ≠ []) :
    (splitRun case word run).flatten = word.reverse ++ run := by
  fun_induction splitRun case word run with
  | case1 => contradiction
  | case2 => simp
  | case3 case word c next rest lower ih => simp [ih]
  | case4 case word c next rest _ acronym ih => simp [ih]
  | case5 case word c next rest _ _ ih => simp [ih]

theorem word_alphanumeric {text word : List Char} (member : word ∈ words text) :
    ∀ c ∈ word, isAlphanumeric c = true := by
  obtain ⟨run, listed, inRun⟩ := List.mem_flatMap.mp member
  have some : run ≠ [] := by simpa using (List.mem_filter.mp listed).2
  intro c inWord
  have whole := splitRun_flatten .none [] some
  have inWhole : c ∈ (splitRun .none [] run).flatten := List.mem_flatten.mpr ⟨word, inRun, inWord⟩
  rw [whole] at inWhole
  exact run_alphanumeric listed c inWhole

/-- Neither blank nor ASCII punctuation. -/
def isSpelled (c : Char) : Bool := !isBlank c && (!isAscii c || c.isAlphanum)

/-- Neither blank nor ASCII punctuation other than the underscore. -/
def isNamePart (c : Char) : Bool := !isBlank c && (!isAscii c || c.isAlphanum || c == '_')

theorem spelled_isNamePart {c : Char} (spelled : isSpelled c = true) : isNamePart c = true := by
  simp only [isSpelled, isNamePart, Bool.and_eq_true, Bool.or_eq_true] at spelled ⊢
  exact ⟨spelled.1, Or.inl spelled.2⟩

/-- No blank has a code of the range. -/
def noBlankIn (range : Nat × Nat) : Bool :=
  Nat.ble 0x3001 range.1 ||
    [(0x09, 0x0D), (0x20, 0x20), (0x85, 0x85), (0xA0, 0xA0), (0x1680, 0x1680), (0x2000, 0x200A),
      (0x2028, 0x2029), (0x202F, 0x202F), (0x205F, 0x205F), (0x3000, 0x3000)].all fun blank =>
        Nat.blt range.2 blank.1 || Nat.blt blank.2 range.1

theorem not_blank_in {range : Nat × Nat} {c : Char} (none : noBlankIn range = true)
    (first : range.1 ≤ c.toNat) (last : c.toNat ≤ range.2) : isBlank c = false := by
  simp only [noBlankIn, Bool.or_eq_true, Nat.ble_eq, Nat.blt_eq, List.all_cons, List.all_nil,
    Bool.and_eq_true] at none
  simp only [isBlank, inRanges, List.any_cons, List.any_nil, Bool.or_false, Bool.or_eq_false_iff,
    Bool.and_eq_false_imp, decide_eq_true_eq, decide_eq_false_iff_not]
  omega

theorem alphanumeric_ranges_no_blank : alphanumericRanges.all noBlankIn = true := by
  decide +kernel

theorem toNat_ofNat {code : Nat} (valid : code.isValidChar) : (Char.ofNat code).toNat = code := by
  rw [Char.ofNat, dif_pos valid]
  rfl

/-- What is said of ASCII can be tested. -/
theorem ascii_forall {P : Char → Prop} :
    (∀ code < 128, P (Char.ofNat code)) ↔ ∀ c, isAscii c = true → P c := by
  constructor
  · intro tested c ascii
    have here := tested c.toNat (by simpa [isAscii] using ascii)
    rwa [Char.ofNat_toNat] at here
  · intro holds code below
    have same : (Char.ofNat code).toNat = code := toNat_ofNat (Or.inl (by omega))
    exact holds _ (by simpa [isAscii, same] using below)

instance {P : Char → Prop} [DecidablePred P] : Decidable (∀ c, isAscii c = true → P c) :=
  decidable_of_iff _ ascii_forall

/-- In ASCII, letters and numerals are characters of words, and so are they in the other case. -/
theorem ascii_alphanumeric : ∀ {c}, isAscii c = true → c.isAlphanum = true →
    isSpelled c = true ∧ isSpelled c.toUpper = true ∧ isSpelled c.toLower = true := by
  decide

theorem alphanum_isAscii {c : Char} (letter : c.isAlphanum = true) : isAscii c = true := by
  have below (last : Char) (ascii : last.toNat < 0x80) (bound : c.val ≤ last.val) : isAscii c = true :=
    decide_eq_true (Nat.lt_of_le_of_lt (UInt32.le_iff_toNat_le.mp bound) ascii)
  rcases Bool.or_eq_true_iff.mp letter with alpha | digit
  · rcases Bool.or_eq_true_iff.mp alpha with upper | lower
    · exact below 'Z' (by decide) (of_decide_eq_true upper).2
    · exact below 'z' (by decide) (of_decide_eq_true (Bool.and_eq_true_iff.mp lower).2)
  · exact below '9' (by decide) (of_decide_eq_true (Bool.and_eq_true_iff.mp digit).2)

/-- In ASCII, letters, numerals and the underscore are parts of names. -/
theorem word_isNamePart {c : Char} (word : c.isAlphanum = true ∨ c = '_') : isNamePart c = true := by
  rcases word with letter | rfl
  · exact spelled_isNamePart (ascii_alphanumeric (alphanum_isAscii letter) letter).1
  · decide

theorem alphanumeric_isSpelled {c : Char} (alphanumeric : isAlphanumeric c = true) :
    isSpelled c = true := by
  unfold isAlphanumeric at alphanumeric
  split at alphanumeric
  · next ascii => exact (ascii_alphanumeric ascii alphanumeric).1
  · next other =>
    obtain ⟨range, listed, within⟩ := List.any_eq_true.mp alphanumeric
    simp only [Bool.and_eq_true, decide_eq_true_eq] at within
    have none := List.all_eq_true.mp alphanumeric_ranges_no_blank range listed
    simp [isSpelled, not_blank_in none within.1 within.2, other]

def targetRanges (texts : List (Nat × List Nat)) (shifts : List (Nat × Nat × Nat × Int)) :
    List (Nat × Nat) :=
  texts.flatMap (fun entry => entry.2.map fun code => (code, code)) ++
    shifts.map fun entry => ((entry.1 + entry.2.2.2).toNat, (entry.2.1 + entry.2.2.2).toNat)

/-- The codes of a range are characters of words: they are not blank, they are characters, and one in ASCII
is a letter or a numeral by itself. -/
def isWordRange (range : Nat × Nat) : Bool :=
  noBlankIn range && (Nat.blt range.2 0xD800 || Nat.ble 0xE000 range.1 && Nat.blt range.2 0x110000) &&
    (Nat.ble 128 range.1 || range.1 == range.2 && (Char.ofNat range.1).isAlphanum)

/-- A case map that leads to characters of words, to no code from `first` to `last`, and from each character to some. -/
structure CaseTable (first last : Nat) (texts : List (Nat × List Nat)) (shifts : List (Nat × Nat × Nat × Int)) :
    Prop where
  words : (targetRanges texts shifts).all isWordRange = true
  apart : (targetRanges texts shifts).all (fun range => Nat.blt range.2 first || Nat.blt last range.1) = true
  some : texts.all (fun entry => !entry.2.isEmpty) = true

instance {first last : Nat} {texts : List (Nat × List Nat)} {shifts : List (Nat × Nat × Nat × Int)} :
    Decidable (CaseTable first last texts shifts) :=
  decidable_of_iff (_ ∧ _ ∧ _) ⟨fun held => ⟨held.1, held.2.1, held.2.2⟩,
    fun table => ⟨table.words, table.apart, table.some⟩⟩

/-- The tables lead to characters of words, but to no letter of ASCII in the case they turn from. -/
theorem case_tables : CaseTable 'a'.toNat 'z'.toNat upperCaseTexts upperCaseShifts ∧
    CaseTable 'A'.toNat 'Z'.toNat lowerCaseTexts lowerCaseShifts := by
  decide +kernel

theorem isSpelled_of_range {range : Nat × Nat} {code : Nat} (named : isWordRange range = true)
    (first : range.1 ≤ code) (last : code ≤ range.2) : isSpelled (Char.ofNat code) = true := by
  simp only [isWordRange, Bool.and_eq_true, Bool.or_eq_true, Nat.ble_eq, Nat.blt_eq, beq_iff_eq] at named
  obtain ⟨⟨noBlank, valid⟩, kind⟩ := named
  have same : (Char.ofNat code).toNat = code := by
    -- Between the bounds lie the surrogates, which `Char.ofNat` would turn into another character.
    refine toNat_ofNat ?_
    unfold Nat.isValidChar
    omega
  have notBlank : isBlank (Char.ofNat code) = false :=
    not_blank_in noBlank (by rw [same]; exact first) (by rw [same]; exact last)
  rcases kind with above | ⟨single, letter⟩
  · have notAscii : isAscii (Char.ofNat code) = false := by
      simp only [isAscii, same, decide_eq_false_iff_not]
      omega
    simp [isSpelled, notBlank, notAscii]
  · have code_eq : code = range.1 := by omega
    rw [← code_eq] at letter
    simp [isSpelled, notBlank, letter]

/-- A case map leads to one of its targets, or leaves the character as it is. -/
theorem mem_mapCase {texts : List (Nat × List Nat)} {shifts : List (Nat × Nat × Nat × Int)}
    {c mapped : Char} (member : mapped ∈ mapCase texts shifts c) :
    mapped = c ∨ ∃ range ∈ targetRanges texts shifts, ∃ code, range.1 ≤ code ∧ code ≤ range.2 ∧
      Char.ofNat code = mapped := by
  unfold mapCase at member
  split at member
  · next start text found =>
    obtain ⟨code, listed, rfl⟩ := List.mem_map.mp member
    have target : (code, code) ∈ targetRanges texts shifts := by
      refine List.mem_append_left _ (List.mem_flatMap.mpr ⟨_, List.mem_of_find?_eq_some found, ?_⟩)
      exact List.mem_map.mpr ⟨code, listed, rfl⟩
    exact Or.inr ⟨_, target, code, Nat.le_refl _, Nat.le_refl _, rfl⟩
  · rw [List.mem_singleton.mp member, shifted]
    split
    · next first last stride distance found =>
      have within := List.find?_some found
      simp only [Bool.and_eq_true, decide_eq_true_eq] at within
      have target : ((first + distance).toNat, (last + distance).toNat) ∈ targetRanges texts shifts := by
        refine List.mem_append_right _ (List.mem_map.mpr ⟨_, List.mem_of_find?_eq_some found, rfl⟩)
      exact Or.inr ⟨_, target, _, by simp only; omega, by simp only; omega, rfl⟩
    · exact Or.inl (Char.ofNat_toNat c)

theorem mapCase_isSpelled {texts : List (Nat × List Nat)} {shifts : List (Nat × Nat × Nat × Int)}
    (targets : (targetRanges texts shifts).all isWordRange = true) {c : Char}
    (spelled : isSpelled c = true) : ∀ mapped ∈ mapCase texts shifts c, isSpelled mapped = true := by
  intro mapped member
  rcases mem_mapCase member with rfl | ⟨range, listed, code, first, last, rfl⟩
  · exact spelled
  · exact isSpelled_of_range (List.all_eq_true.mp targets range listed) first last

/-- What a change of case does to a character of a word, by a rule for ASCII and a table above it. -/
theorem cased_isSpelled {turn : Char → Char} {texts : List (Nat × List Nat)}
    {shifts : List (Nat × Nat × Nat × Int)} {c : Char}
    (targets : (targetRanges texts shifts).all isWordRange = true)
    (turned : isAscii c = true → c.isAlphanum = true → isSpelled (turn c) = true)
    (spelled : isSpelled c = true) :
    ∀ mapped ∈ (if isAscii c then [turn c] else mapCase texts shifts c), isSpelled mapped = true := by
  intro mapped member
  split at member
  · next ascii =>
    have letter : c.isAlphanum = true := by
      simp only [isSpelled, ascii, Bool.not_true, Bool.false_or, Bool.and_eq_true] at spelled
      exact spelled.2
    rw [List.mem_singleton.mp member]
    exact turned ascii letter
  · exact mapCase_isSpelled targets spelled mapped member

theorem upperCase_isSpelled {c : Char} (spelled : isSpelled c = true) :
    ∀ mapped ∈ upperCase c, isSpelled mapped = true := by
  unfold upperCase
  exact cased_isSpelled case_tables.1.words (fun ascii letter => (ascii_alphanumeric ascii letter).2.1) spelled

/-- Where no target of a case map has a code of some ASCII, the map leads there from nowhere beyond ASCII. -/
theorem mapCase_off {texts : List (Nat × List Nat)} {shifts : List (Nat × Nat × Nat × Int)} {first last : Nat}
    (positive : 0 < first) (inAscii : last < 128)
    (off : (targetRanges texts shifts).all (fun range => Nat.blt range.2 first || Nat.blt last range.1) = true)
    {c : Char} (beyond : isAscii c = false) :
    ∀ mapped ∈ mapCase texts shifts c, ¬ (first ≤ mapped.toNat ∧ mapped.toNat ≤ last) := by
  intro mapped member
  rcases mem_mapCase member with rfl | ⟨range, listed, code, start, stop, rfl⟩
  · simp only [isAscii, decide_eq_false_iff_not] at beyond
    omega
  · have outside := List.all_eq_true.mp off range listed
    simp only [Bool.or_eq_true, Nat.blt_eq] at outside
    by_cases valid : code.isValidChar
    · rw [toNat_ofNat valid]
      omega
    · -- what is no code stands for the character of code zero
      have zero : (Char.ofNat code).toNat = 0 := by rw [Char.ofNat, dif_neg valid]; rfl
      omega

/-- In ASCII no letter of a case is left by the change to the other one, and either change undoes the other. -/
theorem ascii_cases : ∀ {c}, isAscii c = true →
    c.toUpper.isLower = false ∧ c.toLower.isUpper = false ∧ c.toUpper.toLower = c.toLower ∧
      c.toLower.toUpper = c.toUpper ∧ (c.isUpper = false → c.toLower = c) := by
  decide

theorem ascii_lowered {c : Char} (ascii : isAscii c = true) : c.toUpper.toLower = c.toLower :=
  (ascii_cases ascii).2.2.1

theorem ascii_raised {c : Char} (ascii : isAscii c = true) : c.toLower.toUpper = c.toUpper :=
  (ascii_cases ascii).2.2.2.1

theorem ascii_kept {c : Char} (ascii : isAscii c = true) (small : c.isUpper = false) : c.toLower = c :=
  (ascii_cases ascii).2.2.2.2 small

theorem lower_code {c : Char} (lower : c.isLower = true) : 'a'.toNat ≤ c.toNat ∧ c.toNat ≤ 'z'.toNat := by
  obtain ⟨first, last⟩ := Bool.and_eq_true_iff.mp lower
  exact ⟨UInt32.le_iff_toNat_le.mp (of_decide_eq_true first), UInt32.le_iff_toNat_le.mp (of_decide_eq_true last)⟩

theorem upper_code {c : Char} (upper : c.isUpper = true) : 'A'.toNat ≤ c.toNat ∧ c.toNat ≤ 'Z'.toNat := by
  obtain ⟨first, last⟩ := of_decide_eq_true upper
  exact ⟨UInt32.le_iff_toNat_le.mp first, UInt32.le_iff_toNat_le.mp last⟩

theorem upperCase_not_lower (c : Char) : ∀ mapped ∈ upperCase c, mapped.isLower = false := by
  intro mapped member
  unfold upperCase at member
  split at member
  · next ascii =>
    rw [List.mem_singleton.mp member]
    exact (ascii_cases ascii).1
  · next beyond =>
    have outside := mapCase_off (by decide) (by decide) case_tables.1.apart (by simpa using beyond) mapped member
    exact Bool.eq_false_iff.mpr fun lower => outside (lower_code lower)

theorem lowerCase_not_upper (c : Char) : ∀ mapped ∈ lowerCase c, mapped.isUpper = false := by
  intro mapped member
  unfold lowerCase at member
  split at member
  · next ascii =>
    rw [List.mem_singleton.mp member]
    exact (ascii_cases ascii).2.1
  · next beyond =>
    have outside := mapCase_off (by decide) (by decide) case_tables.2.apart (by simpa using beyond) mapped member
    exact Bool.eq_false_iff.mpr fun upper => outside (upper_code upper)

theorem mapCase_some {texts : List (Nat × List Nat)} {shifts : List (Nat × Nat × Nat × Int)}
    (some : texts.all (fun entry => !entry.2.isEmpty) = true) (c : Char) : mapCase texts shifts c ≠ [] := by
  unfold mapCase
  split
  · next found => simpa using List.all_eq_true.mp some _ (List.mem_of_find?_eq_some found)
  · simp

theorem upperCase_some (c : Char) : upperCase c ≠ [] := by
  unfold upperCase
  split
  · simp
  · exact mapCase_some case_tables.1.some c

theorem lowerCase_some (c : Char) : lowerCase c ≠ [] := by
  unfold lowerCase
  split
  · simp
  · exact mapCase_some case_tables.2.some c

theorem lowerFrom_eq_nil {before text : List Char} : lowerFrom before text = [] ↔ text = [] := by
  cases text with
  | nil => simp [lowerFrom]
  | cons c rest =>
    have some := lowerCase_some c
    simp only [lowerFrom, List.append_eq_nil_iff, reduceCtorEq, iff_false, not_and]
    intro nothing
    split at nothing
    · split at nothing <;> contradiction
    · contradiction

theorem lowerCase_isSpelled {c : Char} (spelled : isSpelled c = true) :
    ∀ mapped ∈ lowerCase c, isSpelled mapped = true := by
  unfold lowerCase
  exact cased_isSpelled case_tables.2.words (fun ascii letter => (ascii_alphanumeric ascii letter).2.2) spelled

theorem lowerWord_isSpelled {word : List Char} (letters : ∀ c ∈ word, isAlphanumeric c = true) :
    ∀ c ∈ lowerWord word, isSpelled c = true := by
  fun_induction lowerWord word with
  | case1 => simp
  | case2 =>
    intro c member
    rw [List.mem_singleton.mp member]
    decide
  | case3 first rest _ ih =>
    obtain ⟨here, later⟩ := List.forall_mem_cons.mp letters
    exact List.forall_mem_append.mpr ⟨lowerCase_isSpelled (alphanumeric_isSpelled here), ih later⟩

theorem capitalized_isSpelled {word : List Char} (letters : ∀ c ∈ word, isAlphanumeric c = true) :
    ∀ c ∈ capitalized word, isSpelled c = true := by
  cases word with
  | nil => simp [capitalized]
  | cons first rest =>
    obtain ⟨here, later⟩ := List.forall_mem_cons.mp letters
    exact List.forall_mem_append.mpr
      ⟨upperCase_isSpelled (alphanumeric_isSpelled here), lowerWord_isSpelled later⟩

theorem pascalCase_isSpelled (text : List Char) : ∀ c ∈ pascalCase text, isSpelled c = true := by
  intro c member
  obtain ⟨word, listed, inWord⟩ := List.mem_flatMap.mp member
  exact capitalized_isSpelled (word_alphanumeric listed) c inWord

theorem camelCase_isSpelled (text : List Char) : ∀ c ∈ camelCase text, isSpelled c = true := by
  have letters : ∀ word ∈ words text, ∀ c ∈ word, isAlphanumeric c = true :=
    fun word listed => word_alphanumeric listed
  unfold camelCase
  split
  · simp
  · next first rest listed =>
    rw [listed] at letters
    obtain ⟨here, later⟩ := List.forall_mem_cons.mp letters
    refine List.forall_mem_append.mpr ⟨lowerWord_isSpelled here, ?_⟩
    intro c member
    obtain ⟨word, inRest, inWord⟩ := List.mem_flatMap.mp member
    exact capitalized_isSpelled (later word inRest) c inWord

theorem trim_of_no_blank {text : List Char} (solid : ∀ c ∈ text, isBlank c = false) :
    trim text = text := by
  have kept (part : List Char) (solid : ∀ c ∈ part, isBlank c = false) :
      part.dropWhile isBlank = part := by
    cases part with
    | nil => rfl
    | cons first rest => simp [solid first List.mem_cons_self]
  unfold trim
  rw [kept text solid, kept text.reverse (by simpa using solid), List.reverse_reverse]

end ServerScaffold.Text
