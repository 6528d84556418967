import Mathlib.Data.List.Infix
import ServerScaffold.Proofs.Identifiers

/-!
What the classes of models are called. A token of the target stays as it is. All other classes are pascal cases behind
the prefix of the options, with an underscore before those that would begin in a numeral. No class of that kind is a
token, whatever the prefix, and behind one prefix two names have one class just if they have one pascal case. Without a
prefix the class of an ASCII name is a word of letters and numerals, which the target can take for the name of a class.
-/
namespace ServerScaffold

namespace Text

/-- A first letter or numeral of some kind, and then letters and numerals. -/
def isWordFrom (kind : Char → Bool) : List Char → Bool
  | [] => false
  | c :: rest => kind c && rest.all Char.isAlphanum

/-- Identifiers, each but the first in the scope that those before it name. -/
def IsScopedName (text : List Char) : Prop :=
  ∃ parts ≠ [], (∀ part ∈ parts, isIdentifier part = true) ∧ "::".toList.intercalate parts = text

theorem upper_not_digit {c : Char} (upper : c.isUpper = true) : c.isDigit = false := by
  refine Bool.eq_false_iff.mpr fun digit => ?_
  have first : 'A'.toNat ≤ c.toNat := (upper_code upper).1
  have last : c.toNat ≤ '9'.toNat :=
    UInt32.le_iff_toNat_le.mp (of_decide_eq_true (Bool.and_eq_true_iff.mp digit).2)
  exact absurd (first.trans last) (by decide)

theorem identifier_scoped {text : List Char} (identifier : isIdentifier text = true) : IsScopedName text :=
  ⟨[text], List.cons_ne_nil _ _, List.forall_mem_singleton.mpr identifier, by simp⟩

end Text

namespace Cpp

open Interface (beginsInLetter isAsciiName pascalName)
open Text (IsScopedName isAsciiLetter isIdentifier isSpelled isWordChar isWordFrom)

variable {settings : Settings} {name : String}

section SetApart

variable {start first second : String}

/-- An underscore sets apart what begins in a numeral. -/
def setApart (text : String) : String := if text.toList.head?.any Char.isDigit then "_" ++ text else text

theorem className_setApart (unknown : settings.isKnownToken name = false) :
    className settings name = setApart (settings.modelNamePrefix ++ pascalName name) := by
  rw [className, unknown]
  rfl

theorem setApart_numeral {text : String} (numeral : isWordFrom Char.isDigit text.toList = true) :
    setApart text = "_" ++ text := by
  cases letters : text.toList with
  | nil => simp [letters, isWordFrom] at numeral
  | cons c rest =>
    rw [letters, isWordFrom, Bool.and_eq_true] at numeral
    simp [setApart, letters, numeral.1]

theorem setApart_capital {text : String} (capital : isWordFrom Char.isUpper text.toList = true) :
    setApart text = text := by
  cases letters : text.toList with
  | nil => simp [letters, isWordFrom] at capital
  | cons c rest =>
    rw [letters, isWordFrom, Bool.and_eq_true] at capital
    simp [setApart, letters, Text.upper_not_digit capital.1]

theorem head_behind (some : start.toList ≠ []) (text : String) :
    (start ++ text).toList.head? = start.toList.head? := by
  rw [String.toList_append, List.head?_append_of_ne_nil _ some]

/-- What stands behind one start can be told from its being set apart, since it has no underscore of its own. -/
theorem setApart_inj (ofFirst : '_' ∉ first.toList) (ofSecond : '_' ∉ second.toList) :
    setApart (start ++ first) = setApart (start ++ second) ↔ first = second := by
  refine ⟨fun same => ?_, fun same => same ▸ rfl⟩
  by_cases empty : start.toList = []
  · obtain rfl : start = "" := String.toList_inj.mp empty
    simp only [String.empty_append, setApart] at same
    have marked {first second : String} (unmarked : '_' ∉ second.toList) : "_" ++ first ≠ second := by
      rintro rfl
      exact unmarked (by simp)
    split at same <;> split at same
    · exact (String.append_right_inj _).mp same
    · exact absurd same (marked ofSecond)
    · exact absurd same.symm (marked ofFirst)
    · exact same
  · simp only [setApart, head_behind empty] at same
    split at same
    · exact (String.append_right_inj _).mp ((String.append_right_inj _).mp same)
    · exact (String.append_right_inj _).mp same

end SetApart

theorem pascalName_isSpelled (name : String) : ∀ c ∈ (pascalName name).toList, isSpelled c = true := by
  rw [pascalName, String.toList_ofList]
  exact Text.pascalCase_isSpelled _

theorem pascalName_no_underscore (name : String) : '_' ∉ (pascalName name).toList :=
  fun member => absurd (pascalName_isSpelled name '_' member) (by decide)

/-- Behind any prefix the class shows the pascal case, and nothing else of a name. -/
theorem className_eq_iff {first second : String} (ofFirst : settings.isKnownToken first = false)
    (ofSecond : settings.isKnownToken second = false) :
    className settings first = className settings second ↔ pascalName first = pascalName second := by
  rw [className_setApart ofFirst, className_setApart ofSecond]
  exact setApart_inj (pascalName_no_underscore first) (pascalName_no_underscore second)

/-- An end of a token is no pascal case: it begins in a small letter, or there is punctuation in it. -/
theorem tokens_end_otherwise : ∀ token ∈ targetTokens, ∀ ending ∈ token.toList.tails,
    ending.all isSpelled = true → ending.head?.all Char.isLower = true := by
  decide

/-- With the built-in tables no class comes to be a token by its spelling, whatever the prefix. -/
theorem class_unknown (builtIn : BuiltIn settings) (unknown : settings.isKnownToken name = false) :
    settings.isKnownToken (className settings name) = false := by
  refine Bool.eq_false_iff.mpr fun known => ?_
  obtain ⟨mark, -, same⟩ := className_unknown unknown
  obtain ⟨c, rest, text, notLower⟩ := Interface.pascalName_head name
  have ending : (pascalName name).toList ∈ (className settings name).toList.tails := by
    rw [List.mem_tails, same, String.toList_append, String.toList_append, ← List.append_assoc]
    exact List.suffix_append _ _
  have lower := tokens_end_otherwise _ ((known_iff_target builtIn).mp known) _ ending
    (List.all_eq_true.mpr (pascalName_isSpelled name))
  rw [text, List.head?_cons, Option.all_some, notLower] at lower
  exact Bool.false_ne_true lower

/-- So a name that is no token stands for a class, in the namespace of the models. -/
theorem namedType_unknown (builtIn : BuiltIn settings) (unknown : settings.isKnownToken name = false) :
    namedType settings name = .model settings.modelScope? (className settings name) := by
  simp [namedType, class_unknown builtIn unknown]

theorem tokens_scoped : ∀ token ∈ targetTokens, IsScopedName token.toList := by
  have parts : ∀ token ∈ targetTokens,
      (token.toList.splitOn ':').filter (!·.isEmpty) ≠ [] ∧
      (∀ part ∈ (token.toList.splitOn ':').filter (!·.isEmpty), isIdentifier part = true) ∧
      "::".toList.intercalate ((token.toList.splitOn ':').filter (!·.isEmpty)) = token.toList := by
    decide
  intro token listed
  exact ⟨_, parts token listed⟩

/-- A letter or a numeral that is not small is a capital or a numeral. -/
theorem capital_or_numeral : ∀ c, isAsciiLetter c = true → c.isLower = false →
    (c.isAlpha || c == '_') = c.isUpper ∧ c.isDigit = !c.isUpper := by
  decide

/-- The pascal case of an ASCII name is a word that begins in a capital, or in a numeral if the name does. -/
theorem pascalName_word (ascii : isAsciiName name = true) :
    beginsInLetter name = true ∧ isWordFrom Char.isUpper (pascalName name).toList = true ∨
      beginsInLetter name = false ∧ isWordFrom Char.isDigit (pascalName name).toList = true := by
  obtain ⟨c, rest, text, notLower⟩ := Interface.pascalName_head name
  obtain ⟨word, identifier⟩ := Interface.pascalName_spells ascii
  have letters : ∀ d ∈ (pascalName name).toList, d.isAlphanum = true := by
    intro d member
    have kind := word d member
    rw [isWordChar, Bool.or_eq_true, beq_iff_eq] at kind
    refine kind.resolve_right fun underscore => ?_
    exact pascalName_no_underscore name (underscore ▸ member)
  rw [text] at letters word identifier ⊢
  obtain ⟨first, later⟩ := List.forall_mem_cons.mp letters
  have ofRest : rest.all Char.isAlphanum = true := List.all_eq_true.mpr later
  have words : rest.all isWordChar = true := List.all_eq_true.mpr (List.forall_mem_cons.mp word).2
  have letter : isAsciiLetter c = true := Bool.and_eq_true_iff.mpr ⟨Text.alphanum_isAscii first, first⟩
  obtain ⟨begins, numeral⟩ := capital_or_numeral c letter notLower
  rw [isIdentifier, words, Bool.and_true, begins] at identifier
  cases upper : c.isUpper with
  | true => exact Or.inl ⟨identifier.mp upper, by simp [isWordFrom, ofRest, upper]⟩
  | false =>
    have noLetter : beginsInLetter name = false :=
      Bool.eq_false_iff.mpr fun begun => absurd (identifier.mpr begun) (by simp [upper])
    exact Or.inr ⟨noLetter, by simp [isWordFrom, ofRest, numeral, upper]⟩

/-- Without options the class of an ASCII name is the name itself if that is a token, and else an identifier: a word
that begins in a capital or, behind one underscore, in a numeral, as the name does. So it can always be taken for the
name of a type, be it one in a scope. -/
theorem class_is_token_or_word (ascii : isAsciiName name = true) :
    let text := (className standard name).toList
    (standard.isKnownToken name = true ∧ className standard name = name ∨
      standard.isKnownToken name = false ∧ isIdentifier text = true ∧
        (beginsInLetter name = true ∧ isWordFrom Char.isUpper text = true ∨
          beginsInLetter name = false ∧
            ∃ word, text = '_' :: word ∧ isWordFrom Char.isDigit word = true)) ∧
    IsScopedName text := by
  intro text
  cases known : standard.isKnownToken name with
  | true =>
    have itself : className standard name = name := className_known known
    have token := (known_iff_target standard_builtIn).mp known
    exact ⟨Or.inl ⟨rfl, itself⟩, tokens_scoped _ (itself.symm ▸ token)⟩
  | false =>
    have identifier : isIdentifier text = true := className_identifier ascii known
    have unprefixed : standard.modelNamePrefix ++ pascalName name = pascalName name := String.empty_append
    have spelled : className standard name = setApart (pascalName name) := by
      rw [className_setApart known, unprefixed]
    refine ⟨Or.inr ⟨rfl, identifier, ?_⟩, Text.identifier_scoped identifier⟩
    rcases pascalName_word ascii with ⟨begins, word⟩ | ⟨begins, word⟩
    · have plain : text = (pascalName name).toList :=
        congrArg String.toList (spelled.trans (setApart_capital word))
      exact Or.inl ⟨begins, plain ▸ word⟩
    · have marked : text = '_' :: (pascalName name).toList := by
        have class_ := congrArg String.toList (spelled.trans (setApart_numeral word))
        rw [String.toList_append] at class_
        exact class_
      exact Or.inr ⟨begins, _, marked, word⟩

/-- A name that begins in a numeral, one of punctuation alone, and one with acronyms. -/
theorem odd_names_have_classes :
    (isAsciiName "200_response" = true ∧ isAsciiName "???" = true ∧ isAsciiName "XMLHttp-request.v2" = true) ∧
    IsScopedName (className standard "200_response").toList ∧
    IsScopedName (className standard "???").toList ∧
    IsScopedName (className standard "XMLHttp-request.v2").toList ∧
    ["200_response", "???", "XMLHttp-request.v2"].map (className standard) =
      ["_200Response", "Unnamed", "XmlHttpRequestV2"] := by
  have ascii : isAsciiName "200_response" = true ∧ isAsciiName "???" = true ∧
      isAsciiName "XMLHttp-request.v2" = true := by
    decide
  exact ⟨ascii, (class_is_token_or_word ascii.1).2, (class_is_token_or_word ascii.2.1).2,
    (class_is_token_or_word ascii.2.2).2, by decide⟩

end Cpp

end ServerScaffold
