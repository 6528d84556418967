import ServerScaffold.Cpp.Initial
import ServerScaffold.Proofs.Directives
import ServerScaffold.Proofs.Numerals
import ServerScaffold.Proofs.Searches

/-!
What the initial values of leaves are as literals of the target. The default of a float becomes a float literal
just if its number is written with a point or without a power of ten. The default of a text becomes a string
literal that reads back as that text, unless the text itself breaks the line. And of all nodes only booleans,
doubles and integers can be without any initial value, when their default is the empty text.
-/
namespace ServerScaffold

/-- A raw line break, which no string literal holds. -/
def Text.isLineBreak (c : Char) : Bool := c == '\n' || c == '\r'

namespace Literal

open Text (isLineBreak)

theorem ascii_escaped_unbroken : ∀ c, Text.isAscii c = true → (escaped c).any isLineBreak = false := by
  decide

theorem escaped_unbroken (c : Char) : (escaped c).any isLineBreak = false := by
  -- Every character that has an escape of its own is below 128.
  cases ascii : Text.isAscii c with
  | true => exact ascii_escaped_unbroken c ascii
  | false =>
    have other (mark : Char) (marked : Text.isAscii mark = true) : c ≠ mark := by
      rintro rfl
      rw [ascii] at marked
      contradiction
    have printed : ¬ c.toNat < 0x20 := by
      simp only [Text.isAscii, decide_eq_false_iff_not] at ascii
      omega
    simp [escaped, isLineBreak, printed, other '"' rfl, other '\\' rfl, other '\x08' rfl, other '\x0c' rfl,
      other '\n' rfl, other '\r' rfl, other '\t' rfl]

theorem quotedText_unbroken (text : List Char) : (quotedText text).any isLineBreak = false := by
  have inside : (text.flatMap escaped).any isLineBreak = false := by
    rw [List.any_flatMap, List.any_eq_false]
    intro c _
    simp [escaped_unbroken c]
  simp [quotedText, inside, isLineBreak]

theorem atomText_unbroken (value : Source.Atom) : (atomText value).any isLineBreak = false := by
  cases value with
  | null => rfl
  | bool value => cases value <;> rfl
  | text value => exact quotedText_unbroken _
  | number value =>
    have feed : '\n' ∉ value.text := value.text_lacks rfl (by decide)
    have carriage : '\r' ∉ value.text := value.text_lacks rfl (by decide)
    have written : atomText (.number value) = value.text := rfl
    rw [written, List.any_eq_false]
    intro c member
    have noFeed : c ≠ '\n' := fun same => feed (same ▸ member)
    have noCarriage : c ≠ '\r' := fun same => carriage (same ▸ member)
    simp [isLineBreak, noFeed, noCarriage]

mutual

/-- JSON text escapes the line breaks in its texts, and is written without any. -/
theorem chars_unbroken : ∀ literal : Literal, literal.chars.any isLineBreak = false
  | .atom value => atomText_unbroken value
  | .list items => by
    have inside := items_unbroken items
    simp [chars, inside, isLineBreak]
  | .object entries => by
    have inside := entries_unbroken entries
    simp [chars, inside, isLineBreak]

theorem items_unbroken : ∀ items : List Literal, (itemChars items).any isLineBreak = false
  | [] => rfl
  | [item] => chars_unbroken item
  | item :: next :: rest => by
    have here := chars_unbroken item
    have later := items_unbroken (next :: rest)
    simp [itemChars, here, later, isLineBreak]

theorem entries_unbroken : ∀ entries : List (String × Literal), (entryChars entries).any isLineBreak = false
  | [] => rfl
  | [(name, value)] => by
    have here := chars_unbroken value
    simp [entryChars, quotedText_unbroken, here, isLineBreak]
  | (name, value) :: next :: rest => by
    have here := chars_unbroken value
    have later := entries_unbroken (next :: rest)
    simp [entryChars, quotedText_unbroken, here, later, isLineBreak]

end

/-- Every literal has a text; even the empty text is written with its quotes. -/
theorem text_some (literal : Literal) : literal.text ≠ "" := by
  rw [ne_eq, ← String.toList_inj, text, String.toList_ofList]
  cases literal with
  | list items => simp [chars]
  | object entries => simp [chars]
  | atom value =>
    cases value with
    | null => exact List.cons_ne_nil _ _
    | bool value => cases value <;> exact List.cons_ne_nil _ _
    | number value => exact value.text_some
    | text value => exact List.cons_ne_nil _ _

end Literal

namespace Cpp

open Interface (Leaf Node)
open Number (Digits Fraction OneDigitPower Power Signed)
open Text (isLineBreak)

section Floats

/-- A float literal: a sign or none, digits, a point, digits, a power of ten or none, and the suffix. -/
def FloatLiteral (text : String) : Prop := ∃ numeral, Signed Fraction numeral ∧ text.toList = numeral ++ ['f']

variable {numeral : List Char}

theorem floatText_pointed (point : '.' ∈ numeral) :
    (floatText (String.ofList numeral)).toList = numeral ++ ['f'] := by
  simp [floatText, point]

theorem floatText_unpointed (none : '.' ∉ numeral) :
    (floatText (String.ofList numeral)).toList = numeral ++ ['.', '0', 'f'] := by
  simp [floatText, none]

theorem pointed_literal (pointed : Signed Fraction numeral) : FloatLiteral (floatText (String.ofList numeral)) := by
  obtain ⟨run, rest, ⟨digits, power, -, -, rfl⟩, rfl, -⟩ := Number.signed_run pointed
  exact ⟨_, pointed, floatText_pointed (by simp)⟩

theorem whole_literal (whole : Signed (· = []) numeral) : FloatLiteral (floatText (String.ofList numeral)) := by
  have none : '.' ∉ numeral :=
    Number.signed_lacks whole rfl (by decide) fun rest ends => ends ▸ List.not_mem_nil
  obtain ⟨sign, unsigned, signed, ⟨digits, rest, written, rfl, rfl⟩, rfl⟩ := whole
  have zero : Digits ['0'] := ⟨by simp, by simp⟩
  refine ⟨_, ⟨sign, _, signed, ⟨digits, _, written, ⟨['0'], [], zero, Or.inl rfl, rfl⟩, rfl⟩, rfl⟩, ?_⟩
  rw [floatText_unpointed none]
  simp

/-- Behind a power of ten no point is allowed any more. -/
theorem power_no_literal (power : Signed Power numeral) : ¬ FloatLiteral (floatText (String.ofList numeral)) := by
  have none : '.' ∉ numeral :=
    Number.signed_lacks power rfl (by decide) fun rest ends => Number.power_lacks ends rfl (by decide)
  rintro ⟨other, pointed, same⟩
  rw [floatText_unpointed none] at same
  -- Both begin in a run of digits and minus signs: one ends at the `e` of the power, the other at its point.
  obtain ⟨run, rest, ⟨sign, digits, -, -, rfl⟩, rfl, ofRun⟩ := Number.signed_run power
  obtain ⟨front, later, ⟨places, scale, -, -, rfl⟩, rfl, ofFront⟩ := Number.signed_run pointed
  have begun : run ++ 'e' :: (sign ++ digits ++ ['.', '0', 'f']) = front ++ '.' :: (places ++ scale ++ ['f']) := by
    simpa using same
  have ends := (Text.run_unique ofRun ofFront (by simp) (by simp) begun).2
  exact absurd (List.cons.inj ends).1 (by decide)

theorem initial_float (settings : Settings) (number : Number) :
    initial settings (.leaf .float (some (.atom (.number number)))) = floatText (String.ofList number.text) := rfl

/-- The default of a float becomes a float literal, unless it is a number that is written as one digit and a
power of ten. -/
theorem float_default_literal_iff (settings : Settings) (number : Number) :
    FloatLiteral (initial settings (.leaf .float (some (.atom (.number number))))) ↔ ¬ OneDigitPower number := by
  rw [initial_float]
  constructor
  · intro literal power
    exact power_no_literal (Number.text_of_power power) literal
  · intro others
    rcases Number.text_of_others others with whole | pointed
    · exact whole_literal whole
    · exact pointed_literal pointed

/-- The double `10 ^ 16` is written as one digit and a power. -/
def tenQuadrillions : Number := .double 0x4341C37937E08000

theorem ten_quadrillions_no_literal :
    initial standard (.leaf .float (some (.atom (.number tenQuadrillions)))) = "1e+16.0f" ∧
      ¬ FloatLiteral (initial standard (.leaf .float (some (.atom (.number tenQuadrillions))))) := by
  have power : OneDigitPower tenQuadrillions :=
    ⟨by decide, 1, 0, by decide, by decide, by decide, by decide⟩
  refine ⟨by decide, ?_⟩
  rw [initial_float]
  exact power_no_literal (Number.text_of_power power)

end Floats

section Texts

/-- Reads a string literal from behind its opening quote, and gives what it stands for and what follows its closing
quote. `taken` tells that a backslash has just been read, which takes the next character as it is. -/
def readOn (taken : Bool) : List Char → Option (List Char × List Char)
  | [] => none
  | c :: rest =>
    if isLineBreak c then none
    else if taken then (readOn false rest).map fun (text, left) => (c :: text, left)
    else if c = '"' then some ([], rest)
    else if c = '\\' then readOn true rest
    else (readOn false rest).map fun (text, left) => (c :: text, left)

/-- What a string literal stands for, if it ends with its closing quote. -/
def readLiteral (literal : String) : Option String :=
  match literal.toList with
  | '"' :: rest =>
    match readOn false rest with
    | some (text, []) => some (String.ofList text)
    | _ => none
  | _ => none

/-- The kinds of leaves whose values are texts. -/
def isTextual : Leaf → Bool
  | .string | .date | .dateTime | .byteArray | .binary | .uuid | .uri | .enumeration _ => true
  | .boolean | .integer | .long | .float | .double | .any => false

def escapedChar (c : Char) : List Char := if c = '"' ∨ c = '\\' then ['\\', c] else [c]

theorem quoted_text (text : String) :
    (quoted text).toList = '"' :: (text.toList.flatMap escapedChar ++ ['"']) := by
  simp only [quoted, String.toList_ofList]
  rfl

theorem readOn_escapedChar (c : Char) (rest : List Char) :
    readOn false (escapedChar c ++ rest) =
      if isLineBreak c then none else (readOn false rest).map fun (text, left) => (c :: text, left) := by
  unfold escapedChar
  by_cases quote : c = '"'
  · subst quote
    rfl
  by_cases slash : c = '\\'
  · subst slash
    rfl
  simp [readOn, quote, slash]

/-- An escaped text reads back up to the quote behind it, unless it breaks the line. -/
theorem readOn_escaped (text rest : List Char) :
    readOn false (text.flatMap escapedChar ++ '"' :: rest) =
      if text.any isLineBreak then none else some (text, rest) := by
  induction text with
  | nil => rfl
  | cons c text ih =>
    rw [List.flatMap_cons, List.append_assoc, readOn_escapedChar, ih, List.any_cons]
    cases isLineBreak c <;> cases text.any isLineBreak <;> rfl

theorem readLiteral_quoted (text : String) :
    readLiteral (quoted text) = if text.toList.any isLineBreak then none else some text := by
  unfold readLiteral
  rw [quoted_text]
  simp only [readOn_escaped]
  cases text.toList.any isLineBreak <;> simp

variable {kind : Leaf} {value : Option Literal} {text : String}

theorem leafInitial_textual (textual : isTextual kind = true) (default : Option String) :
    leafInitial kind default = quoted (default.getD "") := by
  cases kind with
  | string | date | dateTime | byteArray | binary | uuid | uri | enumeration _ => rfl
  | boolean | integer | long | float | double | any => contradiction

/-- Only a default that is a text itself can break the line. -/
theorem default_breaks_iff (given : (Node.leaf kind value).defaultText? = some text) :
    text.toList.any isLineBreak = false ↔
      ∀ written, value = some (.atom (.text written)) → written.toList.any isLineBreak = false := by
  match value with
  | none | some (.atom .null) => contradiction
  | some (.atom (.text written)) =>
    obtain rfl := Option.some.inj given
    simp
  | some (.atom (.bool _)) | some (.atom (.number _)) | some (.list _) | some (.object _) =>
    obtain rfl := Option.some.inj given
    simp [Literal.text, Literal.chars_unbroken]

/-- The initial value of a text with a default reads back as the default just if the default is no text that breaks
the line; and it never reads back as anything else. -/
theorem text_default_reads_back_iff (textual : isTextual kind = true) (settings : Settings)
    (given : (Node.leaf kind value).defaultText? = some text) :
    (readLiteral (initial settings (.leaf kind value)) = some text ↔
      ∀ written, value = some (.atom (.text written)) → written.toList.any isLineBreak = false) ∧
    ∀ other, readLiteral (initial settings (.leaf kind value)) = some other → other = text := by
  have literal : initial settings (.leaf kind value) = quoted text := by
    rw [initial, given, leafInitial_textual textual, Option.getD_some]
  rw [literal, readLiteral_quoted, ← default_breaks_iff given]
  cases text.toList.any isLineBreak with
  | true => simp
  | false => simp [eq_comm]

/-- An object with quotes, backslashes and a line break in its only value. -/
def paths : Literal := .object [("home", .atom (.text "\"C:\\\n\""))]

theorem paths_read_back :
    (Node.leaf .string (some paths)).defaultText? = some paths.text ∧
      readLiteral (initial standard (.leaf .string (some paths))) = some paths.text := by
  have given : (Node.leaf .string (some paths)).defaultText? = some paths.text := rfl
  exact ⟨given, (text_default_reads_back_iff rfl standard given).1.mpr nofun⟩

theorem broken_line_reads_not_back :
    (Node.leaf .string (some (.atom (.text "a\nb")))).defaultText? = some "a\nb" ∧
      initial standard (.leaf .string (some (.atom (.text "a\nb")))) = "\"a\nb\"" ∧
      readLiteral (initial standard (.leaf .string (some (.atom (.text "a\nb"))))) = none := by
  decide

end Texts

section Emptiness

variable {kind : Leaf} {default : Option String} {node : Node}

theorem append_some {front last : String} (some : last ≠ "") : front ++ last ≠ "" := by
  rw [ne_eq, ← String.toList_inj, String.toList_append, String.toList_empty, List.append_eq_nil_iff]
  exact fun both => some (String.toList_inj.mp both.2)

theorem quoted_some (text : String) : quoted text ≠ "" := by
  rw [ne_eq, ← String.toList_inj, quoted_text]
  exact List.cons_ne_nil _ _

theorem floatText_some (text : String) : floatText text ≠ "" := by
  unfold floatText
  split
  · exact append_some (by decide)
  · exact append_some (by decide)

theorem lowered_empty_iff {text : String} : Text.lowerText text.toList = [] ↔ text = "" := by
  rw [Text.lowerText, Text.lowerFrom_eq_nil, String.toList_eq_nil_iff]

/-- The kinds of leaves whose defaults are taken as they are, but for the case of a boolean. -/
def openKinds : List Leaf := [.boolean, .double, .integer]

theorem leafInitial_empty_iff : leafInitial kind default = "" ↔ kind ∈ openKinds ∧ default = some "" := by
  cases kind with
  | string | date | dateTime | byteArray | binary | uuid | uri | enumeration _ =>
    simp [leafInitial, openKinds, quoted_some]
  | float => simp [leafInitial, openKinds, floatText_some]
  | long =>
    have suffixed : default.getD "0" ++ "L" ≠ "" := append_some (by decide)
    simp [leafInitial, openKinds, suffixed]
  | any => simp [leafInitial, openKinds, nullToken]
  | boolean => cases default <;> simp [leafInitial, openKinds, lowered_empty_iff]
  | double | integer => cases default <;> simp [leafInitial, openKinds]

/-- Among the defaults only the empty text has an empty text. -/
theorem default_empty_iff : node.defaultText? = some "" ↔ node.default? = some (.atom (.text "")) := by
  unfold Node.defaultText?
  split
  · next given => simp [given]
  · next given => simp [given]
  · next given => simp [given]
  · next value _ noText given =>
    have different : value ≠ .atom (.text "") := noText ""
    simp [given, different, value.text_some]

/-- The initial value of a node is empty just if the node is a boolean, a double or an integer whose default is the
empty text. -/
theorem initial_empty_iff (settings : Settings) (node : Node) :
    initial settings node = "" ↔ ∃ kind ∈ openKinds, node = .leaf kind (some (.atom (.text ""))) := by
  cases node with
  | leaf kind value =>
    rw [initial, leafInitial_empty_iff, default_empty_iff]
    simp [Node.default?]
  | holder container element value =>
    have called (type : String) : type ++ "()" ≠ "" := append_some (by decide)
    cases container <;> simp [initial, called]
  | ref name value =>
    have made (type : String) : makeSharedToken ++ "<" ++ type ++ ">()" ≠ "" := append_some (by decide)
    simp only [initial, reduceCtorEq, and_false, exists_false, iff_false]
    split
    · exact made _
    · decide
  | union branches value => simp [initial, nullToken]

/-- Booleans, doubles and integers whose default is the empty text have nothing for an initial value. -/
theorem empty_defaults_no_literal :
    openKinds.map (fun kind => initial standard (.leaf kind (some (.atom (.text ""))))) = ["", "", ""] := by
  rfl

end Emptiness

end Cpp

end ServerScaffold
