import ServerScaffold.Text.Ranges

/-!
Character classes and case maps. ASCII is decided by core's tests; everything above it by the
ranges of the character database.
-/
namespace ServerScaffold.Text

def inRanges (ranges : List (Nat × Nat)) (code : Nat) : Bool :=
  ranges.any fun (first, last) => first ≤ code && code ≤ last

def inStrided (ranges : List (Nat × Nat × Nat)) (code : Nat) : Bool :=
  ranges.any fun (first, last, stride) =>
    first ≤ code && code ≤ last && (code - first) % stride == 0

def isAscii (c : Char) : Bool := c.toNat < 0x80

def isAlphanumeric (c : Char) : Bool :=
  if isAscii c then c.isAlphanum else inRanges alphanumericRanges c.toNat

def isUpperCase (c : Char) : Bool :=
  if isAscii c then c.isUpper else inStrided upperCaseRanges c.toNat

def isLowerCase (c : Char) : Bool :=
  if isAscii c then c.isLower else inStrided lowerCaseRanges c.toNat

def isCased (c : Char) : Bool :=
  if isAscii c then c.isAlpha else inRanges casedRanges c.toNat

/-- Marks and punctuation that stand inside a word without ending it: in ASCII `'`, `.`, `:`, `^`
and the grave accent. -/
def isCaseIgnorable (c : Char) : Bool :=
  if isAscii c then
    c == '\x27' || c == '.' || c == ':' || c == '^' || c == '\x60'
  else
    inRanges caseIgnorableRanges c.toNat

/-- White space in the sense of the character database. -/
def isBlank (c : Char) : Bool :=
  inRanges [(0x09, 0x0D), (0x20, 0x20), (0x85, 0x85), (0xA0, 0xA0), (0x1680, 0x1680),
    (0x2000, 0x200A), (0x2028, 0x2029), (0x202F, 0x202F), (0x205F, 0x205F), (0x3000, 0x3000)] c.toNat

/-- Whether the character has a glyph of its own, so that it can be shown without an escape. -/
def isPrintable (c : Char) : Bool :=
  if isAscii c then 0x20 ≤ c.toNat && c.toNat < 0x7F
  else !inRanges unprintableRanges c.toNat && !inRanges combiningRanges c.toNat

def shifted (shifts : List (Nat × Nat × Nat × Int)) (code : Nat) : Nat :=
  match shifts.find? fun (first, last, stride, _) =>
      first ≤ code && code ≤ last && (code - first) % stride == 0 with
  | some (_, _, _, distance) => (code + distance).toNat
  | none => code

def mapCase (texts : List (Nat × List Nat)) (shifts : List (Nat × Nat × Nat × Int)) (c : Char) :
    List Char :=
  match texts.find? fun (code, _) => code == c.toNat with
  | some (_, text) => text.map Char.ofNat
  | none => [Char.ofNat (shifted shifts c.toNat)]

/-- The upper case of one character, which may be several. -/
def upperCase (c : Char) : List Char :=
  if isAscii c then [c.toUpper] else mapCase upperCaseTexts upperCaseShifts c

/-- The lower case of one character, without regard to its place in a word. -/
def lowerCase (c : Char) : List Char :=
  if isAscii c then [c.toLower] else mapCase lowerCaseTexts lowerCaseShifts c

def upperText (text : List Char) : List Char := text.flatMap upperCase

/-- Whether, past characters that do not end a word, a cased character comes first. -/
def casedAhead (text : List Char) : Bool :=
  match text.dropWhile isCaseIgnorable with
  | c :: _ => isCased c
  | [] => false

/-- The lower case of `text` that follows `before` (given backwards). A capital sigma at the end of
a word becomes a final sigma. -/
def lowerFrom (before : List Char) : List Char → List Char
  | [] => []
  | c :: rest =>
    let lowered :=
      if c == 'Σ' then
        if casedAhead before && !casedAhead rest then ['ς'] else ['σ']
      else lowerCase c
    lowered ++ lowerFrom (c :: before) rest

def lowerText (text : List Char) : List Char := lowerFrom [] text

def trim (text : List Char) : List Char :=
  ((text.dropWhile isBlank).reverse.dropWhile isBlank).reverse

end ServerScaffold.Text
