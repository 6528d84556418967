import ServerScaffold.Source.Numeral
import ServerScaffold.Source.Tree

/-!
The type of a scalar that nothing is expected of. A plain scalar is typed by its text, any other is
a text; a tag decides instead of the way the scalar is written.
-/
namespace ServerScaffold.Source

def isNullWord (text : String) : Bool :=
  text == "null" || text == "Null" || text == "NULL" || text == "~"

def boolWord? (text : String) : Option Bool :=
  if text == "true" || text == "True" || text == "TRUE" then some true
  else if text == "false" || text == "False" || text == "FALSE" then some false
  else none

def digitIn? (radix : Nat) (c : Char) : Option Nat :=
  let value :=
    if '0' ≤ c ∧ c ≤ '9' then c.toNat - '0'.toNat
    else if 'a' ≤ c ∧ c ≤ 'f' then c.toNat - 'a'.toNat + 10
    else if 'A' ≤ c ∧ c ≤ 'F' then c.toNat - 'A'.toNat + 10
    else radix
  if value < radix then some value else none

def naturalIn? (radix : Nat) : List Char → Option Nat
  | [] => none
  | digits => digits.foldlM (fun n c => (digitIn? radix c).map (radix * n + ·)) 0

/-- Digits that begin with a superfluous zero are no number. -/
def hasLeadingZero (text : List Char) : Bool :=
  match (match text with | '-' :: rest => rest | '+' :: rest => rest | _ => text) with
  | '0' :: rest => !rest.isEmpty && rest.all isDigit
  | _ => false

/-- An integer without its sign, by its digits in base ten, sixteen, eight or two. -/
def magnitude? : List Char → Option Nat
  | '0' :: 'x' :: rest => naturalIn? 16 rest
  | '0' :: 'o' :: rest => naturalIn? 8 rest
  | '0' :: 'b' :: rest => naturalIn? 2 rest
  | digits => if hasLeadingZero digits then none else naturalIn? 10 digits

/-- A decimal numeral: sign, digits, point, exponent. -/
structure DecimalText where
  negative : Bool
  digits : Nat
  exponent : Int

def decimalText? (text : List Char) : Option DecimalText := do
  let (negative, text) := match text with
    | '-' :: rest => (true, rest)
    | '+' :: rest => (false, rest)
    | _ => (false, text)
  let whole := text.takeWhile isDigit
  let text := text.dropWhile isDigit
  let (fraction, text) := match text with
    | '.' :: rest => (rest.takeWhile isDigit, rest.dropWhile isDigit)
    | _ => ([], text)
  if whole.isEmpty && fraction.isEmpty then none
  let exponent : Int ← match text with
    | [] => some 0
    | c :: rest =>
      if c ≠ 'e' ∧ c ≠ 'E' then none
      else match rest with
        | '-' :: rest => (naturalIn? 10 rest).map fun n => -(n : Int)
        | '+' :: rest => (naturalIn? 10 rest).map fun n => (n : Int)
        | rest => (naturalIn? 10 rest).map fun n => (n : Int)
  return ⟨negative, digitsValue (whole ++ fraction), exponent - fraction.length⟩

/-- The nearest double. What is far outside the range of doubles is not computed. -/
def DecimalText.toFloat (x : DecimalText) : Float :=
  let places : Int := (Nat.toDigits 10 x.digits).length + x.exponent
  let magnitude :=
    if x.digits = 0 ∨ places < -400 then 0.0
    else if 400 < places then 1.0 / 0.0
    else Float.ofScientific x.digits (x.exponent < 0) x.exponent.natAbs
  if x.negative then -magnitude else magnitude

/-- A floating point number. An infinity is spelled with a leading point, and so is what is no number,
which has no sign. -/
def float? (text : List Char) : Option Float :=
  let unsigned := match text with
    | '+' :: rest => rest
    | _ => text
  if text.head? = some '+' ∧ unsigned.head?.any (fun c => c == '+' || c == '-') then none
  else if [".inf".toList, ".Inf".toList, ".INF".toList].contains unsigned then some (1.0 / 0.0)
  else if ["-.inf".toList, "-.Inf".toList, "-.INF".toList].contains text then some (-1.0 / 0.0)
  else if [".nan".toList, ".NaN".toList, ".NAN".toList].contains text then some (0.0 / 0.0)
  else do
    let value := (← decimalText? unsigned).toFloat
    if value.isFinite then some value else none

/-- The number if 64 bits hold it, and an error if only 128 do. -/
def sized (number : Number) (inShort inLong : Bool) : Except Unit (Option Number) :=
  if inShort then .ok (some number) else if inLong then .error () else .ok none

/-- An integer of 64 bits as a number; an error for one that takes up to 128 bits. -/
def integer? (text : List Char) : Except Unit (Option Number) :=
  let natural (digits : List Char) : Except Unit (Option Number) :=
    match magnitude? digits with
    | none => .ok none
    | some n => sized (.natural n) (n < Nat.pow 2 64) (n < Nat.pow 2 128)
  match text with
  | '-' :: digits =>
    match magnitude? digits with
    | none => .ok none
    | some n => sized (.negated n) (n ≤ Nat.pow 2 63) (n ≤ Nat.pow 2 127)
  | '+' :: digits => natural digits
  | digits => natural digits

def double (value : Float) : Atom := .number (.double value.toBits)

def plainAtom? (text : String) : Option Atom :=
  if text == "" || isNullWord text then some .null
  else match boolWord? text with
    | some value => some (.bool value)
    | none =>
      match integer? text.toList with
      | .error _ => none
      | .ok (some number) => some (.number number)
      | .ok none =>
        if hasLeadingZero text.toList then some (.text text)
        else some (((float? text.toList).map double).getD (.text text))

def coreTag (name : String) : List UInt8 := ("tag:yaml.org,2002:" ++ name).toUTF8.toList

/-- The name in a tag of the document's own, which begins with `!`. -/
def ownTag? : Option (List UInt8) → Option String
  | some (0x21 :: name) => String.fromUTF8? ⟨name.toArray⟩
  | _ => none

namespace Scalar

/-- The value of a scalar; none if it has a tag of the document's own, or a tag it does not fit. -/
def atom? (s : Scalar) : Option Atom :=
  match s.tag with
  | none => if s.style = .plain then plainAtom? s.text else some (.text s.text)
  | some tag =>
    if (ownTag? s.tag).isSome then none
    else if tag = coreTag "bool" then (boolWord? s.text).map .bool
    else if tag = coreTag "int" then
      match integer? s.text.toList with
      | .ok (some number) => some (.number number)
      | _ => none
    else if tag = coreTag "float" then (float? s.text.toList).map double
    else if tag = coreTag "null" then if isNullWord s.text then some .null else none
    else if tag.head? = some 0x21 ∧ s.style = .plain then plainAtom? s.text
    else some (.text s.text)

def bool? (s : Scalar) : Option Bool :=
  if s.style = .plain ∨ s.style = .literal ∧ s.tag = some (coreTag "bool") then boolWord? s.text
  else none

/-- Whether a scalar stands for an absent value; none if its tag says so and its text does not. -/
def isAbsent? (s : Scalar) : Option Bool :=
  if s.style ≠ .plain then some false
  else match s.tag with
    | none => some (s.text == "" || isNullWord s.text)
    | some tag =>
      if tag = coreTag "null" then if isNullWord s.text then some true else none else some false

/-- Whether nothing is written, which is how an empty collection may be written. -/
def isBlank (s : Scalar) : Bool := s.text == "" && s.style == .plain

/-- The choice that a scalar names, by its text or by its tag. -/
def choice? (s : Scalar) : Option String :=
  match ownTag? s.tag with
  | none => some s.text
  | some name =>
    if s.style = .plain ∧ (s.text = "" ∨ isNullWord s.text) then some name else none

end Scalar

end ServerScaffold.Source
