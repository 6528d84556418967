import ServerScaffold.Source.Fault

/-!
Numerals of JSON. A numeral keeps as many of its digits as fit 64 bits; the digits after these only
move the point. What is not an integer of 64 bits becomes a double: the kept digits, rounded, times
or over a rounded power of ten.
-/
namespace ServerScaffold.Source

structure Numeral where
  negative : Bool
  whole : List Char
  fraction : Option (List Char)
  exponent : Option (Bool × List Char)
deriving DecidableEq, Repr

def isDigit (c : Char) : Bool := '0' ≤ c && c ≤ '9'

def digitValue (c : Char) : Nat := c.toNat - '0'.toNat

def digitsValue (digits : List Char) : Nat := digits.foldl (fun n c => 10 * n + digitValue c) 0

/-- Appends digits while the value stays within 64 bits; the second part counts the digits left. -/
def keepDigits (kept : Nat) : List Char → Nat × Nat
  | [] => (kept, 0)
  | c :: rest =>
    if 10 * kept + digitValue c < 2 ^ 64 then keepDigits (10 * kept + digitValue c) rest
    else (kept, rest.length + 1)

def tenTo (n : Nat) : Float := Float.ofScientific 1 false n

/-- `f * 10 ^ e`, in at most `steps` steps of 308 places downwards; none if it is too large. -/
def scale? (f : Float) (e : Int) : Nat → Option Float
  | 0 => some f
  | steps + 1 =>
    if e.natAbs ≤ 308 then
      if 0 ≤ e then
        let product := f * tenTo e.toNat
        if product.isInf then none else some product
      else some (f / tenTo e.natAbs)
    else if f == 0.0 then some f
    else if 0 ≤ e then none
    else scale? (f / tenTo 308) (e + 308) steps

namespace Numeral

def signed (x : Numeral) (f : Float) : Number := .double (if x.negative then -f else f).toBits

def double? (x : Numeral) (kept : Nat) (exponent : Int) : Option Number :=
  (scale? (Float.ofScientific kept false 0) exponent 4).map x.signed

/-- The number written; none if it is too large for a double. -/
def number? (x : Numeral) : Option Number :=
  let (kept, left) := keepDigits 0 x.whole
  let fraction := x.fraction.getD []
  let (kept', left') := keepDigits kept fraction
  let shift : Int := (left : Int) - (fraction.length - left' : Nat)
  match x.fraction, x.exponent with
  | none, none =>
    if left ≠ 0 then x.double? kept left
    else if !x.negative then some (.natural kept)
    else if kept = 0 ∨ Nat.pow 2 63 < kept then some (x.signed (Float.ofScientific kept false 0))
    else some (.negated kept)
  | _, none => x.double? kept' shift
  | _, some (down, digits) =>
    let exponent : Int := digitsValue digits
    if exponent < (Nat.pow 2 31 : Nat) then x.double? kept' (shift + if down then -exponent else exponent)
    else if kept' ≠ 0 ∧ !down then none
    else some (x.signed 0.0)

end Numeral

/-- What is wrong with a numeral: to a reader, and to one who passes over it. -/
structure BadNumeral where
  reading : Fault
  skipping : Fault

def missingDigit : List Char → BadNumeral
  | [] => ⟨.endInValue, .invalidNumber⟩
  | _ => ⟨.invalidNumber, .invalidNumber⟩

/-- The exponent at the start of a text, if there is one. -/
def scanExponent : List Char → Except BadNumeral (Option (Bool × List Char) × List Char)
  | c :: rest =>
    if c = 'e' ∨ c = 'E' then
      let (down, rest) := match rest with
        | '+' :: rest => (false, rest)
        | '-' :: rest => (true, rest)
        | rest => (false, rest)
      match rest.takeWhile isDigit with
      | [] => .error (missingDigit rest)
      | digits => .ok (some (down, digits), rest.dropWhile isDigit)
    else .ok (none, c :: rest)
  | [] => .ok (none, [])

/-- The point and the digits after it, if the text starts with a point. -/
def scanFraction : List Char → Except BadNumeral (Option (List Char) × List Char)
  | '.' :: rest =>
    match rest.takeWhile isDigit with
    | [] => .error (missingDigit rest)
    | digits => .ok (some digits, rest.dropWhile isDigit)
  | text => .ok (none, text)

/-- The numeral at the start of a text, after its sign. -/
def scanNumeral (negative : Bool) (text : List Char) : Except BadNumeral (Numeral × List Char) := do
  let (whole, rest) ← match text with
    | '0' :: c :: rest =>
      if isDigit c then .error ⟨.invalidNumber, .invalidNumber⟩ else .ok (['0'], c :: rest)
    | _ =>
      match text.takeWhile isDigit with
      | [] => .error (missingDigit text)
      | digits => .ok (digits, text.dropWhile isDigit)
  let (fraction, rest) ← scanFraction rest
  let (exponent, rest) ← scanExponent rest
  return (⟨negative, whole, fraction, exponent⟩, rest)

end ServerScaffold.Source
