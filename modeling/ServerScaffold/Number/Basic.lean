import ServerScaffold.Number.Shortest

/-!
Numbers of a document and their text. An integer within 64 bits stays an integer, which remembers
whether it is written with a minus sign; every other number is a double, kept by its bits.
-/
namespace ServerScaffold

inductive Number where
  | natural (value : Nat)
  /-- An integer with a minus sign: the number below zero by `distance`, which may be zero. -/
  | negated (distance : Nat)
  | double (bits : UInt64)
deriving DecidableEq, Repr

namespace Number

def isFinite (bits : UInt64) : Bool := bits.toNat / Nat.pow 2 52 % Nat.pow 2 11 != 2047

def isNegative (bits : UInt64) : Bool := bits.toNat / Nat.pow 2 63 == 1

def natText (n : Nat) : List Char := Nat.toDigits 10 n

/-- The text of the number below zero by `distance`. Zero has no sign. -/
def negatedText (distance : Nat) : List Char :=
  if distance = 0 then ['0'] else '-' :: natText distance

/-- Digits with the point after the first; `place` is the place of the first digit. -/
def scientificText (digits : List Char) (place : Int) : List Char :=
  digits.take 1 ++ (if digits.length ≤ 1 then [] else '.' :: digits.drop 1) ++
    'e' :: (if place < 0 then '-' else '+') :: natText place.natAbs

/-- Digits with the point where it belongs, and at least one digit on either side of it. -/
def positionalText (digits : List Char) (place : Int) : List Char :=
  if place < 0 then
    '0' :: '.' :: List.replicate (place.natAbs - 1) '0' ++ digits
  else
    let whole := digits.take (place.toNat + 1)
    let fraction := digits.drop (place.toNat + 1)
    whole ++ List.replicate (place.toNat + 1 - whole.length) '0' ++
      '.' :: (if fraction = [] then ['0'] else fraction)

/-- The first digit of a positional number stands between the fifth place after the point and the
sixteenth before it. -/
def decimalText (d : Decimal) : List Char :=
  let written := natText d.coefficient
  let place := d.exponent + written.length - 1
  let digits := (written.reverse.dropWhile (· == '0')).reverse
  if -5 ≤ place ∧ place ≤ 15 then positionalText digits place else scientificText digits place

def doubleText (bits : UInt64) : List Char :=
  let magnitude := Binary.ofBits bits
  (if isNegative bits then ['-'] else []) ++
    if magnitude.significand = 0 then ['0', '.', '0'] else decimalText magnitude.shortest

def text : Number → List Char
  | .natural value => natText value
  | .negated distance => negatedText distance
  | .double bits => doubleText bits

end Number

end ServerScaffold
