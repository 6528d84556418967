/-!
The shortest decimal that reads back as a given double. A positive double is `significand * 2 ^ power`;
the numbers that round to it form an interval around it, whose ends belong to it when the
significand is even. Decimal grids are tried from coarse to fine, and on the first grid with a
point in the interval the point nearest to the double is taken.
-/
namespace ServerScaffold.Number

/-- `coefficient * 10 ^ exponent`. -/
structure Decimal where
  coefficient : Nat
  exponent : Int
deriving DecidableEq, Repr

/-- A positive double; `narrowBelow` holds at a power of two, where the gap below is half the gap
above. -/
structure Binary where
  significand : Nat
  power : Int
  narrowBelow : Bool
deriving DecidableEq, Repr

def Binary.ofBits (bits : UInt64) : Binary :=
  let fraction : Nat := bits.toNat % Nat.pow 2 52
  let biased : Nat := bits.toNat / Nat.pow 2 52 % Nat.pow 2 11
  if biased = 0 then ⟨fraction, -1074, false⟩
  else ⟨Nat.pow 2 52 + fraction, (biased : Int) - 1075, fraction == 0 && biased != 1⟩

/-- Compares `a * 2 ^ p` with `b * 10 ^ e`. -/
def scaledCompare (a : Nat) (p : Int) (b : Nat) (e : Int) : Ordering :=
  compare (a * Nat.pow 2 p.toNat * Nat.pow 10 (-e).toNat)
    (b * Nat.pow 10 e.toNat * Nat.pow 2 (-p).toNat)

def Binary.holds (x : Binary) (d : Decimal) : Bool :=
  let below := 4 * x.significand - if x.narrowBelow then 1 else 2
  let above := 4 * x.significand + 2
  let low := scaledCompare below (x.power - 2) d.coefficient d.exponent
  let high := scaledCompare above (x.power - 2) d.coefficient d.exponent
  let closed := x.significand % 2 == 0
  (low == .lt || closed && low == .eq) && (high == .gt || closed && high == .eq)

/-- The greatest `n` with `n * 10 ^ e` not above the double. -/
def Binary.floorAt (x : Binary) (e : Int) : Nat :=
  x.significand * Nat.pow 2 x.power.toNat * Nat.pow 10 (-e).toNat /
    (Nat.pow 10 e.toNat * Nat.pow 2 (-x.power).toNat)

/-- The place of the first digit: the `e` with `10 ^ e` not above the double and `10 ^ (e + 1)`
above it. -/
def Binary.leadingPlace (x : Binary) : Int :=
  let whole := x.floorAt 0
  if whole = 0 then
    let inverse := Nat.pow 2 (-x.power).toNat / x.significand
    let places := (Nat.toDigits 10 inverse).length
    if x.floorAt (1 - places) = 0 then -places else 1 - places
  else (Nat.toDigits 10 whole).length - 1

/-- The better of the two grid points around the double, if one of them rounds to it. -/
def Binary.onGrid? (x : Binary) (e : Int) : Option Decimal :=
  let down : Decimal := ⟨x.floorAt e, e⟩
  let up : Decimal := ⟨x.floorAt e + 1, e⟩
  match x.holds down, x.holds up with
  | true, true =>
    match scaledCompare (2 * x.significand) x.power (down.coefficient + up.coefficient) e with
    | .lt => some down
    | .gt => some up
    | .eq => some (if down.coefficient % 2 = 0 then down else up)
  | true, false => some down
  | false, true => some up
  | false, false => none

def Binary.shortest (x : Binary) : Decimal :=
  let place := x.leadingPlace
  match (List.range 17).findSome? fun (finer : Nat) => x.onGrid? (place - finer) with
  | some d => d
  | none => ⟨x.floorAt (place - 16), place - 16⟩

end ServerScaffold.Number
