import Mathlib.Data.Nat.Factorization.Basic
import Mathlib.Tactic.Ring
import ServerScaffold.Number.Basic

/-!
The forms of written numbers. An integer is written by its digits. A double is written with a point, in its
place or behind the first of the digits before a power of ten; only where there is no digit but the first, the
power of ten follows it at once.
-/
namespace ServerScaffold.Number

section Grid

variable {x : Binary} {place finer : Int} {d : Decimal}

theorem floorAt_pos_iff : 0 < x.floorAt place ↔
    10 ^ place.toNat * 2 ^ (-x.power).toNat ≤ x.significand * 2 ^ x.power.toNat * 10 ^ (-place).toNat := by
  have divisor : 0 < 10 ^ place.toNat * 2 ^ (-x.power).toNat :=
    Nat.mul_pos (Nat.pow_pos (by decide)) (Nat.two_pow_pos _)
  simp only [Binary.floorAt, Nat.pow_eq]
  rw [Nat.div_pos_iff]
  exact and_iff_right divisor

/-- A grid that has a point in front of the double is not lost when it is made finer. -/
theorem floorAt_pos_finer (reached : 0 < x.floorAt place) (below : finer ≤ place) : 0 < x.floorAt finer := by
  rw [floorAt_pos_iff] at reached ⊢
  generalize x.significand * 2 ^ x.power.toNat = whole at reached ⊢
  generalize 2 ^ (-x.power).toNat = parts at reached ⊢
  have places : finer.toNat + (-place).toNat ≤ place.toNat + (-finer).toNat := by omega
  have positive : 0 < 10 ^ (-place).toNat := Nat.pow_pos (by decide)
  apply Nat.le_of_mul_le_mul_left _ positive
  calc 10 ^ (-place).toNat * (10 ^ finer.toNat * parts)
      = 10 ^ (finer.toNat + (-place).toNat) * parts := by ring
    _ ≤ 10 ^ (place.toNat + (-finer).toNat) * parts :=
        Nat.mul_le_mul_right _ (Nat.pow_le_pow_right (by decide) places)
    _ = 10 ^ (-finer).toNat * (10 ^ place.toNat * parts) := by ring
    _ ≤ 10 ^ (-finer).toNat * (whole * 10 ^ (-place).toNat) := Nat.mul_le_mul_left _ reached
    _ = 10 ^ (-place).toNat * (whole * 10 ^ (-finer).toNat) := by ring

theorem lt_pow_length (n : Nat) : n < 10 ^ (Nat.toDigits 10 n).length :=
  (Nat.length_toDigits_le_iff (by decide) Nat.length_toDigits_pos).mp (Nat.le_refl _)

theorem pow_length_le {n : Nat} (positive : 0 < n) : 10 ^ ((Nat.toDigits 10 n).length - 1) ≤ n := by
  by_cases single : (Nat.toDigits 10 n).length - 1 = 0
  · rw [single]
    omega
  · by_contra above
    have shorter := (Nat.length_toDigits_le_iff (by decide) (by omega)).mpr (Nat.lt_of_not_le above)
    omega

/-- The first digit of a positive double stands at its leading place. -/
theorem floorAt_leadingPlace (positive : 0 < x.significand) : 0 < x.floorAt x.leadingPlace := by
  have whole : x.floorAt 0 = x.significand * 2 ^ x.power.toNat / 2 ^ (-x.power).toNat := by
    simp [Binary.floorAt]
  simp only [Binary.leadingPlace]
  split
  · next fraction =>
    split
    · next later =>
      rw [floorAt_pos_iff]
      -- The inverse has as many digits in front of its point as the double needs places behind its own.
      have inverse := lt_pow_length (2 ^ (-x.power).toNat / x.significand)
      rw [Nat.div_lt_iff_lt_mul positive] at inverse
      simp only [Nat.pow_eq, Int.neg_neg, Int.toNat_natCast]
      generalize (Nat.toDigits 10 (2 ^ (-x.power).toNat / x.significand)).length = places at inverse ⊢
      have up : (-(places : Int)).toNat = 0 := by omega
      have scaled : x.significand ≤ x.significand * 2 ^ x.power.toNat :=
        Nat.le_mul_of_pos_right _ (Nat.two_pow_pos _)
      rw [up, Nat.pow_zero, Nat.one_mul]
      calc 2 ^ (-x.power).toNat
          ≤ 10 ^ places * x.significand := Nat.le_of_lt inverse
        _ ≤ 10 ^ places * (x.significand * 2 ^ x.power.toNat) := Nat.mul_le_mul_left _ scaled
        _ = x.significand * 2 ^ x.power.toNat * 10 ^ places := Nat.mul_comm _ _
    · next here => exact Nat.pos_of_ne_zero here
  · next integral =>
    have digits := pow_length_le (Nat.pos_of_ne_zero integral)
    rw [whole, Nat.le_div_iff_mul_le (Nat.two_pow_pos _)] at digits
    rw [floorAt_pos_iff, whole]
    have first : 0 < (Nat.toDigits 10 (x.significand * 2 ^ x.power.toNat / 2 ^ (-x.power).toNat)).length :=
      Nat.length_toDigits_pos
    generalize (Nat.toDigits 10 _).length = places at digits first ⊢
    have up : ((places : Int) - 1).toNat = places - 1 := by omega
    have down : (-((places : Int) - 1)).toNat = 0 := by omega
    rw [up, down, Nat.pow_zero, Nat.mul_one]
    exact digits

theorem onGrid_pos (reached : 0 < x.floorAt place) (found : x.onGrid? place = some d) : 0 < d.coefficient := by
  simp only [Binary.onGrid?] at found
  split at found
  · split at found
    · rw [← Option.some.inj found]
      exact reached
    · rw [← Option.some.inj found]
      exact Nat.succ_pos _
    · split at found <;> rw [← Option.some.inj found]
      · exact reached
      · exact Nat.succ_pos _
  · rw [← Option.some.inj found]
    exact reached
  · rw [← Option.some.inj found]
    exact Nat.succ_pos _
  · contradiction

/-- The shortest decimal of a positive double is positive. -/
theorem shortest_pos (positive : 0 < x.significand) : 0 < x.shortest.coefficient := by
  have leading := floorAt_leadingPlace positive
  simp only [Binary.shortest]
  split
  · next d found =>
    obtain ⟨finer, -, here⟩ := List.exists_of_findSome?_eq_some found
    exact onGrid_pos (floorAt_pos_finer leading (by omega)) here
  · exact floorAt_pos_finer leading (by omega)

end Grid

section Digits

/-- Digits, at least one. -/
def Digits (text : List Char) : Prop := text ≠ [] ∧ ∀ c ∈ text, c.isDigit = true

theorem natText_digits (n : Nat) : Digits (natText n) :=
  ⟨Nat.toDigits_ne_nil, fun _ member => Nat.isDigit_of_mem_toDigits (by decide) (by decide) member⟩

theorem digits_append {first second : List Char} (nonempty : first ++ second ≠ [])
    (ofFirst : ∀ c ∈ first, c.isDigit = true) (ofSecond : ∀ c ∈ second, c.isDigit = true) :
    Digits (first ++ second) :=
  ⟨nonempty, List.forall_mem_append.mpr ⟨ofFirst, ofSecond⟩⟩

theorem zeros_digits (count : Nat) : ∀ c ∈ List.replicate count '0', c.isDigit = true := by
  intro c member
  rw [List.eq_of_mem_replicate member]
  rfl

/-- The digits of a number without the zeros that they end in. -/
def significant (n : Nat) : List Char := ((natText n).reverse.dropWhile (· == '0')).reverse

theorem natText_scaled {n : Nat} (positive : 0 < n) (zeros : Nat) :
    natText (n * 10 ^ zeros) = natText n ++ List.replicate zeros '0' := by
  induction zeros with
  | zero => simp
  | succ zeros ih =>
    have scaled : 0 < n * 10 ^ zeros := Nat.mul_pos positive (Nat.pow_pos (by decide))
    have shifted := Nat.toDigits_append_toDigits (b := 10) (d := 0) (by decide) scaled (by decide)
    calc natText (n * 10 ^ (zeros + 1))
        = natText (10 * (n * 10 ^ zeros) + 0) := by rw [Nat.pow_succ]; congr 1; ring
      _ = natText (n * 10 ^ zeros) ++ ['0'] := shifted.symm
      _ = natText n ++ List.replicate (zeros + 1) '0' := by
        rw [ih, List.append_assoc, ← List.replicate_succ']

theorem natText_last {n : Nat} (last : n % 10 ≠ 0) : ∃ front c, natText n = front ++ [c] ∧ c ≠ '0' := by
  have nonzero : ∀ digit < 10, digit ≠ 0 → Nat.digitChar digit ≠ '0' := by decide
  have small : n % 10 < 10 := Nat.mod_lt _ (by decide)
  by_cases single : n < 10
  · refine ⟨[], Nat.digitChar n, Nat.toDigits_of_lt_base single, nonzero n single ?_⟩
    omega
  · exact ⟨natText (n / 10), Nat.digitChar (n % 10), Nat.toDigits_of_base_le (by decide) (by omega),
      nonzero _ small last⟩

theorem significant_scaled {n : Nat} (last : n % 10 ≠ 0) (zeros : Nat) :
    significant (n * 10 ^ zeros) = natText n := by
  have positive : 0 < n := by omega
  have blank : ∀ c ∈ List.replicate zeros '0', (c == '0') = true := by
    intro c member
    rw [List.eq_of_mem_replicate member]
    rfl
  obtain ⟨front, c, written, nonzero⟩ := natText_last last
  rw [significant, natText_scaled positive, List.reverse_append, List.reverse_replicate,
    List.dropWhile_append_of_pos blank, written]
  simp [nonzero]

/-- Every positive number is one that ends in no zero, and zeros. -/
theorem exists_scaled {n : Nat} (positive : 0 < n) : ∃ core zeros, core % 10 ≠ 0 ∧ n = core * 10 ^ zeros := by
  obtain ⟨zeros, core, kept, whole⟩ := Nat.exists_eq_pow_mul_and_not_dvd (Nat.ne_of_gt positive) 10 (by decide)
  refine ⟨core, zeros, ?_, whole.trans (Nat.mul_comm _ _)⟩
  intro ends
  exact kept (Nat.dvd_of_mod_eq_zero ends)

end Digits

section Forms

/-- `e`, a sign or none, and digits. -/
def Power (text : List Char) : Prop :=
  ∃ sign digits, sign ∈ [[], ['+'], ['-']] ∧ Digits digits ∧ text = 'e' :: sign ++ digits

/-- A point, digits, and a power of ten or none. -/
def Fraction (text : List Char) : Prop :=
  ∃ digits power, Digits digits ∧ (power = [] ∨ Power power) ∧ text = '.' :: digits ++ power

/-- Digits, and something behind them. -/
def Led (behind : List Char → Prop) (text : List Char) : Prop :=
  ∃ digits rest, Digits digits ∧ behind rest ∧ text = digits ++ rest

/-- A minus sign or none, digits, and something behind them. -/
def Signed (behind : List Char → Prop) (text : List Char) : Prop :=
  ∃ sign unsigned, sign ∈ [[], ['-']] ∧ Led behind unsigned ∧ text = sign ++ unsigned

/-- The doubles whose shortest decimal is one digit at a place that is written with a power of ten. -/
def OneDigitPower : Number → Prop
  | .natural _ | .negated _ => False
  | .double bits =>
    let magnitude := Binary.ofBits bits
    let decimal := magnitude.shortest
    0 < magnitude.significand ∧ ∃ digit zeros : Nat, 0 < digit ∧ digit < 10 ∧
      decimal.coefficient = digit * 10 ^ zeros ∧
      ¬ (-5 ≤ decimal.exponent + zeros ∧ decimal.exponent + zeros ≤ 15)

variable {digits : List Char}

theorem positionalText_form (written : Digits digits) (place : Int) :
    Led Fraction (positionalText digits place) := by
  obtain ⟨nonempty, each⟩ := written
  unfold positionalText
  split
  · have behind : Digits (List.replicate (place.natAbs - 1) '0' ++ digits) :=
      digits_append (List.append_ne_nil_of_right_ne_nil _ nonempty) (zeros_digits _) each
    have first : Digits ['0'] := ⟨by simp, by simp⟩
    exact ⟨['0'], _, first, ⟨_, [], behind, Or.inl rfl, rfl⟩, by simp⟩
  · have kept : ∀ c ∈ digits.take (place.toNat + 1), c.isDigit = true :=
      fun c member => each c (List.mem_of_mem_take member)
    have first : digits.take (place.toNat + 1) ≠ [] := by simpa using nonempty
    have before := digits_append (List.append_ne_nil_of_left_ne_nil first _) kept
      (zeros_digits (place.toNat + 1 - (digits.take (place.toNat + 1)).length))
    refine ⟨_, _, before, ⟨if digits.drop (place.toNat + 1) = [] then ['0'] else digits.drop (place.toNat + 1),
      [], ?_, Or.inl rfl, rfl⟩, by simp⟩
    split
    · exact ⟨by simp, by simp⟩
    · next some => exact ⟨some, fun c member => each c (List.mem_of_mem_drop member)⟩

theorem power_written (place : Int) : Power ('e' :: (if place < 0 then '-' else '+') :: natText place.natAbs) := by
  refine ⟨[if place < 0 then '-' else '+'], _, ?_, natText_digits _, rfl⟩
  split <;> simp

theorem scientificText_form (written : Digits digits) (place : Int) :
    (digits.length = 1 → Led Power (scientificText digits place)) ∧
      (digits.length ≠ 1 → Led Fraction (scientificText digits place)) := by
  obtain ⟨nonempty, each⟩ := written
  obtain ⟨c, more, rfl⟩ := List.exists_cons_of_ne_nil nonempty
  obtain ⟨here, later⟩ := List.forall_mem_cons.mp each
  have first : Digits [c] := ⟨by simp, by simpa using here⟩
  constructor
  · intro single
    obtain rfl : more = [] := by simpa using single
    exact ⟨[c], _, first, power_written place, by simp [scientificText]⟩
  · intro several
    have some : more ≠ [] := by simpa using several
    refine ⟨[c], _, first, ⟨more, _, ⟨some, later⟩, Or.inr (power_written place), rfl⟩, ?_⟩
    simp [scientificText, some]

variable {d : Decimal} {core zeros : Nat} {place : Int}

/-- A decimal is written by the digits in front of its last zeros, the first of which stands at `place`. -/
theorem decimalText_scaled (last : core % 10 ≠ 0) (whole : d.coefficient = core * 10 ^ zeros)
    (first : place = d.exponent + zeros + ((natText core).length - 1)) :
    decimalText d = if -5 ≤ place ∧ place ≤ 15 then positionalText (natText core) place
      else scientificText (natText core) place := by
  have positive : 0 < core := by omega
  have counted : d.exponent + ((natText d.coefficient).length : Int) - 1 = place := by
    rw [whole, natText_scaled positive, List.length_append, List.length_replicate, first]
    push_cast
    ring
  have digits := significant_scaled last zeros
  rw [← whole] at digits
  unfold decimalText
  simp only [counted]
  rw [← digits]
  rfl

theorem decimalText_one_digit (some : 0 < core) (single : core < 10) (whole : d.coefficient = core * 10 ^ zeros)
    (far : ¬ (-5 ≤ d.exponent + zeros ∧ d.exponent + zeros ≤ 15)) : Led Power (decimalText d) := by
  have last : core % 10 ≠ 0 := by omega
  have length : (natText core).length = 1 := by rw [natText, Nat.toDigits_of_lt_base single]; rfl
  rw [decimalText_scaled last whole rfl, length]
  simp only [Nat.cast_one, Int.sub_self, Int.add_zero, if_neg far]
  exact (scientificText_form (natText_digits core) _).1 length

theorem decimalText_pointed (positive : 0 < d.coefficient)
    (near : ∀ digit zeros : Nat, 0 < digit → digit < 10 → d.coefficient = digit * 10 ^ zeros →
      -5 ≤ d.exponent + zeros ∧ d.exponent + zeros ≤ 15) : Led Fraction (decimalText d) := by
  obtain ⟨core, zeros, last, whole⟩ := exists_scaled positive
  rw [decimalText_scaled last whole rfl]
  split
  · exact positionalText_form (natText_digits core) _
  · next far =>
    apply (scientificText_form (natText_digits core) _).2
    intro length
    have single : core < 10 := by
      simpa using (Nat.length_toDigits_le_iff (by decide) (by decide)).mp (Nat.le_of_eq length)
    have here := near core zeros (by omega) single whole
    rw [length] at far
    omega

variable {number : Number}

theorem doubleText_signed {behind : List Char → Prop} {bits : UInt64}
    (led : Led behind (if (Binary.ofBits bits).significand = 0 then ['0', '.', '0']
      else decimalText (Binary.ofBits bits).shortest)) : Signed behind (doubleText bits) := by
  refine ⟨if isNegative bits then ['-'] else [], _, ?_, led, rfl⟩
  split <;> simp

theorem text_of_power (power : OneDigitPower number) : Signed Power number.text := by
  cases number with
  | natural _ | negated _ => exact power.elim
  | double bits =>
    obtain ⟨positive, digit, zeros, some, single, whole, far⟩ := power
    apply doubleText_signed
    rw [if_neg (Nat.ne_of_gt positive)]
    exact decimalText_one_digit some single whole far

theorem text_of_others (others : ¬ OneDigitPower number) :
    Signed (· = []) number.text ∨ Signed Fraction number.text := by
  cases number with
  | natural value => exact Or.inl ⟨[], _, by simp, ⟨_, [], natText_digits value, rfl, rfl⟩, by simp [text]⟩
  | negated distance =>
    simp only [text, negatedText]
    split
    · exact Or.inl ⟨[], _, by simp, ⟨_, [], natText_digits 0, rfl, rfl⟩, rfl⟩
    · exact Or.inl ⟨['-'], _, by simp, ⟨_, [], natText_digits distance, rfl, rfl⟩, by simp⟩
  | double bits =>
    right
    apply doubleText_signed
    split
    · have zero : Digits ['0'] := ⟨by simp, by simp⟩
      exact ⟨['0'], _, zero, ⟨['0'], [], zero, Or.inl rfl, rfl⟩, rfl⟩
    · next nonzero =>
      have positive := Nat.pos_of_ne_zero nonzero
      apply decimalText_pointed (shortest_pos positive)
      intro digit zeros some single whole
      by_contra far
      exact others ⟨positive, digit, zeros, some, single, whole, far⟩

end Forms

section Marks

variable {mark : Char} {text : List Char} {behind : List Char → Prop}

theorem digits_lack (digits : Digits text) (noDigit : mark.isDigit = false) : mark ∉ text := by
  intro member
  rw [digits.2 mark member] at noDigit
  contradiction

theorem power_lacks (power : Power text) (noDigit : mark.isDigit = false) (other : mark ∉ ['e', '+', '-']) :
    mark ∉ text := by
  obtain ⟨sign, digits, signed, written, rfl⟩ := power
  have lacking := digits_lack written noDigit
  simp only [List.mem_cons, List.not_mem_nil, or_false, not_or] at other signed
  rcases signed with rfl | rfl | rfl <;> simp [other, lacking]

theorem fraction_lacks (fraction : Fraction text) (noDigit : mark.isDigit = false)
    (other : mark ∉ ['.', 'e', '+', '-']) : mark ∉ text := by
  obtain ⟨digits, power, written, scaled, rfl⟩ := fraction
  rw [List.mem_cons, not_or] at other
  have lacking := digits_lack written noDigit
  have powerLacks : mark ∉ power := by
    rcases scaled with rfl | scaled
    · exact List.not_mem_nil
    · exact power_lacks scaled noDigit other.2
  simp [other.1, lacking, powerLacks]

theorem signed_lacks (signed : Signed behind text) (noDigit : mark.isDigit = false) (noMinus : mark ≠ '-')
    (rest : ∀ rest, behind rest → mark ∉ rest) : mark ∉ text := by
  obtain ⟨sign, unsigned, listed, ⟨digits, later, written, ends, rfl⟩, rfl⟩ := signed
  have lacking := digits_lack written noDigit
  have laterLacks := rest later ends
  simp only [List.mem_cons, List.not_mem_nil, or_false] at listed
  rcases listed with rfl | rfl <;> simp [noMinus, lacking, laterLacks]

/-- Written numbers hold only digits, signs, points and the mark of a power. -/
theorem text_lacks (number : Number) (noDigit : mark.isDigit = false) (other : mark ∉ ['.', 'e', '+', '-']) :
    mark ∉ number.text := by
  have noMinus : mark ≠ '-' := fun same => other (by simp [same])
  have noPower : mark ∉ ['e', '+', '-'] := fun member => other (List.mem_cons_of_mem _ member)
  by_cases power : OneDigitPower number
  · exact signed_lacks (text_of_power power) noDigit noMinus fun rest ends => power_lacks ends noDigit noPower
  · rcases text_of_others power with whole | pointed
    · exact signed_lacks whole noDigit noMinus fun rest ends => ends ▸ List.not_mem_nil
    · exact signed_lacks pointed noDigit noMinus fun rest ends => fraction_lacks ends noDigit other

/-- The sign and the digits in front are a run that ends where something else stands. -/
theorem signed_run (signed : Signed behind text) : ∃ run rest, behind rest ∧ text = run ++ rest ∧
    ∀ c ∈ run, (c.isDigit || c == '-') = true := by
  obtain ⟨sign, unsigned, listed, ⟨digits, rest, written, ends, rfl⟩, rfl⟩ := signed
  refine ⟨sign ++ digits, rest, ends, by simp, List.forall_mem_append.mpr ⟨?_, ?_⟩⟩
  · simp only [List.mem_cons, List.not_mem_nil, or_false] at listed
    rcases listed with rfl | rfl <;> simp
  · intro c member
    simp [written.2 c member]

theorem signed_some (signed : Signed behind text) : text ≠ [] := by
  obtain ⟨sign, unsigned, -, ⟨digits, rest, written, -, rfl⟩, rfl⟩ := signed
  simp [written.1]

theorem text_some (number : Number) : number.text ≠ [] := by
  by_cases power : OneDigitPower number
  · exact signed_some (text_of_power power)
  · exact (text_of_others power).elim signed_some signed_some

end Marks

end ServerScaffold.Number
