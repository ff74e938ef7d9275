import FailOpenCache.Proofs.Number.Text
import Mathlib.Algebra.Order.Field.Power
import Mathlib.Algebra.Order.Ring.Rat
import Mathlib.Tactic.FieldSimp
import Mathlib.Tactic.Linarith
import Mathlib.Tactic.Positivity
import Mathlib.Tactic.Ring

/-!
# Numbers told by their texts

The text of a binary number names a decimal among the reals that round to the number: what the
search finds on a grid lies there because it was tested, and the eighteenth grid, on which nothing
is tested any more, is too fine to miss. The reals that round to different magnitudes are apart,
and an end that two of them share belongs to at most one of them. So different numbers have
different texts, the two zeros included, whose texts differ in the sign.
-/

namespace FailOpenCache

open Text (decimals)

/-- The rational of a decimal. -/
def ScaledDecimal.value (decimal : ScaledDecimal) : ℚ :=
  decimal.coefficient * 10 ^ decimal.exponent

/-- A power of ten with an integral exponent as a ratio of two naturals. -/
theorem zpow_ten (exponent : Int) :
    (10 : ℚ) ^ exponent = 10 ^ exponent.toNat / 10 ^ (-exponent).toNat := by
  cases exponent with
  | ofNat exponent => simp
  | negSucc exponent => simp [zpow_negSucc]

namespace Binary64

namespace Neighbourhood

/-- A rational lies between the ends of a neighbourhood, which belong to it when it is closed. -/
def Holds (around : Neighbourhood) (value : ℚ) : Prop :=
  if around.closed then around.low ≤ value * quarterUnits ∧ value * quarterUnits ≤ around.high
  else around.low < value * quarterUnits ∧ value * quarterUnits < around.high

/-- What lies in a neighbourhood lies between its ends. -/
theorem Holds.between {around : Neighbourhood} {value : ℚ} (held : around.Holds value) :
    around.low ≤ value * quarterUnits ∧ value * quarterUnits ≤ around.high := by
  unfold Holds at held
  split at held
  · exact held
  · exact ⟨held.1.le, held.2.le⟩

/-- An end that does not belong to a neighbourhood is not met. -/
theorem Holds.strictly {around : Neighbourhood} {value : ℚ} (held : around.Holds value)
    (opened : around.closed = false) :
    around.low < value * quarterUnits ∧ value * quarterUnits < around.high := by
  unfold Holds at held
  rwa [opened, if_neg Bool.false_ne_true] at held

end Neighbourhood

/-- A natural times a power of ten with an integral exponent, scaled up to a natural. -/
theorem scaled_zpow_ten (units : Nat) (exponent : Int) :
    (units : ℚ) * 10 ^ exponent * (10 ^ (-exponent).toNat : Nat) =
      (units * 10 ^ exponent.toNat : Nat) := by
  rw [zpow_ten]
  push_cast
  field_simp

/-- A decimal in quarters of the least unit, scaled up to a natural. -/
theorem scaled_value (coefficient : Nat) (exponent : Int) :
    (ScaledDecimal.mk coefficient exponent).value * quarterUnits * (10 ^ (-exponent).toNat : Nat) =
      (coefficient * (quarterUnits * 10 ^ exponent.toNat) : Nat) := by
  rw [Nat.cast_mul, ← scaled_zpow_ten, ScaledDecimal.value]
  ring

/-- A decimal whose coefficient lies in a neighbourhood on its grid lies there as a rational. -/
theorem Neighbourhood.Meets.holds {around : Neighbourhood} {exponent : Int} {coefficient : Nat}
    (meets : around.Meets exponent coefficient) :
    around.Holds (ScaledDecimal.mk coefficient exponent).value := by
  have scaled := scaled_value coefficient exponent
  have positive : (0 : ℚ) < (10 ^ (-exponent).toNat : Nat) := by positivity
  unfold Neighbourhood.Meets at meets
  unfold Neighbourhood.Holds
  split at meets
  · rename_i closed
    rw [if_pos closed]
    constructor
    · rw [← mul_le_mul_iff_left₀ positive, scaled]
      exact_mod_cast meets.1
    · rw [← mul_le_mul_iff_left₀ positive, scaled]
      exact_mod_cast meets.2
  · rename_i closed
    rw [if_neg closed]
    constructor
    · rw [← mul_lt_mul_iff_left₀ positive, scaled]
      exact_mod_cast meets.1
    · rw [← mul_lt_mul_iff_left₀ positive, scaled]
      exact_mod_cast meets.2

/-- The centre of a neighbourhood is far smaller than ten to the seventeenth times the gap below
it. -/
structure Fine (around : Neighbourhood) : Prop where
  /-- The part of the centre is smaller than the gap below. -/
  below : around.centre < (around.centre - around.low) * 10 ^ 17
  /-- There is a gap above. -/
  above : around.centre < around.high
  /-- There is a gap below. -/
  low : around.low ≤ around.centre

/-- The neighbourhood of a number other than zero is fine. -/
theorem fine_neighbourhood {number : Binary64} (nonzero : number.isZero = false) :
    Fine number.neighbourhood := by
  have positive : 1 ≤ number.significand := by
    simp only [isZero, beq_eq_false_iff_ne] at nonzero
    omega
  have scale : 0 < 2 ^ number.shift := Nat.two_pow_pos _
  have least : 4 * 2 ^ number.shift ≤ 4 * number.significand * 2 ^ number.shift :=
    Nat.mul_le_mul_right _ (by omega)
  have greatest : 4 * number.significand * 2 ^ number.shift ≤ 2 ^ 55 * 2 ^ number.shift :=
    Nat.mul_le_mul_right _ (by have := number.normal.1; omega)
  refine ⟨?_, ?_, Nat.sub_le _ _⟩
  · simp only [neighbourhood]
    split <;> omega
  · simp only [neighbourhood]
    omega

/-- A rational strictly between the ends lies in the neighbourhood. -/
theorem Neighbourhood.holds_of_lt {around : Neighbourhood} {value : ℚ}
    (above : around.low < value * quarterUnits) (below : value * quarterUnits < around.high) :
    around.Holds value := by
  unfold Neighbourhood.Holds
  split
  · exact ⟨above.le, below.le⟩
  · exact ⟨above, below⟩

/-- A power of ten that is not above a ratio, as a rational. -/
theorem PowerAtMost.cast_le {exponent : Int} {numerator denominator : Nat}
    (atMost : PowerAtMost exponent numerator denominator) :
    (denominator : ℚ) * 10 ^ exponent ≤ numerator := by
  unfold PowerAtMost at atMost
  rw [zpow_ten, mul_div_assoc', div_le_iff₀ (by positivity)]
  exact_mod_cast atMost

/-- One step of the eighteenth grid is smaller than the gap below the centre of a fine
neighbourhood. -/
theorem step_lt_gap {around : Neighbourhood} (fine : Fine around) {leading : Int}
    (atMost : PowerAtMost leading around.centre quarterUnits) :
    (quarterUnits : ℚ) * 10 ^ (leading + 1 - (18 : Nat)) < around.centre - around.low := by
  have power : (10 : ℚ) ^ leading = 10 ^ (leading + 1 - (18 : Nat)) * 10 ^ 17 := by
    rw [← zpow_natCast, ← zpow_add₀ (by norm_num)]
    congr 1
    omega
  have reached := atMost.cast_le
  have gap : (around.centre : ℚ) < (around.centre - around.low) * 10 ^ 17 := by
    have below := fine.below
    rw [← Nat.cast_sub fine.low]
    exact_mod_cast below
  rw [power] at reached
  nlinarith

/-- The eighteenth grid has a decimal right below the centre of a fine neighbourhood. -/
theorem holds_lastGrid {around : Neighbourhood} (fine : Fine around) {leading : Int}
    (atMost : PowerAtMost leading around.centre quarterUnits) :
    around.Holds (searchGrids around leading 0 18).value := by
  unfold searchGrids
  dsimp only
  have step := step_lt_gap fine atMost
  generalize leading + 1 - (18 : Nat) = exponent at step ⊢
  have positive : (0 : ℚ) < (10 ^ (-exponent).toNat : Nat) := by positivity
  have scaled := scaled_value
    (around.centre * 10 ^ (-exponent).toNat / (quarterUnits * 10 ^ exponent.toNat)) exponent
  have atMostCentre : (ScaledDecimal.mk (around.centre * 10 ^ (-exponent).toNat /
      (quarterUnits * 10 ^ exponent.toNat)) exponent).value * quarterUnits ≤ around.centre := by
    rw [← mul_le_mul_iff_left₀ positive, scaled]
    exact_mod_cast Nat.div_mul_le_self _ _
  have aboveStep : (around.centre : ℚ) - quarterUnits * 10 ^ exponent <
      (ScaledDecimal.mk (around.centre * 10 ^ (-exponent).toNat /
        (quarterUnits * 10 ^ exponent.toNat)) exponent).value * quarterUnits := by
    have next : around.centre * 10 ^ (-exponent).toNat <
        around.centre * 10 ^ (-exponent).toNat / (quarterUnits * 10 ^ exponent.toNat) *
          (quarterUnits * 10 ^ exponent.toNat) + quarterUnits * 10 ^ exponent.toNat :=
      Nat.lt_div_mul_add (Nat.mul_pos quarterUnits_pos (Nat.pow_pos (by decide)))
    rw [sub_lt_iff_lt_add, ← mul_lt_mul_iff_left₀ positive, add_mul, scaled,
      scaled_zpow_ten]
    exact_mod_cast next
  refine Neighbourhood.holds_of_lt (by linarith) ?_
  have above : (around.centre : ℚ) < around.high := by exact_mod_cast fine.above
  linarith

/-- The search finds a decimal in a fine neighbourhood. -/
theorem holds_searchGrids {around : Neighbourhood} (fine : Fine around) {leading : Int}
    (atMost : PowerAtMost leading around.centre quarterUnits) :
    ∀ remaining digits, remaining + digits = 18 →
      around.Holds (searchGrids around leading remaining digits).value
  | 0, digits, counted => by
    obtain rfl : digits = 18 := by omega
    exact holds_lastGrid fine atMost
  | remaining + 1, digits, counted => by
    unfold searchGrids
    dsimp only
    split
    · rename_i found
      exact (meets_of_onGrid? found).holds
    · exact holds_searchGrids fine atMost remaining (digits + 1) (by omega)

/-- The shortest decimal of a number other than zero lies in the number's neighbourhood. -/
theorem holds_shortest {number : Binary64} (nonzero : number.isZero = false) :
    number.neighbourhood.Holds number.shortest.value := by
  have fine := fine_neighbourhood nonzero
  have centre : 0 < number.neighbourhood.centre :=
    Nat.lt_of_lt_of_le (neighbourhood_low_pos nonzero) fine.low
  exact holds_searchGrids fine (powerAtMost_leadingExponent centre quarterUnits_pos) 17 1 rfl

/-- The neighbourhood of a smaller magnitude ends where that of a greater one begins, or before;
where they touch, the end does not belong to both. -/
theorem high_le_low {number other : Binary64}
    (smaller : number.shift < other.shift ∨
      number.shift = other.shift ∧ number.significand < other.significand) :
    number.neighbourhood.high ≤ other.neighbourhood.low ∧
      (number.neighbourhood.closed = true → other.neighbourhood.closed = true →
        number.neighbourhood.high < other.neighbourhood.low) := by
  obtain ⟨small, -, -⟩ := number.normal
  have scale : 0 < 2 ^ number.shift := Nat.two_pow_pos _
  simp only [neighbourhood, decide_eq_true_eq]
  rcases smaller with less | ⟨same, less⟩
  · -- The greater magnitude has all its bits, so even a narrow gap below it is wide enough.
    have full : 2 ^ 52 ≤ other.significand := by
      rcases other.normal.2.2 with none | full
      · omega
      · exact full
    have doubled : 2 * 2 ^ number.shift ≤ 2 ^ other.shift := by
      rw [← Nat.pow_succ']
      exact Nat.pow_le_pow_right (by decide) less
    have least : 2 ^ 54 * 2 ^ other.shift ≤ 4 * other.significand * 2 ^ other.shift :=
      Nat.mul_le_mul_right _ (by omega)
    have wide : other.significand ≠ 2 ^ 52 →
        (2 ^ 54 + 4) * 2 ^ other.shift ≤ 4 * other.significand * 2 ^ other.shift := fun more =>
      Nat.mul_le_mul_right _ (by omega)
    have greatest : 4 * number.significand * 2 ^ number.shift ≤
        (2 ^ 55 - 4) * 2 ^ number.shift := Nat.mul_le_mul_right _ (by omega)
    have even : number.significand % 2 = 0 → 4 * number.significand * 2 ^ number.shift ≤
        (2 ^ 55 - 8) * 2 ^ number.shift := fun closed => Nat.mul_le_mul_right _ (by omega)
    split <;> omega
  · have next : 4 * number.significand * 2 ^ number.shift + 4 * 2 ^ number.shift ≤
        4 * other.significand * 2 ^ number.shift := by
      rw [← Nat.add_mul]
      exact Nat.mul_le_mul_right _ (by omega)
    have even : number.significand % 2 = 0 → other.significand % 2 = 0 →
        4 * number.significand * 2 ^ number.shift + 8 * 2 ^ number.shift ≤
          4 * other.significand * 2 ^ number.shift := by
      intro closed closed'
      rw [← Nat.add_mul]
      exact Nat.mul_le_mul_right _ (by omega)
    rw [← same]
    split <;> omega

/-- No rational lies in the neighbourhoods of a smaller and a greater magnitude. -/
theorem not_holds_of_smaller {number other : Binary64}
    (smaller : number.shift < other.shift ∨
      number.shift = other.shift ∧ number.significand < other.significand) {value : ℚ}
    (held : number.neighbourhood.Holds value) : ¬ other.neighbourhood.Holds value := by
  intro held'
  obtain ⟨apart, strict⟩ := high_le_low smaller
  have apart' : (number.neighbourhood.high : ℚ) ≤ other.neighbourhood.low := by
    exact_mod_cast apart
  cases closed : number.neighbourhood.closed with
  | false => linarith [(held.strictly closed).2, held'.between.1]
  | true =>
    cases closed' : other.neighbourhood.closed with
    | false => linarith [held.between.2, (held'.strictly closed').1]
    | true =>
      have strict' : (number.neighbourhood.high : ℚ) < other.neighbourhood.low := by
        exact_mod_cast strict closed closed'
      linarith [held.between.2, held'.between.1]

/-- A rational lies in the neighbourhood of one magnitude at most. -/
theorem eq_of_holds {number other : Binary64} {value : ℚ}
    (held : number.neighbourhood.Holds value) (held' : other.neighbourhood.Holds value)
    (sign : number.negative = other.negative) : number = other := by
  have shift : number.shift = other.shift := by
    rcases Nat.lt_trichotomy number.shift other.shift with less | same | greater
    · exact absurd held' (not_holds_of_smaller (.inl less) held)
    · exact same
    · exact absurd held (not_holds_of_smaller (.inl greater) held')
  have significand : number.significand = other.significand := by
    rcases Nat.lt_trichotomy number.significand other.significand with less | same | greater
    · exact absurd held' (not_holds_of_smaller (.inr ⟨shift, less⟩) held)
    · exact same
    · exact absurd held (not_holds_of_smaller (.inr ⟨shift.symm, greater⟩) held')
  obtain ⟨negative, magnitude, places, normal⟩ := number
  obtain ⟨negative', magnitude', places', normal'⟩ := other
  cases sign
  cases shift
  cases significand
  rfl

end Binary64

namespace Numeral

/-- The digits behind others count less by the number of the digits behind them. -/
theorem ofDigits_append (digits later : List Nat) :
    ofDigits (digits ++ later) = ofDigits digits * 10 ^ later.length + ofDigits later := by
  induction later using List.reverseRecOn with
  | nil => simp [ofDigits]
  | append_singleton later digit ih =>
    rw [← List.append_assoc, Text.ofDigits_append_singleton, ih,
      Text.ofDigits_append_singleton, List.length_append, List.length_singleton, Nat.pow_succ]
    ring

/-- Zeros alone make zero. -/
theorem ofDigits_replicate_zero (count : Nat) : ofDigits (List.replicate count 0) = 0 := by
  induction count with
  | zero => rfl
  | succ count ih =>
    rw [List.replicate_succ', Text.ofDigits_append_singleton, ih]

/-- Zeros in front do not count. -/
theorem ofDigits_zeros_append (count : Nat) (digits : List Nat) :
    ofDigits (List.replicate count 0 ++ digits) = ofDigits digits := by
  rw [ofDigits_append, ofDigits_replicate_zero, Nat.zero_mul, Nat.zero_add]

/-- The exact magnitude that a numeral writes: all its digits, scaled by the stated exponent and
the places of the fraction. -/
def magnitude (numeral : Numeral) : ℚ :=
  ofDigits (numeral.whole ++ numeral.fraction.getD []) *
    10 ^ (numeral.statedExponent - (numeral.fraction.getD []).length)

end Numeral

open Numeral (ofDigits ofDigits_append ofDigits_replicate_zero ofDigits_zeros_append)

/-- Zeros behind a coefficient count as a power of ten. -/
theorem cast_mul_zpow (coefficient zeros : Nat) {exponent total : Int}
    (sum : zeros + exponent = total) :
    ((coefficient * 10 ^ zeros : Nat) : ℚ) * 10 ^ exponent = coefficient * 10 ^ total := by
  rw [← sum, zpow_add₀ (by norm_num), zpow_natCast]
  push_cast
  ring

/-- Zeros behind digits scale what the digits write. -/
theorem ofDigits_append_zeros (digits : List Nat) (zeros : Nat) :
    ofDigits (digits ++ List.replicate zeros 0) = ofDigits digits * 10 ^ zeros := by
  rw [ofDigits_append, ofDigits_replicate_zero, List.length_replicate, Nat.add_zero]

/-- Digits behind a point and zeros. -/
theorem Numeral.magnitude_behind (zeros : Nat) (digits : List Nat) :
    (Numeral.mk false [0] (some (List.replicate zeros 0 ++ digits)) none).magnitude =
      ofDigits digits * 10 ^ (-(zeros + digits.length : Nat) : Int) := by
  have front : [0] ++ (List.replicate zeros 0 ++ digits) =
      List.replicate (zeros + 1) 0 ++ digits := rfl
  simp only [magnitude, statedExponent, Option.getD_some, front, ofDigits_zeros_append,
    List.length_append, List.length_replicate]
  congr 2
  omega

/-- Digits of which so many stand in front of the point, filled up with zeros; where none is left
for the fraction, it is a zero. -/
theorem Numeral.magnitude_pointed (whole : Nat) (digits : List Nat) :
    (Numeral.mk false ((digits ++ List.replicate (whole - digits.length) 0).take whole)
      (some (if ((digits ++ List.replicate (whole - digits.length) 0).drop whole).isEmpty then [0]
        else (digits ++ List.replicate (whole - digits.length) 0).drop whole)) none).magnitude =
      ofDigits digits * 10 ^ ((whole : Int) - digits.length) := by
  by_cases within : digits.length ≤ whole
  · have length : (digits ++ List.replicate (whole - digits.length) 0).length = whole := by
      rw [List.length_append, List.length_replicate]
      omega
    have none : (digits ++ List.replicate (whole - digits.length) 0).drop whole = [] :=
      List.drop_eq_nil_of_le (by omega)
    have all : (digits ++ List.replicate (whole - digits.length) 0).take whole =
        digits ++ List.replicate (whole - digits.length) 0 :=
      List.take_of_length_le (by omega)
    have zero : digits ++ List.replicate (whole - digits.length) 0 ++ [0] =
        digits ++ List.replicate (whole - digits.length + 1) 0 := by
      rw [List.replicate_succ', List.append_assoc]
    simp only [none, all, List.isEmpty_nil, ↓reduceIte, magnitude, statedExponent,
      Option.getD_some, zero, ofDigits_append_zeros, List.length_singleton]
    exact cast_mul_zpow _ _ (by omega)
  · have unpadded : digits ++ List.replicate (whole - digits.length) 0 = digits := by
      rw [show whole - digits.length = 0 by omega, List.replicate_zero, List.append_nil]
    have behind : (digits.drop whole).isEmpty = false := by
      rw [List.isEmpty_eq_false_iff]
      intro none
      have short := List.drop_eq_nil_iff.1 none
      omega
    simp only [unpadded, behind, Bool.false_eq_true, ↓reduceIte, magnitude, statedExponent,
      Option.getD_some, List.take_append_drop, List.length_drop]
    congr 2
    omega

/-- A digit, the others behind the point, and a signed exponent. -/
theorem Numeral.magnitude_scientific {digits : List Nat} (nonempty : digits ≠ [])
    (exponent : Int) :
    (Numeral.mk false (digits.take 1) (if (digits.drop 1).isEmpty then none
      else some (digits.drop 1)) (some (decide (exponent < 0), decimals exponent.natAbs))).magnitude =
      ofDigits digits * 10 ^ (exponent + 1 - digits.length) := by
  have several : 1 ≤ digits.length := List.length_pos_iff.2 nonempty
  have parts : digits.take 1 ++ (if (digits.drop 1).isEmpty then none
      else some (digits.drop 1)).getD [] = digits := by
    split
    · rename_i empty
      rw [Option.getD_none, ← List.isEmpty_iff.1 empty, List.take_append_drop]
    · rw [Option.getD_some, List.take_append_drop]
  have length : ((if (digits.drop 1).isEmpty then none
      else some (digits.drop 1)).getD []).length = digits.length - 1 := by
    have total := congrArg List.length parts
    rw [List.length_append, List.length_take] at total
    omega
  have stated : (Numeral.mk false (digits.take 1) (if (digits.drop 1).isEmpty then none
      else some (digits.drop 1))
      (some (decide (exponent < 0), decimals exponent.natAbs))).statedExponent = exponent := by
    by_cases negative : exponent < 0
    · simp only [statedExponent, negative, decide_true, Text.ofDigits_decimals]
      change -(exponent.natAbs : Int) = exponent
      omega
    · simp only [statedExponent, negative, decide_false, Text.ofDigits_decimals]
      omega
  rw [magnitude, stated]
  dsimp only
  rw [parts, length]
  congr 2
  omega

/-- Laid out digits write the digits, scaled so that the leading one has the given exponent. -/
theorem NumberLayout.magnitude_numeral (layout : NumberLayout) {digits : List Nat}
    (nonempty : digits ≠ []) (exponent : Int) :
    (layout.numeral digits exponent).magnitude =
      ofDigits digits * 10 ^ (exponent + 1 - digits.length) := by
  unfold NumberLayout.numeral
  split
  · split
    · rename_i negative
      rw [Numeral.magnitude_behind]
      congr 2
      omega
    · rename_i natural
      refine (Numeral.magnitude_pointed (exponent.toNat + 1) digits).trans ?_
      congr 2
      omega
  · exact Numeral.magnitude_scientific nonempty exponent

namespace Binary64

/-- The digits of a natural are the significant ones and zeros behind them. -/
theorem exists_zeros (value : Nat) :
    ∃ zeros, decimals value = significant value ++ List.replicate zeros 0 := by
  refine ⟨((decimals value).rtakeWhile (· == 0)).length, ?_⟩
  have zeros : (decimals value).rtakeWhile (· == 0) =
      List.replicate ((decimals value).rtakeWhile (· == 0)).length 0 :=
    List.eq_replicate_of_mem fun digit behind => by simpa using List.mem_rtakeWhile_imp behind
  rw [← zeros, significant, List.rdropWhile_append_rtakeWhile]

/-- The numeral of a number other than zero writes the shortest decimal. -/
theorem magnitude_numeral {number : Binary64} (nonzero : number.isZero = false) :
    number.numeral.magnitude = number.shortest.value := by
  have positive := shortest_pos nonzero
  obtain ⟨first, later, shape, -⟩ := (leading_significant positive).positive
  have nonempty : significant number.shortest.coefficient ≠ [] := by simp [shape]
  obtain ⟨zeros, cut⟩ := exists_zeros number.shortest.coefficient
  have coefficient : number.shortest.coefficient =
      ofDigits (significant number.shortest.coefficient) * 10 ^ zeros := by
    rw [← ofDigits_append_zeros, ← cut, Text.ofDigits_decimals]
  have length : (decimals number.shortest.coefficient).length =
      (significant number.shortest.coefficient).length + zeros := by
    rw [cut, List.length_append, List.length_replicate]
  have laid := NumberLayout.document.magnitude_numeral nonempty
    (number.shortest.exponent + (decimals number.shortest.coefficient).length - 1)
  have same : number.numeral.magnitude = (NumberLayout.document.numeral
      (significant number.shortest.coefficient) (number.shortest.exponent +
        (decimals number.shortest.coefficient).length - 1)).magnitude := by
    simp [numeral, nonzero, Numeral.magnitude, Numeral.statedExponent]
  calc number.numeral.magnitude
      = ofDigits (significant number.shortest.coefficient) * 10 ^ (number.shortest.exponent +
          (decimals number.shortest.coefficient).length - 1 + 1 -
          (significant number.shortest.coefficient).length) := same.trans laid
    _ = (ofDigits (significant number.shortest.coefficient) * 10 ^ zeros : Nat) *
          10 ^ number.shortest.exponent := (cast_mul_zpow _ _ (by omega)).symm
    _ = number.shortest.value := by rw [← coefficient, ScaledDecimal.value]

/-- What is written for a number other than zero is a decimal in the number's neighbourhood. -/
theorem holds_numeral {number : Binary64} (nonzero : number.isZero = false) :
    number.neighbourhood.Holds number.numeral.magnitude := by
  rw [magnitude_numeral nonzero]
  exact holds_shortest nonzero

/-- The numeral of zero writes zero. -/
theorem magnitude_numeral_zero {number : Binary64} (zero : number.isZero = true) :
    number.numeral.magnitude = 0 := by
  simp [numeral, zero, Numeral.magnitude, ofDigits]

/-- Zero lies in the neighbourhood of no other number. -/
theorem not_holds_zero {number : Binary64} (nonzero : number.isZero = false) :
    ¬ number.neighbourhood.Holds 0 := by
  intro held
  have low : (0 : ℚ) < number.neighbourhood.low := by
    exact_mod_cast neighbourhood_low_pos nonzero
  linarith [held.between.1]

/-- The numbers that are zero differ in their signs only. -/
theorem eq_zero_of_isZero {number : Binary64} (isZero : number.isZero = true) :
    number = zero number.negative := by
  obtain ⟨negative, significand, shift, normal⟩ := number
  obtain rfl : significand = 0 := by simpa [Binary64.isZero] using isZero
  obtain rfl : shift = 0 := by omega
  rfl

/-- Different numbers are written as different numerals. -/
theorem numeral_injective : Function.Injective numeral := by
  intro number other same
  have sign : number.negative = other.negative := congrArg Numeral.negative same
  have magnitude : number.numeral.magnitude = other.numeral.magnitude :=
    congrArg Numeral.magnitude same
  cases isZero : number.isZero with
  | true =>
    cases isZero' : other.isZero with
    | true => rw [eq_zero_of_isZero isZero, eq_zero_of_isZero isZero', sign]
    | false =>
      rw [magnitude_numeral_zero isZero] at magnitude
      exact absurd (magnitude ▸ holds_numeral isZero') (not_holds_zero isZero')
  | false =>
    cases isZero' : other.isZero with
    | true =>
      rw [magnitude_numeral_zero isZero'] at magnitude
      exact absurd (magnitude ▸ holds_numeral isZero) (not_holds_zero isZero)
    | false => exact eq_of_holds (magnitude ▸ holds_numeral isZero) (holds_numeral isZero') sign

end Binary64

end FailOpenCache
