import FailOpenCache.Number.Shortest
import FailOpenCache.Proofs.Document.Numerals
import Mathlib.Data.List.DropRight

/-!
# Numbers as numerals

What is written for an integer or a binary number is a numeral that the scanner reads. An integer's
numeral stands for the integer. A binary number's numeral has a fraction or an exponent, so it is
never taken for an integer; which number it is read back as is `Binary64.reread?`, and that need
not be the number itself, because reading rounds twice.
-/

namespace FailOpenCache

open Text (digitChar decimals natural)

namespace Numeral

/-- The numeral of an integer. -/
def ofInteger (value : Int) : Numeral :=
  ⟨decide (value < 0), decimals value.natAbs, none, none⟩

/-- An integer is written as its numeral. -/
theorem print_ofInteger (value : Int) : (ofInteger value).print = Text.integer value := by
  cases value with
  | ofNat magnitude =>
    simp [print, printMagnitude, printFraction, printExponent, ofInteger, Text.integer,
      Text.natural_eq_decimals]
  | negSucc magnitude =>
    have sign : Int.negSucc magnitude < 0 := Int.negSucc_lt_zero magnitude
    simp [print, printMagnitude, printFraction, printExponent, ofInteger, sign, Text.integer,
      Text.natural_eq_decimals]

/-- The digits of a natural are proper digits. -/
theorem digits_decimals (value : Nat) : Digits (decimals value) :=
  ⟨Text.decimals_ne_nil value, fun _ => Text.lt_ten_of_mem_decimals⟩

/-- The digits of a natural have no superfluous leading zero. -/
theorem leading_decimals (value : Nat) (rest : List Nat) (zero : decimals value = 0 :: rest) :
    rest = [] := by
  rcases Nat.eq_zero_or_pos value with rfl | positive
  · rw [decimals] at zero
    exact (List.cons.inj zero).2.symm
  · have head := Text.head_decimals_pos positive
    simp [zero] at head

/-- The numeral of an integer has a written form. -/
theorem written_ofInteger (value : Int) : (ofInteger value).Written where
  whole := digits_decimals _
  leading := leading_decimals _
  fraction _ none := by simp [ofInteger] at none
  exponent _ none := by simp [ofInteger] at none

/-- The numeral of an integer that a word holds stands for the integer. -/
theorem value?_ofInteger {value : Int} (least : Document.leastInteger ≤ value)
    (greatest : value ≤ Document.greatestInteger) :
    (ofInteger value).value? = some (.integer value) := by
  have whole : (ofInteger value).integer? = some value := by
    unfold integer? ofInteger
    simp only [Option.isSome_none, Bool.or_self, Bool.false_eq_true, ↓reduceIte,
      Text.ofDigits_decimals, decide_eq_true_eq]
    unfold Document.leastInteger at least
    unfold Document.greatestInteger at greatest
    by_cases negative : value < 0
    · rw [if_pos negative, if_neg (by omega)]
      exact congrArg some (show -(value.natAbs : Int) = value by omega)
    · rw [if_neg negative, if_pos (by unfold significandLimit; omega)]
      exact congrArg some (show (value.natAbs : Int) = value by omega)
  simp [value?, whole]

end Numeral

/-- The numeral that lays out digits, the leading one having the given decimal exponent. -/
def NumberLayout.numeral (layout : NumberLayout) (digits : List Nat) (exponent : Int) : Numeral :=
  if layout.plainFrom ≤ exponent ∧ exponent ≤ layout.plainTo then
    if exponent < 0 then
      ⟨false, [0], some (List.replicate ((-exponent).toNat - 1) 0 ++ digits), none⟩
    else
      let whole := exponent.toNat + 1
      let padded := digits ++ List.replicate (whole - digits.length) 0
      let fraction := padded.drop whole
      ⟨false, padded.take whole, some (if fraction.isEmpty then [0] else fraction), none⟩
  else
    ⟨false, digits.take 1, if (digits.drop 1).isEmpty then none else some (digits.drop 1),
      some (decide (exponent < 0), decimals exponent.natAbs)⟩

/-- Zeros are written as such. -/
theorem map_digitChar_replicate (count : Nat) :
    (List.replicate count 0).map digitChar = List.replicate count '0' := by
  rw [List.map_replicate]
  rfl

/-- Digits are laid out as their numeral is written. -/
theorem NumberLayout.print_numeral (layout : NumberLayout) (digits : List Nat) (exponent : Int) :
    layout.digits (digits.map digitChar) exponent =
      (layout.numeral digits exponent).printMagnitude := by
  unfold NumberLayout.digits NumberLayout.numeral
  split
  · split
    · simp only [Numeral.printMagnitude, Numeral.printFraction, Numeral.printExponent,
        List.map_append, map_digitChar_replicate, List.append_nil]
      rfl
    · have padded : digits.map digitChar ++
          List.replicate (exponent.toNat + 1 - digits.length) '0' =
          (digits ++ List.replicate (exponent.toNat + 1 - digits.length) 0).map digitChar := by
        rw [List.map_append, map_digitChar_replicate]
      simp only [List.length_map, padded, Numeral.printMagnitude, Numeral.printFraction,
        Numeral.printExponent, List.append_nil, ← List.map_drop, ← List.map_take,
        List.isEmpty_map]
      split <;> rfl
  · have sign : (if exponent < 0 then '-' else '+') =
        if decide (exponent < 0) = true then '-' else '+' := by simp
    simp only [Numeral.printMagnitude, Numeral.printFraction, Numeral.printExponent, sign,
      Text.natural_eq_decimals]
    rcases digits with _ | ⟨digit, _ | ⟨next, later⟩⟩ <;> rfl

/-- A list of digits that starts with a positive one. -/
structure Leading (digits : List Nat) : Prop where
  /-- Every digit is below ten. -/
  small : ∀ digit ∈ digits, digit < 10
  /-- The first digit is not zero. -/
  positive : ∃ digit rest, digits = digit :: rest ∧ 0 < digit

/-- Digits and zeros are digits. -/
theorem Leading.small_append_zeros {digits : List Nat} (leading : Leading digits) (count : Nat) :
    ∀ digit ∈ digits ++ List.replicate count 0, digit < 10 := by
  intro digit held
  rcases List.mem_append.1 held with inside | zero
  · exact leading.small digit inside
  · rw [List.eq_of_mem_replicate zero]
    decide

/-- Digits that start with a positive one are laid out as a numeral with a written form. -/
theorem NumberLayout.written_numeral (layout : NumberLayout) {digits : List Nat}
    (leading : Leading digits) (exponent : Int) : (layout.numeral digits exponent).Written := by
  obtain ⟨first, rest, rfl, positive⟩ := leading.positive
  unfold NumberLayout.numeral
  split
  · split
    · refine ⟨⟨by simp, by simp⟩, fun later zero => (List.cons.inj zero).2.symm, ?_, by simp⟩
      rintro fraction ⟨⟩
      refine ⟨by simp, fun digit held => ?_⟩
      rcases List.mem_append.1 held with zero | inside
      · rw [List.eq_of_mem_replicate zero]
        decide
      · exact leading.small digit inside
    · have small := leading.small_append_zeros (exponent.toNat + 1 - (first :: rest).length)
      refine ⟨⟨by simp, fun digit held => small digit (List.mem_of_mem_take held)⟩, ?_, ?_,
        by simp⟩
      · intro later zero
        simp only [List.cons_append, List.take_succ_cons, List.cons.injEq] at zero
        omega
      · rintro fraction ⟨⟩
        split
        · exact ⟨by simp, by simp⟩
        · rename_i some
          exact ⟨by simpa using some, fun digit held => small digit (List.mem_of_mem_drop held)⟩
  · refine ⟨⟨by simp, fun digit held => leading.small digit (List.mem_of_mem_take held)⟩,
      fun later zero => ?_, ?_, ?_⟩
    · simp only [List.take_succ_cons, List.take_zero, List.cons.injEq] at zero
      exact zero.2.symm
    · intro fraction found
      split at found
      · cases found
      · rename_i some
        cases found
        exact ⟨by simpa using some, fun digit held =>
          leading.small digit (List.mem_of_mem_drop held)⟩
    · rintro parts ⟨⟩
      exact Numeral.digits_decimals _

/-- A laid out numeral has a fraction or an exponent. -/
theorem NumberLayout.integer?_numeral (layout : NumberLayout) (digits : List Nat)
    (exponent : Int) (negative : Bool) :
    Numeral.integer? { layout.numeral digits exponent with negative := negative } = none := by
  unfold NumberLayout.numeral
  split
  · split <;> simp [Numeral.integer?]
  · simp [Numeral.integer?]

namespace Binary64

/-- There are quarters of the least unit. -/
theorem quarterUnits_pos : 0 < quarterUnits := Nat.mul_pos (by decide) (Nat.two_pow_pos _)

/-- The neighbourhood of a number other than zero lies above zero. -/
theorem neighbourhood_low_pos {number : Binary64} (nonzero : number.isZero = false) :
    0 < number.neighbourhood.low := by
  have positive : 1 ≤ number.significand := by
    simp only [isZero, beq_eq_false_iff_ne] at nonzero
    omega
  have scale : 0 < 2 ^ number.shift := Nat.two_pow_pos _
  have centre : 4 * 2 ^ number.shift ≤ 4 * number.significand * 2 ^ number.shift :=
    Nat.mul_le_mul_right _ (by omega)
  simp only [neighbourhood]
  split <;> omega

/-- The coefficient lies between the ends of a neighbourhood on the grid of a power of ten; the ends
belong to the neighbourhood when it is closed. -/
def Neighbourhood.Meets (around : Neighbourhood) (exponent : Int) (coefficient : Nat) : Prop :=
  if around.closed then
    around.low * 10 ^ (-exponent).toNat ≤ coefficient * (quarterUnits * 10 ^ exponent.toNat) ∧
      coefficient * (quarterUnits * 10 ^ exponent.toNat) ≤ around.high * 10 ^ (-exponent).toNat
  else
    around.low * 10 ^ (-exponent).toNat < coefficient * (quarterUnits * 10 ^ exponent.toNat) ∧
      coefficient * (quarterUnits * 10 ^ exponent.toNat) < around.high * 10 ^ (-exponent).toNat

/-- What is found on a grid lies in the neighbourhood. -/
theorem meets_of_onGrid? {around : Neighbourhood} {exponent : Int} {coefficient : Nat}
    (found : onGrid? around exponent = some coefficient) : around.Meets exponent coefficient := by
  have tested : ∀ {closed : Bool} {within strictly : Prop} [Decidable within]
      [Decidable strictly], (if closed then decide within else decide strictly) = true →
        if closed then within else strictly := by
    intro closed within strictly _ _ inside
    cases closed <;> exact of_decide_eq_true inside
  unfold onGrid? at found
  dsimp only at found
  split at found
  · rename_i below above
    split at found
    · rw [← Option.some.inj found]
      exact tested below
    · rw [← Option.some.inj found]
      exact tested above
  · rename_i below _
    rw [← Option.some.inj found]
    exact tested below
  · rename_i _ above
    rw [← Option.some.inj found]
    exact tested above
  · cases found

/-- What lies in a neighbourhood is not below it. -/
theorem Neighbourhood.Meets.low_le {around : Neighbourhood} {exponent : Int} {coefficient : Nat}
    (meets : around.Meets exponent coefficient) :
    around.low * 10 ^ (-exponent).toNat ≤ coefficient * (quarterUnits * 10 ^ exponent.toNat) := by
  unfold Neighbourhood.Meets at meets
  split at meets
  · exact meets.1
  · exact meets.1.le

/-- What is found on a grid for a neighbourhood above zero is positive. -/
theorem onGrid?_pos {around : Neighbourhood} (above : 0 < around.low) {exponent : Int}
    {coefficient : Nat} (found : onGrid? around exponent = some coefficient) :
    0 < coefficient := by
  have low : 0 < around.low * 10 ^ (-exponent).toNat :=
    Nat.mul_pos above (Nat.pow_pos (by decide))
  exact Nat.pos_of_mul_pos_right (Nat.lt_of_lt_of_le low (meets_of_onGrid? found).low_le)

/-- A power of ten is not above a ratio. -/
def PowerAtMost (exponent : Int) (numerator denominator : Nat) : Prop :=
  denominator * 10 ^ exponent.toNat ≤ numerator * 10 ^ (-exponent).toNat

/-- Neither are the smaller powers of ten. -/
theorem PowerAtMost.mono {exponent lower : Int} {numerator denominator : Nat}
    (atMost : PowerAtMost exponent numerator denominator) (ordered : lower ≤ exponent) :
    PowerAtMost lower numerator denominator := by
  unfold PowerAtMost at *
  have up : 10 ^ lower.toNat ≤ 10 ^ exponent.toNat :=
    Nat.pow_le_pow_right (by decide) (by omega)
  have down : 10 ^ (-exponent).toNat ≤ 10 ^ (-lower).toNat :=
    Nat.pow_le_pow_right (by decide) (by omega)
  calc denominator * 10 ^ lower.toNat
      ≤ denominator * 10 ^ exponent.toNat := Nat.mul_le_mul_left _ up
    _ ≤ numerator * 10 ^ (-exponent).toNat := atMost
    _ ≤ numerator * 10 ^ (-lower).toNat := Nat.mul_le_mul_left _ down

/-- The power of ten of the leading digit is not above the ratio. -/
theorem powerAtMost_leadingExponent {numerator denominator : Nat} (positive : 0 < numerator)
    (proper : 0 < denominator) :
    PowerAtMost (leadingExponent numerator denominator) numerator denominator := by
  unfold leadingExponent PowerAtMost
  simp only [Text.natural_eq_decimals, List.length_map]
  split
  · rename_i large
    have quotient : 0 < numerator / denominator := Nat.div_pos large proper
    have digits := Text.pow_length_decimals_le quotient
    have least : 1 ≤ (decimals (numerator / denominator)).length :=
      List.length_pos_iff.2 (Text.decimals_ne_nil _)
    have exponent : (((decimals (numerator / denominator)).length : Int) - 1).toNat =
        (decimals (numerator / denominator)).length - 1 := by omega
    have inverse : (-(((decimals (numerator / denominator)).length : Int) - 1)).toNat = 0 := by
      omega
    rw [exponent, inverse, Nat.pow_zero, Nat.mul_one]
    calc denominator * 10 ^ ((decimals (numerator / denominator)).length - 1)
        ≤ denominator * (numerator / denominator) := Nat.mul_le_mul_left _ digits
      _ ≤ numerator := Nat.mul_div_le _ _
  · rename_i small
    have bound := Text.lt_pow_length_decimals ((denominator + numerator - 1) / numerator - 1)
    have ceiling : denominator ≤ numerator * ((denominator + numerator - 1) / numerator) := by
      have step := Nat.lt_mul_div_succ (denominator + numerator - 1) positive
      rw [Nat.mul_add] at step
      omega
    have inverse : (-Int.neg
        ((decimals ((denominator + numerator - 1) / numerator - 1)).length : Int)).toNat =
        (decimals ((denominator + numerator - 1) / numerator - 1)).length := by
      change (- -((decimals
        ((denominator + numerator - 1) / numerator - 1)).length : Int)).toNat = _
      omega
    have exponent : (Int.neg
        ((decimals ((denominator + numerator - 1) / numerator - 1)).length : Int)).toNat = 0 := by
      change (-((decimals ((denominator + numerator - 1) / numerator - 1)).length : Int)).toNat = _
      omega
    rw [exponent, inverse, Nat.pow_zero, Nat.mul_one]
    calc denominator
        ≤ numerator * ((denominator + numerator - 1) / numerator) := ceiling
      _ ≤ numerator * _ := Nat.mul_le_mul_left _ (by omega)

/-- A search of the grids finds a positive coefficient. -/
theorem searchGrids_pos {around : Neighbourhood} (above : 0 < around.low) {leading : Int}
    (atMost : PowerAtMost leading around.centre quarterUnits) :
    ∀ remaining digits, 1 ≤ digits →
      0 < (searchGrids around leading remaining digits).coefficient
  | 0, digits, counted => by
    have power := atMost.mono (show leading + 1 - digits ≤ leading by omega)
    have proper : 0 < quarterUnits * 10 ^ (leading + 1 - digits).toNat :=
      Nat.mul_pos quarterUnits_pos (Nat.pow_pos (by decide))
    exact Nat.div_pos power proper
  | remaining + 1, digits, counted => by
    unfold searchGrids
    dsimp only
    split
    · rename_i found
      exact onGrid?_pos above found
    · exact searchGrids_pos above atMost remaining (digits + 1) (by omega)

/-- The shortest decimal of a number other than zero is positive. -/
theorem shortest_pos {number : Binary64} (nonzero : number.isZero = false) :
    0 < number.shortest.coefficient := by
  have above := neighbourhood_low_pos nonzero
  have centre : 0 < number.neighbourhood.centre := by
    have below : number.neighbourhood.low ≤ number.neighbourhood.centre := by
      simp [neighbourhood]
    omega
  exact searchGrids_pos above (powerAtMost_leadingExponent centre quarterUnits_pos) 17 1
    (Nat.le_refl 1)

/-- The digits of a natural without the trailing zeros. -/
def significant (value : Nat) : List Nat := (decimals value).rdropWhile (· == 0)

/-- The digits of a positive natural without the trailing zeros start with a positive one. -/
theorem leading_significant {value : Nat} (positive : 0 < value) :
    Leading (significant value) := by
  have initial : significant value <+: decimals value := List.rdropWhile_prefix _ _
  refine ⟨fun digit held => Text.lt_ten_of_mem_decimals (initial.subset held), ?_⟩
  have first := Text.head_decimals_pos positive
  obtain ⟨digit, rest, shape⟩ := List.exists_cons_of_ne_nil (Text.decimals_ne_nil value)
  simp only [shape, List.head_cons] at first
  have nonempty : significant value ≠ [] := by
    intro empty
    have zeros := List.rdropWhile_eq_nil_iff.1 empty digit (shape ▸ List.mem_cons_self)
    simp only [beq_iff_eq] at zeros
    omega
  obtain ⟨kept, later, cut⟩ := List.exists_cons_of_ne_nil nonempty
  refine ⟨kept, later, cut, ?_⟩
  rw [cut, shape] at initial
  rw [(List.cons_prefix_cons.1 initial).1]
  exact first

/-- Dropping trailing zeros from written digits drops them from the digits. -/
theorem dropTrailingZeros_natural (value : Nat) :
    ((natural value).reverse.dropWhile (· == '0')).reverse = (significant value).map digitChar := by
  have isZero : ∀ digit ∈ (decimals value).reverse, (digitChar digit == '0') = (digit == 0) := by
    intro digit held
    have small := Text.lt_ten_of_mem_decimals (List.mem_reverse.1 held)
    have all : ∀ digit, digit < 10 → (digitChar digit == '0') = (digit == 0) := by decide
    exact all digit small
  rw [Text.natural_eq_decimals, ← List.map_reverse, List.dropWhile_map, ← List.map_reverse,
    significant, List.rdropWhile]
  congr 2
  generalize (decimals value).reverse = digits at isZero
  induction digits with
  | nil => rfl
  | cons digit rest ih =>
    have first := isZero digit List.mem_cons_self
    simp only [List.dropWhile_cons, Function.comp_apply, first]
    split
    · exact ih fun other inside => isZero other (List.mem_cons_of_mem _ inside)
    · rfl

/-- The numeral that is written for a number. -/
def numeral (number : Binary64) : Numeral :=
  let magnitude : Numeral :=
    if number.isZero then ⟨false, [0], some [0], none⟩
    else
      let decimal := number.shortest
      NumberLayout.document.numeral (significant decimal.coefficient)
        (decimal.exponent + (decimals decimal.coefficient).length - 1)
  { magnitude with negative := number.negative }

/-- A number is written as its numeral. -/
theorem print_numeral (number : Binary64) : number.numeral.print = number.text := by
  have magnitude : number.numeral.printMagnitude =
      if number.isZero then ['0', '.', '0']
      else
        let decimal := number.shortest
        let digits := natural decimal.coefficient
        let significant := (digits.reverse.dropWhile (· == '0')).reverse
        NumberLayout.document.digits significant (decimal.exponent + digits.length - 1) := by
    unfold numeral
    split
    · rfl
    · dsimp only
      rw [dropTrailingZeros_natural, NumberLayout.print_numeral, Text.natural_eq_decimals,
        List.length_map]
      rfl
  unfold Numeral.print text
  rw [magnitude]
  rfl

/-- The numeral of a number has a written form. -/
theorem written_numeral (number : Binary64) : number.numeral.Written := by
  unfold numeral
  split
  · exact ⟨⟨by simp, by simp⟩, by simp, by simp [Numeral.Digits], by simp⟩
  · rename_i nonzero
    have written := NumberLayout.document.written_numeral
      (leading_significant (shortest_pos (by simpa using nonzero)))
      (number.shortest.exponent + (decimals number.shortest.coefficient).length - 1)
    exact ⟨written.whole, written.leading, written.fraction, written.exponent⟩

/-- The number that the text of a number is read back as; there is none when that overflows. -/
def reread? (number : Binary64) : Option Binary64 := number.numeral.real?

/-- The numeral of a number stands for the number that its text is read back as. -/
theorem value?_numeral (number : Binary64) :
    number.numeral.value? = number.reread?.map Document.real := by
  have noInteger : number.numeral.integer? = none := by
    unfold numeral
    split
    · rfl
    · exact NumberLayout.integer?_numeral _ _ _ _
  rw [Numeral.value?, noInteger, reread?]
  cases number.numeral.real? <;> rfl

end Binary64

end FailOpenCache
