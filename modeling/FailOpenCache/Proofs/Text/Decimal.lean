import FailOpenCache.Document.Numeral
import FailOpenCache.Text.Decimal

/-!
# Decimal digits read back

The written digits of a natural are a list of digits below ten without a superfluous leading zero.
Both readers of digits, that of counters and that of numerals in documents, give the natural back.
The number of digits says between which powers of ten a natural lies.
-/

namespace FailOpenCache.Text

/-- The decimal digits of a natural, the leading one first. -/
def decimals (value : Nat) : List Nat :=
  if value < 10 then [value] else decimals (value / 10) ++ [value % 10]
termination_by value
decreasing_by omega

/-- A natural is written with the characters of its digits. -/
theorem natural_eq_decimals (value : Nat) : natural value = (decimals value).map digitChar := by
  rw [natural, decimals]
  split
  · rfl
  · rw [natural_eq_decimals (value / 10), List.map_append, List.map_singleton]
termination_by value
decreasing_by omega

/-- There is at least one digit. -/
theorem decimals_ne_nil (value : Nat) : decimals value ≠ [] := by
  rw [decimals]
  split <;> simp

/-- Every digit is below ten. -/
theorem lt_ten_of_mem_decimals {value digit : Nat} (held : digit ∈ decimals value) :
    digit < 10 := by
  rw [decimals] at held
  split at held
  · rename_i small
    rw [List.mem_singleton.1 held]
    exact small
  · rcases List.mem_append.1 held with earlier | last
    · exact lt_ten_of_mem_decimals earlier
    · rw [List.mem_singleton.1 last]
      exact Nat.mod_lt _ (by decide)
termination_by value
decreasing_by omega

/-- A positive natural is not written with a leading zero. -/
theorem head_decimals_pos {value : Nat} (positive : 0 < value) :
    0 < (decimals value).head (decimals_ne_nil value) := by
  by_cases small : value < 10
  · simp only [show decimals value = [value] by rw [decimals, if_pos small], List.head_cons]
    exact positive
  · have split : decimals value = decimals (value / 10) ++ [value % 10] := by
      rw [decimals, if_neg small]
    simp only [split, List.head_append_of_ne_nil (decimals_ne_nil (value / 10))]
    exact head_decimals_pos (show 0 < value / 10 by omega)
termination_by value
decreasing_by omega

/-- Zero is the only natural below ten to the zeroth; more digits mean a greater natural. -/
theorem lt_pow_length_decimals (value : Nat) : value < 10 ^ (decimals value).length := by
  rw [decimals]
  split
  · rename_i small
    simpa using small
  · have below := lt_pow_length_decimals (value / 10)
    rw [List.length_append, List.length_singleton, Nat.pow_succ]
    omega
termination_by value
decreasing_by omega

/-- The leading digit of a positive natural counts. -/
theorem pow_length_decimals_le {value : Nat} (positive : 0 < value) :
    10 ^ ((decimals value).length - 1) ≤ value := by
  rw [decimals]
  split
  · exact positive
  · rename_i large
    have above := pow_length_decimals_le (show 0 < value / 10 by omega)
    have least : 1 ≤ (decimals (value / 10)).length :=
      List.length_pos_iff.2 (decimals_ne_nil _)
    have same : (decimals (value / 10)).length =
        (decimals (value / 10)).length - 1 + 1 := by omega
    rw [List.length_append, List.length_singleton, Nat.add_sub_cancel, same, Nat.pow_succ]
    omega
termination_by value
decreasing_by omega

/-- The digits of a numeral are gathered from the left. -/
theorem ofDigits_append_singleton (digits : List Nat) (digit : Nat) :
    Numeral.ofDigits (digits ++ [digit]) = 10 * Numeral.ofDigits digits + digit := by
  simp [Numeral.ofDigits, List.foldl_append]

/-- The digits of a natural make the natural. -/
@[simp] theorem ofDigits_decimals (value : Nat) : Numeral.ofDigits (decimals value) = value := by
  rw [decimals]
  split
  · simp [Numeral.ofDigits]
  · rw [ofDigits_append_singleton, ofDigits_decimals (value / 10)]
    omega
termination_by value
decreasing_by omega

/-- The character of a digit has the digit's value. -/
theorem digitValue?_digitChar {digit : Nat} (small : digit < 10) :
    digitValue? (digitChar digit) = some digit := by
  have all : ∀ value, value < 10 → digitValue? (digitChar value) = some value := by decide
  exact all digit small

/-- The characters of digits continue a natural as the digits do. -/
theorem continueNatural?_digits (value : Nat) {digits : List Nat}
    (small : ∀ digit ∈ digits, digit < 10) :
    continueNatural? value (digits.map digitChar) =
      some (digits.foldl (fun value digit => 10 * value + digit) value) := by
  induction digits generalizing value with
  | nil => rfl
  | cons digit rest ih =>
    have first := digitValue?_digitChar (small digit List.mem_cons_self)
    simp only [List.map_cons, continueNatural?, first, List.foldl_cons]
    exact ih _ fun later inside => small later (List.mem_cons_of_mem _ inside)

/-- A written natural starts with the character of a digit. -/
theorem natural_eq_cons (value : Nat) :
    ∃ digit rest, natural value = digitChar digit :: rest ∧ digit < 10 := by
  obtain ⟨digit, later, shape⟩ := List.exists_cons_of_ne_nil (decimals_ne_nil value)
  refine ⟨digit, later.map digitChar, ?_, ?_⟩
  · rw [natural_eq_decimals, shape, List.map_cons]
  · exact lt_ten_of_mem_decimals (shape ▸ List.mem_cons_self)

/-- A written natural reads back. -/
@[simp] theorem readNatural?_natural (value : Nat) : readNatural? (natural value) = some value := by
  have small : ∀ digit ∈ decimals value, digit < 10 := fun digit => lt_ten_of_mem_decimals
  have read := continueNatural?_digits 0 small
  rw [← natural_eq_decimals] at read
  obtain ⟨digit, rest, shape, -⟩ := natural_eq_cons value
  rw [shape] at read ⊢
  rw [readNatural?, read]
  · exact congrArg some (ofDigits_decimals value)
  · exact List.cons_ne_nil _ _

/-- A natural is written with the characters of digits. -/
theorem exists_digit_of_mem_natural {value : Nat} {character : Char}
    (held : character ∈ natural value) : ∃ digit < 10, character = digitChar digit := by
  rw [natural_eq_decimals] at held
  obtain ⟨digit, inside, rfl⟩ := List.mem_map.1 held
  exact ⟨digit, lt_ten_of_mem_decimals inside, rfl⟩

/-- The character of a digit is no sign. -/
theorem digitChar_ne_sign {digit : Nat} (small : digit < 10) :
    digitChar digit ≠ '+' ∧ digitChar digit ≠ '-' := by
  have all : ∀ value, value < 10 → digitChar value ≠ '+' ∧ digitChar value ≠ '-' := by decide
  exact all digit small

/-- A written natural up to the limit reads back, and no other does. -/
theorem readUnsigned?_natural (limit value : Nat) :
    readUnsigned? limit (natural value) = if value ≤ limit then some value else none := by
  obtain ⟨digit, rest, shape, small⟩ := natural_eq_cons value
  have notPlus := (digitChar_ne_sign small).1
  have read := readNatural?_natural value
  rw [shape] at read
  simp [shape, readUnsigned?, notPlus, read]

/-- A written integer between the bounds reads back, and no other does. -/
theorem readSigned?_integer (low high value : Int) :
    readSigned? low high (integer value) =
      if low ≤ value ∧ value ≤ high then some value else none := by
  cases value with
  | ofNat magnitude =>
    obtain ⟨digit, rest, shape, small⟩ := natural_eq_cons magnitude
    obtain ⟨notPlus, notMinus⟩ := digitChar_ne_sign small
    have read := readNatural?_natural magnitude
    rw [shape] at read
    simp [integer, shape, readSigned?, notPlus, notMinus, read]
  | negSucc magnitude =>
    have read := readNatural?_natural (magnitude + 1)
    simp only [integer, readSigned?, read, Option.map_some]
    rfl

end FailOpenCache.Text
