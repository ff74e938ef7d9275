import FailOpenCache.Number.Power

/-!
# Finite binary floating point numbers

A finite number of 64 bits is a sign, a significand of at most 53 bits and a shift: its
magnitude is the significand times two to the shift, counted in units of the least positive
number, two to the power -1074. The conditions on significand and shift give every magnitude one
form, so equal magnitudes are equal values; the two zeros differ in their sign. Rounding takes an
exact ratio of naturals to the nearest number, and from the midpoint of two to the one with the
even significand.
-/

namespace FailOpenCache

/-- A finite number of 64 bits. -/
structure Binary64 where
  /-- The sign bit. -/
  negative : Bool
  /-- The significand, in units of two to the shift. -/
  significand : Nat
  /-- The power of two that scales the significand above the least unit. -/
  shift : Nat
  /-- The significand has at most 53 bits, and all 53 when it is shifted. -/
  normal : significand < 2 ^ 53 ∧ shift ≤ 2045 ∧ (shift = 0 ∨ 2 ^ 52 ≤ significand)
deriving DecidableEq

namespace Binary64

/-- The least positive number, as a fraction of one: one over two to this power. -/
def unitExponent : Nat := 1074

/-- Zero, with a sign. -/
def zero (negative : Bool) : Binary64 := ⟨negative, 0, 0, by decide⟩

instance : Inhabited Binary64 := ⟨zero false⟩

/-- The magnitude is zero. -/
def isZero (number : Binary64) : Bool := number.significand == 0

/-- The number with the other sign. -/
def neg (number : Binary64) : Binary64 := { number with negative := !number.negative }

/-- The magnitude in least units. -/
def units (number : Binary64) : Nat := number.significand * 2 ^ number.shift

/-- A number from its parts, when they are in the one form of its magnitude. -/
def ofParts? (negative : Bool) (significand shift : Nat) : Option Binary64 :=
  if normal : significand < 2 ^ 53 ∧ shift ≤ 2045 ∧ (shift = 0 ∨ 2 ^ 52 ≤ significand) then
    some ⟨negative, significand, shift, normal⟩
  else none

/-- A quotient rounded to the nearest natural; a half goes to the even neighbour. -/
def divideToEven (numerator denominator : Nat) : Nat :=
  let quotient := numerator / denominator
  let remainder := 2 * (numerator % denominator)
  if remainder < denominator then quotient
  else if remainder = denominator then quotient + quotient % 2
  else quotient + 1

/-- The number nearest to a ratio with a positive denominator; there is none when the ratio
rounds past the greatest finite number. -/
def ofRatio? (numerator denominator : Nat) : Option Binary64 :=
  let scaled := numerator * 2 ^ unitExponent
  let shift := Nat.log2 (scaled / denominator) - 52
  let significand := divideToEven scaled (denominator * 2 ^ shift)
  if significand < 2 ^ 53 then ofParts? false significand shift
  else ofParts? false (significand / 2) (shift + 1)

/-- The number nearest to a natural. -/
def ofNat? (value : Nat) : Option Binary64 := ofRatio? value 1

/-- The number nearest to an integer. -/
def ofInt? (value : Int) : Option Binary64 :=
  match value with
  | .ofNat magnitude => ofNat? magnitude
  | .negSucc magnitude => (ofNat? (magnitude + 1)).map neg

/-- The nearest number to the product of two magnitudes. -/
def multiply? (left right : Binary64) : Option Binary64 :=
  ofRatio? (left.units * right.units) (2 ^ unitExponent * 2 ^ unitExponent)

/-- The nearest number to the quotient of two magnitudes; there is none for a zero divisor. -/
def divide? (left right : Binary64) : Option Binary64 :=
  if right.isZero then none else ofRatio? left.units right.units

/-- The number nearest to a power of ten. -/
def powerOfTen? (exponent : Nat) : Option Binary64 := ofNat? (10 ^ exponent)

/-- The greatest power of ten that the format holds. -/
def greatestPower : Nat := 308

/-- Divide by the greatest power of ten while the exponent owed lies below its inverse and
anything is left to divide. Yields the scaled magnitude and the exponent still owed. -/
def scaleDown (magnitude : Binary64) (exponent : Int) : Nat → Option (Binary64 × Int)
  | 0 => some (magnitude, exponent)
  | divisions + 1 =>
    if exponent < -greatestPower ∧ magnitude.isZero = false then
      match powerOfTen? greatestPower with
      | none => none
      | some power =>
        match magnitude.divide? power with
        | none => none
        | some smaller => scaleDown smaller (exponent + greatestPower) divisions
    else some (magnitude, exponent)

/-- Two divisions by the greatest power leave nothing of a magnitude of one word. -/
def enoughDivisions : Nat := 2

/-- The magnitude of a decimal significand times a power of ten, as a product or a quotient of
two rounded numbers: each factor is rounded on its own and the result once more. There is none
when it overflows. -/
def ofDecimal? (significand : Nat) (exponent : Int) : Option Binary64 :=
  match ofNat? significand with
  | none => none
  | some magnitude =>
    match scaleDown magnitude exponent enoughDivisions with
    | none => none
    | some (scaled, owed) =>
      if scaled.isZero then some scaled
      else if owed > greatestPower then none
      else if 0 ≤ owed then
        match powerOfTen? owed.toNat with
        | none => none
        | some power => scaled.multiply? power
      else
        match powerOfTen? (-owed).toNat with
        | none => none
        | some power => scaled.divide? power

/-- A number with a given sign and the magnitude of another. -/
def withSign (number : Binary64) (negative : Bool) : Binary64 := { number with negative := negative }

end Binary64

end FailOpenCache
