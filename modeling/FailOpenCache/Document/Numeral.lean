import FailOpenCache.Document.Basic

/-!
# Numerals

A numeral of the interchange format has a sign, whole digits, and optionally a fraction and an
exponent. A numeral of whole digits alone stands for an integer if one word holds it; minus zero
and all other numerals stand for binary numbers. The significand of such a number is gathered
into one word: whole digits that no longer fit raise the exponent instead, and fraction digits
that no longer fit are dropped.
-/

namespace FailOpenCache

/-- The parts of a written number. -/
structure Numeral where
  /-- A minus sign stands in front. -/
  negative : Bool
  /-- The digits before the point, the leading one first. -/
  whole : List Nat
  /-- The digits behind the point, if there is one. -/
  fraction : Option (List Nat)
  /-- The exponent, if there is one: its sign is negative, and its digits. -/
  exponent : Option (Bool × List Nat)
deriving DecidableEq

namespace Numeral

/-- The natural that digits write, the leading one first. -/
def ofDigits (digits : List Nat) : Nat :=
  digits.foldl (fun value digit => 10 * value + digit) 0

/-- The greatest significand. -/
def significandLimit : Nat := 2 ^ 64 - 1

/-- Gather whole digits while the significand fits; each later one raises the exponent. -/
def gatherWhole (significand : Nat) : List Nat → Nat × Nat
  | [] => (significand, 0)
  | digit :: rest =>
    if 10 * significand + digit ≤ significandLimit then
      gatherWhole (10 * significand + digit) rest
    else (significand, rest.length + 1)

/-- Gather fraction digits while the significand fits; each lowers the exponent, and those that
no longer fit are dropped. -/
def gatherFraction (significand : Nat) : List Nat → Nat × Nat
  | [] => (significand, 0)
  | digit :: rest =>
    if 10 * significand + digit ≤ significandLimit then
      let (gathered, places) := gatherFraction (10 * significand + digit) rest
      (gathered, places + 1)
    else (significand, 0)

/-- The exponent that a numeral states. -/
def statedExponent (numeral : Numeral) : Int :=
  match numeral.exponent with
  | none => 0
  | some (true, digits) => Int.neg (ofDigits digits)
  | some (false, digits) => ofDigits digits

/-- The binary number of a numeral; there is none when it overflows. -/
def real? (numeral : Numeral) : Option Binary64 :=
  let (whole, raised) := gatherWhole 0 numeral.whole
  let (significand, lowered) := gatherFraction whole (numeral.fraction.getD [])
  let exponent : Int := raised - lowered + numeral.statedExponent
  match Binary64.ofDecimal? significand exponent with
  | none => none
  | some magnitude => some (magnitude.withSign numeral.negative)

/-- The integer of a numeral of whole digits alone, if one word holds it; minus zero is none. -/
def integer? (numeral : Numeral) : Option Int :=
  if numeral.fraction.isSome || numeral.exponent.isSome then none
  else
    let magnitude := ofDigits numeral.whole
    if numeral.negative then
      if magnitude = 0 ∨ 2 ^ 63 < magnitude then none else some (Int.neg magnitude)
    else if magnitude ≤ significandLimit then some magnitude
    else none

/-- The number that a numeral stands for; there is none when it overflows. -/
def value? (numeral : Numeral) : Option Document :=
  match numeral.integer? with
  | some value => some (.integer value)
  | none =>
    match numeral.real? with
    | some value => some (.real value)
    | none => none

end Numeral

end FailOpenCache
