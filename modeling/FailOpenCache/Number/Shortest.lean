import FailOpenCache.Number.Binary64
import FailOpenCache.Text.Decimal

/-!
# Shortest decimal text of a number

Of all decimals that read back as a given number, the text shows one with the fewest digits, and
of those the one nearest to the number. The search tests, for one digit, two digits and so on,
the two neighbours of the number on the grid of decimals with so many digits. All arithmetic is
on naturals. How the digits are laid out is a choice of its own: plain while the decimal
exponent is small, scientific beyond.
-/

namespace FailOpenCache

/-- A decimal: a coefficient times a power of ten. -/
structure ScaledDecimal where
  /-- The digits, as one natural. -/
  coefficient : Nat
  /-- The power of ten of the last digit. -/
  exponent : Int
deriving DecidableEq

namespace Binary64

/-- A magnitude and the ends of the reals that round to it, all counted in quarters of the least
unit. The decimals between the two ends read back as the number. -/
structure Neighbourhood where
  /-- The lower end. -/
  low : Nat
  /-- The number itself. -/
  centre : Nat
  /-- The upper end. -/
  high : Nat
  /-- The ends belong to the neighbourhood. -/
  closed : Bool

/-- The reals that round to a magnitude. The gap below is half as wide where the shift steps. -/
def neighbourhood (number : Binary64) : Neighbourhood :=
  let scale := 2 ^ number.shift
  let centre := 4 * number.significand * scale
  let narrow := number.significand = 2 ^ 52 ∧ 0 < number.shift
  { low := centre - (if narrow then scale else 2 * scale)
    centre := centre
    high := centre + 2 * scale
    closed := decide (number.significand % 2 = 0) }

/-- How many quarters of the least unit make one. -/
def quarterUnits : Nat := 4 * 2 ^ unitExponent

/-- The decimal exponent of the leading digit of a positive ratio. -/
def leadingExponent (numerator denominator : Nat) : Int :=
  if denominator ≤ numerator then ((Text.natural (numerator / denominator)).length : Int) - 1
  else
    let inverse := (denominator + numerator - 1) / numerator
    Int.neg (Text.natural (inverse - 1)).length

/-- The neighbour of the number on the grid of a power of ten that reads back as it, if one does;
of two the nearer, and from their midpoint the even one. -/
def onGrid? (around : Neighbourhood) (exponent : Int) : Option Nat :=
  let up := 10 ^ (-exponent).toNat
  let down := quarterUnits * 10 ^ exponent.toNat
  let below := around.centre * up / down
  let inside := fun coefficient : Nat =>
    let point := coefficient * down
    if around.closed then decide (around.low * up ≤ point ∧ point ≤ around.high * up)
    else decide (around.low * up < point ∧ point < around.high * up)
  let toBelow := around.centre * up - below * down
  let toAbove := (below + 1) * down - around.centre * up
  match inside below, inside (below + 1) with
  | true, true =>
    if toBelow < toAbove ∨ (toBelow = toAbove ∧ below % 2 = 0) then some below
    else some (below + 1)
  | true, false => some below
  | false, true => some (below + 1)
  | false, false => none

/-- Search the grids from one digit on; seventeen digits always suffice. -/
def searchGrids (around : Neighbourhood) (leading : Int) : Nat → Nat → ScaledDecimal
  | 0, digits =>
    let exponent := leading + 1 - digits
    ⟨around.centre * 10 ^ (-exponent).toNat / (quarterUnits * 10 ^ exponent.toNat), exponent⟩
  | remaining + 1, digits =>
    let exponent := leading + 1 - digits
    match onGrid? around exponent with
    | some coefficient => ⟨coefficient, exponent⟩
    | none => searchGrids around leading remaining (digits + 1)

/-- The decimal with the fewest digits that reads back as a nonzero magnitude. -/
def shortest (number : Binary64) : ScaledDecimal :=
  let around := number.neighbourhood
  searchGrids around (leadingExponent around.centre quarterUnits) 17 1

end Binary64

/-- How the digits of a number are laid out. -/
structure NumberLayout where
  /-- The least decimal exponent of the leading digit that is written without an exponent. -/
  plainFrom : Int
  /-- The greatest one. -/
  plainTo : Int

/-- Documents write a number plainly from a hundred-thousandth up to below ten to the sixteenth,
always with a decimal point, and otherwise with a signed exponent. -/
def NumberLayout.document : NumberLayout := ⟨-5, 15⟩

/-- Lay out digits, the leading one having the given decimal exponent. -/
def NumberLayout.digits (layout : NumberLayout) (digits : List Char) (exponent : Int) : List Char :=
  if layout.plainFrom ≤ exponent ∧ exponent ≤ layout.plainTo then
    if exponent < 0 then
      '0' :: '.' :: (List.replicate ((-exponent).toNat - 1) '0' ++ digits)
    else
      let whole := exponent.toNat + 1
      let padded := digits ++ List.replicate (whole - digits.length) '0'
      let fraction := padded.drop whole
      padded.take whole ++ '.' :: (if fraction.isEmpty then ['0'] else fraction)
  else
    let sign := if exponent < 0 then '-' else '+'
    let mantissa := match digits with
      | [] => []
      | [digit] => [digit]
      | digit :: rest => digit :: '.' :: rest
    mantissa ++ 'e' :: sign :: Text.natural exponent.natAbs

/-- The text of a number as documents write it. -/
def Binary64.text (number : Binary64) : List Char :=
  let magnitude :=
    if number.isZero then ['0', '.', '0']
    else
      let decimal := number.shortest
      let digits := Text.natural decimal.coefficient
      let significant := (digits.reverse.dropWhile (· == '0')).reverse
      NumberLayout.document.digits significant (decimal.exponent + digits.length - 1)
  if number.negative then '-' :: magnitude else magnitude

end FailOpenCache
