/-!
# Decimal integers in text

A written natural has no superfluous leading zero. A read one is more liberal: any number of
leading zeros, and one leading sign. Reading is bounded by a range given by the caller, so a
numeral outside of the range is no numeral at all.
-/

namespace FailOpenCache.Text

/-- The character of a digit below ten. -/
def digitChar (digit : Nat) : Char :=
  Char.ofNat (48 + digit)

/-- The value of an ASCII digit. -/
def digitValue? (character : Char) : Option Nat :=
  let code := character.toNat
  if 48 ≤ code ∧ code ≤ 57 then some (code - 48) else none

/-- The decimal digits of a natural, the leading one first. -/
def natural (value : Nat) : List Char :=
  if value < 10 then [digitChar value]
  else natural (value / 10) ++ [digitChar (value % 10)]
termination_by value
decreasing_by omega

/-- The decimal text of an integer. -/
def integer (value : Int) : List Char :=
  match value with
  | .ofNat magnitude => natural magnitude
  | .negSucc magnitude => '-' :: natural (magnitude + 1)

/-- The decimal text of a natural. -/
def naturalText (value : Nat) : String :=
  String.ofList (natural value)

/-- The decimal text of an integer. -/
def integerText (value : Int) : String :=
  String.ofList (integer value)

/-- The natural that digits continue, the leading digit first. -/
def continueNatural? (value : Nat) : List Char → Option Nat
  | [] => some value
  | character :: rest =>
    match digitValue? character with
    | some digit => continueNatural? (10 * value + digit) rest
    | none => none

/-- The natural written by a nonempty run of digits. -/
def readNatural? : List Char → Option Nat
  | [] => none
  | characters => continueNatural? 0 characters

/-- A natural up to a limit; a plus sign may stand in front. -/
def readUnsigned? (limit : Nat) (characters : List Char) : Option Nat :=
  let digits := match characters with
    | '+' :: rest => rest
    | other => other
  match readNatural? digits with
  | some value => if value ≤ limit then some value else none
  | none => none

/-- An integer between two bounds; a sign may stand in front. -/
def readSigned? (low high : Int) (characters : List Char) : Option Int :=
  let value? := match characters with
    | '+' :: rest => (readNatural? rest).map Int.ofNat
    | '-' :: rest => (readNatural? rest).map fun magnitude => -Int.ofNat magnitude
    | other => (readNatural? other).map Int.ofNat
  match value? with
  | some value => if low ≤ value ∧ value ≤ high then some value else none
  | none => none

end FailOpenCache.Text
