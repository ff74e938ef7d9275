/-!
# Hexadecimal digits

Digits of either case are read alike.
-/

namespace FailOpenCache.Text

/-- The value of a hexadecimal digit of either case. -/
def hexadecimalValue? (character : Char) : Option Nat :=
  let code := character.toNat
  if 48 ≤ code ∧ code ≤ 57 then some (code - 48)
  else if 65 ≤ code ∧ code ≤ 70 then some (code - 55)
  else if 97 ≤ code ∧ code ≤ 102 then some (code - 87)
  else none

/-- The natural that hexadecimal digits continue, the leading digit first. -/
def continueHexadecimal? (value : Nat) : List Char → Option Nat
  | [] => some value
  | character :: rest =>
    match hexadecimalValue? character with
    | some digit => continueHexadecimal? (16 * value + digit) rest
    | none => none

/-- The natural written by a nonempty run of hexadecimal digits. -/
def readHexadecimal? : List Char → Option Nat
  | [] => none
  | characters => continueHexadecimal? 0 characters

end FailOpenCache.Text
