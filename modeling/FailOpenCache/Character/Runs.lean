import FailOpenCache.Text.Decimal
import FailOpenCache.Text.Hexadecimal

/-!
# Tables over the code points

A property of all characters is written down in one of two forms. Runs cover the code points from
zero on without a gap, each with its value and its length. Ranges name the code points that have
the property by their first and their last one.
-/

namespace FailOpenCache.Character

variable {α : Type}

/-- The run of a name and a length, once the name is not empty. -/
def finishRun (name : List Char) (length : Nat) : List (List Char × Nat) :=
  if name.isEmpty then [] else [(name.reverse, length)]

/-- The runs that characters write, behind the letters of a name, the latest first, and a length
read so far. -/
def readRunsFrom (name : List Char) (length : Nat) : List Char → List (List Char × Nat)
  | [] => finishRun name length
  | character :: rest =>
    match Text.digitValue? character with
    | some digit => readRunsFrom name (10 * length + digit) rest
    | none =>
      if character = ' ' ∨ character = '\n' then
        finishRun name length ++ readRunsFrom [] 0 rest
      else readRunsFrom (character :: name) length rest

/-- The runs that characters write: letters and a decimal length each, with blanks between. -/
def readRuns (characters : List Char) : List (List Char × Nat) :=
  readRunsFrom [] 0 characters

/-- The value of the run in which a code point falls. -/
def runAt? (runs : List (α × Nat)) (code : Nat) : Option α :=
  match runs with
  | [] => none
  | (value, length) :: rest => if code < length then some value else runAt? rest (code - length)

/-- The range of a first and a last code point, once the last one has digits; a range of one code
point is written without a first one. -/
def finishRange (first : Option Nat) (last : Option Nat) : List (Nat × Nat) :=
  match last with
  | none => []
  | some code => [(first.getD code, code)]

/-- The ranges that characters write, behind the first code point of a range, if a hyphen has been
read, and the code point read so far. -/
def readRangesFrom (first last : Option Nat) : List Char → List (Nat × Nat)
  | [] => finishRange first last
  | character :: rest =>
    match Text.hexadecimalValue? character with
    | some digit => readRangesFrom first (some (16 * last.getD 0 + digit)) rest
    | none =>
      if character = '-' then readRangesFrom last none rest
      else finishRange first last ++ readRangesFrom none none rest

/-- The ranges that characters write in hexadecimal, with blanks between. -/
def readRanges (characters : List Char) : List (Nat × Nat) :=
  readRangesFrom none none characters

/-- A code point falls in one of the ranges. -/
def inRanges (ranges : List (Nat × Nat)) (code : Nat) : Bool :=
  ranges.any fun range => decide (range.1 ≤ code) && decide (code ≤ range.2)

end FailOpenCache.Character
