import FailOpenCache.Document.Token
import FailOpenCache.Proofs.Text.Decimal

/-!
# Scanning written numerals

A numeral is written with its sign, its whole digits, and the fraction and the exponent that it
has. The scanner gives a written numeral back as one token, whatever follows it, as long as what
follows cannot continue it: in a document that is the end, a comma or a closing bracket.
-/

namespace FailOpenCache

open Text (digitChar)

namespace Numeral

/-- The fraction as it is written, behind its point. -/
def printFraction (numeral : Numeral) : List Char :=
  match numeral.fraction with
  | none => []
  | some digits => '.' :: digits.map digitChar

/-- The exponent as it is written, always with its sign. -/
def printExponent (numeral : Numeral) : List Char :=
  match numeral.exponent with
  | none => []
  | some (negative, digits) => 'e' :: (if negative then '-' else '+') :: digits.map digitChar

/-- The digits, the fraction and the exponent as they are written. -/
def printMagnitude (numeral : Numeral) : List Char :=
  numeral.whole.map digitChar ++ (numeral.printFraction ++ numeral.printExponent)

/-- The numeral as it is written. -/
def print (numeral : Numeral) : List Char :=
  if numeral.negative then '-' :: numeral.printMagnitude else numeral.printMagnitude

/-- A list of at least one decimal digit. -/
def Digits (digits : List Nat) : Prop := digits ≠ [] ∧ ∀ digit ∈ digits, digit < 10

/-- The numeral has a written form: its parts have digits, and none of the whole digits is a
superfluous leading zero. -/
structure Written (numeral : Numeral) : Prop where
  /-- There are whole digits. -/
  whole : Digits numeral.whole
  /-- A leading zero stands alone. -/
  leading : ∀ rest, numeral.whole = 0 :: rest → rest = []
  /-- A fraction has digits. -/
  fraction : ∀ digits, numeral.fraction = some digits → Digits digits
  /-- An exponent has digits. -/
  exponent : ∀ parts, numeral.exponent = some parts → Digits parts.2

end Numeral

namespace Token

/-- What follows a number in a document: nothing, a comma or a closing bracket. -/
def Delimited (rest : List Char) : Prop :=
  rest = [] ∨ ∃ character later, rest = character :: later ∧
    (character = ',' ∨ character = ']' ∨ character = '\x7d')

/-- A character that continues a numeral completes no token. -/
theorem scanFrom_extend {part next : NumeralPart} {numeral extended : Numeral} {character : Char}
    (extends? : extendNumeral? part numeral character = some (next, extended))
    (rest : List Char) :
    scanFrom (.number part numeral) (character :: rest) =
      scanFrom (.number next extended) rest := by
  simp [scanFrom, step, extends?]

/-- A digit continues whole digits. -/
theorem scanFrom_whole {digits : List Nat} (small : ∀ digit ∈ digits, digit < 10)
    (numeral : Numeral) (rest : List Char) :
    scanFrom (.number .whole numeral) (digits.map digitChar ++ rest) =
      scanFrom (.number .whole { numeral with whole := digits.reverse ++ numeral.whole }) rest := by
  induction digits generalizing numeral with
  | nil => rfl
  | cons digit later ih =>
    have value := Text.digitValue?_digitChar (small digit List.mem_cons_self)
    have extends? : extendNumeral? .whole numeral (digitChar digit) =
        some (.whole, { numeral with whole := digit :: numeral.whole }) := by
      simp [extendNumeral?, value]
    rw [List.map_cons, List.cons_append, scanFrom_extend extends?,
      ih fun other inside => small other (List.mem_cons_of_mem _ inside)]
    simp

/-- A digit continues a fraction. -/
theorem scanFrom_fraction {digits : List Nat} (small : ∀ digit ∈ digits, digit < 10)
    (numeral : Numeral) (gathered : List Nat) (rest : List Char) :
    scanFrom (.number .fraction { numeral with fraction := some gathered })
        (digits.map digitChar ++ rest) =
      scanFrom (.number .fraction { numeral with fraction := some (digits.reverse ++ gathered) })
        rest := by
  induction digits generalizing gathered with
  | nil => rfl
  | cons digit later ih =>
    have value := Text.digitValue?_digitChar (small digit List.mem_cons_self)
    have extends? : extendNumeral? .fraction { numeral with fraction := some gathered }
        (digitChar digit) =
        some (.fraction, { numeral with fraction := some (digit :: gathered) }) := by
      simp [extendNumeral?, value, pushFraction]
    rw [List.map_cons, List.cons_append, scanFrom_extend extends?,
      ih fun other inside => small other (List.mem_cons_of_mem _ inside)]
    simp

/-- A digit continues an exponent. -/
theorem scanFrom_exponent {digits : List Nat} (small : ∀ digit ∈ digits, digit < 10)
    (numeral : Numeral) (negative : Bool) (gathered : List Nat) (rest : List Char) :
    scanFrom (.number .exponent { numeral with exponent := some (negative, gathered) })
        (digits.map digitChar ++ rest) =
      scanFrom (.number .exponent
        { numeral with exponent := some (negative, digits.reverse ++ gathered) }) rest := by
  induction digits generalizing gathered with
  | nil => rfl
  | cons digit later ih =>
    have value := Text.digitValue?_digitChar (small digit List.mem_cons_self)
    have extends? : extendNumeral? .exponent
        { numeral with exponent := some (negative, gathered) } (digitChar digit) =
        some (.exponent, { numeral with exponent := some (negative, digit :: gathered) }) := by
      simp [extendNumeral?, value, pushExponent]
    rw [List.map_cons, List.cons_append, scanFrom_extend extends?,
      ih fun other inside => small other (List.mem_cons_of_mem _ inside)]
    simp

/-- A numeral that may end here ends before what follows a number. -/
theorem scanFrom_close {part : NumeralPart} (ends : part.mayEnd = true) (numeral : Numeral)
    {rest : List Char} (delimited : Delimited rest) :
    scanFrom (.number part numeral) rest =
      number (finishNumeral numeral) :: scanFrom .between rest := by
  rcases delimited with rfl | ⟨character, later, rfl, isDelimiter⟩
  · simp [scanFrom, finish, ends]
  · have stops : extendNumeral? part numeral character = none ∧
        (Text.digitValue? character).isSome = false := by
      rcases isDelimiter with rfl | rfl | rfl <;> cases part <;> simp_all [extendNumeral?,
        NumeralPart.mayEnd, Text.digitValue?]
    simp [scanFrom, step, stops.1, stops.2, ends]

/-- The part in which the scanner is behind whole digits. -/
def wholePart (whole : List Nat) : NumeralPart :=
  if whole = [0] then .leadingZero else .whole

/-- A digit begins a numeral. -/
theorem start_digit {digit : Nat} (small : digit < 10) :
    start (digitChar digit) =
      ([], .number (wholePart [digit]) ⟨false, [digit], none, none⟩) := by
  have all : ∀ value, value < 10 → start (digitChar value) =
      ([], .number (wholePart [value]) ⟨false, [value], none, none⟩) := by decide
  exact all digit small

/-- A digit continues a sign. -/
theorem extendNumeral?_sign {digit : Nat} (small : digit < 10) (numeral : Numeral) :
    extendNumeral? .sign numeral (digitChar digit) =
      some (wholePart [digit], { numeral with whole := [digit] }) := by
  have value := Text.digitValue?_digitChar small
  cases digit with
  | zero => simp [extendNumeral?, value, wholePart]
  | succ digit => simp [extendNumeral?, value, wholePart]

/-- More whole digits follow a first one, unless that is a zero. -/
theorem scanFrom_wholeDigits {digit : Nat} {later : List Nat}
    (small : ∀ other ∈ later, other < 10) (leading : digit = 0 → later = []) (negative : Bool)
    (rest : List Char) :
    scanFrom (.number (wholePart [digit]) ⟨negative, [digit], none, none⟩)
        (later.map digitChar ++ rest) =
      scanFrom (.number (wholePart (digit :: later))
        ⟨negative, (digit :: later).reverse, none, none⟩) rest := by
  by_cases zero : digit = 0
  · rw [leading zero]
    rfl
  · have part : ∀ others, wholePart (digit :: others) = .whole := by
      intro others
      simp [wholePart, zero]
    rw [part, part, scanFrom_whole small]
    simp

/-- The whole digits of a numeral, with its sign. -/
theorem scanFrom_signedWhole {numeral : Numeral} (written : numeral.Written)
    (rest : List Char) :
    scanFrom .between
        (if numeral.negative then '-' :: (numeral.whole.map digitChar ++ rest)
          else numeral.whole.map digitChar ++ rest) =
      scanFrom (.number (wholePart numeral.whole)
        ⟨numeral.negative, numeral.whole.reverse, none, none⟩) rest := by
  obtain ⟨digit, later, shape⟩ := List.exists_cons_of_ne_nil written.whole.1
  have small : digit < 10 := written.whole.2 digit (shape ▸ List.mem_cons_self)
  have smaller : ∀ other ∈ later, other < 10 := fun other inside =>
    written.whole.2 other (shape ▸ List.mem_cons_of_mem _ inside)
  have leading : digit = 0 → later = [] := fun zero =>
    written.leading later (by rw [shape, zero])
  rw [shape, List.map_cons, List.cons_append]
  cases numeral.negative with
  | false =>
    rw [← scanFrom_wholeDigits smaller leading]
    simp [scanFrom, step, start_digit small]
  | true =>
    rw [← scanFrom_wholeDigits smaller leading, if_pos rfl]
    have sign : scanFrom .between ('-' :: digitChar digit :: (later.map digitChar ++ rest)) =
        scanFrom (.number .sign ⟨true, [], none, none⟩)
          (digitChar digit :: (later.map digitChar ++ rest)) := by
      simp [scanFrom, step, start]
    rw [sign, scanFrom_extend (extendNumeral?_sign small _)]

/-- A point and digits behind whole digits are a fraction. -/
theorem scanFrom_pointDigits (whole : List Nat) (numeral : Numeral) {digits : List Nat}
    (proper : Numeral.Digits digits) (without : numeral.fraction = none) (rest : List Char) :
    scanFrom (.number (wholePart whole) numeral) ('.' :: digits.map digitChar ++ rest) =
      scanFrom (.number .fraction { numeral with fraction := some digits.reverse }) rest := by
  obtain ⟨digit, later, rfl⟩ := List.exists_cons_of_ne_nil proper.1
  have small := proper.2 digit List.mem_cons_self
  have smaller : ∀ other ∈ later, other < 10 := fun other inside =>
    proper.2 other (List.mem_cons_of_mem _ inside)
  have point : extendNumeral? (wholePart whole) numeral '.' = some (.point, numeral) := by
    unfold wholePart
    split <;> rfl
  have first : extendNumeral? .point numeral (digitChar digit) =
      some (.fraction, { numeral with fraction := some [digit] }) := by
    simp [extendNumeral?, Text.digitValue?_digitChar small, pushFraction, without]
  rw [List.cons_append, scanFrom_extend point, List.map_cons, List.cons_append,
    scanFrom_extend first, scanFrom_fraction smaller]
  simp

/-- A mark, a sign and digits behind whole digits or a fraction are an exponent. -/
theorem scanFrom_markDigits {part : NumeralPart} (numeral : Numeral) (negative : Bool)
    {digits : List Nat} (proper : Numeral.Digits digits)
    (marks : extendNumeral? part numeral 'e' = some (.mark, numeral)) (rest : List Char) :
    scanFrom (.number part numeral)
        ('e' :: (if negative then '-' else '+') :: digits.map digitChar ++ rest) =
      scanFrom (.number .exponent { numeral with exponent := some (negative, digits.reverse) })
        rest := by
  obtain ⟨digit, later, rfl⟩ := List.exists_cons_of_ne_nil proper.1
  have small := proper.2 digit List.mem_cons_self
  have smaller : ∀ other ∈ later, other < 10 := fun other inside =>
    proper.2 other (List.mem_cons_of_mem _ inside)
  have sign : extendNumeral? .mark numeral (if negative then '-' else '+') =
      some (.markSign, { numeral with exponent := some (negative, []) }) := by
    cases negative <;> rfl
  have first : extendNumeral? .markSign { numeral with exponent := some (negative, []) }
      (digitChar digit) =
      some (.exponent, { numeral with exponent := some (negative, [digit]) }) := by
    simp [extendNumeral?, Text.digitValue?_digitChar small, pushExponent]
  rw [List.cons_append, List.cons_append, scanFrom_extend marks, scanFrom_extend sign,
    List.map_cons, List.cons_append, scanFrom_extend first, scanFrom_exponent smaller]
  simp

/-- The exponent of a numeral, if it has one, and the end of the numeral. -/
theorem scanFrom_exponentEnd {part : NumeralPart} (ends : part.mayEnd = true)
    (numeral : Numeral) (gathered : Numeral) (without : gathered.exponent = none)
    (marks : extendNumeral? part gathered 'e' = some (.mark, gathered))
    (proper : ∀ parts, numeral.exponent = some parts → Numeral.Digits parts.2)
    {rest : List Char} (delimited : Delimited rest) :
    scanFrom (.number part gathered) (numeral.printExponent ++ rest) =
      number { finishNumeral gathered with exponent := numeral.exponent } ::
        scanFrom .between rest := by
  cases parts : numeral.exponent with
  | none =>
    rw [Numeral.printExponent, parts, List.nil_append, scanFrom_close ends _ delimited]
    simp [finishNumeral, without]
  | some exponent =>
    obtain ⟨negative, digits⟩ := exponent
    rw [Numeral.printExponent, parts,
      scanFrom_markDigits gathered negative (proper _ parts) marks rest,
      scanFrom_close rfl _ delimited]
    simp [finishNumeral]

/-- A written numeral is scanned as one token. -/
theorem scanFrom_print {numeral : Numeral} (written : numeral.Written) {rest : List Char}
    (delimited : Delimited rest) :
    scanFrom .between (numeral.print ++ rest) = number numeral :: scanFrom .between rest := by
  have signed : numeral.print ++ rest =
      if numeral.negative then '-' :: (numeral.whole.map digitChar ++
        (numeral.printFraction ++ (numeral.printExponent ++ rest)))
      else numeral.whole.map digitChar ++
        (numeral.printFraction ++ (numeral.printExponent ++ rest)) := by
    unfold Numeral.print Numeral.printMagnitude
    split <;> simp
  rw [signed, scanFrom_signedWhole written]
  cases parts : numeral.fraction with
  | none =>
    have marks : extendNumeral? (wholePart numeral.whole)
        ⟨numeral.negative, numeral.whole.reverse, none, none⟩ 'e' =
        some (.mark, ⟨numeral.negative, numeral.whole.reverse, none, none⟩) := by
      unfold wholePart
      split <;> rfl
    have ends : (wholePart numeral.whole).mayEnd = true := by
      unfold wholePart
      split <;> rfl
    rw [Numeral.printFraction, parts, List.nil_append,
      scanFrom_exponentEnd ends numeral _ rfl marks written.exponent delimited]
    simp only [finishNumeral, List.reverse_reverse, Option.map_none]
    rw [← parts]
  | some digits =>
    rw [Numeral.printFraction, parts,
      scanFrom_pointDigits _ _ (written.fraction digits parts) rfl,
      scanFrom_exponentEnd rfl numeral _ rfl rfl written.exponent delimited]
    simp [finishNumeral, ← parts]

end Token

end FailOpenCache
