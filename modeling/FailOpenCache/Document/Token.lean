import FailOpenCache.Document.Numeral
import FailOpenCache.Text.Decimal
import FailOpenCache.Text.Hexadecimal

/-!
# Tokens of documents

A text is cut into tokens by a machine that reads one character at a time. The first lexeme that
is none of the format becomes the token `invalid`, and nothing is read behind it: a reader of
tokens that stops earlier never learns of it. Two faults do not stop the machine, because a reader
may skip over them: a numeral may overflow, and the escapes of a string may be halves of a
character without the other half, in which case the string has no text.
-/

namespace FailOpenCache

/-- A lexeme of the format. -/
inductive Token where
  /-- An opening square bracket. -/
  | beginArray
  /-- A closing square bracket. -/
  | endArray
  /-- An opening brace. -/
  | beginObject
  /-- A closing brace. -/
  | endObject
  /-- A comma. -/
  | comma
  /-- A colon. -/
  | colon
  /-- The literal of the absent value. -/
  | null
  /-- The literal of a truth value. -/
  | bool (value : Bool)
  /-- A number. -/
  | number (numeral : Numeral)
  /-- A string, with its text if its escapes have one. -/
  | string (text : Option String)
  /-- Anything that is no lexeme, together with all that follows it. -/
  | invalid
deriving DecidableEq

namespace Token

/-- A part of a string: a character, or half of one or a whole one by its code unit. -/
inductive Piece where
  /-- A character that stands for itself. -/
  | character (value : Char)
  /-- A code unit of sixteen bits. -/
  | unit (value : Nat)
deriving DecidableEq

/-- A code unit is the first half of a character. -/
def isHighHalf (unit : Nat) : Bool := 0xD800 ≤ unit && unit ≤ 0xDBFF

/-- A code unit is the second half of a character. -/
def isLowHalf (unit : Nat) : Bool := 0xDC00 ≤ unit && unit ≤ 0xDFFF

/-- The character of two halves. -/
def joinHalves (high low : Nat) : Char :=
  Char.ofNat (0x10000 + (high - 0xD800) * 0x400 + (low - 0xDC00))

/-- The characters of a string's parts; there are none when a half lacks the other one. -/
def joinPieces : List Piece → Option (List Char)
  | [] => some []
  | .character value :: rest => (joinPieces rest).map (value :: ·)
  | .unit high :: .unit low :: rest =>
    if isHighHalf high then
      if isLowHalf low then (joinPieces rest).map (joinHalves high low :: ·) else none
    else if isLowHalf high then none
    else (joinPieces (.unit low :: rest)).map (Char.ofNat high :: ·)
  | .unit value :: rest =>
    if isHighHalf value || isLowHalf value then none
    else (joinPieces rest).map (Char.ofNat value :: ·)

/-- The token of a finished string. -/
def ofPieces (pieces : List Piece) : Token :=
  string ((joinPieces pieces).map String.ofList)

/-- Where a numeral stands. -/
inductive NumeralPart where
  /-- Behind the minus sign. -/
  | sign
  /-- Behind a leading zero, which no digit may follow. -/
  | leadingZero
  /-- Among the whole digits. -/
  | whole
  /-- Behind the point. -/
  | point
  /-- Among the fraction digits. -/
  | fraction
  /-- Behind the exponent mark. -/
  | mark
  /-- Behind the sign of the exponent. -/
  | markSign
  /-- Among the exponent digits. -/
  | exponent
deriving DecidableEq

/-- A numeral may end here. -/
def NumeralPart.mayEnd : NumeralPart → Bool
  | leadingZero | whole | fraction | exponent => true
  | sign | point | mark | markSign => false

/-- What the machine is in the middle of. Digits and parts are kept the latest first. -/
inductive Progress where
  /-- Between lexemes. -/
  | between
  /-- Inside a literal, of which this character and those behind it are to come. -/
  | literal (expected : Char) (rest : List Char) (token : Token)
  /-- Inside a string. -/
  | text (pieces : List Piece)
  /-- Behind a backslash in a string. -/
  | escape (pieces : List Piece)
  /-- Among the four digits of a code unit in a string. -/
  | unit (pieces : List Piece) (digits : Nat) (value : Nat)
  /-- Inside a numeral. -/
  | number (part : NumeralPart) (numeral : Numeral)
  /-- Behind what is no lexeme. -/
  | stuck
deriving DecidableEq

/-- A numeral with the digits of each part in reading order. -/
def finishNumeral (numeral : Numeral) : Numeral :=
  { numeral with
    whole := numeral.whole.reverse
    fraction := numeral.fraction.map List.reverse
    exponent := numeral.exponent.map fun parts => (parts.1, parts.2.reverse) }

/-- The first character of a lexeme: the tokens it completes and what it begins. -/
def start (character : Char) : List Token × Progress :=
  match character with
  | ' ' | '\t' | '\n' | '\r' => ([], .between)
  | '[' => ([beginArray], .between)
  | ']' => ([endArray], .between)
  | '\x7b' => ([beginObject], .between)
  | '\x7d' => ([endObject], .between)
  | ',' => ([comma], .between)
  | ':' => ([colon], .between)
  | '"' => ([], .text [])
  | 'n' => ([], .literal 'u' ['l', 'l'] null)
  | 't' => ([], .literal 'r' ['u', 'e'] (bool true))
  | 'f' => ([], .literal 'a' ['l', 's', 'e'] (bool false))
  | '-' => ([], .number .sign ⟨true, [], none, none⟩)
  | '0' => ([], .number .leadingZero ⟨false, [0], none, none⟩)
  | _ =>
    match Text.digitValue? character with
    | some digit => ([], .number .whole ⟨false, [digit], none, none⟩)
    | none => ([invalid], .stuck)

/-- Add a digit to the fraction of a numeral. -/
def pushFraction (numeral : Numeral) (digit : Nat) : Numeral :=
  { numeral with fraction := some (digit :: numeral.fraction.getD []) }

/-- Add a digit to the exponent of a numeral. -/
def pushExponent (numeral : Numeral) (digit : Nat) : Numeral :=
  match numeral.exponent with
  | none => { numeral with exponent := some (false, [digit]) }
  | some (negative, digits) => { numeral with exponent := some (negative, digit :: digits) }

/-- One more character of a numeral, unless it cannot continue here. -/
def extendNumeral? (part : NumeralPart) (numeral : Numeral) (character : Char) :
    Option (NumeralPart × Numeral) :=
  match part, Text.digitValue? character with
  | .sign, some 0 => some (.leadingZero, { numeral with whole := [0] })
  | .sign, some digit => some (.whole, { numeral with whole := [digit] })
  | .whole, some digit => some (.whole, { numeral with whole := digit :: numeral.whole })
  | .point, some digit => some (.fraction, pushFraction numeral digit)
  | .fraction, some digit => some (.fraction, pushFraction numeral digit)
  | .mark, some digit => some (.exponent, pushExponent numeral digit)
  | .markSign, some digit => some (.exponent, pushExponent numeral digit)
  | .exponent, some digit => some (.exponent, pushExponent numeral digit)
  | .leadingZero, none | .whole, none =>
    if character = '.' then some (.point, numeral)
    else if character = 'e' ∨ character = 'E' then some (.mark, numeral)
    else none
  | .fraction, none =>
    if character = 'e' ∨ character = 'E' then some (.mark, numeral) else none
  | .mark, none =>
    if character = '+' then some (.markSign, { numeral with exponent := some (false, []) })
    else if character = '-' then some (.markSign, { numeral with exponent := some (true, []) })
    else none
  | .leadingZero, some _ | .sign, none | .point, none | .markSign, none | .exponent, none => none

/-- The character that a one-letter escape stands for. -/
def escapeValue? (character : Char) : Option Char :=
  match character with
  | '"' => some '"'
  | '\\' => some '\\'
  | '/' => some '/'
  | 'b' => some '\x08'
  | 'f' => some '\x0c'
  | 'n' => some '\n'
  | 'r' => some '\r'
  | 't' => some '\t'
  | _ => none

/-- One character: the tokens it completes and what the machine is in the middle of then. -/
def step (progress : Progress) (character : Char) : List Token × Progress :=
  match progress with
  | .between => start character
  | .literal expected rest token =>
    if character = expected then
      match rest with
      | [] => ([token], .between)
      | next :: later => ([], .literal next later token)
    else ([invalid], .stuck)
  | .text pieces =>
    if character = '"' then ([ofPieces pieces.reverse], .between)
    else if character = '\\' then ([], .escape pieces)
    else if character.toNat < 0x20 then ([invalid], .stuck)
    else ([], .text (.character character :: pieces))
  | .escape pieces =>
    if character = 'u' then ([], .unit pieces 0 0)
    else match escapeValue? character with
      | some value => ([], .text (.character value :: pieces))
      | none => ([invalid], .stuck)
  | .unit pieces digits value =>
    match Text.hexadecimalValue? character with
    | some digit =>
      let next := 16 * value + digit
      if digits = 3 then ([], .text (.unit next :: pieces))
      else ([], .unit pieces (digits + 1) next)
    | none => ([invalid], .stuck)
  | .number part numeral =>
    match extendNumeral? part numeral character with
    | some (next, extended) => ([], .number next extended)
    | none =>
      if part.mayEnd ∧ ¬(part = .leadingZero ∧ (Text.digitValue? character).isSome) then
        let (tokens, next) := start character
        (number (finishNumeral numeral) :: tokens, next)
      else ([invalid], .stuck)
  | .stuck => ([], .stuck)

/-- The tokens that the end of the text completes. -/
def finish : Progress → List Token
  | .between => []
  | .number part numeral => if part.mayEnd then [number (finishNumeral numeral)] else [invalid]
  | .stuck => []
  | .literal _ _ _ | .text _ | .escape _ | .unit _ _ _ => [invalid]

/-- The tokens of the characters to come. -/
def scanFrom (progress : Progress) : List Char → List Token
  | [] => finish progress
  | character :: rest =>
    let (tokens, next) := step progress character
    tokens ++ scanFrom next rest

/-- The tokens of a text. -/
def scan (characters : List Char) : List Token :=
  scanFrom .between characters

end Token

end FailOpenCache
