import FailOpenCache.Character.Property

/-!
# Character classes

The body of a bracketed class has a language of its own. Characters and ranges of two characters
denote themselves; a backslash introduces a character by its number, a control character, a
property, or a punctuation mark taken literally; two hyphens take away from what stands before
them what stands behind; and a circumflex in front negates the whole. Hyphens in front are
literal. A body outside of this language denotes no class.
-/

namespace FailOpenCache

/-- A symbol of the body of a class. -/
inductive ClassSymbol where
  /-- A hyphen that no backslash precedes. -/
  | hyphen
  /-- A character. -/
  | literal (character : Char)
  /-- The characters that have a property, or those that do not have it. -/
  | property (negated : Bool) (property : Property)
deriving DecidableEq

namespace ClassSymbol

/-- Where in the body of a class a character stands. Names are kept the latest character first. -/
inductive Place where
  /-- Between symbols. -/
  | between
  /-- Behind a backslash. -/
  | escaped
  /-- Behind the mark of a character number of so many digits. -/
  | numberStart (digits : Nat)
  /-- Among the digits of a character number, of which so many are still to come. -/
  | number (remaining : Nat) (value : Nat)
  /-- Among the digits of a character number between braces. -/
  | bracedNumber (digits : List Char)
  /-- Behind the mark of a property. -/
  | propertyStart (negated : Bool)
  /-- In the name of a property between braces. -/
  | propertyName (negated : Bool) (name : List Char)
deriving DecidableEq

/-- The character of a number, if it is one. -/
def ofNumber? (value : Nat) : Option ClassSymbol :=
  if value < 0xD800 ∨ (0xDFFF < value ∧ value < 0x110000) then some (literal (Char.ofNat value))
  else none

/-- Cut a list at the first place where a character stands. -/
def cutAt? (mark : Char) (characters : List Char) : Option (List Char × List Char) :=
  if characters.contains mark then
    some (characters.takeWhile (· != mark), (characters.dropWhile (· != mark)).drop 1)
  else none

/-- Cut a list at the first exclamation mark that an equals sign follows. -/
def cutAtDifference? : List Char → Option (List Char × List Char)
  | '!' :: '=' :: rest => some ([], rest)
  | character :: rest =>
    (cutAtDifference? rest).map fun parts => (character :: parts.1, parts.2)
  | [] => none

/-- The property of a name between braces: a kind and a value of it, which may be excluded, or a
name alone. -/
def ofPropertyName? (negated : Bool) (name : List Char) : Option ClassSymbol :=
  match cutAtDifference? name with
  | some (kind, value) => (Property.ofValue? kind value).map (property !negated)
  | none =>
    match cutAt? ':' name with
    | some (kind, value) => (Property.ofValue? kind value).map (property negated)
    | none =>
      match cutAt? '=' name with
      | some (kind, value) => (Property.ofValue? kind value).map (property negated)
      | none => (Property.ofName? name).map (property negated)

/-- A punctuation mark or another ASCII character that is neither a letter nor a digit stands for
itself behind a backslash; the angle brackets do not. -/
def isLiteralEscape (character : Char) : Bool :=
  character.toNat < 0x80 && !character.isAlphanum && character != '<' && character != '>'

/-- The symbol that one character behind a backslash completes, or the place it leads to. -/
def escape? (character : Char) : Option (List ClassSymbol × Place) :=
  match character with
  | 'd' => some ([property false .digit], .between)
  | 'D' => some ([property true .digit], .between)
  | 's' => some ([property false .blank], .between)
  | 'S' => some ([property true .blank], .between)
  | 'w' => some ([property false .word], .between)
  | 'W' => some ([property true .word], .between)
  | 'a' => some ([literal '\x07'], .between)
  | 'f' => some ([literal '\x0c'], .between)
  | 't' => some ([literal '\t'], .between)
  | 'n' => some ([literal '\n'], .between)
  | 'r' => some ([literal '\r'], .between)
  | 'v' => some ([literal '\x0b'], .between)
  | 'x' => some ([], .numberStart 2)
  | 'u' => some ([], .numberStart 4)
  | 'U' => some ([], .numberStart 8)
  | 'p' => some ([], .propertyStart false)
  | 'P' => some ([], .propertyStart true)
  | _ => if isLiteralEscape character then some ([literal character], .between) else none

/-- One more digit of a character number, of which so many are to come with it. -/
def numberDigit? (remaining value : Nat) (character : Char) :
    Option (List ClassSymbol × Place) :=
  match Text.hexadecimalValue? character with
  | none => none
  | some digit =>
    if remaining ≤ 1 then (ofNumber? (16 * value + digit)).map fun symbol => ([symbol], .between)
    else some ([], .number (remaining - 1) (16 * value + digit))

/-- One character: the symbols that it completes and where the next one stands. -/
def step? (place : Place) (character : Char) : Option (List ClassSymbol × Place) :=
  match place with
  | .between =>
    if character = '\\' then some ([], .escaped)
    else if character = '-' then some ([hyphen], .between)
    else some ([literal character], .between)
  | .escaped => escape? character
  | .numberStart digits =>
    if character = '\x7b' then some ([], .bracedNumber []) else numberDigit? digits 0 character
  | .number remaining value => numberDigit? remaining value character
  | .bracedNumber digits =>
    if character = '\x7d' then
      match Text.readHexadecimal? digits.reverse with
      | some value => (ofNumber? value).map fun symbol => ([symbol], .between)
      | none => none
    else some ([], .bracedNumber (character :: digits))
  | .propertyStart negated =>
    if character = '\x7b' then some ([], .propertyName negated [])
    else if character = '\\' then none
    else (Property.ofName? [character]).map fun found => ([property negated found], .between)
  | .propertyName negated name =>
    if character = '\x7d' then
      (ofPropertyName? negated name.reverse).map fun symbol => ([symbol], .between)
    else some ([], .propertyName negated (character :: name))

/-- The symbols of the characters to come, if they end between two symbols. -/
def scanFrom (place : Place) : List Char → Option (List ClassSymbol)
  | [] => match place with
    | .between => some []
    | _ => none
  | character :: rest =>
    match step? place character with
    | none => none
    | some (symbols, next) => (scanFrom next rest).map (symbols ++ ·)

/-- The symbols of the body of a class. -/
def scan? (body : List Char) : Option (List ClassSymbol) :=
  scanFrom .between body

/-- The character that a symbol is as an end of a range; a property is none. -/
def endpoint? : ClassSymbol → Option Char
  | hyphen => some '-'
  | literal character => some character
  | property _ _ => none

end ClassSymbol

/-- One item of a class. -/
inductive ClassItem where
  /-- The characters from a first to a last one. -/
  | range (first last : Char)
  /-- The characters that have a property, or those that do not have it. -/
  | property (negated : Bool) (property : Property)
deriving DecidableEq

namespace ClassItem

/-- The item of a symbol alone. -/
def ofSymbol : ClassSymbol → ClassItem
  | .hyphen => range '-' '-'
  | .literal character => range character character
  | .property negated found => property negated found

/-- The item of two symbols around a hyphen. -/
def ofEnds? (first last : ClassSymbol) : Option ClassItem :=
  match first.endpoint?, last.endpoint? with
  | some low, some high => if low ≤ high then some (range low high) else none
  | _, _ => none

/-- The item denotes the character. -/
def holds (item : ClassItem) (character : Char) : Bool :=
  match item with
  | range first last => decide (first ≤ character) && decide (character ≤ last)
  | property negated found => found.holds character != negated

end ClassItem

/-- A class of characters: unions of items, of which all behind the first are taken away from
it. -/
structure CharacterClass where
  /-- The class denotes the characters that its unions do not. -/
  negated : Bool
  /-- The unions, the one to take away from first. -/
  unions : List (List ClassItem)
deriving DecidableEq

namespace CharacterClass

/-- The unions of symbols to come, behind the items of a union, the latest first. -/
def readUnions (union : List ClassItem) : List ClassSymbol → Option (List (List ClassItem))
  | [] => some [union.reverse]
  | .hyphen :: .hyphen :: rest => (readUnions [] rest).map (union.reverse :: ·)
  | first :: .hyphen :: .hyphen :: rest =>
    (readUnions [] rest).map ((ClassItem.ofSymbol first :: union).reverse :: ·)
  | first :: .hyphen :: last :: rest =>
    match ClassItem.ofEnds? first last with
    | some item => readUnions (item :: union) rest
    | none => none
  | symbol :: rest => readUnions (ClassItem.ofSymbol symbol :: union) rest

/-- The unions of the symbols of a class; hyphens in front are literal. -/
def ofSymbols? (symbols : List ClassSymbol) : Option (List (List ClassItem)) :=
  readUnions ((symbols.takeWhile (· == .hyphen)).map ClassItem.ofSymbol)
    (symbols.dropWhile (· == .hyphen))

/-- The class that the text between two brackets denotes. -/
def ofBody? (body : List Char) : Option CharacterClass :=
  match body with
  | '^' :: rest =>
    ((ClassSymbol.scan? rest).bind ofSymbols?).map fun unions => ⟨true, unions⟩
  | _ => ((ClassSymbol.scan? body).bind ofSymbols?).map fun unions => ⟨false, unions⟩

/-- Some item of a union denotes the character. -/
def inUnion (union : List ClassItem) (character : Char) : Bool :=
  union.any fun item => item.holds character

/-- The first union denotes the character and no later one does. -/
def inUnions (unions : List (List ClassItem)) (character : Char) : Bool :=
  match unions with
  | [] => false
  | base :: removed =>
    inUnion base character && !(removed.any fun union => inUnion union character)

/-- The class denotes the character. -/
def holds (characters : CharacterClass) (character : Char) : Bool :=
  inUnions characters.unions character != characters.negated

end CharacterClass

end FailOpenCache
