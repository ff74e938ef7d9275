import FailOpenCache.Document.Basic
import FailOpenCache.Number.Shortest

/-!
# Canonical text of documents

The canonical text has no blanks, writes the members of an object in the order of their names,
and escapes in strings only the quotation mark, the backslash and the control characters. Equal
documents have equal texts.
-/

namespace FailOpenCache.Document

/-- The digits of hexadecimal numerals, in lower case. -/
def hexDigit (value : Nat) : Char :=
  if value < 10 then Char.ofNat (48 + value) else Char.ofNat (87 + value)

/-- A control character by its code, in four hexadecimal digits. -/
def codeEscape (character : Char) : List Char :=
  let code := character.toNat
  ['\\', 'u', '0', '0', hexDigit (code / 16 % 16), hexDigit (code % 16)]

/-- A character inside a written string: five control characters have short escapes. -/
def escaped (character : Char) : List Char :=
  if character = '"' then ['\\', '"']
  else if character = '\\' then ['\\', '\\']
  else if character = '\n' then ['\\', 'n']
  else if character = '\r' then ['\\', 'r']
  else if character = '\t' then ['\\', 't']
  else if character = '\x08' then ['\\', 'b']
  else if character = '\x0c' then ['\\', 'f']
  else if character.toNat < 0x20 then codeEscape character
  else [character]

/-- A written string, between quotation marks. -/
def quoted (text : String) : List Char :=
  '"' :: (text.toList.flatMap escaped ++ ['"'])

mutual

/-- The canonical text of a document. -/
def print : Document → List Char
  | null => ['n', 'u', 'l', 'l']
  | bool true => ['t', 'r', 'u', 'e']
  | bool false => ['f', 'a', 'l', 's', 'e']
  | integer value => Text.integer value
  | real value => value.text
  | string value => quoted value
  | array items => '[' :: (printItems items ++ [']'])
  | object members => '\x7b' :: (printMembers members ++ ['\x7d'])

/-- Items with commas between them. -/
def printItems : List Document → List Char
  | [] => []
  | item :: rest => print item ++ printLaterItems rest

/-- Items after the first, each behind a comma. -/
def printLaterItems : List Document → List Char
  | [] => []
  | item :: rest => ',' :: (print item ++ printLaterItems rest)

/-- Members with commas between them. -/
def printMembers : List (String × Document) → List Char
  | [] => []
  | (name, value) :: rest => quoted name ++ ':' :: (print value ++ printLaterMembers rest)

/-- Members after the first, each behind a comma. -/
def printLaterMembers : List (String × Document) → List Char
  | [] => []
  | (name, value) :: rest =>
    ',' :: (quoted name ++ ':' :: (print value ++ printLaterMembers rest))

end

/-- The canonical text of a document. -/
def text (document : Document) : String :=
  String.ofList document.print

end FailOpenCache.Document
