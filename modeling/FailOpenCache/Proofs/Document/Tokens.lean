import FailOpenCache.Document.Printer
import FailOpenCache.Proofs.Number.Text

/-!
# Tokens of canonical texts

The canonical text of a document is scanned into the tokens of the document, which follow its
shape: one token for what has no parts, and the tokens of the parts between brackets with commas
and colons. A string is scanned back as the same string, because every character that is escaped
is either escaped by a letter that stands for it or by its code.
-/

namespace FailOpenCache

namespace Token

/-- How the scanner keeps a character of a written string: a control character without a letter
of its own by its code, any other by itself. -/
def pieceOf (character : Char) : Piece :=
  if character = '"' ∨ character = '\\' ∨ character = '\n' ∨ character = '\r' ∨
      character = '\t' ∨ character = '\x08' ∨ character = '\x0c' then .character character
  else if character.toNat < 0x20 then .unit character.toNat
  else .character character

/-- The value of a hexadecimal digit that is written. -/
theorem hexadecimalValue?_hexDigit {value : Nat} (small : value < 16) :
    Text.hexadecimalValue? (Document.hexDigit value) = some value := by
  have all : ∀ value, value < 16 →
      Text.hexadecimalValue? (Document.hexDigit value) = some value := by decide
  exact all value small

/-- A code of two hexadecimal digits is scanned as a code unit. -/
theorem scanFrom_codeEscape (pieces : List Piece) {character : Char}
    (control : character.toNat < 0x20) (rest : List Char) :
    scanFrom (.text pieces) (Document.codeEscape character ++ rest) =
      scanFrom (.text (.unit character.toNat :: pieces)) rest := by
  have zero : Text.hexadecimalValue? '0' = some 0 := rfl
  have high := hexadecimalValue?_hexDigit (show character.toNat / 16 % 16 < 16 by omega)
  have low := hexadecimalValue?_hexDigit (show character.toNat % 16 < 16 by omega)
  have value : 16 * (character.toNat / 16 % 16) + character.toNat % 16 = character.toNat := by
    omega
  simp [Document.codeEscape, scanFrom, step, zero, high, low, value]

/-- A written character of a string is scanned as one piece. -/
theorem scanFrom_escaped (pieces : List Piece) (character : Char) (rest : List Char) :
    scanFrom (.text pieces) (Document.escaped character ++ rest) =
      scanFrom (.text (pieceOf character :: pieces)) rest := by
  unfold Document.escaped pieceOf
  by_cases quote : character = '"'
  · subst quote
    rfl
  by_cases backslash : character = '\\'
  · subst backslash
    rfl
  by_cases newline : character = '\n'
  · subst newline
    rfl
  by_cases carriage : character = '\r'
  · subst carriage
    rfl
  by_cases tab : character = '\t'
  · subst tab
    rfl
  by_cases backspace : character = '\x08'
  · subst backspace
    rfl
  by_cases feed : character = '\x0c'
  · subst feed
    rfl
  simp only [quote, backslash, newline, carriage, tab, backspace, feed, ↓reduceIte, or_self]
  split
  · rename_i control
    exact scanFrom_codeEscape pieces control rest
  · rename_i plain
    simp [scanFrom, step, quote, backslash, plain]

/-- The written characters of a string, up to its end. -/
theorem scanFrom_escapedAll (characters : List Char) (pieces : List Piece) (rest : List Char) :
    scanFrom (.text pieces) (characters.flatMap Document.escaped ++ '"' :: rest) =
      ofPieces (pieces.reverse ++ characters.map pieceOf) :: scanFrom .between rest := by
  induction characters generalizing pieces with
  | nil => simp [scanFrom, step]
  | cons character later ih =>
    rw [List.flatMap_cons, List.append_assoc, scanFrom_escaped, ih]
    simp

/-- A control character is no half of a character. -/
theorem control_ne_half {unit : Nat} (control : unit < 0x20) :
    isHighHalf unit = false ∧ isLowHalf unit = false := by
  simp [isHighHalf, isLowHalf]
  omega

/-- A piece by its code stands for its character, whatever pieces follow. -/
theorem joinPieces_unit {character : Char} (control : character.toNat < 0x20)
    (later : List Char) :
    joinPieces (.unit character.toNat :: later.map pieceOf) =
      (joinPieces (later.map pieceOf)).map (character :: ·) := by
  obtain ⟨notHigh, notLow⟩ := control_ne_half control
  have same : Char.ofNat character.toNat = character := Char.ofNat_toNat character
  cases shape : later.map pieceOf with
  | nil => simp [joinPieces, notHigh, notLow, same]
  | cons piece others => cases piece <;> simp [joinPieces, notHigh, notLow, same]

/-- A character is kept by itself, or it is a control character and kept by its code. -/
theorem pieceOf_cases (character : Char) :
    pieceOf character = .character character ∨
      (character.toNat < 0x20 ∧ pieceOf character = .unit character.toNat) := by
  unfold pieceOf
  by_cases letter : character = '"' ∨ character = '\\' ∨ character = '\n' ∨ character = '\r' ∨
      character = '\t' ∨ character = '\x08' ∨ character = '\x0c'
  · exact .inl (if_pos letter)
  · rw [if_neg letter]
    by_cases control : character.toNat < 0x20
    · exact .inr ⟨control, if_pos control⟩
    · exact .inl (if_neg control)

/-- The pieces of a string's characters make the characters. -/
theorem joinPieces_map_pieceOf (characters : List Char) :
    joinPieces (characters.map pieceOf) = some characters := by
  induction characters with
  | nil => rfl
  | cons character later ih =>
    rw [List.map_cons]
    rcases pieceOf_cases character with plain | ⟨control, coded⟩
    · rw [plain, joinPieces, ih]
      rfl
    · rw [coded, joinPieces_unit control, ih]
      rfl

/-- A written string is scanned as one token. -/
theorem scanFrom_quoted (text : String) (rest : List Char) :
    scanFrom .between (Document.quoted text ++ rest) =
      string (some text) :: scanFrom .between rest := by
  have opened : scanFrom .between (Document.quoted text ++ rest) =
      scanFrom (.text []) (text.toList.flatMap Document.escaped ++ '"' :: rest) := by
    simp [Document.quoted, scanFrom, step, start]
  rw [opened, scanFrom_escapedAll]
  simp [ofPieces, joinPieces_map_pieceOf]

/-- A comma is scanned as one. -/
theorem scanFrom_comma (rest : List Char) :
    scanFrom .between (',' :: rest) = comma :: scanFrom .between rest := rfl

/-- What comes before a comma is delimited. -/
theorem delimited_comma (rest : List Char) : Delimited (',' :: rest) :=
  .inr ⟨',', rest, rfl, .inl rfl⟩

/-- What comes before a closing square bracket is delimited. -/
theorem delimited_endArray (rest : List Char) : Delimited (']' :: rest) :=
  .inr ⟨']', rest, rfl, .inr (.inl rfl)⟩

/-- What comes before a closing brace is delimited. -/
theorem delimited_endObject (rest : List Char) : Delimited ('\x7d' :: rest) :=
  .inr ⟨'\x7d', rest, rfl, .inr (.inr rfl)⟩

end Token

namespace Document

open Token (scanFrom Delimited)

mutual

/-- The tokens of a document. -/
def tokens : Document → List Token
  | null => [.null]
  | bool value => [.bool value]
  | integer value => [.number (.ofInteger value)]
  | real value => [.number value.numeral]
  | string value => [.string (some value)]
  | array items => .beginArray :: (itemTokens items ++ [.endArray])
  | object members => .beginObject :: (memberTokens members ++ [.endObject])

/-- The tokens of items with commas between them. -/
def itemTokens : List Document → List Token
  | [] => []
  | item :: rest => tokens item ++ laterItemTokens rest

/-- The tokens of items after the first. -/
def laterItemTokens : List Document → List Token
  | [] => []
  | item :: rest => .comma :: (tokens item ++ laterItemTokens rest)

/-- The tokens of members with commas between them. -/
def memberTokens : List (String × Document) → List Token
  | [] => []
  | (name, value) :: rest =>
    .string (some name) :: .colon :: (tokens value ++ laterMemberTokens rest)

/-- The tokens of members after the first. -/
def laterMemberTokens : List (String × Document) → List Token
  | [] => []
  | (name, value) :: rest =>
    .comma :: .string (some name) :: .colon :: (tokens value ++ laterMemberTokens rest)

end

/-- An item is delimited by what comes behind it in an array. -/
theorem delimited_printLaterItems (items : List Document) (rest : List Char) :
    Delimited (printLaterItems items ++ ']' :: rest) := by
  cases items with
  | nil => exact Token.delimited_endArray rest
  | cons item later => exact Token.delimited_comma _

/-- A member is delimited by what comes behind it in an object. -/
theorem delimited_printLaterMembers (members : List (String × Document)) (rest : List Char) :
    Delimited (printLaterMembers members ++ '\x7d' :: rest) := by
  cases members with
  | nil => exact Token.delimited_endObject rest
  | cons member later => exact Token.delimited_comma _

/-- The name of a member and its colon are scanned as two tokens. -/
theorem scanFrom_name (name : String) (rest : List Char) :
    scanFrom .between (quoted name ++ ':' :: rest) =
      .string (some name) :: .colon :: scanFrom .between rest := by
  rw [Token.scanFrom_quoted]
  rfl

mutual

/-- The text of a document is scanned into its tokens. -/
theorem scanFrom_print : ∀ (document : Document) {rest : List Char}, Delimited rest →
    scanFrom .between (print document ++ rest) = tokens document ++ scanFrom .between rest
  | null, _, _ => rfl
  | bool true, _, _ => rfl
  | bool false, _, _ => rfl
  | integer value, rest, delimited => by
    rw [print, ← Numeral.print_ofInteger,
      Token.scanFrom_print (Numeral.written_ofInteger value) delimited]
    rfl
  | real value, rest, delimited => by
    rw [print, ← Binary64.print_numeral, Token.scanFrom_print value.written_numeral delimited]
    rfl
  | string value, rest, _ => by
    rw [print, Token.scanFrom_quoted]
    rfl
  | array items, rest, _ => by
    have opened : scanFrom .between (print (array items) ++ rest) =
        .beginArray :: scanFrom .between (printItems items ++ ']' :: rest) := by
      rw [print, List.cons_append, List.append_assoc]
      rfl
    rw [opened, scanFrom_printItems items rest]
    simp [tokens]
  | object members, rest, _ => by
    have opened : scanFrom .between (print (object members) ++ rest) =
        .beginObject :: scanFrom .between (printMembers members ++ '\x7d' :: rest) := by
      rw [print, List.cons_append, List.append_assoc]
      rfl
    rw [opened, scanFrom_printMembers members rest]
    simp [tokens]

/-- The items of an array are scanned up to its end. -/
theorem scanFrom_printItems : ∀ (items : List Document) (rest : List Char),
    scanFrom .between (printItems items ++ ']' :: rest) =
      itemTokens items ++ .endArray :: scanFrom .between rest
  | [], _ => rfl
  | item :: later, rest => by
    rw [printItems, List.append_assoc, scanFrom_print item (delimited_printLaterItems later rest),
      scanFrom_printLaterItems later rest, itemTokens, List.append_assoc]

/-- The items of an array after the first are scanned up to its end. -/
theorem scanFrom_printLaterItems : ∀ (items : List Document) (rest : List Char),
    scanFrom .between (printLaterItems items ++ ']' :: rest) =
      laterItemTokens items ++ .endArray :: scanFrom .between rest
  | [], _ => rfl
  | item :: later, rest => by
    rw [printLaterItems, List.cons_append, List.append_assoc, Token.scanFrom_comma,
      scanFrom_print item (delimited_printLaterItems later rest),
      scanFrom_printLaterItems later rest, laterItemTokens, List.cons_append, List.append_assoc]

/-- The members of an object are scanned up to its end. -/
theorem scanFrom_printMembers : ∀ (members : List (String × Document)) (rest : List Char),
    scanFrom .between (printMembers members ++ '\x7d' :: rest) =
      memberTokens members ++ .endObject :: scanFrom .between rest
  | [], _ => rfl
  | (name, value) :: later, rest => by
    rw [printMembers, List.append_assoc, List.cons_append, List.append_assoc, scanFrom_name,
      scanFrom_print value (delimited_printLaterMembers later rest),
      scanFrom_printLaterMembers later rest]
    simp [memberTokens]

/-- The members of an object after the first are scanned up to its end. -/
theorem scanFrom_printLaterMembers : ∀ (members : List (String × Document)) (rest : List Char),
    scanFrom .between (printLaterMembers members ++ '\x7d' :: rest) =
      laterMemberTokens members ++ .endObject :: scanFrom .between rest
  | [], _ => rfl
  | (name, value) :: later, rest => by
    rw [printLaterMembers, List.cons_append, Token.scanFrom_comma, List.append_assoc,
      List.cons_append, List.append_assoc, scanFrom_name,
      scanFrom_print value (delimited_printLaterMembers later rest),
      scanFrom_printLaterMembers later rest]
    simp [laterMemberTokens]

end

/-- The tokens of the text of a document are those of the document. -/
theorem scan_print (document : Document) : Token.scan document.print = document.tokens := by
  have scanned := scanFrom_print document (.inl rfl : Delimited [])
  rw [List.append_nil] at scanned
  rw [Token.scan, scanned]
  exact List.append_nil _

end Document

end FailOpenCache
