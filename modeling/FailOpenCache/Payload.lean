import FailOpenCache.Bytes.Base64
import FailOpenCache.Document.Printer
import FailOpenCache.Document.Reader
import FailOpenCache.Libraries
import FailOpenCache.Text.Blank

/-!
# Stored payloads

A document is stored as a text that says how to read it: behind a zero and a bar stands the
canonical text as it is, behind a one and a bar stands the same text compressed, in base64. The
text is compressed when it has at least so many bytes as the threshold says. Reading also accepts
blanks around a payload, a bare document without a tag, and a document that is a string holding a
tagged payload, which is unwrapped once.
-/

namespace FailOpenCache.Payload

/-- Why a payload cannot be read. -/
inductive Fault where
  /-- The text is no document. -/
  | document
  /-- The compressed bytes are no framed stream of a text. -/
  | compression
  /-- The compressed bytes are not in base64. -/
  | base64 (fault : Base64.Fault)
  /-- The bytes of the payload are no text. -/
  | encoding
  /-- The tag in front of the bar is a digit that names no form. -/
  | discriminator (tag : Char)
deriving DecidableEq

/-- The wording of a fault; a fault of a document or a compressed stream has none of its own. -/
def Fault.message? : Fault → Option String
  | document => none
  | compression => none
  | base64 fault => some ("Base64 error: " ++ fault.message)
  | encoding => some "Payload is not valid UTF-8"
  | discriminator tag => some ("Unknown payload discriminator: " ++ String.singleton tag)

/-- The bytes of a text. -/
def textBytes (text : String) : List UInt8 := text.toUTF8.toList

/-- The text of bytes, if they are one. -/
def ofBytes? (bytes : List UInt8) : Option String :=
  String.fromUTF8? ⟨bytes.toArray⟩

/-- The payload of a document whose text is compressed in a given way from the threshold on. -/
def encodeWith (compressor : Compressor) (threshold : Nat) (document : Document) : String :=
  let text := document.text
  if text.utf8ByteSize < threshold then "0|" ++ text
  else
    let symbols := Base64.encode (compressor.compress (textBytes text))
    "1|" ++ String.ofList (symbols.map fun symbol => Char.ofNat symbol.toNat)

/-- The payload of a document; the text is compressed from the threshold on. -/
def encode [Libraries] (threshold : Nat) (document : Document) : String :=
  encodeWith Libraries.compressor threshold document

/-- The document that characters write. -/
def readDocument (characters : List Char) : Except Fault Document :=
  match Document.read? characters with
  | some document => .ok document
  | none => .error .document

/-- The document whose text is compressed behind a tag. -/
def readCompressed (body : List Char) : Except Fault Document :=
  match Base64.decode (textBytes (String.ofList body)) with
  | .error fault => .error (.base64 fault)
  | .ok compressed =>
    match Zlib.decompress? compressed with
    | none => .error .compression
    | some bytes =>
      match ofBytes? bytes with
      | none => .error .compression
      | some text => readDocument text.toList

/-- Read a tagged payload; any other text is none. -/
def decodeTagged? : List Char → Option (Except Fault Document)
  | '0' :: '|' :: body => some (readDocument body)
  | '1' :: '|' :: body => some (readCompressed body)
  | _ => none

/-- The text starts with the tag of a form. -/
def hasTag : List Char → Bool
  | '0' :: '|' :: _ => true
  | '1' :: '|' :: _ => true
  | _ => false

/-- Read a document without a tag. A string that holds a tagged payload stands for what the
payload holds. -/
def decodeBare (characters : List Char) : Except Fault Document :=
  match readDocument characters with
  | .error fault => .error fault
  | .ok (.string inner) =>
    if hasTag inner.toList then
      match decodeTagged? (Text.trim inner.toList) with
      | some result => result
      | none => .ok (.string inner)
    else .ok (.string inner)
  | .ok document => .ok document

/-- Read the characters of a payload without the blanks around it. -/
def decodeTrimmed (characters : List Char) : Except Fault Document :=
  match decodeTagged? characters with
  | some result => result
  | none =>
    match characters with
    | tag :: '|' :: _ =>
      if (Text.digitValue? tag).isSome then .error (.discriminator tag) else decodeBare characters
    | _ => decodeBare characters

/-- Read a payload. -/
def decode (payload : String) : Except Fault Document :=
  decodeTrimmed (Text.trim payload.toList)

/-- Read the bytes of a payload. -/
def decodeBytes (bytes : List UInt8) : Except Fault Document :=
  match ofBytes? bytes with
  | none => .error .encoding
  | some payload => decode payload

end FailOpenCache.Payload
