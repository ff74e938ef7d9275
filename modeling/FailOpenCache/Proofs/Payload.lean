import FailOpenCache.Payload
import FailOpenCache.Proofs.Bytes.Base64
import FailOpenCache.Proofs.Document.Reread
import FailOpenCache.Proofs.Text.Blank
import FailOpenCache.Store.Memory

/-!
# Payloads read back

A payload of a document holds the canonical text of the document behind a tag, as it is or
compressed, and no blank stands at either end of it. So whatever the threshold says, a payload is
read as the document that the canonical text is read back as. A counter leaves its decimal text
behind without a tag: that is read as the integer that the counter holds, and as the counter again,
while a tagged payload is no counter.
-/

namespace FailOpenCache.Numeral

open Text (isBlank digitChar)

section

variable {numeral : Numeral} {property : Char → Prop}

/-- What is true of the digits is true of written digits. -/
theorem forall_mem_digits (digit : ∀ value < 10, property (digitChar value)) {digits : List Nat}
    (small : ∀ value ∈ digits, value < 10) :
    ∀ character ∈ digits.map digitChar, property character := by
  intro character held
  obtain ⟨value, inside, rfl⟩ := List.mem_map.1 held
  exact digit value (small value inside)

/-- What is true of the digits and of the point is true of a written fraction. -/
theorem forall_mem_printFraction (written : numeral.Written)
    (digit : ∀ value < 10, property (digitChar value)) (point : property '.') :
    ∀ character ∈ numeral.printFraction, property character := by
  unfold printFraction
  cases shape : numeral.fraction with
  | none => exact fun character held => absurd held List.not_mem_nil
  | some digits =>
    exact List.forall_mem_cons.2
      ⟨point, forall_mem_digits digit (written.fraction digits shape).2⟩

/-- What is true of the digits, the letter and the signs is true of a written exponent. -/
theorem forall_mem_printExponent (written : numeral.Written)
    (digit : ∀ value < 10, property (digitChar value)) (letter : property 'e')
    (minus : property '-') (plus : property '+') :
    ∀ character ∈ numeral.printExponent, property character := by
  unfold printExponent
  cases shape : numeral.exponent with
  | none => exact fun character held => absurd held List.not_mem_nil
  | some parts =>
    obtain ⟨negative, digits⟩ := parts
    have behind := forall_mem_digits digit (written.exponent _ shape).2
    cases negative with
    | false => exact List.forall_mem_cons.2 ⟨letter, List.forall_mem_cons.2 ⟨plus, behind⟩⟩
    | true => exact List.forall_mem_cons.2 ⟨letter, List.forall_mem_cons.2 ⟨minus, behind⟩⟩

/-- What is true of the digits and of the marks of a numeral is true of each of its characters. -/
theorem forall_mem_print (written : numeral.Written)
    (digit : ∀ value < 10, property (digitChar value))
    (mark : ∀ character ∈ ['-', '+', '.', 'e'], property character) :
    ∀ character ∈ numeral.print, property character := by
  have fraction := forall_mem_printFraction written digit (mark '.' (by decide))
  have exponent := forall_mem_printExponent written digit (mark 'e' (by decide))
    (mark '-' (by decide)) (mark '+' (by decide))
  have magnitude : ∀ character ∈ numeral.printMagnitude, property character :=
    List.forall_mem_append.2 ⟨forall_mem_digits digit written.whole.2,
      List.forall_mem_append.2 ⟨fraction, exponent⟩⟩
  unfold print
  split
  · exact List.forall_mem_cons.2 ⟨mark '-' (by decide), magnitude⟩
  · exact magnitude

end

/-- A written numeral has no blanks. -/
theorem isBlank_of_mem_print {numeral : Numeral} (written : numeral.Written) :
    ∀ character ∈ numeral.print, isBlank character = false :=
  forall_mem_print written (fun _ small => Text.isBlank_digitChar small) (by simp [isBlank])

/-- A written numeral has no bar. -/
theorem bar_not_mem_print {numeral : Numeral} (written : numeral.Written) :
    '|' ∉ numeral.print := by
  have digits : ∀ value < 10, '|' ≠ digitChar value := by decide
  exact fun held => forall_mem_print written digits (by simp) _ held rfl

/-- A written numeral is something. -/
theorem print_ne_nil {numeral : Numeral} (written : numeral.Written) : numeral.print ≠ [] := by
  have whole : numeral.whole ≠ [] := written.whole.1
  unfold print printMagnitude
  split
  · exact List.cons_ne_nil _ _
  · simp [whole]

end FailOpenCache.Numeral

namespace FailOpenCache.Document

/-- The canonical text of a document is something, and tight. -/
theorem tight_print (document : Document) : document.print ≠ [] ∧ Text.Tight document.print := by
  cases document with
  | null => exact ⟨by decide, Text.tight_of_solid (by simp [print, Text.isBlank])⟩
  | bool value =>
    cases value with
    | false => exact ⟨by decide, Text.tight_of_solid (by simp [print, Text.isBlank])⟩
    | true => exact ⟨by decide, Text.tight_of_solid (by simp [print, Text.isBlank])⟩
  | integer value =>
    rw [print, ← Numeral.print_ofInteger]
    exact ⟨Numeral.print_ne_nil (Numeral.written_ofInteger value),
      Text.tight_of_solid (Numeral.isBlank_of_mem_print (Numeral.written_ofInteger value))⟩
  | real value =>
    rw [print, ← Binary64.print_numeral]
    exact ⟨Numeral.print_ne_nil (Binary64.written_numeral value),
      Text.tight_of_solid (Numeral.isBlank_of_mem_print (Binary64.written_numeral value))⟩
  | string value =>
    exact ⟨List.cons_ne_nil _ _, Text.tight_of_ends _ (by decide) (by decide)⟩
  | array items =>
    rw [print]
    exact ⟨List.cons_ne_nil _ _, Text.tight_of_ends _ (by decide) (by decide)⟩
  | object members =>
    rw [print]
    exact ⟨List.cons_ne_nil _ _, Text.tight_of_ends _ (by decide) (by decide)⟩

end FailOpenCache.Document

namespace FailOpenCache.Payload

/-- The bytes from an index on are listed behind those before it. -/
theorem toList_loop (bytes : ByteArray) (index : Nat) (before : List UInt8) :
    ByteArray.toList.loop bytes index before =
      before.reverse ++ bytes.data.toList.drop index := by
  rw [ByteArray.toList.loop]
  split
  · rename_i inside
    have bound : index < bytes.data.toList.length := inside
    rw [toList_loop bytes (index + 1), List.drop_eq_getElem_cons bound, List.reverse_cons,
      List.append_assoc]
    have same : bytes.get! index = bytes.data.toList[index] := by
      rw [ByteArray.get!, Array.getElem_toList, getElem!_pos bytes.data index bound]
    rw [same]
    rfl
  · rename_i outside
    have bound : bytes.data.toList.length ≤ index := Nat.le_of_not_lt outside
    rw [List.drop_eq_nil_of_le bound, List.append_nil]
termination_by bytes.size - index

/-- The bytes of a text are those of its encoding. -/
theorem textBytes_eq (text : String) : textBytes text = text.toByteArray.data.toList :=
  toList_loop text.toByteArray 0 []

/-- The bytes of a text are read as the text. -/
@[simp] theorem ofBytes?_textBytes (text : String) : ofBytes? (textBytes text) = some text := by
  have bytes : (⟨(textBytes text).toArray⟩ : ByteArray) = text.toByteArray := by
    rw [textBytes_eq]
  rw [ofBytes?, bytes, String.fromUTF8?, dif_pos text.isValidUTF8]
  rfl

/-- A byte that is written as a character of its own. -/
def IsPlain (byte : UInt8) : Prop := String.utf8EncodeChar (Char.ofNat byte.toNat) = [byte]

/-- The symbols of base64 are written as characters of their own. -/
theorem isPlain_of_mem_encode {bytes : List UInt8} {byte : UInt8}
    (held : byte ∈ Base64.encode bytes) : IsPlain byte := by
  have all : ∀ value, value < 64 →
      String.utf8EncodeChar (Char.ofNat (Base64.symbol value).toNat) = [Base64.symbol value] := by
    decide
  rcases Base64.mem_encode held with ⟨value, small, rfl⟩ | rfl
  · exact all value small
  · unfold IsPlain
    decide

/-- Plain bytes are the bytes of their characters. -/
theorem textBytes_ofPlain {bytes : List UInt8} (plain : ∀ byte ∈ bytes, IsPlain byte) :
    textBytes (String.ofList (bytes.map fun byte => Char.ofNat byte.toNat)) = bytes := by
  rw [textBytes_eq, String.toByteArray_ofList, List.utf8Encode, List.toList_data_toByteArray]
  induction bytes with
  | nil => rfl
  | cons byte rest ih =>
    have first : String.utf8EncodeChar (Char.ofNat byte.toNat) = [byte] :=
      plain byte List.mem_cons_self
    rw [List.map_cons, List.flatMap_cons, first,
      ih fun other inside => plain other (List.mem_cons_of_mem _ inside)]
    rfl

/-- The character of a symbol is no blank. -/
theorem isBlank_of_mem_encode {bytes : List UInt8} {byte : UInt8}
    (held : byte ∈ Base64.encode bytes) : Text.isBlank (Char.ofNat byte.toNat) = false := by
  have all : ∀ value, value < 64 →
      Text.isBlank (Char.ofNat (Base64.symbol value).toNat) = false := by decide
  rcases Base64.mem_encode held with ⟨value, small, rfl⟩ | rfl
  · exact all value small
  · decide

/-- What reading the canonical text of a document gives. -/
def ofReread : Option Document → Except Fault Document
  | some document => .ok document
  | none => .error .document

/-- The canonical text of a document is read as the document that it is read back as. -/
theorem readDocument_print {document : Document} (formed : document.WellFormed) :
    readDocument document.print = ofReread document.reread? := by
  rw [readDocument, Document.read?_print formed]
  cases document.reread? <;> rfl

section Compressed

variable (compressor : Compressor) (threshold : Nat)

/-- What stands behind the tag of a compressed payload. -/
def packed (document : Document) : List Char :=
  (Base64.encode (compressor.compress (textBytes document.text))).map
    fun symbol => Char.ofNat symbol.toNat

/-- A compressed canonical text is read as if it were not compressed. -/
theorem readCompressed_packed {document : Document} (formed : document.WellFormed) :
    readCompressed (packed compressor document) = ofReread document.reread? := by
  simp only [packed, readCompressed, textBytes_ofPlain fun _ held => isPlain_of_mem_encode held,
    Base64.decode_encode, compressor.undone, ofBytes?_textBytes]
  rw [Document.text, String.toList_ofList]
  exact readDocument_print formed

/-- A payload below the threshold holds the canonical text as it is. -/
theorem toList_encodeWith_below {document : Document}
    (below : document.text.utf8ByteSize < threshold) :
    (encodeWith compressor threshold document).toList = '0' :: '|' :: document.print := by
  rw [encodeWith, if_pos below]
  simp only [String.toList_append, Document.text, String.toList_ofList]
  rfl

/-- A payload from the threshold on holds the canonical text compressed. -/
theorem toList_encodeWith_reached {document : Document}
    (reached : ¬ document.text.utf8ByteSize < threshold) :
    (encodeWith compressor threshold document).toList =
      '1' :: '|' :: packed compressor document := by
  rw [encodeWith, if_neg reached]
  simp only [String.toList_append, String.toList_ofList]
  rfl

/-- The characters of a payload: the tag, and the canonical text as it is or compressed. -/
theorem toList_encodeWith (document : Document) :
    (encodeWith compressor threshold document).toList = '0' :: '|' :: document.print ∨
      (encodeWith compressor threshold document).toList =
        '1' :: '|' :: packed compressor document := by
  by_cases below : document.text.utf8ByteSize < threshold
  · exact .inl (toList_encodeWith_below compressor threshold below)
  · exact .inr (toList_encodeWith_reached compressor threshold below)

/-- A compressed text is something, and tight. -/
theorem tight_packed (document : Document) :
    packed compressor document ≠ [] ∧ Text.Tight (packed compressor document) := by
  constructor
  · have undone := compressor.undone (textBytes document.text)
    have something : compressor.compress (textBytes document.text) ≠ [] := by
      intro nothing
      rw [nothing] at undone
      exact absurd undone (by simp [Zlib.decompress?])
    have long := Base64.four_le_length_encode something
    intro empty
    have none := List.map_eq_nil_iff.1 empty
    rw [none] at long
    exact absurd long (by decide)
  · refine Text.tight_of_solid fun character held => ?_
    obtain ⟨byte, inside, rfl⟩ := List.mem_map.1 held
    exact isBlank_of_mem_encode inside

/-- Nothing is trimmed off a payload. -/
theorem trim_encodeWith (document : Document) :
    Text.trim (encodeWith compressor threshold document).toList =
      (encodeWith compressor threshold document).toList := by
  rcases toList_encodeWith compressor threshold document with shape | shape
  · have tight := document.tight_print
    rw [shape, (tight.2.behind tight.1 (by decide) '|').trim_eq]
  · have tight := tight_packed compressor document
    rw [shape, (tight.2.behind tight.1 (by decide) '|').trim_eq]

/-- A payload of a document is read as the document that its canonical text is read back as,
whatever the threshold and however it is compressed. -/
theorem decode_encodeWith {document : Document} (formed : document.WellFormed) :
    decode (encodeWith compressor threshold document) = ofReread document.reread? := by
  rw [decode, trim_encodeWith]
  rcases toList_encodeWith compressor threshold document with shape | shape
  · rw [shape]
    exact readDocument_print formed
  · rw [shape]
    exact readCompressed_packed compressor formed

end Compressed

/-- A payload of a document is read as the document that its canonical text is read back as,
whatever the threshold. -/
theorem decode_encode [Libraries] (threshold : Nat) {document : Document}
    (formed : document.WellFormed) :
    decode (encode threshold document) = ofReread document.reread? :=
  decode_encodeWith Libraries.compressor threshold formed

/-- A payload of a document is no counter. -/
@[simp] theorem readCounter?_encode [Libraries] (threshold : Nat) (document : Document) :
    readCounter? (encode threshold document) = none := by
  rw [readCounter?, encode, trim_encodeWith]
  rcases toList_encodeWith Libraries.compressor threshold document with shape | shape
  · rw [shape]
    rfl
  · rw [shape]
    rfl

/-- A written integer is trimmed to itself. -/
theorem trim_integerText (value : Int) :
    Text.trim (Text.integerText value).toList = Text.integer value := by
  rw [Text.integerText, String.toList_ofList]
  exact (Document.tight_print (.integer value)).2.trim_eq

/-- The text that a counter leaves is read as the counter. -/
theorem readCounter?_integerText {value : Int} (low : leastCounter ≤ value)
    (high : value ≤ greatestCounter) : readCounter? (Text.integerText value) = some value := by
  rw [readCounter?, trim_integerText, Text.readSigned?_integer, if_pos ⟨low, high⟩]

/-- No bar stands in a written integer. -/
theorem bar_not_mem_integer (value : Int) : '|' ∉ Text.integer value := by
  rw [← Numeral.print_ofInteger]
  exact Numeral.bar_not_mem_print (Numeral.written_ofInteger value)

/-- No digit and bar stand in front of a text. -/
def Untagged (characters : List Char) : Prop :=
  ∀ first rest, characters = first :: '|' :: rest → Text.digitValue? first = none

/-- Characters without a bar have no tag. -/
theorem untagged_of_noBar {characters : List Char} (noBar : '|' ∉ characters) :
    Untagged characters := by
  rintro first rest rfl
  exact absurd (List.mem_cons_of_mem _ List.mem_cons_self) noBar

/-- A text without a tag is not read as a tagged payload. -/
theorem Untagged.decodeTagged?_eq {characters : List Char} (untagged : Untagged characters) :
    decodeTagged? characters = none := by
  unfold decodeTagged?
  split
  · exact absurd (untagged _ _ rfl) (by decide)
  · exact absurd (untagged _ _ rfl) (by decide)
  · rfl

/-- A text without a tag is read as a document. -/
theorem Untagged.decodeTrimmed_eq {characters : List Char} (untagged : Untagged characters) :
    decodeTrimmed characters = decodeBare characters := by
  rw [decodeTrimmed.eq_def, untagged.decodeTagged?_eq]
  dsimp only
  split
  · rw [untagged _ _ rfl]
    rfl
  · rfl

/-- The text that a counter leaves is read as the integer that the counter holds. -/
theorem decode_integerText {value : Int} (low : leastCounter ≤ value)
    (high : value ≤ greatestCounter) : decode (Text.integerText value) = .ok (.integer value) := by
  have formed : Document.WellFormed (.integer value) := by
    unfold leastCounter at low
    unfold greatestCounter at high
    simp only [Document.WellFormed, Document.leastInteger, Document.greatestInteger]
    omega
  have read : readDocument (Text.integer value) = .ok (.integer value) :=
    readDocument_print formed
  rw [decode, trim_integerText, (untagged_of_noBar (bar_not_mem_integer value)).decodeTrimmed_eq,
    decodeBare, read]

end FailOpenCache.Payload
