import FailOpenCache.Proofs.RoundTrip

/-!
# Payloads in other forms

A payload may stand between blanks, and instead of a tagged payload a store may hold a document
without a tag, or a string literal in which a tagged payload is wrapped. What a text starts with
tells these forms apart: no canonical text starts with a digit and a bar, and no string literal
does. A wrapped payload is read again from its bytes, and that ends there, for it starts with the
tag of a form: whatever the bytes are, they are unwrapped once at most.
-/

namespace FailOpenCache.Document

/-- No canonical text starts with a digit and a bar. -/
theorem untagged_print (document : Document) : Payload.Untagged document.print := by
  intro first rest shape
  cases document with
  | null => exact (List.cons.inj shape).1 ▸ rfl
  | bool value => cases value <;> exact (List.cons.inj shape).1 ▸ rfl
  | integer value =>
    rw [print] at shape
    exact Payload.untagged_of_noBar (Payload.bar_not_mem_integer value) first rest shape
  | real value =>
    rw [print, ← Binary64.print_numeral] at shape
    have noBar := Numeral.bar_not_mem_print (Binary64.written_numeral value)
    exact Payload.untagged_of_noBar noBar first rest shape
  | string value => exact (List.cons.inj shape).1 ▸ rfl
  | array items =>
    rw [print] at shape
    exact (List.cons.inj shape).1 ▸ rfl
  | object members =>
    rw [print] at shape
    exact (List.cons.inj shape).1 ▸ rfl

/-- Only a string is read back as one. -/
theorem eq_string_of_reread? {document : Document} {value : String}
    (reread : document.reread? = some (.string value)) : document = .string value := by
  cases document with
  | string other => exact Option.some.inj reread
  | null => exact absurd (Option.some.inj reread) nofun
  | bool other => exact absurd (Option.some.inj reread) nofun
  | integer other => exact absurd (Option.some.inj reread) nofun
  | real other =>
    obtain ⟨read, -, same⟩ := Option.map_eq_some_iff.1 reread
    exact absurd same nofun
  | array items =>
    obtain ⟨read, -, same⟩ := Option.map_eq_some_iff.1 reread
    exact absurd same nofun
  | object members =>
    obtain ⟨read, -, same⟩ := Option.map_eq_some_iff.1 reread
    exact absurd same nofun

end FailOpenCache.Document

namespace FailOpenCache.Payload

open Document (depthLimit)

/-- A literal of a text: characters between quotation marks that are read as the text. -/
structure LiteralOf (value : String) (literal : List Char) : Prop where
  /-- Quotation marks stand at both ends. -/
  delimited : ∃ body, literal = '"' :: (body ++ ['"'])
  /-- The characters are read as the text. -/
  read : Document.read? literal = some (.string value)

/-- The canonical text of a string is a literal of it. -/
theorem literalOf_print (value : String) : LiteralOf value (Document.string value).print := by
  have formed : (Document.string value).WellFormed := trivial
  exact ⟨⟨_, rfl⟩, Document.read?_print formed⟩

namespace LiteralOf

variable {value : String} {literal : List Char}

/-- A literal is something, and tight. -/
theorem tight (quotes : LiteralOf value literal) : literal ≠ [] ∧ Text.Tight literal := by
  obtain ⟨body, rfl⟩ := quotes.delimited
  exact ⟨List.cons_ne_nil _ _, Text.tight_of_ends body (by decide) (by decide)⟩

/-- A literal starts with a quotation mark and not with a tag. -/
theorem untagged (quotes : LiteralOf value literal) : Untagged literal := by
  obtain ⟨body, rfl⟩ := quotes.delimited
  exact fun first rest shape => (List.cons.inj shape).1 ▸ rfl

end LiteralOf

/-- A text with the tag of a form keeps it when the blanks are trimmed, and is read in that
form. -/
theorem exists_decodeTagged?_trim {characters : List Char} (tagged : hasTag characters = true) :
    ∃ outcome, decodeTagged? (Text.trim characters) = some outcome := by
  unfold hasTag at tagged
  split at tagged
  · rename_i rest
    obtain ⟨body, shape⟩ := Text.trim_behind (by decide : Text.isBlank '0' = false)
      (by decide : Text.isBlank '|' = false) rest
    rw [shape]
    exact ⟨_, rfl⟩
  · rename_i rest
    obtain ⟨body, shape⟩ := Text.trim_behind (by decide : Text.isBlank '1' = false)
      (by decide : Text.isBlank '|' = false) rest
    rw [shape]
    exact ⟨_, rfl⟩
  · exact absurd tagged Bool.false_ne_true

/-- A string that holds a tagged payload is read as the payload is. -/
theorem decodeBare_wrapped {characters : List Char} {inner : String}
    (read : readDocument characters = .ok (.string inner))
    (tagged : hasTag inner.toList = true) : decodeBare characters = decode inner := by
  obtain ⟨outcome, inside⟩ := exists_decodeTagged?_trim tagged
  rw [decodeBare, read, decode, decodeTrimmed.eq_def]
  dsimp only
  rw [if_pos tagged, inside]

/-- What is no string that holds a tagged payload is read as it is. -/
theorem decodeBare_plain {characters : List Char}
    (plain : ∀ inner, readDocument characters = .ok (.string inner) →
      hasTag inner.toList = false) :
    decodeBare characters = readDocument characters := by
  rw [decodeBare]
  cases read : readDocument characters with
  | error fault => rfl
  | ok document =>
    cases document with
    | string inner =>
      dsimp only
      rw [plain inner read]
      rfl
    | _ => rfl

/-- The form in which bytes are read. -/
inductive Form where
  /-- The bytes are no text. -/
  | unencoded
  /-- The text starts with the tag of a form. -/
  | tagged
  /-- The text starts with a digit and a bar that name no form. -/
  | foreign
  /-- The text is read as a document, and that is what it stands for. -/
  | bare
  /-- The text is read as a string, and the bytes of the string are read in some form. -/
  | wrapped (inner : Form)
deriving DecidableEq

/-- How bytes are read. A string that starts with a tag is unwrapped: its bytes are read again from
the beginning, in whatever form they are. -/
inductive Reads : List UInt8 → Form → Except Fault Document → Prop where
  /-- The bytes are no text. -/
  | unencoded {bytes : List UInt8} (noText : ofBytes? bytes = none) :
    Reads bytes .unencoded (.error .encoding)
  /-- The text starts with the tag of a form. What is read behind it is never unwrapped. -/
  | tagged {bytes : List UInt8} {payload : String} {outcome : Except Fault Document}
    (text : ofBytes? bytes = some payload)
    (tag : decodeTagged? (Text.trim payload.toList) = some outcome) :
    Reads bytes .tagged outcome
  /-- The text starts with another digit and a bar. -/
  | foreign {bytes : List UInt8} {payload : String} {digit : Char} {rest : List Char}
    (text : ofBytes? bytes = some payload)
    (other : decodeTagged? (Text.trim payload.toList) = none)
    (shape : Text.trim payload.toList = digit :: '|' :: rest)
    (isDigit : (Text.digitValue? digit).isSome) :
    Reads bytes .foreign (.error (.discriminator digit))
  /-- The text is read as a document, or refused. -/
  | bare {bytes : List UInt8} {payload : String} (text : ofBytes? bytes = some payload)
    (untagged : Untagged (Text.trim payload.toList))
    (plain : ∀ inner, readDocument (Text.trim payload.toList) = .ok (.string inner) →
      hasTag inner.toList = false) :
    Reads bytes .bare (readDocument (Text.trim payload.toList))
  /-- The text is read as a string that starts with the tag of a form. -/
  | wrapped {bytes : List UInt8} {payload inner : String} {form : Form}
    {outcome : Except Fault Document} (text : ofBytes? bytes = some payload)
    (untagged : Untagged (Text.trim payload.toList))
    (read : readDocument (Text.trim payload.toList) = .ok (.string inner))
    (tag : hasTag inner.toList = true) (again : Reads (textBytes inner) form outcome) :
    Reads bytes (.wrapped form) outcome

/-- The bytes of a text with a tag are read in the tagged form and in no other. -/
theorem Reads.form_eq_tagged {inner : String} (tag : hasTag inner.toList = true) {form : Form}
    {outcome : Except Fault Document} (reads : Reads (textBytes inner) form outcome) :
    form = .tagged := by
  obtain ⟨found, inside⟩ := exists_decodeTagged?_trim tag
  cases reads with
  | unencoded noText => exact absurd noText (by simp)
  | tagged text tag => rfl
  | foreign text other shape isDigit =>
    obtain rfl : inner = _ := by simpa using text
    exact absurd (other.symm.trans inside) nofun
  | bare text untagged plain =>
    obtain rfl : inner = _ := by simpa using text
    exact absurd (untagged.decodeTagged?_eq.symm.trans inside) nofun
  | wrapped text untagged read tag again =>
    obtain rfl : inner = _ := by simpa using text
    exact absurd (untagged.decodeTagged?_eq.symm.trans inside) nofun

/-- The forms in which bytes occur: of those that are unwrapped, only the one that is tagged
inside. -/
def Form.occurring : List Form := [.unencoded, .tagged, .foreign, .bare, .wrapped .tagged]

/-- However bytes are read, the outcome is the one that they are decoded to, and they are unwrapped
once at most. -/
theorem Reads.eq_decodeBytes {bytes : List UInt8} {form : Form} {outcome : Except Fault Document}
    (reads : Reads bytes form outcome) : outcome = decodeBytes bytes ∧ form ∈ Form.occurring := by
  induction reads with
  | unencoded noText =>
    refine ⟨?_, by decide⟩
    rw [decodeBytes, noText]
  | tagged text tag =>
    refine ⟨?_, by decide⟩
    rw [decodeBytes, text]
    dsimp only
    rw [decode, decodeTrimmed.eq_def, tag]
  | foreign text other shape isDigit =>
    refine ⟨?_, by decide⟩
    rw [decodeBytes, text]
    dsimp only
    rw [decode, decodeTrimmed.eq_def, other, shape]
    exact (if_pos isDigit).symm
  | bare text untagged plain =>
    refine ⟨?_, by decide⟩
    rw [decodeBytes, text]
    dsimp only
    rw [decode, untagged.decodeTrimmed_eq, decodeBare_plain plain]
  | wrapped text untagged read tag again ih =>
    obtain rfl := again.form_eq_tagged tag
    refine ⟨?_, by decide⟩
    rw [ih.1, decodeBytes, ofBytes?_textBytes, decodeBytes, text]
    dsimp only
    rw [decode, decode, untagged.decodeTrimmed_eq, decodeBare_wrapped read tag, decode]

/-- All bytes are read in some form. -/
theorem exists_reads (bytes : List UInt8) : ∃ form outcome, Reads bytes form outcome := by
  cases text : ofBytes? bytes with
  | none => exact ⟨_, _, .unencoded text⟩
  | some payload =>
    cases tag : decodeTagged? (Text.trim payload.toList) with
    | some outcome => exact ⟨_, _, .tagged text tag⟩
    | none =>
      by_cases untagged : Untagged (Text.trim payload.toList)
      · by_cases plain : ∀ inner, readDocument (Text.trim payload.toList) = .ok (.string inner) →
            hasTag inner.toList = false
        · exact ⟨_, _, .bare text untagged plain⟩
        · simp only [not_forall, Bool.not_eq_false] at plain
          obtain ⟨inner, read, tagged⟩ := plain
          obtain ⟨outcome, inside⟩ := exists_decodeTagged?_trim tagged
          exact ⟨_, _, .wrapped text untagged read tagged
            (.tagged (ofBytes?_textBytes inner) inside)⟩
      · simp only [Untagged, not_forall] at untagged
        obtain ⟨digit, rest, shape, isDigit⟩ := untagged
        exact ⟨_, _, .foreign text tag shape (Option.isSome_iff_ne_none.2 isDigit)⟩

/-- The bytes of characters with blanks around them are decoded like the characters. -/
theorem decodeBytes_between {characters front back : List Char} (nonempty : characters ≠ [])
    (tight : Text.Tight characters)
    (blank : ∀ character ∈ front ++ back, Text.isBlank character = true) :
    decodeBytes (textBytes (String.ofList (front ++ characters ++ back))) =
      decodeTrimmed characters := by
  rw [decodeBytes, ofBytes?_textBytes]
  dsimp only
  rw [decode, String.toList_ofList, tight.trim_between nonempty blank]

section

variable (compressor : Compressor) (threshold : Nat)

/-- A payload has the tag of a form. -/
theorem hasTag_encodeWith (document : Document) :
    hasTag (encodeWith compressor threshold document).toList = true := by
  rcases toList_encodeWith compressor threshold document with shape | shape
  · rw [shape]
    rfl
  · rw [shape]
    rfl

/-- A literal of a payload is read as the payload is. -/
theorem decodeTrimmed_literal {document : Document} (formed : document.WellFormed)
    {literal : List Char}
    (quotes : LiteralOf (encodeWith compressor threshold document) literal) :
    decodeTrimmed literal = ofReread document.reread? := by
  have read : readDocument literal =
      .ok (.string (encodeWith compressor threshold document)) := by
    rw [readDocument, quotes.read]
  rw [quotes.untagged.decodeTrimmed_eq,
    decodeBare_wrapped read (hasTag_encodeWith compressor threshold document)]
  exact decode_encodeWith compressor threshold formed

/-- The canonical text of a document is read as the document that it is read back as, unless the
document is a string that starts with a tag. -/
theorem decodeTrimmed_print {document : Document} (formed : document.WellFormed)
    (plain : ∀ value, document = .string value → hasTag value.toList = false) :
    decodeTrimmed document.print = ofReread document.reread? := by
  have read := readDocument_print formed
  rw [document.untagged_print.decodeTrimmed_eq, decodeBare_plain, read]
  intro inner inside
  rw [read] at inside
  refine plain inner (Document.eq_string_of_reread? ?_)
  cases reread : document.reread? with
  | none => exact absurd (reread ▸ inside) nofun
  | some found =>
    rw [reread] at inside
    exact congrArg some (Except.ok.inj inside)

end

/-- However bytes are compressed, and from whatever size on, a document is read from its payload
wrapped in any string literal, and from its canonical text unless it is a string that starts with a
tag, whatever blanks stand around: exactly when it nests at most as many containers as the reader
opens and the text of each of its binary numbers is read as the number. A string inside a payload is
never unwrapped. And whatever bytes are read, reading them ends, in one outcome, after they have
been unwrapped once at most, and what is unwrapped is read in the tagged form. -/
theorem decodeBytes_otherForms (compressor : Compressor) (threshold : Nat) {document : Document}
    (formed : document.WellFormed) {front back : List Char}
    (blank : ∀ character ∈ front ++ back, Text.isBlank character = true) :
    let read := fun characters =>
      decodeBytes (textBytes (String.ofList (front ++ characters ++ back)))
    (∀ literal, LiteralOf (encodeWith compressor threshold document) literal →
        (read literal = .ok document ↔ document.depth ≤ depthLimit ∧ document.RealsSurvive)) ∧
      ((∀ value, document = .string value → hasTag value.toList = false) →
        (read document.print = .ok document ↔
          document.depth ≤ depthLimit ∧ document.RealsSurvive)) ∧
      (∀ value literal, LiteralOf (encodeWith compressor threshold (.string value)) literal →
        read literal = .ok (.string value)) ∧
      ∀ bytes, (∃ form, Reads bytes form (decodeBytes bytes)) ∧
        ∀ form outcome, Reads bytes form outcome →
          outcome = decodeBytes bytes ∧ form ∈ Form.occurring := by
  intro read
  refine ⟨fun literal quotes => ?_, fun plain => ?_, fun value literal quotes => ?_,
    fun bytes => ?_⟩
  · have same : read literal = _ := decodeBytes_between quotes.tight.1 quotes.tight.2 blank
    rw [same, decodeTrimmed_literal compressor threshold formed quotes]
    exact ofReread_eq_ok_iff document
  · have tight := document.tight_print
    have same : read document.print = _ := decodeBytes_between tight.1 tight.2 blank
    rw [same, decodeTrimmed_print formed plain]
    exact ofReread_eq_ok_iff document
  · have same : read literal = _ := decodeBytes_between quotes.tight.1 quotes.tight.2 blank
    have formed' : (Document.string value).WellFormed := trivial
    rw [same, decodeTrimmed_literal compressor threshold formed' quotes]
    rfl
  · obtain ⟨form, outcome, reads⟩ := exists_reads bytes
    exact ⟨⟨form, reads.eq_decodeBytes.1 ▸ reads⟩, fun _ _ => Reads.eq_decodeBytes⟩

/-- A document with a text that looks like a payload, and a binary number. -/
def doubtful : Document := .array [.string "0|null", .real oneAndAHalf]

/-- Blanks of several kinds around a payload. -/
def blanks : List Char := ['\u2003', '\n', '\u00a0']

/-- The document is read from its compressed payload as a store wraps it, and from its canonical
text, between blanks. -/
theorem decodeBytes_otherForms_doubtful :
    doubtful.WellFormed ∧ (∀ character ∈ blanks ++ blanks, Text.isBlank character = true) ∧
      doubtful.depth = 1 ∧ doubtful.RealsSurvive ∧
      decodeBytes (textBytes (String.ofList
        (blanks ++ (Document.string (encodeWith .stored 0 doubtful)).print ++ blanks))) = .ok doubtful ∧
      decodeBytes (textBytes (String.ofList (blanks ++ doubtful.print ++ blanks))) =
        .ok doubtful := by
  have formed : doubtful.WellFormed := ⟨trivial, trivial, trivial⟩
  have survives : doubtful.RealsSurvive := by
    simp only [doubtful, Document.RealsSurvive, Document.ItemsSurvive]
    decide +kernel
  have blank : ∀ character ∈ blanks ++ blanks, Text.isBlank character = true :=
    List.all_eq_true.1 (by decide : (blanks ++ blanks).all Text.isBlank = true)
  have shallow : doubtful.depth ≤ depthLimit := by decide
  obtain ⟨wrapped, bare, -⟩ := decodeBytes_otherForms .stored 0 formed blank
  exact ⟨formed, blank, by decide, survives,
    (wrapped _ (literalOf_print _)).2 ⟨shallow, survives⟩, (bare nofun).2 ⟨shallow, survives⟩⟩

end FailOpenCache.Payload
