import FailOpenCache.Libraries.Plain
import FailOpenCache.Proofs.Payload

/-!
# The round trip of a payload

What is stored for a document is read back as the document, however it was compressed and from
whatever size on: a payload says in its tag whether the canonical text reached the threshold, the
tag decides how it is read, and what is read is the canonical text. Two limits come from the text
and not from the payload. A text that nests more containers than the reader opens is refused, and
a binary number is kept exactly when its own text is read back as it. Texts themselves are never
touched, so a string that looks like a payload, or stands between blanks, is no exception.
-/

namespace FailOpenCache.Payload

open Document (depthLimit)

/-- What a document is read back as is the document exactly when its canonical text keeps it. -/
theorem ofReread_eq_ok_iff (document : Document) :
    ofReread document.reread? = .ok document ↔
      document.depth ≤ depthLimit ∧ document.RealsSurvive := by
  rw [← Document.reread?_eq_self_iff]
  cases document.reread? with
  | none => simp [ofReread]
  | some read => simp [ofReread]

section

variable (compressor : Compressor) (threshold : Nat)

/-- The bytes of a payload are read as the payload. -/
theorem decodeBytes_encodeWith {document : Document} (formed : document.WellFormed) :
    decodeBytes (textBytes (encodeWith compressor threshold document)) =
      ofReread document.reread? := by
  rw [decodeBytes, ofBytes?_textBytes]
  exact decode_encodeWith compressor threshold formed

/-- The tag says whether the canonical text reached the threshold. -/
theorem tag_encodeWith (document : Document) :
    (['1', '|'] <+: (encodeWith compressor threshold document).toList ↔
        threshold ≤ document.text.utf8ByteSize) ∧
      (['0', '|'] <+: (encodeWith compressor threshold document).toList ↔
        document.text.utf8ByteSize < threshold) := by
  by_cases below : document.text.utf8ByteSize < threshold
  · have shape := toList_encodeWith_below compressor threshold below
    have short : ¬ threshold ≤ document.text.utf8ByteSize := by omega
    constructor
    · simp [shape, short]
    · simp [shape, below]
  · have shape := toList_encodeWith_reached compressor threshold below
    have reached : threshold ≤ document.text.utf8ByteSize := by omega
    constructor
    · simp [shape, reached]
    · simp [shape, below]

/-- A document that its canonical text keeps is told by any of its payloads. -/
theorem eq_of_encodeWith_eq {document other : Document} (formed : document.WellFormed)
    (kept : document.depth ≤ depthLimit ∧ document.RealsSurvive) (formed' : other.WellFormed)
    (kept' : other.depth ≤ depthLimit ∧ other.RealsSurvive) {compressor' : Compressor}
    {threshold' : Nat}
    (equal : encodeWith compressor threshold document = encodeWith compressor' threshold' other) :
    document = other := by
  have read : decode (encodeWith compressor threshold document) = .ok document := by
    rw [decode_encodeWith compressor threshold formed]
    exact (ofReread_eq_ok_iff document).2 kept
  have read' : decode (encodeWith compressor' threshold' other) = .ok other := by
    rw [decode_encodeWith compressor' threshold' formed']
    exact (ofReread_eq_ok_iff other).2 kept'
  rw [equal, read'] at read
  exact (Except.ok.inj read).symm

/-- However bytes are compressed, and from whatever size on: the payload of a document has the tag
of a compressed text exactly when the canonical text reached the threshold, and the other tag
otherwise. It is read as the document exactly when that nests at most as many containers as the
reader opens and the text of each of its binary numbers is read as the number. Every string comes
back, whatever it looks like, and no other document has the same payload. -/
theorem encodeWith_roundTrip {document : Document} (formed : document.WellFormed) :
    (['1', '|'] <+: (encodeWith compressor threshold document).toList ↔
        threshold ≤ document.text.utf8ByteSize) ∧
      (['0', '|'] <+: (encodeWith compressor threshold document).toList ↔
        document.text.utf8ByteSize < threshold) ∧
      (decodeBytes (textBytes (encodeWith compressor threshold document)) = .ok document ↔
        document.depth ≤ depthLimit ∧ document.RealsSurvive) ∧
      (∀ value : String,
        decodeBytes (textBytes (encodeWith compressor threshold (.string value))) =
          .ok (.string value)) ∧
      (document.depth ≤ depthLimit → document.RealsSurvive →
        ∀ other : Document, other.WellFormed → other.depth ≤ depthLimit → other.RealsSurvive →
          ∀ (compressor' : Compressor) (threshold' : Nat),
            encodeWith compressor threshold document = encodeWith compressor' threshold' other →
              document = other) := by
  refine ⟨(tag_encodeWith compressor threshold document).1,
    (tag_encodeWith compressor threshold document).2, ?_, ?_, ?_⟩
  · rw [decodeBytes_encodeWith compressor threshold formed]
    exact ofReread_eq_ok_iff document
  · intro value
    have plain : (Document.string value).WellFormed := trivial
    rw [decodeBytes_encodeWith compressor threshold plain]
    rfl
  · intro shallow survives other formed' shallow' survives' compressor' threshold' equal
    exact eq_of_encodeWith_eq compressor threshold formed ⟨shallow, survives⟩ formed'
      ⟨shallow', survives'⟩ equal

end

/-- One and a half. -/
def oneAndAHalf : Binary64 := ⟨false, 3 * 2 ^ 51, 1022, by decide⟩

/-- A document with texts that look like payloads or stand between blanks, the outermost integers
and a binary number. -/
def assorted : Document :=
  .object [(" ", .array [.string "1|eJw=", .string "\n0|null\t", .string ""]),
    ("0|", .integer Document.leastInteger),
    ("1|", .object [("\"", .integer Document.greatestInteger), ("é", .real oneAndAHalf)])]

/-- The assorted document comes back from its payload, which is compressed from size zero on. -/
theorem encodeWith_roundTrip_assorted :
    assorted.WellFormed ∧ assorted.depth = 2 ∧ assorted.RealsSurvive ∧
      (['1', '|'] <+: (encodeWith .stored 0 assorted).toList) ∧
      decodeBytes (textBytes (encodeWith .stored 0 assorted)) = .ok assorted := by
  have formed : assorted.WellFormed := by
    simp only [assorted, Document.WellFormed, Document.ItemsWellFormed,
      Document.MembersWellFormed, Document.leastInteger, Document.greatestInteger]
    decide
  have survives : assorted.RealsSurvive := by
    simp only [assorted, Document.RealsSurvive, Document.ItemsSurvive, Document.MembersSurvive]
    decide +kernel
  have trip := encodeWith_roundTrip .stored 0 formed
  exact ⟨formed, by decide, survives, trip.1.2 (Nat.zero_le _),
    trip.2.2.1.2 ⟨by decide, survives⟩⟩

end FailOpenCache.Payload
