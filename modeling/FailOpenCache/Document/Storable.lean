import FailOpenCache.Document.Basic
import FailOpenCache.Table

/-!
# Storable values

A type is storable when its values can be written as documents and read back from them. Reading is
strict about shapes: an integer must be one and in range, an optional value is null or a value, a
pair is an array of two, and a table is an object. Only numbers are read liberally: where any
number is asked for, an integer will do. A value may have no written form.
-/

namespace FailOpenCache

/-- Values that are written as documents and read back from them. -/
class Storable (α : Type) where
  /-- The value of a document, if the document has its shape. -/
  read? : Document → Option α
  /-- The document of a value, if it has one. -/
  write? : α → Option Document

namespace Storable

variable {α β : Type}

instance : Storable Document := ⟨some, some⟩

/-- The integer of a document, if it lies between two bounds. -/
def readInteger? (low high : Int) : Document → Option Int
  | .integer value => if low ≤ value ∧ value ≤ high then some value else none
  | _ => none

instance : Storable UInt32 where
  read? document := (readInteger? 0 (2 ^ 32 - 1) document).map fun value => .ofNat value.toNat
  write? value := some (.integer value.toNat)

instance : Storable Int64 where
  read? document := (readInteger? (-2 ^ 63) (2 ^ 63 - 1) document).map Int64.ofInt
  write? value := some (.integer value.toInt)

/-- The number of a document. -/
def readNumber? : Document → Option Binary64
  | .integer value => Binary64.ofInt? value
  | .real value => some value
  | _ => none

instance : Storable Binary64 where
  read? := readNumber?
  write? value := some (.real value)

/-- The truth value of a document. -/
def readBool? : Document → Option Bool
  | .bool value => some value
  | _ => none

instance : Storable Bool where
  read? := readBool?
  write? value := some (.bool value)

/-- The text of a document. -/
def readString? : Document → Option String
  | .string value => some value
  | _ => none

instance : Storable String where
  read? := readString?
  write? value := some (.string value)

/-- The items of an array. -/
def readList? [Storable α] : Document → Option (List α)
  | .array items => items.mapM read?
  | _ => none

instance [Storable α] : Storable (List α) where
  read? := readList?
  write? values := (values.mapM write?).map .array

/-- The value of a document, or none if it is null. -/
def readOption? [Storable α] : Document → Option (Option α)
  | .null => some none
  | document => (read? document).map some

/-- The document of a value, or null. -/
def writeOption? [Storable α] : Option α → Option Document
  | none => some .null
  | some value => write? value

instance [Storable α] : Storable (Option α) where
  read? := readOption?
  write? := writeOption?

/-- The two items of an array of two. -/
def readPair? [Storable α] [Storable β] : Document → Option (α × β)
  | .array [first, second] =>
    match read? first, read? second with
    | some left, some right => some (left, right)
    | _, _ => none
  | _ => none

instance [Storable α] [Storable β] : Storable (α × β) where
  read? := readPair?
  write? value :=
    match write? value.1, write? value.2 with
    | some first, some second => some (.array [first, second])
    | _, _ => none

/-- The members of an object. -/
def readTable? [Storable α] : Document → Option (Table α)
  | .object members =>
    (members.mapM fun member => (read? member.2).map fun value => (member.1, value)).map
      Table.ofList
  | _ => none

instance [Storable α] : Storable (Table α) where
  read? := readTable?
  write? table :=
    (table.entries.mapM fun entry => (write? entry.2).map fun value => (entry.1, value)).map
      Document.ofMembers

end Storable

end FailOpenCache
