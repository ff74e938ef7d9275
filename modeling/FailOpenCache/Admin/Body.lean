import FailOpenCache.Document.Token

/-!
# Request bodies

A body gives the fields of a request, as the members of an object or as an array of them in order.
It is read token by token, and the first fault decides: either the body is malformed, or it is
well-formed so far and has the wrong shape. Members under other names are skipped, and so is all
that stands behind the body. A body may be any bytes: those that belong to no character are of no
consequence inside a string that is skipped, and a fault anywhere else.
-/

namespace FailOpenCache

/-- Why a body cannot be read. -/
inductive BodyFault where
  /-- The body is not of the interchange format. -/
  | malformed
  /-- The body has another shape than the request. -/
  | wrongShape
deriving DecidableEq

/-- What a field holds. -/
inductive FieldKind where
  /-- A text. -/
  | text
  /-- A natural of one word. -/
  | count
deriving DecidableEq

/-- A field of a request. -/
structure Field where
  /-- The name of the field. -/
  name : String
  /-- What it holds. -/
  kind : FieldKind
deriving DecidableEq

/-- The value of a field. -/
inductive FieldValue where
  /-- A text. -/
  | text (value : String)
  /-- A natural. -/
  | count (value : Nat)
deriving DecidableEq

/-- The values of fields, by their names. -/
abbrev FieldValues := List (String × FieldValue)

namespace Body

/-- The fault of a token that stands where another value is due. -/
def faultOf : Token → BodyFault
  | .null | .bool _ | .string (some _) | .beginArray | .beginObject => .wrongShape
  | .number numeral => if numeral.value?.isSome then .wrongShape else .malformed
  | _ => .malformed

/-- The value of a field, from the token that stands where it is due. -/
def valueOf (kind : FieldKind) (token : Token) : Except BodyFault FieldValue :=
  match kind, token with
  | .text, .string (some value) => .ok (.text value)
  | .count, .number numeral =>
    match numeral.value? with
    | some (.integer (.ofNat value)) => .ok (.count value)
    | some _ => .error .wrongShape
    | none => .error .malformed
  | _, token => .error (faultOf token)

/-- A container that is being skipped. -/
inductive Container where
  /-- An array. -/
  | array
  /-- An object. -/
  | object
deriving DecidableEq

/-- What is expected next while a value is skipped. -/
inductive Skipping where
  /-- A value. -/
  | value
  /-- A value or the end of the array just begun. -/
  | firstItem
  /-- A name or the end of the object just begun. -/
  | firstName
  /-- A name. -/
  | name
  /-- The colon behind a name. -/
  | colon
  /-- What may follow a finished value. -/
  | after
deriving DecidableEq

/-- What is expected once a token has been skipped where a value is due. -/
def skipValue? (token : Token) (containers : List Container) :
    Option (Skipping × List Container) :=
  match token with
  | .null | .bool _ | .number _ | .string _ => some (.after, containers)
  | .beginArray => some (.firstItem, .array :: containers)
  | .beginObject => some (.firstName, .object :: containers)
  | _ => none

/-- What is expected once a token has been skipped, and the containers still open, the innermost
first. -/
def skip? (expected : Skipping) (token : Token) (containers : List Container) :
    Option (Skipping × List Container) :=
  match expected, token, containers with
  | .value, token, containers => skipValue? token containers
  | .firstItem, .endArray, .array :: outer => some (.after, outer)
  | .firstItem, token, containers => skipValue? token containers
  | .firstName, .endObject, .object :: outer => some (.after, outer)
  | .firstName, .string _, containers => some (.colon, containers)
  | .name, .string _, containers => some (.colon, containers)
  | .colon, .colon, containers => some (.value, containers)
  | .after, .comma, .array :: outer => some (.value, .array :: outer)
  | .after, .comma, .object :: outer => some (.name, .object :: outer)
  | .after, .endArray, .array :: outer => some (.after, outer)
  | .after, .endObject, .object :: outer => some (.after, outer)
  | _, _, _ => none

/-- What is expected next in a body. -/
inductive Expected where
  /-- The body. -/
  | body
  /-- The value of the next field, or the end of the array just begun. -/
  | firstItem
  /-- The value of the next field of an array. -/
  | item
  /-- What may follow an item. -/
  | afterItem
  /-- A name, or the end of the object just begun. -/
  | firstName
  /-- A name. -/
  | name
  /-- The colon behind the name of a field, or of a member to skip. -/
  | colon (field : Option Field)
  /-- The value of a field. -/
  | value (field : Field)
  /-- The rest of a member that is skipped. -/
  | skipping (expected : Skipping) (containers : List Container)
  /-- What may follow a member. -/
  | afterMember
deriving DecidableEq

/-- What has been read of a body. -/
structure Progress where
  /-- What is expected next. -/
  expected : Expected
  /-- The fields that are still to come. -/
  missing : List Field
  /-- The values of the others. -/
  values : FieldValues
deriving DecidableEq

/-- What a token leads to: the values of the whole body, or a step on the way to them. -/
inductive Step where
  /-- The body is complete. -/
  | done (values : FieldValues)
  /-- There is more to come. -/
  | more (progress : Progress)
deriving DecidableEq

/-- The end of the body, which must have given all fields. -/
def finish (progress : Progress) : Except BodyFault Step :=
  if progress.missing.isEmpty then .ok (.done progress.values) else .error .wrongShape

/-- Take a value for a field. -/
def take (progress : Progress) (field : Field) (token : Token) (next : Expected) :
    Except BodyFault Step :=
  match valueOf field.kind token with
  | .error fault => .error fault
  | .ok value => .ok (.more
      { expected := next
        missing := progress.missing.filter fun other => other ≠ field
        values := progress.values ++ [(field.name, value)] })

/-- Take the next item of an array. -/
def takeItem (progress : Progress) (token : Token) : Except BodyFault Step :=
  match progress.missing with
  | [] => .error .malformed
  | field :: _ => take progress field token .afterItem

/-- Take a name; a field that has a value already is given twice. -/
def takeName (fields : List Field) (progress : Progress) (token : Token) :
    Except BodyFault Step :=
  match token with
  | .string (some name) =>
    match fields.find? fun field => field.name == name with
    | none => .ok (.more { progress with expected := .colon none })
    | some field =>
      if progress.missing.contains field then
        .ok (.more { progress with expected := .colon (some field) })
      else .error .wrongShape
  | _ => .error .malformed

/-- One token of a body with the given fields. -/
def step (fields : List Field) (progress : Progress) (token : Token) : Except BodyFault Step :=
  match progress.expected, token with
  | .body, .beginArray => .ok (.more { progress with expected := .firstItem })
  | .body, .beginObject => .ok (.more { progress with expected := .firstName })
  | .body, token => .error (faultOf token)
  | .firstItem, .endArray => finish progress
  | .firstItem, token => takeItem progress token
  | .item, token => takeItem progress token
  | .afterItem, .endArray => finish progress
  | .afterItem, .comma => .ok (.more { progress with expected := .item })
  | .firstName, .endObject => finish progress
  | .firstName, token => takeName fields progress token
  | .name, token => takeName fields progress token
  | .colon (some field), .colon => .ok (.more { progress with expected := .value field })
  | .colon none, .colon => .ok (.more { progress with expected := .skipping .value [] })
  | .value field, token => take progress field token .afterMember
  | .skipping expected containers, token =>
    match skip? expected token containers with
    | none => .error .malformed
    | some (.after, []) => .ok (.more { progress with expected := .afterMember })
    | some (next, inner) => .ok (.more { progress with expected := .skipping next inner })
  | .afterMember, .comma => .ok (.more { progress with expected := .name })
  | .afterMember, .endObject => finish progress
  | _, _ => .error .malformed

/-- The values that tokens complete. -/
def readFrom (fields : List Field) (progress : Progress) : List Token →
    Except BodyFault FieldValues
  | [] => .error .malformed
  | token :: rest =>
    match step fields progress token with
    | .error fault => .error fault
    | .ok (.done values) => .ok values
    | .ok (.more next) => readFrom fields next rest

/-- The characters of bytes, with nothing in the place of a byte that belongs to none. -/
def charactersOf : List UInt8 → List (Option Char)
  | [] => []
  | byte :: rest =>
    match (byte :: rest.take 3).toByteArray.utf8DecodeChar? 0 with
    | some character => some character :: charactersOf (rest.drop (character.utf8Size - 1))
    | none => none :: charactersOf rest
termination_by bytes => bytes.length
decreasing_by
  · rw [List.length_drop, List.length_cons]
    omega
  · exact Nat.lt_succ_self _

/-- One character, or a byte of none: the tokens it completes and what the machine is in the middle
of then. A string with such a byte is given two second halves of a character, of which only the
first can have its other half in front, so that it has no text. Anywhere else the byte is as good as
a character that no lexeme has. -/
def scanStep (progress : Token.Progress) : Option Char → List Token × Token.Progress
  | some character => Token.step progress character
  | none =>
    match progress with
    | .text pieces => ([], .text (.unit 0xDC00 :: .unit 0xDC00 :: pieces))
    | other => Token.step other '\ufffd'

/-- The tokens of the characters to come. -/
def scanFrom (progress : Token.Progress) : List (Option Char) → List Token
  | [] => Token.finish progress
  | character :: rest =>
    let (tokens, next) := scanStep progress character
    tokens ++ scanFrom next rest

/-- The tokens of bytes. -/
def scan (bytes : List UInt8) : List Token := scanFrom .between (charactersOf bytes)

/-- The values of the fields of a body. -/
def read (fields : List Field) (bytes : List UInt8) : Except BodyFault FieldValues :=
  readFrom fields ⟨.body, fields, []⟩ (scan bytes)

end Body

end FailOpenCache
