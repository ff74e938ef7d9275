import FailOpenCache.Document.Token

/-!
# Reading documents

A document is read from its tokens by a machine that keeps the containers still open, the
innermost first, and what it expects next. A text is a document when its tokens are those of one
document and nothing else, no numeral overflows, every string has a text, and no more than 127
containers stand inside each other.
-/

namespace FailOpenCache.Document

/-- A container still open: what it holds so far, and the name of the member being read. -/
inductive Frame where
  /-- An array, its items the latest first. -/
  | array (items : List Document)
  /-- An object, its members in the order of their names. -/
  | object (members : List (String × Document)) (name : String)

/-- What is expected next. -/
inductive Expected where
  /-- A value. -/
  | value
  /-- A value or the end of the array just begun. -/
  | firstItem
  /-- A name or the end of the object just begun. -/
  | firstName
  /-- A name. -/
  | name
  /-- The colon behind a name. -/
  | colon
  /-- What may follow a finished value. -/
  | after (value : Document)

/-- What is expected once a token has been read where a value is due. -/
def beginValue (token : Token) (stack : List Frame) : Option (Expected × List Frame) :=
  match token with
  | .null => some (.after null, stack)
  | .bool value => some (.after (bool value), stack)
  | .number numeral => numeral.value?.map fun value => (.after value, stack)
  | .string text => text.map fun value => (.after (string value), stack)
  | .beginArray =>
    if stack.length < depthLimit then some (.firstItem, .array [] :: stack) else none
  | .beginObject =>
    if stack.length < depthLimit then some (.firstName, .object [] "" :: stack) else none
  | _ => none

/-- What is expected once a name has been read in the innermost object. -/
def beginMember (token : Token) (stack : List Frame) : Option (Expected × List Frame) :=
  match token, stack with
  | .string (some name), .object members _ :: outer => some (.colon, .object members name :: outer)
  | _, _ => none

/-- What is expected once a token has been read behind a finished value. -/
def continueAfter (value : Document) (token : Token) (stack : List Frame) :
    Option (Expected × List Frame) :=
  match token, stack with
  | .comma, .array items :: outer => some (.value, .array (value :: items) :: outer)
  | .endArray, .array items :: outer => some (.after (array (value :: items).reverse), outer)
  | .comma, .object members name :: outer =>
    some (.name, .object (insertByName name value members) name :: outer)
  | .endObject, .object members name :: outer =>
    some (.after (object (insertByName name value members)), outer)
  | _, _ => none

/-- One token: what is expected then and which containers are open. -/
def advance (expected : Expected) (token : Token) (stack : List Frame) :
    Option (Expected × List Frame) :=
  match expected with
  | .value => beginValue token stack
  | .firstItem =>
    match token, stack with
    | .endArray, .array items :: outer => some (.after (array items.reverse), outer)
    | _, _ => beginValue token stack
  | .firstName =>
    match token, stack with
    | .endObject, .object members _ :: outer => some (.after (object members), outer)
    | _, _ => beginMember token stack
  | .name => beginMember token stack
  | .colon => match token with
    | .colon => some (.value, stack)
    | _ => none
  | .after value => continueAfter value token stack

/-- The document that tokens complete. -/
def ofTokensFrom (expected : Expected) (stack : List Frame) : List Token → Option Document
  | [] =>
    match expected, stack with
    | .after value, [] => some value
    | _, _ => none
  | token :: rest =>
    match advance expected token stack with
    | some (next, inner) => ofTokensFrom next inner rest
    | none => none

/-- The document of a whole list of tokens. -/
def ofTokens? (tokens : List Token) : Option Document :=
  ofTokensFrom .value [] tokens

/-- The document that characters write. -/
def read? (characters : List Char) : Option Document :=
  ofTokens? (Token.scan characters)

/-- The document that a text writes. -/
def ofText? (text : String) : Option Document :=
  read? text.toList

end FailOpenCache.Document
