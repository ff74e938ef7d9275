/-!
# Media types

A body is read only if it is declared to be in the interchange format: its media type is an
application type whose subtype, or the suffix behind the last plus sign of it, is that of the
format. Letter case does not matter. Parameters may follow behind a semicolon, and must then be
well-formed.
-/

namespace FailOpenCache.MediaType

/-- The character may stand in the names of types and parameters. -/
def isTokenCharacter (character : Char) : Bool :=
  character.isAlphanum || "!#$%&+-.^_\x60|~".toList.contains character

/-- The character may stand between quotation marks; a quotation mark may only as the first of
several. -/
def isQuotedCharacter (character : Char) : Bool :=
  31 < character.toNat && character.toNat != 127

/-- Where in a list of parameters a character stands. -/
inductive Place where
  /-- In front of a name. -/
  | beforeName
  /-- In a name. -/
  | name
  /-- Behind the equals sign. -/
  | beforeValue
  /-- In a value. -/
  | value
  /-- In a value between quotation marks, of which something has been read or not. -/
  | quoted (begun : Bool)
  /-- Behind a value between quotation marks. -/
  | behindQuoted
deriving DecidableEq

/-- A list of parameters may end here. -/
def Place.mayEnd : Place → Bool
  | beforeName | value | beforeValue | behindQuoted => true
  | name | quoted _ => false

/-- Where the next character stands, unless this one cannot stand here. -/
def step? (place : Place) (character : Char) : Option Place :=
  match place with
  | .beforeName =>
    if character = ' ' then some .beforeName
    else if isTokenCharacter character then some .name
    else none
  | .name =>
    if isTokenCharacter character then some .name
    else if character = '=' then some .beforeValue
    else none
  | .beforeValue =>
    if character = '"' then some (.quoted false)
    else if isTokenCharacter character then some .value
    else none
  | .value =>
    if isTokenCharacter character then some .value
    else if character = ';' then some .beforeName
    else none
  | .quoted begun =>
    if begun ∧ character = '"' then some .behindQuoted
    else if isQuotedCharacter character then some (.quoted true)
    else none
  | .behindQuoted => if character = ';' then some .beforeName else none

/-- The characters are a list of parameters. -/
def areParameters (place : Place) : List Char → Bool
  | [] => place.mayEnd
  | character :: rest =>
    match step? place character with
    | some next => areParameters next rest
    | none => false

/-- A subtype cut at its last plus sign; one in front of it all does not count. -/
def cutSuffix (subtype : List Char) : List Char × Option (List Char) :=
  let suffix := (subtype.reverse.takeWhile (· != '+')).reverse
  let stem := subtype.take (subtype.length - suffix.length - 1)
  if suffix.length = subtype.length ∨ stem = [] then (subtype, none) else (stem, some suffix)

/-- A name in lower case. -/
def lowered (name : List Char) : String :=
  String.ofList (name.map Char.toLower)

/-- The subtype is that of the interchange format, or has its suffix. -/
def isInterchangeSubtype (subtype : List Char) : Bool :=
  let (stem, suffix) := cutSuffix subtype
  lowered stem == "json" || suffix.map lowered == some "json"

/-- What stands behind the slash is a subtype of the interchange format with well-formed
parameters, if any. -/
def acceptsSubtype (characters : List Char) : Bool :=
  let subtype := characters.takeWhile isTokenCharacter
  match characters.drop subtype.length with
  | [] => isInterchangeSubtype subtype
  | ';' :: parameters => isInterchangeSubtype subtype && areParameters .beforeName parameters
  | _ => false

/-- The text declares a body in the interchange format. -/
def accepts (text : String) : Bool :=
  let characters := text.toList
  let kind := characters.takeWhile (· != '/')
  match characters.drop kind.length with
  | '/' :: rest =>
    lowered kind == "application" && acceptsSubtype rest &&
      characters.all fun character => 31 < character.toNat && character.toNat < 127
  | _ => false

end FailOpenCache.MediaType
