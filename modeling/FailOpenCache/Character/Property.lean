import FailOpenCache.Character.CategoryTable
import FailOpenCache.Character.PropertyTable
import FailOpenCache.Character.Script
import FailOpenCache.Text.Blank

/-!
# Properties of characters

A property is a set of characters that has a name: a group of general categories, a script, or one
of the named properties. Names are compared by their letters and digits alone, in lower case and
without a leading "is".
-/

namespace FailOpenCache

/-- A property of characters. -/
inductive Property where
  /-- To belong to one of these categories, or to one of these ranges of code points. -/
  | gathered (categories : List Category) (ranges : List (Nat × Nat))
  /-- To belong to the script of this code. -/
  | script (code : String)
  /-- To be blank. -/
  | blank
deriving DecidableEq

namespace Property

/-- The character has the property. -/
def holds (property : Property) (character : Char) : Bool :=
  match property with
  | gathered categories ranges =>
    categories.contains (Category.ofChar character) || Character.inRanges ranges character.toNat
  | script code => Script.holds code character
  | blank => Text.isBlank character

/-- To be a decimal digit. -/
def digit : Property := gathered [.decimalNumber] []

/-- To be part of a word: a letter, a mark, a digit, a connecting mark, a joiner, or a letter in a
circle or a square. -/
def word : Property :=
  gathered
    (Category.letters ++ Category.marks ++ [.decimalNumber, .letterNumber, .connectorPunctuation])
    [(0x200C, 0x200D), (0x24B6, 0x24E9), (0x1F130, 0x1F149), (0x1F150, 0x1F169),
      (0x1F170, 0x1F189)]

/-- A name without a leading "is". -/
def withoutIs : List Char → List Char
  | first :: second :: rest =>
    if first.toLower = 'i' ∧ second.toLower = 's' then rest else first :: second :: rest
  | short => short

/-- A name by its ASCII letters and digits, in lower case. A leading "is" counts only in front of
a single "c", where the name is one of its own. -/
def plainName (name : List Char) : String :=
  let kept := (withoutIs name).filter fun character =>
    character.toNat < 0x80 && !(character == ' ' || character == '_' || character == '-')
  let plain := String.ofList (kept.map Char.toLower)
  if plain = "c" ∧ (withoutIs name).length < name.length then "isc" else plain

/-- The category group of a name. -/
def ofCategoryName? (name : String) : Option Property :=
  if name = "ascii" then some (gathered [] [(0, 0x7F)])
  else (Category.named? name).map fun categories => gathered categories []

/-- The script of a name. -/
def ofScriptName? (name : String) : Option Property :=
  (Script.named? name).map script

/-- The named property of a name, the categories and scripts left out. -/
def ofListedName? (name : String) : Option Property :=
  if ["space", "wspace", "whitespace"].contains name then some blank
  else
    (propertyRows.find? fun row => row.names.contains name).map fun row =>
      gathered row.categories (Character.readRanges row.ranges.toList)

/-- The property that a name alone stands for: a named property, else a category group, else a
script. -/
def ofName? (name : List Char) : Option Property :=
  let plain := plainName name
  match ofListedName? plain with
  | some property => some property
  | none =>
    match ofCategoryName? plain with
    | some property => some property
    | none => ofScriptName? plain

/-- The property that a kind of property and one of its values stand for. -/
def ofValue? (kind value : List Char) : Option Property :=
  let plainKind := plainName kind
  if ["gc", "generalcategory"].contains plainKind then ofCategoryName? (plainName value)
  else if ["sc", "script"].contains plainKind then ofScriptName? (plainName value)
  else none

end Property

end FailOpenCache
