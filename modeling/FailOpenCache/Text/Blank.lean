/-!
# Blank characters

The characters that count as white space around stored payloads, configuration values and
counters are those of the standard's white space property, not only the ASCII ones. Trimming
takes them off both ends of a text and never touches what stands between.
-/

namespace FailOpenCache.Text

/-- The white space property: five control characters, the space, the next-line and no-break
characters, and the blanks of the general punctuation and ideographic blocks. -/
def isBlank (character : Char) : Bool :=
  let code := character.toNat
  (0x09 ≤ code && code ≤ 0x0D) || code == 0x20 || code == 0x85 || code == 0xA0 ||
    code == 0x1680 || (0x2000 ≤ code && code ≤ 0x200A) || code == 0x2028 || code == 0x2029 ||
    code == 0x202F || code == 0x205F || code == 0x3000

/-- The characters after the leading blanks. -/
def trimStart (characters : List Char) : List Char :=
  characters.dropWhile isBlank

/-- The characters before the trailing blanks. -/
def trimEnd (characters : List Char) : List Char :=
  (characters.reverse.dropWhile isBlank).reverse

/-- The characters between the leading and the trailing blanks. -/
def trim (characters : List Char) : List Char :=
  trimEnd (trimStart characters)

/-- A text without its leading and trailing blanks. -/
def trimmed (text : String) : String :=
  String.ofList (trim text.toList)

/-- A text of blanks only, the empty text included. -/
def allBlank (text : String) : Bool :=
  text.toList.all isBlank

end FailOpenCache.Text
