import FailOpenCache.Text.Blank
import FailOpenCache.Text.Decimal
import Mathlib.Data.List.Basic
import Mathlib.Data.List.TakeWhile

/-!
# Texts between blanks

A text that neither starts nor ends with a blank is what trimming leaves of it, however many blanks
stand around it. Written digits make such a text.
-/

namespace FailOpenCache.Text

/-- A written text that neither starts nor ends with a blank. -/
structure Tight (characters : List Char) : Prop where
  /-- The first character is no blank. -/
  first : ∀ character ∈ characters.head?, isBlank character = false
  /-- The last character is no blank. -/
  last : ∀ character ∈ characters.getLast?, isBlank character = false

/-- Characters without a blank in front keep their front. -/
theorem dropWhile_isBlank {characters : List Char}
    (first : ∀ character ∈ characters.head?, isBlank character = false) :
    characters.dropWhile isBlank = characters := by
  cases characters with
  | nil => rfl
  | cons character rest => rw [List.dropWhile_cons_of_neg (by simp [first character rfl])]

/-- A tight text has nothing to trim. -/
theorem Tight.trim_eq {characters : List Char} (tight : Tight characters) :
    trim characters = characters := by
  have last : ∀ character ∈ characters.reverse.head?, isBlank character = false := by
    rw [List.head?_reverse]
    exact tight.last
  rw [trim, trimStart, dropWhile_isBlank tight.first, trimEnd, dropWhile_isBlank last,
    List.reverse_reverse]

/-- Characters that are no blanks make a tight text. -/
theorem tight_of_solid {characters : List Char}
    (solid : ∀ character ∈ characters, isBlank character = false) : Tight characters where
  first character held := solid character (List.mem_of_mem_head? held)
  last character held := solid character (List.mem_of_mem_getLast? held)

/-- A tight text stays tight behind a tag. -/
theorem Tight.behind {characters : List Char} (tight : Tight characters)
    (nonempty : characters ≠ []) {first : Char} (solid : isBlank first = false) (second : Char) :
    Tight (first :: second :: characters) where
  first character held := by
    obtain rfl : first = character := by simpa using held
    exact solid
  last character held := by
    rw [List.getLast?_cons, List.getLast?_cons] at held
    cases shape : characters.getLast? with
    | none => exact absurd (List.getLast?_eq_none_iff.1 shape) nonempty
    | some other =>
      obtain rfl : other = character := by simpa [shape] using held
      exact tight.last other shape

/-- A text that ends with a closing character is tight if it starts well. -/
theorem tight_of_ends {first last : Char} (characters : List Char)
    (solid : isBlank first = false) (solid' : isBlank last = false) :
    Tight (first :: (characters ++ [last])) where
  first character held := by
    obtain rfl : first = character := by simpa using held
    exact solid
  last character held := by
    rw [← List.cons_append, List.getLast?_concat] at held
    obtain rfl : last = character := by simpa using held
    exact solid'

/-- The character of a digit is no blank. -/
theorem isBlank_digitChar {digit : Nat} (small : digit < 10) :
    isBlank (digitChar digit) = false := by
  have all : ∀ digit, digit < 10 → isBlank (digitChar digit) = false := by decide
  exact all digit small

/-- Characters that end without a blank keep their end, and lose the blanks behind it. -/
theorem trimEnd_append {characters back : List Char}
    (last : ∀ character ∈ characters.getLast?, isBlank character = false)
    (blank : ∀ character ∈ back, isBlank character = true) :
    trimEnd (characters ++ back) = characters := by
  have last' : ∀ character ∈ characters.reverse.head?, isBlank character = false := by
    rw [List.head?_reverse]
    exact last
  have blank' : ∀ character ∈ back.reverse, isBlank character = true := fun character held =>
    blank character (List.mem_reverse.1 held)
  rw [trimEnd, List.reverse_append, List.dropWhile_append_of_pos blank', dropWhile_isBlank last',
    List.reverse_reverse]

/-- A tight text loses the blanks around it. -/
theorem Tight.trim_between {characters : List Char} (tight : Tight characters)
    (nonempty : characters ≠ []) {front back : List Char}
    (blank : ∀ character ∈ front ++ back, isBlank character = true) :
    trim (front ++ characters ++ back) = characters := by
  have first : ∀ character ∈ (characters ++ back).head?, isBlank character = false := by
    rw [List.head?_append_of_ne_nil _ nonempty]
    exact tight.first
  have start : trimStart (front ++ characters ++ back) = characters ++ back := by
    rw [trimStart, List.append_assoc, List.dropWhile_append_of_pos fun character held =>
      blank character (List.mem_append_left _ held), dropWhile_isBlank first]
  rw [trim, start]
  exact trimEnd_append tight.last fun character held =>
    blank character (List.mem_append_right _ held)

/-- Nothing is left of blanks alone. -/
theorem trim_eq_nil_iff {characters : List Char} :
    trim characters = [] ↔ ∀ character ∈ characters, isBlank character = true := by
  rw [trim, trimEnd, List.reverse_eq_nil_iff, List.dropWhile_eq_nil_iff, trimStart]
  constructor
  · intro blank
    rw [← List.dropWhile_eq_nil_iff]
    cases shape : characters.dropWhile isBlank with
    | nil => rfl
    | cons first rest =>
      have solid := List.head_dropWhile_not isBlank (shape ▸ List.cons_ne_nil first rest)
      have inside : first ∈ (characters.dropWhile isBlank).reverse := by simp [shape]
      simp [shape, blank first inside] at solid
  · intro blank
    rw [List.dropWhile_eq_nil_iff.2 blank]
    exact fun character held => absurd held List.not_mem_nil

/-- Two characters in front that are no blanks stay in front. -/
theorem trim_behind {first second : Char} (solid : isBlank first = false)
    (solid' : isBlank second = false) (characters : List Char) :
    ∃ body, trim (first :: second :: characters) = first :: second :: body := by
  have start : trimStart (first :: second :: characters) = first :: second :: characters :=
    dropWhile_isBlank fun character held => by
      obtain rfl : first = character := by simpa using held
      exact solid
  have ends : [second, first].dropWhile isBlank = [second, first] :=
    dropWhile_isBlank fun character held => by
      obtain rfl : second = character := by simpa using held
      exact solid'
  rw [trim, start, trimEnd, List.reverse_cons, List.reverse_cons, List.append_assoc,
    List.cons_append, List.nil_append, List.dropWhile_append, ends]
  split
  · exact ⟨[], rfl⟩
  · exact ⟨(characters.reverse.dropWhile isBlank).reverse, by simp⟩

end FailOpenCache.Text
