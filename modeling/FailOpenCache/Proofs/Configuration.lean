import FailOpenCache.Configuration
import FailOpenCache.Proofs.Text.Blank
import FailOpenCache.Proofs.Text.Decimal

/-!
# The written list of rules

A list of rules is written piece by piece: a stem, an equals sign and seconds, with any blanks
around them, and a comma between two pieces. Reading it gives the rules back in order. It goes by
pieces, so what is read of two lists with a comma between them is read of the one and then of the
other, and a piece that states no rule is skipped wherever it stands. A stem may hold equals signs,
since a piece is cut at its last one.
-/

namespace FailOpenCache.Configuration

open Text (isBlank natural Tight)

/-! ## Pieces and cuts -/

/-- The pieces are what stands between the separators. -/
theorem pieces_eq_splitOn (separator : Char) (characters : List Char) :
    pieces separator characters = characters.splitOn separator := by
  induction characters with
  | nil => rfl
  | cons character rest ih =>
    rw [pieces, ih, List.splitOn_cons_eq_if_modifyHead]
    cases shape : rest.splitOn separator with
    | nil => exact absurd shape (List.splitOn_ne_nil _ _)
    | cons piece later => simp

/-- Nothing is cut where the mark does not stand. -/
theorem cutAtLast?_eq_none_iff {mark : Char} {characters : List Char} :
    cutAtLast? mark characters = none ↔ mark ∉ characters := by
  induction characters with
  | nil => simp [cutAtLast?]
  | cons character rest ih =>
    rw [cutAtLast?, List.mem_cons, not_or, ← ih]
    cases cutAtLast? mark rest with
    | none => simp [eq_comm]
    | some cut => simp

/-- A text is cut at the mark behind which no other stands. -/
theorem cutAtLast?_append {mark : Char} (front : List Char) {back : List Char}
    (last : mark ∉ back) : cutAtLast? mark (front ++ mark :: back) = some (front, back) := by
  induction front with
  | nil => simp [cutAtLast?, cutAtLast?_eq_none_iff.2 last]
  | cons character rest ih => rw [List.cons_append, cutAtLast?, ih]

/-- A mark that stands in a text stands last somewhere. -/
theorem exists_last {mark : Char} {characters : List Char} (held : mark ∈ characters) :
    ∃ front back, characters = front ++ mark :: back ∧ mark ∉ back := by
  obtain ⟨back, front, shape, last⟩ := List.eq_append_cons_of_mem (List.mem_reverse.2 held)
  refine ⟨front.reverse, back.reverse, ?_, fun inside => last (List.mem_reverse.1 inside)⟩
  rw [← List.reverse_reverse characters, shape]
  simp

/-! ## Lists of pieces -/

/-- What is read of two lists with a comma between them is read of the one and then of the other. -/
theorem readOverrides_append (first later : String) :
    readOverrides (first ++ "," ++ later) = readOverrides first ++ readOverrides later := by
  have split : (first ++ "," ++ later).toList = first.toList ++ ',' :: later.toList := by simp
  rw [readOverrides, readOverrides, readOverrides, split, pieces_eq_splitOn, pieces_eq_splitOn,
    pieces_eq_splitOn, List.splitOn_append_cons_self, List.filterMap_append]

/-- A text without a comma is one piece. -/
theorem readOverrides_of_piece {text : String} (piece : ',' ∉ text.toList) :
    readOverrides text = (readOverride? text.toList).toList := by
  rw [readOverrides, pieces_eq_splitOn, List.splitOn_eq_singleton piece]
  cases stated : readOverride? text.toList with
  | none => simp [stated]
  | some rule => simp [stated]

/-! ## Written rules -/

/-- A rule that can be written in a list: its stem is not empty, holds no comma and has no blank at
either end, and its seconds fit in a word. -/
structure Writable (rule : String × Seconds) : Prop where
  /-- The stem is not empty. -/
  nonempty : rule.1.toList ≠ []
  /-- No comma stands in the stem. -/
  piece : ',' ∉ rule.1.toList
  /-- The stem neither starts nor ends with a blank. -/
  tight : Tight rule.1.toList
  /-- The seconds fit in a word. -/
  fits : rule.2 ≤ lastWord

/-- The blanks around the parts of a written rule. -/
structure Padding where
  /-- What stands in front of the stem. -/
  beforeStem : List Char
  /-- What stands between the stem and the equals sign. -/
  behindStem : List Char
  /-- What stands between the equals sign and the seconds. -/
  beforeSeconds : List Char
  /-- What stands behind the seconds. -/
  behindSeconds : List Char
  /-- Blanks stand around the stem. -/
  blankStem : ∀ character ∈ beforeStem ++ behindStem, isBlank character = true
  /-- Blanks stand around the seconds. -/
  blankSeconds : ∀ character ∈ beforeSeconds ++ behindSeconds, isBlank character = true

/-- The characters of a written rule. -/
def Padding.spell (padding : Padding) (rule : String × Seconds) : List Char :=
  (padding.beforeStem ++ rule.1.toList ++ padding.behindStem) ++
    '=' :: (padding.beforeSeconds ++ natural rule.2 ++ padding.behindSeconds)

/-- A written rule. -/
def Padding.write (padding : Padding) (rule : String × Seconds) : String :=
  String.ofList (padding.spell rule)

section

variable {rule : String × Seconds} (padding : Padding)

/-- A mark that is neither blank nor a digit does not stand around the seconds. -/
theorem Padding.notMem_seconds {mark : Char} (solid : isBlank mark = false)
    (other : ∀ digit < 10, mark ≠ Text.digitChar digit) (seconds : Seconds) :
    mark ∉ padding.beforeSeconds ++ natural seconds ++ padding.behindSeconds := by
  have blank := padding.blankSeconds mark
  rw [List.mem_append] at blank
  intro held
  rcases List.mem_append.1 held with front | behind
  · rcases List.mem_append.1 front with before | inside
    · exact absurd (blank (.inl before)) (by simp [solid])
    · obtain ⟨digit, small, same⟩ := Text.exists_digit_of_mem_natural inside
      exact other digit small same
  · exact absurd (blank (.inr behind)) (by simp [solid])

/-- No comma stands in a written rule. -/
theorem Padding.comma_notMem_spell (writable : Writable rule) : ',' ∉ padding.spell rule := by
  have blank := padding.blankStem ','
  rw [List.mem_append] at blank
  intro held
  rcases List.mem_append.1 held with stem | later
  · rcases List.mem_append.1 stem with front | behind
    · rcases List.mem_append.1 front with before | inside
      · exact absurd (blank (.inl before)) (by decide)
      · exact writable.piece inside
    · exact absurd (blank (.inr behind)) (by decide)
  · rcases List.mem_cons.1 later with same | inside
    · exact absurd same (by decide)
    · exact padding.notMem_seconds (by decide) (by decide) rule.2 inside

/-- A written rule is read back. -/
theorem Padding.readOverride?_spell (writable : Writable rule) :
    readOverride? (padding.spell rule) = some rule := by
  have cut := cutAtLast?_append (padding.beforeStem ++ rule.1.toList ++ padding.behindStem)
    (padding.notMem_seconds (by decide : isBlank '=' = false) (by decide) rule.2)
  have stem : Text.trim (padding.beforeStem ++ rule.1.toList ++ padding.behindStem) =
      rule.1.toList := writable.tight.trim_between writable.nonempty padding.blankStem
  have digits : Tight (natural rule.2) := Text.tight_of_solid fun character held => by
    obtain ⟨digit, small, rfl⟩ := Text.exists_digit_of_mem_natural held
    exact Text.isBlank_digitChar small
  have some : natural rule.2 ≠ [] := by
    obtain ⟨digit, rest, shape, -⟩ := Text.natural_eq_cons rule.2
    rw [shape]
    exact List.cons_ne_nil _ _
  have seconds : Text.trim (padding.beforeSeconds ++ natural rule.2 ++ padding.behindSeconds) =
      natural rule.2 := digits.trim_between some padding.blankSeconds
  rw [readOverride?, Padding.spell, cut]
  dsimp only
  rw [stem, seconds, if_neg writable.nonempty, Text.readUnsigned?_natural,
    if_pos writable.fits, Option.map_some, String.ofList_toList]

/-- A written rule is a list of one rule. -/
theorem Padding.readOverrides_write (writable : Writable rule) :
    readOverrides (padding.write rule) = [rule] := by
  have piece := padding.comma_notMem_spell writable
  rw [← String.toList_ofList (l := padding.spell rule)] at piece
  rw [Padding.write, readOverrides_of_piece piece, String.toList_ofList,
    padding.readOverride?_spell writable]
  rfl

end

/-- Written rules with commas between them are read back in order. -/
theorem readOverrides_intercalate {items : List (Padding × (String × Seconds))}
    (writable : ∀ item ∈ items, Writable item.2) :
    readOverrides (",".intercalate (items.map fun item => item.1.write item.2)) =
      items.map Prod.snd := by
  induction items with
  | nil => rfl
  | cons item rest ih =>
    have first := item.1.readOverrides_write (writable item List.mem_cons_self)
    have later := ih fun other held => writable other (List.mem_cons_of_mem _ held)
    cases rest with
    | nil => simpa using first
    | cons next behind =>
      rw [List.map_cons] at later ⊢
      rw [List.map_cons, String.intercalate_cons_cons, readOverrides_append, first, later]
      rfl

/-! ## Malformed pieces -/

/-- A piece that states no rule. -/
inductive Malformed : List Char → Prop where
  /-- There is no equals sign. -/
  | unmarked {piece : List Char} (absent : '=' ∉ piece) : Malformed piece
  /-- There is no stem in front of the last equals sign. -/
  | nameless {front back : List Char} (last : '=' ∉ back)
    (blank : ∀ character ∈ front, isBlank character = true) : Malformed (front ++ '=' :: back)
  /-- There is no number of a word behind the last equals sign. -/
  | countless {front back : List Char} (last : '=' ∉ back)
    (unread : Text.readUnsigned? lastWord (Text.trim back) = none) :
    Malformed (front ++ '=' :: back)

/-- Exactly the malformed pieces state no rule. -/
theorem readOverride?_eq_none_iff {piece : List Char} :
    readOverride? piece = none ↔ Malformed piece := by
  constructor
  · intro skipped
    by_cases held : '=' ∈ piece
    · obtain ⟨front, back, rfl, last⟩ := exists_last held
      rw [readOverride?, cutAtLast?_append front last] at skipped
      dsimp only at skipped
      split at skipped
      · rename_i nothing
        exact .nameless last (Text.trim_eq_nil_iff.1 nothing)
      · exact .countless last (Option.map_eq_none_iff.1 skipped)
    · exact .unmarked held
  · intro malformed
    cases malformed with
    | unmarked absent => rw [readOverride?, cutAtLast?_eq_none_iff.2 absent]
    | nameless last blank =>
      rw [readOverride?, cutAtLast?_append _ last]
      exact if_pos (Text.trim_eq_nil_iff.2 blank)
    | countless last unread =>
      rw [readOverride?, cutAtLast?_append _ last]
      dsimp only
      rw [unread, Option.map_none, ite_self]

/-- A list of rules is read piece by piece. Rules that can be written are read back in order,
however they are padded with blanks; two lists with a comma between them are read one after the
other; and exactly the malformed pieces state no rule, and change nothing of what is read around
them. -/
theorem readOverrides_pieceByPiece :
    (∀ items : List (Padding × (String × Seconds)), (∀ item ∈ items, Writable item.2) →
        readOverrides (",".intercalate (items.map fun item => item.1.write item.2)) =
          items.map Prod.snd) ∧
      (∀ first later,
        readOverrides (first ++ "," ++ later) = readOverrides first ++ readOverrides later) ∧
      ∀ piece : String, ',' ∉ piece.toList →
        (readOverrides piece = [] ↔ Malformed piece.toList) ∧
        (Malformed piece.toList → ∀ before behind,
          readOverrides (piece ++ "," ++ behind) = readOverrides behind ∧
          readOverrides (before ++ "," ++ piece) = readOverrides before ∧
          readOverrides (before ++ "," ++ piece ++ "," ++ behind) =
            readOverrides before ++ readOverrides behind) := by
  refine ⟨fun items writable => readOverrides_intercalate writable, readOverrides_append,
    fun piece whole => ?_⟩
  have skipped : readOverrides piece = [] ↔ Malformed piece.toList := by
    rw [readOverrides_of_piece whole, Option.toList_eq_nil_iff, readOverride?_eq_none_iff]
  refine ⟨skipped, fun malformed before behind => ?_⟩
  have nothing := skipped.2 malformed
  refine ⟨?_, ?_, ?_⟩
  · rw [readOverrides_append, nothing, List.nil_append]
  · rw [readOverrides_append, nothing, List.append_nil]
  · rw [readOverrides_append, readOverrides_append, nothing, List.append_nil]

/-- Nothing stands around the parts of a rule. -/
def Padding.none : Padding := ⟨[], [], [], [], by simp, by simp⟩

/-- Blanks of several kinds stand around the parts of a rule. -/
def Padding.wide : Padding :=
  ⟨[' '], ['\t', ' '], ['\u00a0'], ['\n'], by simp [isBlank], by simp [isBlank]⟩

/-- A stem with equals signs and the greatest number of a word are read back between blanks, and a
piece without a number is skipped between two rules. -/
theorem readOverrides_pieceByPiece_padded :
    (Writable ("a=1=b", lastWord) ∧ Writable ("posts:list", 0)) ∧
      readOverrides (",".intercalate
        [Padding.wide.write ("a=1=b", lastWord), Padding.none.write ("posts:list", 0)]) =
          [("a=1=b", lastWord), ("posts:list", 0)] ∧
      ',' ∉ "b=x".toList ∧ Malformed "b=x".toList ∧
      readOverrides ("a=1" ++ "," ++ "b=x" ++ "," ++ "c=3") =
        readOverrides "a=1" ++ readOverrides "c=3" := by
  have writable : Writable ("a=1=b", lastWord) ∧ Writable ("posts:list", 0) :=
    ⟨⟨by decide, by decide, ⟨by simp [isBlank], by simp [isBlank]⟩, Nat.le_refl _⟩,
      ⟨by decide, by decide, ⟨by simp [isBlank], by simp [isBlank]⟩, Nat.zero_le _⟩⟩
  obtain ⟨back, -, pieces⟩ := readOverrides_pieceByPiece
  have whole : ',' ∉ "b=x".toList := by decide
  have malformed : Malformed "b=x".toList :=
    @Malformed.countless ['b'] ['x'] (by decide) (by decide)
  refine ⟨writable, ?_, whole, malformed, ((pieces _ whole).2 malformed _ _).2.2⟩
  exact back [(.wide, ("a=1=b", lastWord)), (.none, ("posts:list", 0))] (by simp [writable])

end FailOpenCache.Configuration
