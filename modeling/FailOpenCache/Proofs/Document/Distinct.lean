import FailOpenCache.Proofs.Document.Tokens
import FailOpenCache.Proofs.Number.Nearest

/-!
# Documents told by their texts

Different documents have different canonical texts, however deep they nest and whatever their
binary numbers are read back as. A text is scanned into the tokens of its document, and the tokens
of a document are no beginning of the tokens of another: where two sequences of tokens begin alike,
they begin with the same document. Integers and binary numbers never share a numeral, because the
numeral of a binary number has a fraction or an exponent.
-/

namespace FailOpenCache

/-- A laid out numeral has a fraction or an exponent. -/
theorem NumberLayout.fraction_or_exponent (layout : NumberLayout) (digits : List Nat)
    (exponent : Int) : (layout.numeral digits exponent).fraction.isSome = true ∨
      (layout.numeral digits exponent).exponent.isSome = true := by
  unfold NumberLayout.numeral
  split
  · split <;> exact .inl rfl
  · exact .inr rfl

/-- The numeral of a binary number is not that of an integer. -/
theorem Binary64.numeral_ne_ofInteger (number : Binary64) (value : Int) :
    number.numeral ≠ Numeral.ofInteger value := by
  have parts : number.numeral.fraction.isSome = true ∨ number.numeral.exponent.isSome = true := by
    unfold Binary64.numeral
    split
    · exact .inl rfl
    · exact NumberLayout.fraction_or_exponent _ _ _
  intro same
  rw [same] at parts
  rcases parts with fraction | exponent
  · cases fraction
  · cases exponent

/-- Different integers are written as different numerals. -/
theorem Numeral.ofInteger_injective : Function.Injective Numeral.ofInteger := by
  intro value other same
  have sign : decide (value < 0) = decide (other < 0) := congrArg Numeral.negative same
  have digits : Text.decimals value.natAbs = Text.decimals other.natAbs :=
    congrArg Numeral.whole same
  have magnitude : value.natAbs = other.natAbs := by
    rw [← Text.ofDigits_decimals value.natAbs, digits, Text.ofDigits_decimals]
  simp only [decide_eq_decide] at sign
  omega

namespace Document

/-- The tokens of a document do not begin with the end of an array. -/
theorem tokens_ne_endArray (document : Document) (rest later : List Token) :
    document.tokens ++ rest ≠ .endArray :: later := by
  cases document <;> simp [tokens]

mutual

/-- Where two sequences of tokens begin with documents alike, the documents are the same. -/
theorem tokens_append_inj : ∀ (document other : Document) {rest later : List Token},
    document.tokens ++ rest = other.tokens ++ later → document = other ∧ rest = later
  | null, other, rest, later, same => by cases other <;> simp_all [tokens]
  | bool value, other, rest, later, same => by cases other <;> simp_all [tokens]
  | integer value, other, rest, later, same => by
    cases other with
    | integer value' =>
      simp only [tokens, List.cons_append, List.nil_append, List.cons.injEq,
        Token.number.injEq] at same
      exact ⟨congrArg integer (Numeral.ofInteger_injective same.1), same.2⟩
    | real number =>
      simp only [tokens, List.cons_append, List.nil_append, List.cons.injEq,
        Token.number.injEq] at same
      exact absurd same.1.symm (number.numeral_ne_ofInteger value)
    | _ => simp [tokens] at same
  | real number, other, rest, later, same => by
    cases other with
    | integer value =>
      simp only [tokens, List.cons_append, List.nil_append, List.cons.injEq,
        Token.number.injEq] at same
      exact absurd same.1 (number.numeral_ne_ofInteger value)
    | real number' =>
      simp only [tokens, List.cons_append, List.nil_append, List.cons.injEq,
        Token.number.injEq] at same
      exact ⟨congrArg real (Binary64.numeral_injective same.1), same.2⟩
    | _ => simp [tokens] at same
  | string value, other, rest, later, same => by cases other <;> simp_all [tokens]
  | array items, other, rest, later, same => by
    cases other with
    | array others =>
      simp only [tokens, List.cons_append, List.cons.injEq, true_and, List.append_assoc,
        List.nil_append] at same
      obtain ⟨rfl, rfl⟩ := itemTokens_append_inj items others same
      exact ⟨rfl, rfl⟩
    | _ => simp [tokens] at same
  | object members, other, rest, later, same => by
    cases other with
    | object others =>
      simp only [tokens, List.cons_append, List.cons.injEq, true_and, List.append_assoc,
        List.nil_append] at same
      obtain ⟨rfl, rfl⟩ := memberTokens_append_inj members others same
      exact ⟨rfl, rfl⟩
    | _ => simp [tokens] at same

/-- Where two arrays end alike, their items are the same. -/
theorem itemTokens_append_inj : ∀ (items others : List Document) {rest later : List Token},
    itemTokens items ++ .endArray :: rest = itemTokens others ++ .endArray :: later →
      items = others ∧ rest = later
  | [], [], rest, later, same => by simpa [itemTokens] using same
  | [], other :: others, rest, later, same => by
    rw [itemTokens, itemTokens, List.nil_append, List.append_assoc] at same
    exact absurd same.symm (tokens_ne_endArray other _ _)
  | item :: items, [], rest, later, same => by
    rw [itemTokens, itemTokens, List.nil_append, List.append_assoc] at same
    exact absurd same (tokens_ne_endArray item _ _)
  | item :: items, other :: others, rest, later, same => by
    rw [itemTokens, itemTokens, List.append_assoc, List.append_assoc] at same
    obtain ⟨rfl, behind⟩ := tokens_append_inj item other same
    obtain ⟨rfl, rfl⟩ := laterItemTokens_append_inj items others behind
    exact ⟨rfl, rfl⟩

/-- Where two arrays end alike behind an item, the items to come are the same. -/
theorem laterItemTokens_append_inj : ∀ (items others : List Document) {rest later : List Token},
    laterItemTokens items ++ .endArray :: rest = laterItemTokens others ++ .endArray :: later →
      items = others ∧ rest = later
  | [], [], rest, later, same => by simpa [laterItemTokens] using same
  | [], other :: others, rest, later, same => by simp [laterItemTokens] at same
  | item :: items, [], rest, later, same => by simp [laterItemTokens] at same
  | item :: items, other :: others, rest, later, same => by
    simp only [laterItemTokens, List.cons_append, List.cons.injEq, true_and,
      List.append_assoc] at same
    obtain ⟨rfl, behind⟩ := tokens_append_inj item other same
    obtain ⟨rfl, rfl⟩ := laterItemTokens_append_inj items others behind
    exact ⟨rfl, rfl⟩

/-- Where two objects end alike, their members are the same. -/
theorem memberTokens_append_inj : ∀ (members others : List (String × Document))
    {rest later : List Token},
    memberTokens members ++ .endObject :: rest = memberTokens others ++ .endObject :: later →
      members = others ∧ rest = later
  | [], [], rest, later, same => by simpa [memberTokens] using same
  | [], (name, value) :: others, rest, later, same => by simp [memberTokens] at same
  | (name, value) :: members, [], rest, later, same => by simp [memberTokens] at same
  | (name, value) :: members, (name', value') :: others, rest, later, same => by
    simp only [memberTokens, List.cons_append, List.cons.injEq, Token.string.injEq,
      Option.some.injEq, true_and, List.append_assoc] at same
    obtain ⟨rfl, values⟩ := same
    obtain ⟨rfl, behind⟩ := tokens_append_inj value value' values
    obtain ⟨rfl, rfl⟩ := laterMemberTokens_append_inj members others behind
    exact ⟨rfl, rfl⟩

/-- Where two objects end alike behind a member, the members to come are the same. -/
theorem laterMemberTokens_append_inj : ∀ (members others : List (String × Document))
    {rest later : List Token},
    laterMemberTokens members ++ .endObject :: rest =
      laterMemberTokens others ++ .endObject :: later → members = others ∧ rest = later
  | [], [], rest, later, same => by simpa [laterMemberTokens] using same
  | [], (name, value) :: others, rest, later, same => by simp [laterMemberTokens] at same
  | (name, value) :: members, [], rest, later, same => by simp [laterMemberTokens] at same
  | (name, value) :: members, (name', value') :: others, rest, later, same => by
    simp only [laterMemberTokens, List.cons_append, List.cons.injEq, Token.string.injEq,
      Option.some.injEq, true_and, List.append_assoc] at same
    obtain ⟨rfl, values⟩ := same
    obtain ⟨rfl, behind⟩ := tokens_append_inj value value' values
    obtain ⟨rfl, rfl⟩ := laterMemberTokens_append_inj members others behind
    exact ⟨rfl, rfl⟩

end

/-- Different documents have different canonical texts. -/
theorem print_injective : Function.Injective print := by
  intro document other same
  have scanned : document.tokens = other.tokens := by
    rw [← scan_print, same, scan_print]
  have prefixed : document.tokens ++ [] = other.tokens ++ [] := by rw [scanned]
  exact (tokens_append_inj document other prefixed).1

end Document

end FailOpenCache
