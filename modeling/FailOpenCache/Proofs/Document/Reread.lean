import FailOpenCache.Document.Reader
import FailOpenCache.Proofs.Document.Tokens
import FailOpenCache.Proofs.Sorted

/-!
# Documents read back

The canonical text of a document is read back as a document of the same shape. Containers nested
deeper than the limit are refused; every part but a binary number is read back as it is; and a
binary number is read back as `Binary64.reread?` says. So a document survives its text exactly when
it is not nested too deep and each of its binary numbers survives its own.
-/

namespace FailOpenCache.Document

mutual

/-- The document that the text of a document is read back as, where so many containers may still
be opened. -/
def rereadWithin : Nat → Document → Option Document
  | _, null => some null
  | _, bool value => some (bool value)
  | _, integer value => some (integer value)
  | _, real value => value.reread?.map real
  | _, string value => some (string value)
  | 0, array _ => none
  | room + 1, array items => (rereadItems room items).map array
  | 0, object _ => none
  | room + 1, object members => (rereadMembers room members).map object

/-- The items that the text of items is read back as. -/
def rereadItems : Nat → List Document → Option (List Document)
  | _, [] => some []
  | room, item :: rest =>
    (rereadWithin room item).bind fun first => (rereadItems room rest).map (first :: ·)

/-- The members that the text of members is read back as. -/
def rereadMembers : Nat → List (String × Document) → Option (List (String × Document))
  | _, [] => some []
  | room, (name, value) :: rest =>
    (rereadWithin room value).bind fun first => (rereadMembers room rest).map ((name, first) :: ·)

end

/-- The document that the text of a document is read back as; there is none when it is nested too
deep or a number overflows. -/
def reread? (document : Document) : Option Document := rereadWithin depthLimit document

mutual

/-- Every binary number in a document is read back as itself. -/
def RealsSurvive : Document → Prop
  | real value => value.reread? = some value
  | array items => ItemsSurvive items
  | object members => MembersSurvive members
  | _ => True

/-- Every binary number in a sequence is read back as itself. -/
def ItemsSurvive : List Document → Prop
  | [] => True
  | item :: rest => RealsSurvive item ∧ ItemsSurvive rest

/-- Every binary number in a list of members is read back as itself. -/
def MembersSurvive : List (String × Document) → Prop
  | [] => True
  | member :: rest => RealsSurvive member.2 ∧ MembersSurvive rest

end

mutual

/-- A document survives its text exactly when it is not nested too deep and its numbers do. -/
theorem rereadWithin_eq_self_iff : ∀ (room : Nat) (document : Document),
    rereadWithin room document = some document ↔ depth document ≤ room ∧ RealsSurvive document
  | _, null => by simp [rereadWithin, depth, RealsSurvive]
  | _, bool _ => by simp [rereadWithin, depth, RealsSurvive]
  | _, integer _ => by simp [rereadWithin, depth, RealsSurvive]
  | _, real _ => by simp [rereadWithin, depth, RealsSurvive]
  | _, string _ => by simp [rereadWithin, depth, RealsSurvive]
  | 0, array _ => by simp [rereadWithin, depth]
  | room + 1, array items => by
    simp [rereadWithin, depth, RealsSurvive, rereadItems_eq_self_iff room items]
  | 0, object _ => by simp [rereadWithin, depth]
  | room + 1, object members => by
    simp [rereadWithin, depth, RealsSurvive, rereadMembers_eq_self_iff room members]

/-- Items survive their text exactly when none is nested too deep and their numbers do. -/
theorem rereadItems_eq_self_iff : ∀ (room : Nat) (items : List Document),
    rereadItems room items = some items ↔ itemsDepth items ≤ room ∧ ItemsSurvive items
  | _, [] => by simp [rereadItems, itemsDepth, ItemsSurvive]
  | room, item :: rest => by
    have first := rereadWithin_eq_self_iff room item
    have later := rereadItems_eq_self_iff room rest
    simp only [rereadItems, itemsDepth, ItemsSurvive, Option.bind_eq_some_iff,
      Option.map_eq_some_iff, List.cons.injEq]
    constructor
    · rintro ⟨_, itemRead, _, restRead, rfl, rfl⟩
      have itemSurvives := first.1 itemRead
      have restSurvives := later.1 restRead
      exact ⟨Nat.max_le.2 ⟨itemSurvives.1, restSurvives.1⟩, itemSurvives.2, restSurvives.2⟩
    · rintro ⟨shallow, itemSurvives, restSurvives⟩
      have bounds := Nat.max_le.1 shallow
      exact ⟨item, first.2 ⟨bounds.1, itemSurvives⟩, rest, later.2 ⟨bounds.2, restSurvives⟩,
        rfl, rfl⟩

/-- Members survive their text exactly when none is nested too deep and their numbers do. -/
theorem rereadMembers_eq_self_iff : ∀ (room : Nat) (members : List (String × Document)),
    rereadMembers room members = some members ↔
      membersDepth members ≤ room ∧ MembersSurvive members
  | _, [] => by simp [rereadMembers, membersDepth, MembersSurvive]
  | room, (name, value) :: rest => by
    have first := rereadWithin_eq_self_iff room value
    have later := rereadMembers_eq_self_iff room rest
    simp only [rereadMembers, membersDepth, MembersSurvive, Option.bind_eq_some_iff,
      Option.map_eq_some_iff, List.cons.injEq, Prod.mk.injEq]
    constructor
    · rintro ⟨_, valueRead, _, restRead, ⟨-, rfl⟩, rfl⟩
      have valueSurvives := first.1 valueRead
      have restSurvives := later.1 restRead
      exact ⟨Nat.max_le.2 ⟨valueSurvives.1, restSurvives.1⟩, valueSurvives.2, restSurvives.2⟩
    · rintro ⟨shallow, valueSurvives, restSurvives⟩
      have bounds := Nat.max_le.1 shallow
      exact ⟨value, first.2 ⟨bounds.1, valueSurvives⟩, rest, later.2 ⟨bounds.2, restSurvives⟩,
        ⟨trivial, rfl⟩, rfl⟩

end

/-- A document survives its text exactly when it nests at most 127 containers and its binary
numbers survive theirs. -/
theorem reread?_eq_self_iff (document : Document) :
    document.reread? = some document ↔ document.depth ≤ depthLimit ∧ document.RealsSurvive :=
  rereadWithin_eq_self_iff depthLimit document

/-- The tokens behind the first of a document's tokens are read by the machine as it stands. -/
theorem ofTokensFrom_cons {expected next : Expected} {token : Token} {stack inner : List Frame}
    (advances : advance expected token stack = some (next, inner)) (rest : List Token) :
    ofTokensFrom expected stack (token :: rest) = ofTokensFrom next inner rest := by
  rw [ofTokensFrom, advances]

/-- A token that the machine refuses leaves no document. -/
theorem ofTokensFrom_refused {expected : Expected} {token : Token} {stack : List Frame}
    (refused : advance expected token stack = none) (rest : List Token) :
    ofTokensFrom expected stack (token :: rest) = none := by
  rw [ofTokensFrom, refused]

/-- A value is due, be it the first item of an array or any other. -/
def Expected.IsValue (expected : Expected) : Prop := expected = .value ∨ expected = .firstItem

/-- A token that completes a value where one is due. -/
theorem ofTokensFrom_leaf {expected : Expected} (due : expected.IsValue) {token : Token}
    {stack : List Frame} {read : Option Document}
    (begins : beginValue token stack = read.map fun value => (.after value, stack))
    (noEnd : token ≠ .endArray) (rest : List Token) :
    ofTokensFrom expected stack (token :: rest) =
      read.bind fun value => ofTokensFrom (.after value) stack rest := by
  have advances : advance expected token stack = beginValue token stack := by
    rcases due with rfl | rfl
    · rfl
    · unfold advance
      split <;> simp_all
  cases read with
  | none => exact ofTokensFrom_refused (advances.trans begins) rest
  | some value => exact ofTokensFrom_cons (advances.trans begins) rest

/-- A token that opens a container where a value is due. -/
theorem ofTokensFrom_open {expected : Expected} (due : expected.IsValue) {token : Token}
    {stack : List Frame} (noEnd : token ≠ .endArray) (rest : List Token) :
    ofTokensFrom expected stack (token :: rest) = ofTokensFrom .value stack (token :: rest) := by
  have advances : advance expected token stack = advance .value token stack := by
    rcases due with rfl | rfl
    · rfl
    · unfold advance
      split <;> simp_all
  rw [ofTokensFrom, ofTokensFrom, advances]

mutual

/-- Where a value is due, the tokens of a document are read as the document that its text is read
back as, and the machine goes on behind it. -/
theorem ofTokensFrom_tokens : ∀ (document : Document) {expected : Expected} {room : Nat}
    (stack : List Frame) (rest : List Token), document.WellFormed → expected.IsValue →
    stack.length + room = depthLimit →
    ofTokensFrom expected stack (tokens document ++ rest) =
      (rereadWithin room document).bind fun read => ofTokensFrom (.after read) stack rest
  | null, _, _, _, rest, _, due, _ => by
    rw [rereadWithin]
    exact ofTokensFrom_leaf due rfl (by simp) rest
  | bool value, _, _, _, rest, _, due, _ => by
    rw [rereadWithin]
    exact ofTokensFrom_leaf due rfl (by simp) rest
  | integer value, _, _, stack, rest, formed, due, _ => by
    have begins : beginValue (.number (.ofInteger value)) stack =
        some (.after (integer value), stack) := by
      rw [beginValue, Numeral.value?_ofInteger formed.1 formed.2]
      rfl
    rw [rereadWithin]
    exact ofTokensFrom_leaf due begins (by simp) rest
  | real value, _, _, stack, rest, _, due, _ => by
    have begins : beginValue (.number value.numeral) stack =
        (value.reread?.map real).map fun read => (.after read, stack) := by
      rw [beginValue, Binary64.value?_numeral]
    rw [rereadWithin]
    exact ofTokensFrom_leaf due begins (by simp) rest
  | string value, _, _, _, rest, _, due, _ => by
    rw [rereadWithin]
    exact ofTokensFrom_leaf due rfl (by simp) rest
  | array items, expected, room, stack, rest, formed, due, depth => by
    rw [tokens, List.cons_append, List.append_assoc,
      ofTokensFrom_open due (by simp)]
    cases room with
    | zero =>
      have full : ¬ stack.length < depthLimit := by omega
      exact ofTokensFrom_refused (by simp [advance, beginValue, full]) _
    | succ room =>
      have open_ : advance .value .beginArray stack = some (.firstItem, .array [] :: stack) := by
        simp [advance, beginValue, show stack.length < depthLimit by omega]
      have deeper : stack.length + 1 + room = depthLimit := by omega
      rw [ofTokensFrom_cons open_, rereadWithin, List.singleton_append,
        ofTokensFrom_itemTokens items rest formed deeper]
      cases rereadItems room items <;> rfl
  | object members, expected, room, stack, rest, formed, due, depth => by
    rw [tokens, List.cons_append, List.append_assoc,
      ofTokensFrom_open due (by simp)]
    cases room with
    | zero =>
      have full : ¬ stack.length < depthLimit := by omega
      exact ofTokensFrom_refused (by simp [advance, beginValue, full]) _
    | succ room =>
      have open_ : advance .value .beginObject stack =
          some (.firstName, .object [] "" :: stack) := by
        simp [advance, beginValue, show stack.length < depthLimit by omega]
      have deeper : stack.length + 1 + room = depthLimit := by omega
      rw [ofTokensFrom_cons open_, rereadWithin, List.singleton_append,
        ofTokensFrom_memberTokens members rest formed.1 formed.2 deeper]
      cases rereadMembers room members <;> rfl

/-- The items of an array just begun are read up to its end. -/
theorem ofTokensFrom_itemTokens : ∀ (items : List Document) {room : Nat} {stack : List Frame}
    (rest : List Token), ItemsWellFormed items →
    stack.length + 1 + room = depthLimit →
    ofTokensFrom .firstItem (.array [] :: stack) (itemTokens items ++ .endArray :: rest) =
      (rereadItems room items).bind fun read => ofTokensFrom (.after (array read)) stack rest
  | [], _, _, _, _, _ => rfl
  | item :: later, room, stack, rest, formed, depth => by
    rw [itemTokens, List.append_assoc,
      ofTokensFrom_tokens item (.array [] :: stack) _ formed.1 (.inr rfl) depth,
      rereadItems]
    cases rereadWithin room item with
    | none => rfl
    | some read =>
      simp only [Option.bind_some]
      rw [ofTokensFrom_laterItemTokens later rest formed.2 depth]
      cases rereadItems room later <;> simp

/-- The items behind a finished one are read up to the end of their array. -/
theorem ofTokensFrom_laterItemTokens : ∀ (items : List Document) {room : Nat}
    {stack : List Frame} {before : List Document} {value : Document} (rest : List Token),
    ItemsWellFormed items → stack.length + 1 + room = depthLimit →
    ofTokensFrom (.after value) (.array before :: stack)
        (laterItemTokens items ++ .endArray :: rest) =
      (rereadItems room items).bind fun read =>
        ofTokensFrom (.after (array ((value :: before).reverse ++ read))) stack rest
  | [], _, _, before, value, _, _, _ => by
    simp [laterItemTokens, ofTokensFrom, advance, continueAfter, rereadItems]
  | item :: later, room, stack, before, value, rest, formed, depth => by
    have comma : advance (.after value) .comma (.array before :: stack) =
        some (.value, .array (value :: before) :: stack) := rfl
    rw [laterItemTokens, List.cons_append, ofTokensFrom_cons comma, List.append_assoc,
      ofTokensFrom_tokens item (.array (value :: before) :: stack) _ formed.1 (.inl rfl)
        depth, rereadItems]
    cases rereadWithin room item with
    | none => rfl
    | some read =>
      simp only [Option.bind_some]
      rw [ofTokensFrom_laterItemTokens later rest formed.2 depth]
      cases rereadItems room later <;> simp

/-- The members of an object just begun are read up to its end. -/
theorem ofTokensFrom_memberTokens : ∀ (members : List (String × Document)) {room : Nat}
    {stack : List Frame} (rest : List Token), (members.map Prod.fst).Pairwise (· < ·) →
    MembersWellFormed members → stack.length + 1 + room = depthLimit →
    ofTokensFrom .firstName (.object [] "" :: stack)
        (memberTokens members ++ .endObject :: rest) =
      (rereadMembers room members).bind fun read =>
        ofTokensFrom (.after (object read)) stack rest
  | [], _, _, _, _, _, _ => rfl
  | (name, value) :: later, room, stack, rest, ordered, formed, depth => by
    have named : advance .firstName (.string (some name)) (.object [] "" :: stack) =
        some (.colon, .object [] name :: stack) := rfl
    have colon : advance .colon .colon (.object [] name :: stack) =
        some (.value, .object [] name :: stack) := rfl
    rw [memberTokens, List.cons_append, List.cons_append, ofTokensFrom_cons named,
      ofTokensFrom_cons colon, List.append_assoc,
      ofTokensFrom_tokens value (.object [] name :: stack) _ formed.1 (.inl rfl) depth,
      rereadMembers]
    cases rereadWithin room value with
    | none => rfl
    | some read =>
      simp only [Option.bind_some]
      rw [ofTokensFrom_laterMemberTokens later rest (by simpa using ordered) formed.2 depth]
      cases rereadMembers room later <;> simp

/-- The members behind a finished one are read up to the end of their object. -/
theorem ofTokensFrom_laterMemberTokens : ∀ (members : List (String × Document)) {room : Nat}
    {stack : List Frame} {before : List (String × Document)} {name : String} {value : Document}
    (rest : List Token),
    (before.map Prod.fst ++ name :: members.map Prod.fst).Pairwise (· < ·) →
    MembersWellFormed members → stack.length + 1 + room = depthLimit →
    ofTokensFrom (.after value) (.object before name :: stack)
        (laterMemberTokens members ++ .endObject :: rest) =
      (rereadMembers room members).bind fun read =>
        ofTokensFrom (.after (object (before ++ (name, value) :: read))) stack rest
  | [], _, _, before, name, value, _, ordered, _, _ => by
    have behind : ∀ other ∈ before, other.1 < name := fun other inside =>
      (List.pairwise_append.1 ordered).2.2 other.1 (List.mem_map_of_mem inside) name
        List.mem_cons_self
    simp [laterMemberTokens, ofTokensFrom, advance, continueAfter, rereadMembers,
      insertByName_append behind]
  | (next, item) :: later, room, stack, before, name, value, rest, ordered, formed, depth => by
    have behind : ∀ other ∈ before, other.1 < name := fun other inside =>
      (List.pairwise_append.1 ordered).2.2 other.1 (List.mem_map_of_mem inside) name
        List.mem_cons_self
    have comma : advance (.after value) .comma (.object before name :: stack) =
        some (.name, .object (before ++ [(name, value)]) name :: stack) := by
      simp [advance, continueAfter, insertByName_append behind]
    have named : advance .name (.string (some next))
        (.object (before ++ [(name, value)]) name :: stack) =
        some (.colon, .object (before ++ [(name, value)]) next :: stack) := rfl
    have colon : advance .colon .colon (.object (before ++ [(name, value)]) next :: stack) =
        some (.value, .object (before ++ [(name, value)]) next :: stack) := rfl
    rw [laterMemberTokens, List.cons_append, List.cons_append, List.cons_append,
      ofTokensFrom_cons comma, ofTokensFrom_cons named, ofTokensFrom_cons colon,
      List.append_assoc,
      ofTokensFrom_tokens item (.object (before ++ [(name, value)]) next :: stack) _
        formed.1 (.inl rfl) depth, rereadMembers]
    cases rereadWithin room item with
    | none => rfl
    | some read =>
      simp only [Option.bind_some]
      rw [ofTokensFrom_laterMemberTokens later rest (by simpa using ordered) formed.2 depth]
      cases rereadMembers room later <;> simp

end

/-- The text of a document is read as the document that it is read back as. -/
theorem read?_print {document : Document} (formed : document.WellFormed) :
    read? document.print = document.reread? := by
  have tokens := ofTokensFrom_tokens document [] [] formed
    (.inl rfl) (Nat.zero_add _)
  rw [List.append_nil] at tokens
  rw [read?, scan_print, ofTokens?, tokens, reread?]
  cases rereadWithin depthLimit document <;> rfl

end FailOpenCache.Document
