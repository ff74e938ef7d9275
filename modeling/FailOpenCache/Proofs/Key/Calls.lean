import FailOpenCache.Key
import FailOpenCache.Proofs.Document.Arrangement
import FailOpenCache.Proofs.Document.Distinct
import FailOpenCache.Proofs.Payload

/-!
# Keys of calls

A key of a call tells the call apart from every other: its stem, the documents at its positions,
and the document under each name. What takes no part in a key changes none, nor does the order of
keywords or of the members of an object at any depth. The only exception are two calls whose
canonical texts have one digest. The keys of a handler also tell the subjects apart, whatever the
digests are: a digest has a fixed length, so what stands in front of it is found from behind.
-/

namespace FailOpenCache

/-- Two different messages have one digest. -/
def Sha256.Collide (message other : List UInt8) : Prop :=
  message ≠ other ∧ digest message = digest other

namespace Key

/-- The bytes that the digest of a document is taken of: those of its canonical text. -/
def canonicalBytes (document : Document) : List UInt8 := Payload.textBytes document.text

/-- Different documents have different canonical bytes. -/
theorem canonicalBytes_injective : Function.Injective canonicalBytes := by
  intro document other same
  have texts : document.text = other.text := by
    have read := congrArg Payload.ofBytes? same
    rw [canonicalBytes, canonicalBytes, Payload.ofBytes?_textBytes,
      Payload.ofBytes?_textBytes] at read
    exact Option.some.inj read
  exact Document.print_injective (String.ofList_injective texts)

/-- The digests of two documents are the same when the documents are, or their canonical bytes
collide. -/
theorem digest_eq_iff (document other : Document) :
    digest document = digest other ↔
      document = other ∨ Sha256.Collide (canonicalBytes document) (canonicalBytes other) := by
  constructor
  · intro same
    by_cases equal : document = other
    · exact .inl equal
    · exact .inr ⟨fun bytes => equal (canonicalBytes_injective bytes),
        String.ofList_injective same⟩
  · rintro (rfl | ⟨-, same⟩)
    · rfl
    · exact congrArg String.ofList same

/-- A digest has 64 characters. -/
theorem length_toList_digest (document : Document) : (digest document).toList.length = 64 := by
  rw [digest, String.toList_ofList, Sha256.length_digest]

/-- Two texts that end with a digest are the same when their digests and what stands in front of
them are. -/
theorem append_digest_eq_iff (front front' : String) (document other : Document) :
    front ++ digest document = front' ++ digest other ↔
      front = front' ∧ digest document = digest other := by
  constructor
  · intro same
    have characters := congrArg String.toList same
    rw [String.toList_append, String.toList_append] at characters
    have lengths : (digest document).toList.length = (digest other).toList.length := by
      rw [length_toList_digest, length_toList_digest]
    obtain ⟨fronts, digests⟩ := List.append_inj' characters lengths
    exact ⟨String.toList_injective fronts, String.toList_injective digests⟩
  · rintro ⟨rfl, same⟩
    rw [same]

/-- An argument whose document has the members of its objects in order. -/
def Argument.arranged : Argument → Argument
  | value document => value document.arranged
  | handle => handle

/-- Keyword arguments whose documents have the members of their objects in order. -/
def arrangeKeywords (keywords : List (String × Argument)) : List (String × Argument) :=
  keywords.map fun keyword => (keyword.1, keyword.2.arranged)

/-- A keyword takes part in a key: its name is neither private nor excluded, and it is no
handle. -/
def counts (excluded : List String) (keyword : String × Argument) : Bool :=
  !isPrivate keyword.1 && !excluded.contains keyword.1 && keyword.2.document?.isSome

/-- The document that keyword arguments state under a name: of several that take part in the key
the last one. -/
def keywordAt? (excluded : List String) (keywords : List (String × Argument)) (name : String) :
    Option Document :=
  (lastUnder? (keywords.filter (counts excluded)) name).bind Argument.document?

/-- Two lists of keyword arguments state the same mapping, apart from what takes no part in a
key. -/
def SameKeywords (excluded : List String) (keywords keywords' : List (String × Argument)) : Prop :=
  ∀ name, Option.Rel Document.Alike (keywordAt? excluded keywords name)
    (keywordAt? excluded keywords' name)

/-- Two calls are the same, apart from what takes no part in a key: their documents at each
position and under each name mean the same. -/
structure SameCall (arguments : List Argument) (keywords : List (String × Argument))
    (arguments' : List Argument) (keywords' : List (String × Argument)) : Prop where
  /-- The documents at their positions. -/
  positional : List.Forall₂ Document.Alike (arguments.filterMap Argument.document?)
    (arguments'.filterMap Argument.document?)
  /-- The documents under their names. -/
  named : SameKeywords [] keywords keywords'

/-- The members that keyword arguments give to an object, in the order in which they are given. -/
def statedMembers (excluded : List String) (keywords : List (String × Argument)) :
    List (String × Document) :=
  keywords.filterMap fun keyword =>
    if isPrivate keyword.1 || excluded.contains keyword.1 then none
    else keyword.2.document?.map fun document => (keyword.1, document)

/-- Stated members are members once they are sorted. -/
theorem sortByName_statedMembers (excluded : List String) (keywords : List (String × Argument)) :
    sortByName (statedMembers excluded keywords) = keywordMembers excluded keywords := rfl

/-- A later keyword under the name counts before the earlier ones. -/
theorem keywordAt?_append_singleton (excluded : List String) (keywords : List (String × Argument))
    (keyword : String × Argument) (name : String) :
    keywordAt? excluded (keywords ++ [keyword]) name =
      if counts excluded keyword = true ∧ name = keyword.1 then keyword.2.document?
      else keywordAt? excluded keywords name := by
  obtain ⟨held, argument⟩ := keyword
  rw [keywordAt?, keywordAt?, List.filter_append]
  by_cases counted : counts excluded (held, argument) = true
  · rw [List.filter_cons_of_pos counted, List.filter_nil, lastUnder?_append_singleton]
    by_cases same : name = held
    · rw [if_pos same, if_pos ⟨counted, same⟩, Option.bind_some]
    · rw [if_neg same, if_neg fun taken => same taken.2]
  · rw [List.filter_cons_of_neg counted, List.filter_nil, List.append_nil,
      if_neg fun taken => counted taken.1]

/-- What counts among stated members is the last document under the name. -/
theorem lastUnder?_statedMembers (excluded : List String) (keywords : List (String × Argument))
    (name : String) : lastUnder? (statedMembers excluded keywords) name =
      keywordAt? excluded keywords name := by
  induction keywords using List.reverseRecOn with
  | nil => rfl
  | append_singleton earlier keyword ih =>
    obtain ⟨held, argument⟩ := keyword
    rw [keywordAt?_append_singleton, ← ih]
    have stated : statedMembers excluded (earlier ++ [(held, argument)]) =
        statedMembers excluded earlier ++ statedMembers excluded [(held, argument)] :=
      List.filterMap_append
    rw [stated]
    cases argument with
    | handle => simp [statedMembers, counts, Argument.document?]
    | value document =>
      by_cases dropped : isPrivate held = true ∨ held ∈ excluded
      · have none : statedMembers excluded [(held, .value document)] = [] := by
          simp [statedMembers, dropped]
        have uncounted : counts excluded (held, .value document) = false := by
          rcases dropped with hidden | named
          · simp [counts, hidden]
          · simp [counts, named]
        rw [none, List.append_nil, uncounted, if_neg fun taken => Bool.false_ne_true taken.1]
      · have one : statedMembers excluded [(held, .value document)] = [(held, document)] := by
          simp [statedMembers, dropped, Argument.document?]
        have counted : counts excluded (held, .value document) = true := by
          rw [not_or, Bool.not_eq_true] at dropped
          simp [counts, dropped, Argument.document?]
        rw [one, lastUnder?_append_singleton, counted]
        simp only [true_and, Argument.document?]

/-- Arranged keywords state arranged members. -/
theorem statedMembers_arrangeKeywords (excluded : List String)
    (keywords : List (String × Argument)) :
    statedMembers excluded (arrangeKeywords keywords) =
      Document.arrangedMembers (statedMembers excluded keywords) := by
  rw [Document.arrangedMembers_eq_map, statedMembers, statedMembers, arrangeKeywords,
    List.filterMap_map, List.map_filterMap]
  congr 1
  funext keyword
  obtain ⟨name, argument⟩ := keyword
  dsimp only [Function.comp_apply]
  split
  · rfl
  · cases argument <;> rfl

/-- The object of arranged keywords is the arranged object of the stated members. -/
theorem object_keywordMembers (excluded : List String) (keywords : List (String × Argument)) :
    Document.object (keywordMembers excluded (arrangeKeywords keywords)) =
      (Document.object (statedMembers excluded keywords)).arranged := by
  rw [← sortByName_statedMembers, statedMembers_arrangeKeywords, Document.arranged,
    Document.ofMembers]

/-- Two lists of keyword arguments make the same object when they state the same mapping. -/
theorem object_keywordMembers_eq_iff (excluded : List String)
    (keywords keywords' : List (String × Argument)) :
    Document.object (keywordMembers excluded (arrangeKeywords keywords)) =
        Document.object (keywordMembers excluded (arrangeKeywords keywords')) ↔
      SameKeywords excluded keywords keywords' := by
  rw [object_keywordMembers, object_keywordMembers, Document.arranged_eq_iff,
    Document.alike_object_iff]
  simp only [lastUnder?_statedMembers, SameKeywords]

/-- The documents of arranged arguments are the arranged documents of the arguments. -/
theorem filterMap_document?_arranged (arguments : List Argument) :
    (arguments.map Argument.arranged).filterMap Argument.document? =
      (arguments.filterMap Argument.document?).map Document.arranged := by
  induction arguments with
  | nil => rfl
  | cons argument later ih =>
    cases argument with
    | handle => exact ih
    | value document => exact congrArg (document.arranged :: ·) ih

/-- Two calls are described by the same document when they are the same. -/
theorem callDocument_eq_iff (arguments arguments' : List Argument)
    (keywords keywords' : List (String × Argument)) :
    callDocument (arguments.map Argument.arranged) (arrangeKeywords keywords) =
        callDocument (arguments'.map Argument.arranged) (arrangeKeywords keywords') ↔
      SameCall arguments keywords arguments' keywords' := by
  have positional : ((arguments.map Argument.arranged).filterMap Argument.document? =
      (arguments'.map Argument.arranged).filterMap Argument.document?) ↔
      List.Forall₂ Document.Alike (arguments.filterMap Argument.document?)
        (arguments'.filterMap Argument.document?) := by
    rw [filterMap_document?_arranged, filterMap_document?_arranged,
      ← Document.arrangedItems_eq_map, ← Document.arrangedItems_eq_map,
      Document.arrangedItems_eq_iff]
  have named := object_keywordMembers_eq_iff [] keywords keywords'
  rw [Document.object.injEq] at named
  simp only [callDocument, Document.object.injEq, Document.array.injEq, List.cons.injEq,
    Prod.mk.injEq, true_and, and_true]
  rw [positional, named]
  exact ⟨fun same => ⟨same.1, same.2⟩, fun same => ⟨same.positional, same.named⟩⟩

/-- Keywords that count may be given in another order, among others that do not count. -/
theorem sameKeywords_of_perm {excluded : List String}
    {keywords keywords' : List (String × Argument)}
    (permuted : (keywords.filter (counts excluded)).Perm (keywords'.filter (counts excluded)))
    (distinct : ((keywords.filter (counts excluded)).map Prod.fst).Nodup) :
    SameKeywords excluded keywords keywords' := by
  intro name
  rw [keywordAt?, keywordAt?, lastUnder?_perm permuted distinct]
  exact Document.alike_option_refl _

/-- The bytes that the digest of a call is taken of. -/
def callBytes (arguments : List Argument) (keywords : List (String × Argument)) : List UInt8 :=
  canonicalBytes (callDocument (arguments.map Argument.arranged) (arrangeKeywords keywords))

/-- Two calls have the same key exactly when their stems are the same, and either their documents
at each position and under each name mean the same, handles and private names apart, or their
canonical texts differ and have one digest. So a key does not depend on the order of keywords, on
handles and private names wherever they stand, or on the order of members at any depth. -/
theorem ofCall_eq_iff (stem stem' : String) (arguments arguments' : List Argument)
    (keywords keywords' : List (String × Argument)) :
    (ofCall stem (arguments.map Argument.arranged) (arrangeKeywords keywords) =
        ofCall stem' (arguments'.map Argument.arranged) (arrangeKeywords keywords') ↔
      stem = stem' ∧ (SameCall arguments keywords arguments' keywords' ∨
        Sha256.Collide (callBytes arguments keywords) (callBytes arguments' keywords'))) ∧
    (arguments.filterMap Argument.document? = arguments'.filterMap Argument.document? →
      (keywords.filter (counts [])).Perm (keywords'.filter (counts [])) →
      ((keywords.filter (counts [])).map Prod.fst).Nodup →
        ofCall stem (arguments.map Argument.arranged) (arrangeKeywords keywords) =
          ofCall stem (arguments'.map Argument.arranged) (arrangeKeywords keywords')) := by
  constructor
  · rw [ofCall, ofCall, append_digest_eq_iff, digest_eq_iff, callDocument_eq_iff,
      String.append_left_inj]
    rfl
  · intro positional permuted distinct
    have same : SameCall arguments keywords arguments' keywords' := by
      refine ⟨?_, sameKeywords_of_perm permuted distinct⟩
      rw [positional]
      exact List.forall₂_same.mpr fun document _ => .refl document
    rw [ofCall, ofCall, (callDocument_eq_iff arguments arguments' keywords keywords').mpr same]

/-- A call with the members of an object, its keywords and what plays no part arranged anew. -/
theorem ofCall_rearranged :
    ofCall "feed"
        ([.value (.object [("b", .integer 1), ("a", .null)]), .handle].map Argument.arranged)
        (arrangeKeywords [("page", .value (.integer 2)), ("_trace", .value .null)]) =
      ofCall "feed"
        ([.value (.object [("a", .null), ("b", .integer 1)])].map Argument.arranged)
        (arrangeKeywords [("session", .handle), ("page", .value (.integer 2))]) ∧
    ofCall "feed" ([.handle, .value (.integer 1)].map Argument.arranged)
        (arrangeKeywords [("page", .value (.integer 2)), ("order", .value (.string "new"))]) =
      ofCall "feed" ([.value (.integer 1)].map Argument.arranged)
        (arrangeKeywords [("order", .value (.string "new")), ("page", .value (.integer 2))]) := by
  refine ⟨(ofCall_eq_iff _ _ _ _ _ _).1.mpr ⟨rfl, .inl ⟨?_, ?_⟩⟩,
    (ofCall_eq_iff "feed" "feed" _ _ _ _).2 rfl (by decide) (by decide)⟩
  · exact .cons ((Document.arranged_eq_iff _ _).mp (by decide)) .nil
  · exact sameKeywords_of_perm (by decide) (by decide)

/-- One, one point zero and the two zeros are four documents. -/
example : [Document.integer 1, .real ⟨false, 2 ^ 52, 1022, by decide⟩, .real (.zero false),
    .real (.zero true)].Nodup := by decide

namespace EndpointPolicy

/-- The bytes that the digest of a handler's keywords is taken of. -/
def keywordBytes (keywords : List (String × Argument)) : List UInt8 :=
  canonicalBytes (.object (keywordMembers plumbingNames (arrangeKeywords keywords)))

/-- What a policy per subject tells of the subject: nothing when there is none. -/
def subjectMark : Option String → String
  | none => ""
  | some user => "u" ++ user ++ ":"

/-- Different subjects are told differently, and no subject like none. -/
theorem subjectMark_injective : Function.Injective subjectMark := by
  intro user user' same
  cases user <;> cases user' <;> simp_all [subjectMark]

/-- What stands in front of the digest in a key of a handler. -/
def front (policy : EndpointPolicy) (user : Option String) : String :=
  policy.stem ++ ":" ++ if policy.perUser then subjectMark user else ""

/-- A key of a handler is what stands in front of the digest, and the digest. -/
theorem key_eq_append (policy : EndpointPolicy) (user : Option String)
    (keywords : List (String × Argument)) :
    policy.key user keywords =
      policy.front user ++ digest (.object (keywordMembers plumbingNames keywords)) := by
  have marker : ":u" = ":" ++ "u" := rfl
  unfold key front
  cases user with
  | none => simp [subjectMark]
  | some user =>
    cases policy.perUser with
    | false => simp
    | true => simp only [marker, subjectMark, String.append_assoc, if_true]

/-- A policy per subject keeps the keys of different subjects apart, and those without a subject
apart from both, whatever the digests are. For one subject two keys are the same exactly when the
keywords mean the same under each name, handles, private names and plumbing apart, or their
canonical texts differ and have one digest. Under any other policy the subject plays no part. -/
theorem key_isolated (policy : EndpointPolicy) (user user' : Option String)
    (keywords keywords' : List (String × Argument)) :
    (policy.perUser = true → policy.key user keywords = policy.key user' keywords' →
      user = user') ∧
    (policy.key user (arrangeKeywords keywords) = policy.key user (arrangeKeywords keywords') ↔
      SameKeywords plumbingNames keywords keywords' ∨
        Sha256.Collide (keywordBytes keywords) (keywordBytes keywords')) ∧
    (policy.perUser = false → policy.key user keywords = policy.key user' keywords) := by
  refine ⟨?_, ?_, ?_⟩
  · intro perUser same
    rw [key_eq_append, key_eq_append, append_digest_eq_iff, front, front, perUser, if_pos rfl,
      if_pos rfl, String.append_right_inj] at same
    exact subjectMark_injective same.1
  · rw [key_eq_append, key_eq_append, String.append_right_inj, digest_eq_iff,
      object_keywordMembers_eq_iff]
    rfl
  · intro shared
    rw [key_eq_append, key_eq_append, front, front, shared]
    rfl

/-- A subject whose name imitates a key is still told from the subject it names, and one subject's
keywords may be given in another order. -/
theorem key_isolated_imitation :
    let own : EndpointPolicy := ⟨"feed", none, true, []⟩
    let shared : EndpointPolicy := ⟨"feed", none, false, []⟩
    own.key (some "1:u2") [] ≠ own.key (some "1") [] ∧
    own.key (some "1") (arrangeKeywords [("db", .value .null), ("a", .handle)]) =
      own.key (some "1") (arrangeKeywords []) ∧
    shared.key (some "1") [] = shared.key none [] := by
  refine ⟨fun same => ?_, (key_isolated _ _ none _ _).2.1.mpr (.inl ?_),
    (key_isolated _ _ _ _ []).2.2 rfl⟩
  · exact absurd ((key_isolated _ _ _ _ _).1 rfl same) (by decide)
  · exact sameKeywords_of_perm (by decide) (by decide)

end EndpointPolicy

end Key

end FailOpenCache
