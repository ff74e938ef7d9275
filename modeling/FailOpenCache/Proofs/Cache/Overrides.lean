import FailOpenCache.Libraries.Plain
import FailOpenCache.Proofs.Cache.Commands
import FailOpenCache.Proofs.Lifetimes

/-!
# Rules given to a session

A session can be given rules at any time, and they count for the writes to come. What is stored
stays as it is, in the backing store as in the process, with the deadlines that it was written with.
And since a read does not look at the rules, what was stored before is read at every later instant
as if no rule had been given.
-/

namespace FailOpenCache

variable {σ α β : Type}

namespace Connection

/-- The connection under other rules. -/
def underRules (connection : Connection σ) (rules : LifetimeRules) : Connection σ :=
  { connection with cache := { connection.cache with rules := rules } }

/-- The operation does not look at the rules: under others it answers the same, and leaves the
same. -/
def Ruleless (operation : StateM (Connection σ) α) : Prop :=
  ∀ connection rules, operation (connection.underRules rules) =
    ((operation connection).1, (operation connection).2.underRules rules)

/-- An answer alone. -/
theorem ruleless_pure (answer : α) : Ruleless (pure answer : StateM (Connection σ) α) :=
  fun _ _ => rfl

/-- Two steps. -/
theorem ruleless_bind {first : StateM (Connection σ) α} {later : α → StateM (Connection σ) β}
    (early : Ruleless first) (late : ∀ answer, Ruleless (later answer)) :
    Ruleless (first >>= later) := by
  intro connection rules
  rw [bind_apply, early connection rules]
  exact late _ _ rules

/-- A choice between operations. -/
theorem ruleless_ite {condition : Prop} [Decidable condition]
    {first later : StateM (Connection σ) α} (early : Ruleless first) (late : Ruleless later) :
    Ruleless (if condition then first else later) := by
  split
  · exact early
  · exact late

/-- The count of an event. -/
theorem ruleless_count (event : Event) : Ruleless (count event : StateM (Connection σ) Unit) :=
  fun _ _ => rfl

/-- An operation that is served in the process. -/
theorem ruleless_serve (operation : Millis → FallbackStore → α × FallbackStore) :
    Ruleless (serve operation : StateM (Connection σ) α) :=
  fun _ _ => rfl

/-- Settling what a read found. -/
theorem ruleless_settle (found : Option String) :
    Ruleless (settle found : StateM (Connection σ) (Option Document)) := by
  cases found with
  | none => exact ruleless_bind (ruleless_count _) fun _ => ruleless_pure _
  | some payload =>
    rw [settle]
    cases Payload.decode payload with
    | ok document => exact ruleless_bind (ruleless_count _) fun _ => ruleless_pure _
    | error fault =>
      exact ruleless_bind (ruleless_count _) fun _ =>
        ruleless_bind (ruleless_count _) fun _ => ruleless_pure _

variable [BackingStore σ]

/-- A look at the declarations. -/
theorem ruleless_declares (group : OperationGroup) :
    Ruleless (declares group : StateM (Connection σ) Bool) :=
  fun _ _ => rfl

/-- A request. -/
theorem ruleless_ask (asked : Request) :
    Ruleless (ask asked : StateM (Connection σ) (Option asked.Reply)) := by
  intro connection rules
  cases answered : (BackingStore.answer asked connection.now connection.store).1 with
  | ok reply =>
    have under : (BackingStore.answer asked (connection.underRules rules).now
        (connection.underRules rules).store).1 = .ok reply := answered
    rw [ask_ok answered, ask_ok under]
    rfl
  | error error =>
    have under : (BackingStore.answer asked (connection.underRules rules).now
        (connection.underRules rules).store).1 = .error error := answered
    rw [ask_error answered, ask_error under]
    rfl

/-- An operation that is asked of the store, or served in the process. -/
theorem ruleless_either {group : OperationGroup} {asked served : StateM (Connection σ) α}
    (asks : Ruleless asked) (serves : Ruleless served) :
    Ruleless (do if ← declares group then asked else served) :=
  ruleless_bind (ruleless_declares group) fun _ => ruleless_ite asks serves

/-- A read. -/
theorem ruleless_get (key : String) :
    Ruleless (Connection.get key : StateM (Connection σ) (Option Document)) := by
  refine ruleless_bind (ruleless_either (ruleless_ask _)
    (ruleless_bind (ruleless_serve _) fun _ => ruleless_pure _)) fun found => ?_
  cases found with
  | none => exact ruleless_pure _
  | some found => exact ruleless_settle found

/-- A probe. -/
theorem ruleless_probe (key : String) : Ruleless (probe key : StateM (Connection σ) Bool) :=
  ruleless_either (ruleless_bind (ruleless_ask _) fun _ => ruleless_pure _) (ruleless_serve _)

/-- A read of several values. -/
theorem ruleless_getMany (keys : List String) :
    Ruleless (getMany keys : StateM (Connection σ) (Table (Option Document))) := by
  have each : ∀ keys, Ruleless (readEach keys : StateM (Connection σ) _) := by
    intro keys
    induction keys with
    | nil => exact ruleless_pure _
    | cons key rest ih =>
      exact ruleless_bind (ruleless_ask _) fun _ => ruleless_bind ih fun _ => ruleless_pure _
  have settles : ∀ found answers, Ruleless (settleAll answers found : StateM (Connection σ) _) := by
    intro found
    induction found with
    | nil => exact fun answers => ruleless_pure _
    | cons first rest ih =>
      exact fun answers => ruleless_bind (ruleless_settle _) fun _ => ih _
  refine ruleless_bind ?_ fun found => ?_
  · exact ruleless_bind (ruleless_declares _) fun _ => ruleless_ite
      (ruleless_bind (ruleless_serve _) fun _ => ruleless_pure _)
      (ruleless_either (ruleless_ask _) (ruleless_bind (each keys) fun _ => ruleless_pure _))
  · cases found with
    | none => exact ruleless_pure _
    | some found => exact settles _ _

end Connection

namespace CacheCommand

/-- The operation reads what is stored under keys, and no more. -/
def OnlyReads : CacheCommand → Prop
  | get _ | getAs _ _ | getMany _ | probe _ => True
  | _ => False

/-- A read does not look at the rules. -/
theorem ruleless_act [Libraries] [BackingStore σ] {command : CacheCommand}
    (reads : command.OnlyReads) :
    Connection.Ruleless (fun connection : Connection σ => command.act connection) := by
  cases command with
  | get key => exact Connection.ruleless_get key
  | getAs α key =>
    exact Connection.ruleless_bind (Connection.ruleless_get key) fun _ => Connection.ruleless_pure _
  | getMany keys => exact Connection.ruleless_getMany keys
  | probe key => exact Connection.ruleless_probe key
  | _ => exact reads.elim

end CacheCommand

namespace Session

/-- Give stems lifetimes, one after the other. -/
def overrideAll (session : Session σ) (given : List (String × Seconds)) : Session σ :=
  given.foldl (fun left rule => left.override rule.1 rule.2) session

/-- Rules given to a session change its rules alone. -/
theorem overrideAll_eq (session : Session σ) (given : List (String × Seconds)) :
    session.overrideAll given =
      { session with
        cache := { session.cache with rules := session.cache.rules.overrideAll given } } := by
  induction given generalizing session with
  | nil => rfl
  | cons rule rest ih => exact ih (session.override rule.1 rule.2)

/-- What a session has stored is the same as before, and is read alike at every later instant. -/
structure KeepsStored [Libraries] [BackingStore σ] (before after : Session σ) : Prop where
  /-- The backing store holds the same, with the same deadlines. -/
  link : after.link = before.link
  /-- The process holds the same, with the same deadlines. -/
  fallback : after.cache.fallback = before.cache.fallback
  /-- Whenever something is read, the answer is the same. -/
  reads : ∀ command : CacheCommand, command.OnlyReads → ∀ span,
    (command.run (after.advance span)).1 = (command.run (before.advance span)).1

/-- Rules given to a session leave alone what it has stored. -/
theorem keepsStored_overrideAll [Libraries] [BackingStore σ] (session : Session σ)
    (given : List (String × Seconds)) : session.KeepsStored (session.overrideAll given) := by
  rw [overrideAll_eq]
  refine ⟨rfl, rfl, fun command reads span => ?_⟩
  obtain ⟨cache, link, now⟩ := session
  cases link with
  | connected store =>
    have ruleless := CacheCommand.ruleless_act reads
      ⟨cache, store, advanceClock now span⟩ (cache.rules.overrideAll given)
    have answers := congrArg Prod.fst ruleless
    have other := CacheCommand.run_session command
      (Connection.underRules ⟨cache, store, advanceClock now span⟩ (cache.rules.overrideAll given))
    have same := CacheCommand.run_session command ⟨cache, store, advanceClock now span⟩
    exact (congrArg Prod.fst other).trans (answers.trans (congrArg Prod.fst same).symm)
  | idle last =>
    cases command with
    | get key | getAs α key | getMany keys | probe key => rfl
    | _ => exact reads.elim
  | failed last =>
    cases command with
    | get key | getAs α key | getMany keys | probe key => rfl
    | _ => exact reads.elim

end Session

namespace LifetimeRules

/-- However rules are given, at the beginning and one after the other, each stem stands once, where
it was first given, with the lifetime given for it last, and the first stem that a key starts with
decides on its lifetime unless one is stated. One more rule counts for the keys that start with its
stem and with no other stem given before it, and giving it once more changes nothing. A session that
is given rules keeps what it has stored as it was. -/
theorem overrideAll_firstMatch [Libraries] {σ : Type} [BackingStore σ] (default : Seconds)
    (initial later : List (String × Seconds)) :
    FirstMatch default (initial ++ later) ((ofList default initial).overrideAll later) ∧
      (∀ stem lifetime,
        let rules := (ofList default initial).overrideAll later
        let further := rules.override stem lifetime
        (∀ key, ¬ stem.toList <+: key.toList ∨ Shadowed (initial ++ later) stem key →
          further.resolve key none = rules.resolve key none) ∧
        (∀ key, stem.toList <+: key.toList → ¬ Shadowed (initial ++ later) stem key →
          further.resolve key none = lifetime) ∧
        further.override stem lifetime = further) ∧
      ∀ session : Session σ,
        (session.overrideAll later).cache.rules = session.cache.rules.overrideAll later ∧
          session.KeepsStored (session.overrideAll later) := by
  rw [overrideAll_ofList]
  refine ⟨firstMatch_ofList default _, fun stem lifetime => ⟨fun key passed => ?_, ?_, ?_⟩,
    fun session => ⟨?_, session.keepsStored_overrideAll later⟩⟩
  · rcases passed with apart | shadowed
    · exact resolve_override_of_apart lifetime default apart
    · exact resolve_override_of_shadowed lifetime default shadowed
  · exact fun key starts clear => resolve_override_of_starts lifetime default starts clear
  · exact override_override _ stem lifetime
  · rw [Session.overrideAll_eq]

/-- Stems that overlap, some of them given twice, and the empty one. -/
def overlapping : List (String × Seconds) :=
  [("posts", 10), ("posts:list", 20), ("posts", 30), ("", 5), ("posts:list", 40)]

open scoped Libraries.Plain

/-- A value that was written under a rule of two seconds for its stem. -/
def writtenUnderRule : Session MemoryStore :=
  ((CacheCommand.set "posts:1" (Document.integer 1) none).run
    ((Connection.opened .standard (MemoryStore.ofCapacity 9) 0).session.override "posts" 2)).2

/-- Overlapping stems keep their places: a rule for lists of posts does not count for a key that
starts with the stem of posts, one for a new stem not behind the empty stem, and one for posts does.
A value stays until the deadline that it was written with, whatever rules follow. -/
theorem overrideAll_firstMatch_overlapping :
    let given := overlapping.take 3 ++ overlapping.drop 3
    let rules := (ofList 300 (overlapping.take 3)).overrideAll (overlapping.drop 3)
    let later := writtenUnderRule.overrideAll (overlapping.drop 3)
    (rules.overrides.names = ["posts", "posts:list", ""] ∧
        rules.overrides.find? "posts" = some 30 ∧ rules.resolve "posts:list:1" none = 30) ∧
      (Shadowed given "posts:list" "posts:list:1" ∧
        (rules.override "posts:list" 7).resolve "posts:list:1" none =
          rules.resolve "posts:list:1" none) ∧
      (Shadowed given "feed" "feed:1" ∧
        (rules.override "feed" 7).resolve "feed:1" none = rules.resolve "feed:1" none) ∧
      ("posts".toList <+: "posts:list:1".toList ∧ ¬ Shadowed given "posts" "posts:list:1" ∧
        (rules.override "posts" 7).resolve "posts:list:1" none = 7) ∧
      (Session.probe "posts:1" (later.advance 1999)).1 = true ∧
      (Session.probe "posts:1" (later.advance 2000)).1 = false := by
  obtain ⟨told, further, keeps⟩ :=
    overrideAll_firstMatch (σ := MemoryStore) 300 (overlapping.take 3) (overlapping.drop 3)
  have kept : ∀ span,
      (Session.probe "posts:1"
        ((writtenUnderRule.overrideAll (overlapping.drop 3)).advance span)).1 =
          (Session.probe "posts:1" (writtenUnderRule.advance span)).1 :=
    (keeps writtenUnderRule).2.reads (.probe "posts:1") trivial
  have lists : Shadowed (overlapping.take 3 ++ overlapping.drop 3) "posts:list" "posts:list:1" := by
    decide
  have feeds : Shadowed (overlapping.take 3 ++ overlapping.drop 3) "feed" "feed:1" := by decide
  have starts : "posts".toList <+: "posts:list:1".toList := by decide
  have clear : ¬ Shadowed (overlapping.take 3 ++ overlapping.drop 3) "posts" "posts:list:1" := by
    decide
  refine ⟨⟨told.stems.trans (by decide), (told.lifetimes _).trans (by decide),
      (told.unstated _).trans (by decide)⟩,
    ⟨lists, (further _ 7).1 _ (.inr lists)⟩, ⟨feeds, (further _ 7).1 _ (.inr feeds)⟩,
    ⟨starts, clear, (further _ 7).2.1 _ starts clear⟩,
    (kept 1999).trans (by decide +kernel), (kept 2000).trans (by decide +kernel)⟩

end LifetimeRules

end FailOpenCache
