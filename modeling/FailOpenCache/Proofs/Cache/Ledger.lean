import FailOpenCache.Cache.Batches
import FailOpenCache.Proofs.Document.Reread
import Mathlib.Algebra.Ring.Nat

/-!
# The ledger of a cache

A ledger is what a cache over a store that loses nothing stands for: under each key nothing, a
document or a counter, with an optional deadline. The operations on it know nothing of payloads,
compression, groups of writes or slots that linger after their deadline.

A read answers a document as it is read back from its canonical text. How documents are read back
is a parameter here, so a ledger can also be asked what readers would get if every document came
back as it was written.
-/

namespace FailOpenCache

/-- What a key of a ledger holds. -/
inductive Holding where
  /-- A document. -/
  | document (document : Document)
  /-- A counter. -/
  | counter (value : Int)

/-- What a key of a ledger holds, and until when. -/
structure LedgerLine where
  /-- The document or the counter. -/
  holding : Holding
  /-- The instant from which the line is gone. -/
  deadline : Option Millis

/-- What the keys of a cache stand for at an instant, with the rules for lifetimes. -/
structure Ledger where
  /-- The line of each key, gone or not. -/
  lines : String → Option LedgerLine
  /-- The rules for lifetimes. -/
  rules : LifetimeRules
  /-- The current instant. -/
  now : Millis

/-- An operation that a ledger keeps account of. -/
inductive LedgerCommand : Type 1 where
  /-- Read the document under a key. -/
  | get (key : String)
  /-- Write a value. -/
  | set {α : Type} [Storable α] (key : String) (value : α) (stated : Option Seconds)
  /-- Write several values. -/
  | setMany {α : Type} [Storable α] (items : List (String × α)) (stated : Option Seconds)
  /-- Delete a key. -/
  | delete (key : String)
  /-- Say whether a key is there. -/
  | probe (key : String)
  /-- Add to a counter. -/
  | increment (key : String) (amount : Int)
  /-- Give a stem a lifetime. -/
  | override (stem : String) (lifetime : Seconds)
  /-- Let time pass. -/
  | advance (span : Millis)

/-- What an operation answers. -/
inductive LedgerAnswer where
  /-- A document, if there is one. -/
  | document (found : Option Document)
  /-- Whether a key is there. -/
  | truth (held : Bool)
  /-- What a counter holds. -/
  | sum (value : Int)
  /-- Nothing. -/
  | done
deriving DecidableEq

namespace LedgerCommand

/-- The keys that an operation reads or writes. -/
def keys : LedgerCommand → List String
  | get key | delete key | probe key | increment key _ => [key]
  | set key _ _ => [key]
  | setMany items _ => items.map Prod.fst
  | override _ _ | advance _ => []

/-- How far an operation moves the clock. -/
def span : LedgerCommand → Millis
  | advance span => span
  | _ => 0

/-- What the operation writes are documents of the one form. -/
def WellFormed : LedgerCommand → Prop
  | set _ value _ => ∀ document ∈ Storable.write? value, document.WellFormed
  | setMany items _ => ∀ item ∈ items, ∀ document ∈ Storable.write? item.2, document.WellFormed
  | _ => True

/-- Run an operation on a session. -/
def run [Libraries] : LedgerCommand → Session MemoryStore → LedgerAnswer × Session MemoryStore
  | get key, session => ((Session.get key session).map LedgerAnswer.document id)
  | set key value stated, session => (.done, (Session.set key value stated session).2)
  | setMany items stated, session => (.done, (Session.setMany items stated session).2)
  | delete key, session => (.done, (Session.delete key session).2)
  | probe key, session => ((Session.probe key session).map LedgerAnswer.truth id)
  | increment key amount, session =>
    ((Session.increment key amount session).map LedgerAnswer.sum id)
  | override stem lifetime, session => (.done, session.override stem lifetime)
  | advance span, session => (.done, session.advance span)

/-- Run operations on a session, one after the other. -/
def runAll [Libraries] :
    List LedgerCommand → Session MemoryStore → List LedgerAnswer × Session MemoryStore
  | [], session => ([], session)
  | command :: rest, session =>
    let (answer, left) := command.run session
    let (later, last) := runAll rest left
    (answer :: later, last)

end LedgerCommand

namespace Ledger

/-- The line of a key, unless it is gone. -/
def find? (ledger : Ledger) (key : String) : Option LedgerLine :=
  (ledger.lines key).filter fun line => !hasPassed line.deadline ledger.now

/-- Put a line under a key. -/
def put (ledger : Ledger) (key : String) (line : LedgerLine) : Ledger :=
  { ledger with lines := fun other => if other = key then some line else ledger.lines other }

/-- Strike the line of a key. -/
def erase (ledger : Ledger) (key : String) : Ledger :=
  { ledger with lines := fun other => if other = key then none else ledger.lines other }

variable {α : Type} [Storable α]

/-- Write a value, if it has a written form. -/
def write (ledger : Ledger) (key : String) (value : α) (stated : Option Seconds) : Ledger :=
  match Storable.write? value with
  | none => ledger
  | some document =>
    ledger.put key
      ⟨.document document, deadlineAfter ledger.now (ledger.rules.resolve key stated)⟩

/-- The line of a counter after an addition, with what the counter holds then. -/
def addition? (held : Option LedgerLine) (amount : Int) : Option (Int × LedgerLine) :=
  match held with
  | none => (addToCounter? 0 amount).map fun sum => (sum, ⟨.counter sum, none⟩)
  | some ⟨.counter value, deadline⟩ =>
    (addToCounter? value amount).map fun sum => (sum, ⟨.counter sum, deadline⟩)
  | some ⟨.document _, _⟩ => none

/-- The ledger after an operation. -/
def after (ledger : Ledger) : LedgerCommand → Ledger
  | .get _ | .probe _ => ledger
  | @LedgerCommand.set _ _ key value stated => ledger.write key value stated
  | @LedgerCommand.setMany _ _ items stated =>
    items.foldl (fun written item => written.write item.1 item.2 stated) ledger
  | .delete key => ledger.erase key
  | .increment key amount =>
    match addition? (ledger.find? key) amount with
    | none => ledger
    | some (_, line) => ledger.put key line
  | .override stem lifetime => { ledger with rules := ledger.rules.override stem lifetime }
  | .advance span => { ledger with now := ledger.now + span }

/-- What a reader gets of what a key holds, where documents are read back in a certain way. -/
def reading (read : Document → Option Document) : Holding → Option Document
  | .document document => read document
  | .counter value => some (.integer value)

/-- What an operation answers, where documents are read back in a certain way. -/
def answer (read : Document → Option Document) (ledger : Ledger) :
    LedgerCommand → LedgerAnswer
  | .get key => .document ((ledger.find? key).bind fun line => reading read line.holding)
  | .probe key => .truth (ledger.find? key).isSome
  | .increment key amount =>
    .sum (((addition? (ledger.find? key) amount).map Prod.fst).getD 0)
  | @LedgerCommand.set _ _ _ _ _ | @LedgerCommand.setMany _ _ _ _ => .done
  | .delete _ | .override _ _ | .advance _ => .done

/-- What operations answer, one after the other. -/
def answers (read : Document → Option Document) :
    List LedgerCommand → Ledger → List LedgerAnswer
  | [], _ => []
  | command :: rest, ledger =>
    ledger.answer read command :: answers read rest (ledger.after command)

/-- The document that an operation reads, if it reads one. -/
def documentRead? (ledger : Ledger) : LedgerCommand → Option Document
  | .get key => match ledger.find? key with
    | some ⟨.document document, _⟩ => some document
    | _ => none
  | _ => none

/-- The documents that operations read. -/
def documentsRead : List LedgerCommand → Ledger → List Document
  | [], _ => []
  | command :: rest, ledger =>
    (ledger.documentRead? command).toList ++ documentsRead rest (ledger.after command)

/-- An operation answers as if documents were read back as they are written exactly when the one
that it reads is. -/
theorem answer_eq_iff (read : Document → Option Document) (ledger : Ledger)
    (command : LedgerCommand) :
    ledger.answer read command = ledger.answer some command ↔
      ∀ document ∈ ledger.documentRead? command, read document = some document := by
  cases command with
  | get key =>
    simp only [answer, documentRead?]
    rcases ledger.find? key with _ | ⟨holding, deadline⟩
    · simp
    · cases holding with
      | document held => simp [reading]
      | counter value => simp [reading]
  | _ => simp [answer, documentRead?]

/-- Operations answer as if documents were read back as they are written exactly when all that
they read are. -/
theorem answers_eq_iff (read : Document → Option Document) (commands : List LedgerCommand)
    (ledger : Ledger) :
    answers read commands ledger = answers some commands ledger ↔
      ∀ document ∈ documentsRead commands ledger, read document = some document := by
  induction commands generalizing ledger with
  | nil => simp [answers, documentsRead]
  | cons command rest ih =>
    have first := answer_eq_iff read ledger command
    have later := ih (ledger.after command)
    rw [answers, answers, List.cons.injEq, first, later]
    constructor
    · rintro ⟨here, behind⟩ document held
      rcases List.mem_append.1 held with inside | inside
      · exact here document (by simpa using inside)
      · exact behind document inside
    · intro all
      refine ⟨fun document held => all document ?_, fun document held => all document ?_⟩
      · exact List.mem_append_left _ (by simpa using held)
      · exact List.mem_append_right _ held

/-- Putting a line leaves it under its key, unless it is gone, and touches no other. -/
theorem find?_put (ledger : Ledger) (key other : String) (line : LedgerLine) :
    (ledger.put key line).find? other =
      if other = key then (some line).filter fun line => !hasPassed line.deadline ledger.now
      else ledger.find? other := by
  unfold find? put
  dsimp only
  split <;> rfl

/-- Striking a line leaves nothing under its key and touches no other. -/
theorem find?_erase (ledger : Ledger) (key other : String) :
    (ledger.erase key).find? other = if other = key then none else ledger.find? other := by
  unfold find? erase
  dsimp only
  split <;> rfl

/-- A line that is there later is there now, and its deadline has not passed by then. -/
theorem find?_advance (ledger : Ledger) (span : Millis) (key : String) :
    (ledger.after (.advance span)).find? key =
      (ledger.find? key).filter fun line => !hasPassed line.deadline (ledger.now + span) := by
  unfold find? after
  dsimp only
  cases ledger.lines key with
  | none => rfl
  | some line =>
    by_cases passed : hasPassed line.deadline ledger.now = true
    · have stays := hasPassed_mono (Nat.le_add_right ledger.now span) passed
      simp [Option.filter, passed, stays]
    · simp [Option.filter, passed]

/-- A write changes neither the rules nor the clock. -/
theorem write_alike (ledger : Ledger) (key : String) (value : α) (stated : Option Seconds) :
    (ledger.write key value stated).rules = ledger.rules ∧
      (ledger.write key value stated).now = ledger.now := by
  rw [write]
  split <;> exact ⟨rfl, rfl⟩

/-- Writes change neither the rules nor the clock. -/
theorem writes_alike (items : List (String × α)) (stated : Option Seconds) (ledger : Ledger) :
    (items.foldl (fun written item => written.write item.1 item.2 stated) ledger).rules =
        ledger.rules ∧
      (items.foldl (fun written item => written.write item.1 item.2 stated) ledger).now =
        ledger.now := by
  induction items generalizing ledger with
  | nil => exact ⟨rfl, rfl⟩
  | cons item rest ih =>
    obtain ⟨rules, now⟩ := ih (ledger.write item.1 item.2 stated)
    obtain ⟨rules', now'⟩ := ledger.write_alike item.1 item.2 stated
    exact ⟨rules.trans rules', now.trans now'⟩

end Ledger

end FailOpenCache
