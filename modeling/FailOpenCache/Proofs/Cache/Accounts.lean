import FailOpenCache.Libraries.Plain
import FailOpenCache.Proofs.Cache.Batches
import FailOpenCache.Proofs.Cache.Ledger
import FailOpenCache.Proofs.Payload

/-!
# A cache keeps its ledger

A ledger reflects a connection to the store in memory when under each key in use the store holds a
value that stands for the line of the ledger, with the same deadline, or nothing where the ledger
has nothing. Every operation that evicts nothing keeps that and answers as the ledger does, so a
whole run does.
-/

namespace FailOpenCache

/-- A payload that stands for what a key holds. -/
def Holding.Stands (payload : String) : Holding → Prop
  | .document held =>
    Payload.decode payload = Payload.ofReread held.reread? ∧ readCounter? payload = none
  | .counter value =>
    payload = Text.integerText value ∧ leastCounter ≤ value ∧ value ≤ greatestCounter

/-- A slot that stands for a line: its payload does, and it has the same deadline. -/
def LedgerLine.Stands (line : LedgerLine) (slot : Slot) : Prop :=
  ∃ payload, slot = .value ⟨payload, line.deadline⟩ ∧ line.holding.Stands payload

/-- A slot that stands for a line has the deadline of the line. -/
theorem LedgerLine.Stands.deadline_eq {line : LedgerLine} {slot : Slot}
    (stands : line.Stands slot) :
    slot.deadline = line.deadline := by
  obtain ⟨payload, rfl, -⟩ := stands
  rfl

/-- The payload of a document stands for it. -/
theorem Holding.stands_encode [Libraries] (threshold : Nat) {document : Document}
    (formed : document.WellFormed) :
    (Holding.document document).Stands (Payload.encode threshold document) :=
  ⟨Payload.decode_encode threshold formed, Payload.readCounter?_encode threshold document⟩

/-- Lines and slots that stand for each other are gone at the same instants. -/
theorem rel_filter {line? : Option LedgerLine} {slot? : Option Slot} (now : Millis)
    (stands : Option.Rel LedgerLine.Stands line? slot?) :
    Option.Rel LedgerLine.Stands (line?.filter fun line => !hasPassed line.deadline now)
      (slot?.filter fun slot => !slot.isExpired now) := by
  cases stands with
  | none => exact .none
  | some related =>
    rename_i line slot
    have same : slot.isExpired now = hasPassed line.deadline now := by
      rw [Slot.isExpired, related.deadline_eq]
    simp only [Option.filter, same]
    split
    · exact .some related
    · exact .none

/-- The ledger reflects the connection under the keys in use. -/
structure Ledger.Reflects (ledger : Ledger) (used : String → Prop)
    (connection : Connection MemoryStore) : Prop where
  /-- The clocks agree. -/
  now : connection.now = ledger.now
  /-- The rules agree. -/
  rules : connection.cache.rules = ledger.rules
  /-- Under each key in use the store holds what stands for the line of the ledger. -/
  held : ∀ key, used key →
    Option.Rel LedgerLine.Stands (ledger.find? key) (connection.store.find? key connection.now)

/-- How many keys have given way to others in the store of a session. -/
def Session.evictions (session : Session MemoryStore) : Nat :=
  (session.link.store?.map MemoryStore.evictions).getD 0

namespace Ledger

variable {ledger : Ledger} {used : String → Prop} {connection after : Connection MemoryStore}

section

variable [Libraries]

/-- What an operation that evicts nothing has to do to keep a ledger: it answers as the ledger does
and leaves what the ledger after it reflects. -/
structure Keeps (ledger : Ledger) (used : String → Prop) (command : LedgerCommand)
    (connection after : Connection MemoryStore) : Prop where
  /-- The operation leaves the connection. -/
  leaves : (command.run connection.session).2 = after.session
  /-- The operation answers as the ledger does. -/
  answers : after.store.evictions = connection.store.evictions →
    (command.run connection.session).1 = ledger.answer Document.reread? command
  /-- The ledger after the operation reflects the connection that is left. -/
  reflects : after.store.evictions = connection.store.evictions →
    (ledger.after command).Reflects used after

omit [Libraries] in
/-- A ledger reflects a connection whose store only used a key. -/
theorem Reflects.of_use (reflects : ledger.Reflects used connection)
    (alike : Connection.Alike connection after) {key : String}
    (left : after.store = (connection.store.use key connection.now).2) :
    ledger.Reflects used after where
  now := alike.now.trans reflects.now
  rules := alike.rules.trans reflects.rules
  held other inUse := by
    rw [left, alike.now, MemoryStore.find?_use]
    exact reflects.held other inUse

omit [Libraries] in
/-- A line that is put reflects a slot that is inserted and stands for it. -/
theorem Reflects.of_insert (reflects : ledger.Reflects used connection)
    (alike : Connection.Alike connection after) {store : MemoryStore} {key : String}
    {line : LedgerLine} {slot : Slot}
    (same : ∀ other, store.find? other connection.now = connection.store.find? other connection.now)
    (left : after.store = store.insert key slot connection.now)
    (kept : after.store.evictions = store.evictions) (stands : line.Stands slot) :
    (ledger.put key line).Reflects used after where
  now := alike.now.trans reflects.now
  rules := alike.rules.trans reflects.rules
  held other inUse := by
    rw [left] at kept
    rw [left, alike.now, MemoryStore.find?_insert kept, find?_put, same]
    split
    · rw [← reflects.now]
      exact rel_filter connection.now (.some stands)
    · exact reflects.held other inUse

omit [Libraries] in
/-- What a reader of a slot gets is what a reader of its line gets. -/
theorem documentOf?_eq {line? : Option LedgerLine} {slot? : Option Slot}
    (stands : Option.Rel LedgerLine.Stands line? slot?) :
    Connection.documentOf? slot? =
      line?.bind fun line => reading Document.reread? line.holding := by
  cases stands with
  | none => rfl
  | some related =>
    rename_i line slot
    obtain ⟨payload, rfl, stands⟩ := related
    obtain ⟨holding, deadline⟩ := line
    cases holding with
    | document document =>
      simp only [Connection.documentOf?, stands.1, Option.bind_some, reading]
      cases document.reread? <;> rfl
    | counter value =>
      obtain ⟨rfl, low, high⟩ := stands
      simp only [Connection.documentOf?, Payload.decode_integerText low high, Option.bind_some,
        reading]
      rfl

/-- Reading keeps the ledger. -/
theorem keeps_get (reflects : ledger.Reflects used connection) {key : String} (inUse : used key) :
    ∃ after, Keeps ledger used (.get key) connection after := by
  obtain ⟨answered, left⟩ := Connection.get_onMemory embeds_self (Eq.refl connection.store) key
  have alike := Connection.quiet_getKey key connection
  refine ⟨(Connection.get key connection).2, rfl, fun _ => ?_,
    fun _ => reflects.of_use alike left⟩
  have read := documentOf?_eq (reflects.held key inUse)
  exact congrArg LedgerAnswer.document (answered.trans read)

omit [Libraries] in
/-- Where a line stands there stands a slot, and only there. -/
theorem isSome_eq_of_rel {line? : Option LedgerLine} {slot? : Option Slot}
    (stands : Option.Rel LedgerLine.Stands line? slot?) : slot?.isSome = line?.isSome := by
  cases stands <;> rfl

/-- Probing keeps the ledger. -/
theorem keeps_probe (reflects : ledger.Reflects used connection) {key : String}
    (inUse : used key) : ∃ after, Keeps ledger used (.probe key) connection after := by
  obtain ⟨answered, left⟩ :=
    Connection.probe_onMemory embeds_self (Eq.refl connection.store) key
  have alike := Connection.quiet_probe key connection
  refine ⟨(Connection.probe key connection).2, rfl, fun _ => ?_,
    fun _ => reflects.of_use alike left⟩
  have held := isSome_eq_of_rel (reflects.held key inUse)
  exact congrArg LedgerAnswer.truth (answered.trans held)

/-- Writing keeps the ledger. -/
theorem keeps_set {α : Type} [Storable α] (reflects : ledger.Reflects used connection)
    {key : String} {value : α} (stated : Option Seconds)
    (formed : ∀ document ∈ Storable.write? value, document.WellFormed) :
    ∃ after, Keeps ledger used (.set key value stated) connection after := by
  have alike := Connection.quiet_set key value stated connection
  refine ⟨(Connection.set key value stated connection).2, rfl, fun _ => rfl, fun kept => ?_⟩
  simp only [after, write]
  cases written : Storable.write? value with
  | none =>
    rw [Connection.set_unwritten written]
    exact reflects
  | some document =>
    have left := Connection.set_onMemory embeds_self (Eq.refl connection.store)
      written key stated
    have stands := Holding.stands_encode
      connection.cache.configuration.compressionThreshold (formed document written)
    refine reflects.of_insert alike (fun _ => rfl) left kept ⟨_, ?_, stands⟩
    rw [Entry.write, reflects.rules, reflects.now]

/-- Writing several values leaves under a key what stands for the line of the ledger. -/
theorem rel_heldAfter {α : Type} [Storable α] {items : List (String × α)}
    (formed : ∀ item ∈ items, ∀ document ∈ Storable.write? item.2, document.WellFormed)
    (cache : Cache) (stated : Option Seconds) (key : String) {ledger : Ledger}
    (rules : cache.rules = ledger.rules) {held : Option Slot}
    (stands : Option.Rel LedgerLine.Stands (ledger.find? key) held) :
    Option.Rel LedgerLine.Stands
      ((items.foldl (fun written item => written.write item.1 item.2 stated) ledger).find? key)
      (MemoryStore.heldAfter key ledger.now held (Connection.planOf cache stated items)) := by
  induction items generalizing ledger held with
  | nil => exact stands
  | cons item rest ih =>
    have formedRest := fun other (inside : other ∈ rest) =>
      formed other (List.mem_cons_of_mem _ inside)
    obtain ⟨alikeRules, alikeNow⟩ := ledger.write_alike item.1 item.2 stated
    have later := fun held => @ih formedRest (ledger.write item.1 item.2 stated)
      (rules.trans alikeRules.symm) held
    rw [alikeNow] at later
    cases written : Storable.write? item.2 with
    | none =>
      have same : ledger.write item.1 item.2 stated = ledger := by rw [write, written]
      have plan : Connection.planOf cache stated (item :: rest) =
          Connection.planOf cache stated rest := by
        simp [Connection.planOf, written]
      rw [List.foldl_cons, plan]
      exact later _ (same.symm ▸ stands)
    | some document =>
      have stood := Holding.stands_encode cache.configuration.compressionThreshold
        (formed item List.mem_cons_self document written)
      have plan : Connection.planOf cache stated (item :: rest) =
          ⟨item.1, Payload.encode cache.configuration.compressionThreshold document,
            cache.rules.resolve item.1 stated⟩ :: Connection.planOf cache stated rest := by
        simp [Connection.planOf, written]
      rw [List.foldl_cons, plan]
      refine later _ ?_
      have put : ledger.write item.1 item.2 stated = ledger.put item.1
          ⟨.document document, deadlineAfter ledger.now (ledger.rules.resolve item.1 stated)⟩ := by
        rw [write, written]
      rw [put, find?_put]
      by_cases here : key = item.1
      · subst here
        dsimp only
        rw [if_pos rfl, if_pos rfl]
        refine rel_filter ledger.now (.some ⟨_, ?_, stood⟩)
        rw [Entry.write, rules]
      · dsimp only
        rw [if_neg here, if_neg (Ne.symm here)]
        exact stands

/-- Writing several values keeps the ledger. -/
theorem keeps_setMany {α : Type} [Storable α] (reflects : ledger.Reflects used connection)
    {items : List (String × α)} (stated : Option Seconds)
    (formed : ∀ item ∈ items, ∀ document ∈ Storable.write? item.2, document.WellFormed) :
    ∃ after, Keeps ledger used (.setMany items stated) connection after := by
  have alike := Connection.quiet_setMany items stated connection
  obtain ⟨alikeRules, alikeNow⟩ := writes_alike items stated ledger
  refine ⟨(Connection.setMany items stated connection).2, rfl, fun _ => rfl, fun kept => ?_⟩
  refine ⟨(alike.now.trans reflects.now).trans alikeNow.symm,
    (alike.rules.trans reflects.rules).trans alikeRules.symm, fun key inUse => ?_⟩
  rw [alike.now, Connection.find?_setMany kept, reflects.now]
  exact rel_heldAfter formed connection.cache stated key reflects.rules
    (reflects.now ▸ reflects.held key inUse)

/-- Deleting keeps the ledger. -/
theorem keeps_delete (reflects : ledger.Reflects used connection) (key : String) :
    ∃ after, Keeps ledger used (.delete key) connection after := by
  have alike := Connection.quiet_deleteAll [key] connection
  have left := Connection.deleteAll_onMemory embeds_self (Eq.refl connection.store) [key]
  refine ⟨(Connection.deleteAll [key] connection).2, rfl, fun _ => rfl, fun _ => ?_⟩
  refine ⟨alike.now.trans reflects.now, alike.rules.trans reflects.rules, fun other inUse => ?_⟩
  rw [left, alike.now, MemoryStore.find?_delete]
  simp only [Ledger.after, find?_erase, List.mem_singleton]
  split
  · exact .none
  · exact reflects.held other inUse

omit [Libraries] in
/-- An addition to a line and to the slot that stands for it come to the same. -/
theorem addition?_eq {line? : Option LedgerLine} {slot? : Option Slot}
    (stands : Option.Rel LedgerLine.Stands line? slot?) (amount : Int) :
    (addition? line? amount = none ∧ MemoryStore.addition? slot? amount = none) ∨
      ∃ sum line entry, addition? line? amount = some (sum, line) ∧
        MemoryStore.addition? slot? amount = some (sum, entry) ∧ line.Stands (.value entry) := by
  have inRange : ∀ {value sum : Int}, addToCounter? value amount = some sum →
      leastCounter ≤ sum ∧ sum ≤ greatestCounter := by
    intro value sum added
    unfold addToCounter? at added
    dsimp only at added
    split at added
    · rename_i bounds
      obtain rfl := Option.some.inj added
      exact bounds
    · exact absurd added (by simp)
  have counted : ∀ (value : Int) (deadline : Option Millis),
      ((addToCounter? value amount).map fun sum =>
          (sum, (⟨.counter sum, deadline⟩ : LedgerLine))) = none ∧
        ((addToCounter? value amount).map fun sum =>
          (sum, (⟨Text.integerText sum, deadline⟩ : Entry))) = none ∨
      ∃ sum line entry,
        ((addToCounter? value amount).map fun sum =>
          (sum, (⟨.counter sum, deadline⟩ : LedgerLine))) = some (sum, line) ∧
        ((addToCounter? value amount).map fun sum =>
          (sum, (⟨Text.integerText sum, deadline⟩ : Entry))) = some (sum, entry) ∧
        line.Stands (.value entry) := by
    intro value deadline
    cases added : addToCounter? value amount with
    | none => exact .inl ⟨rfl, rfl⟩
    | some sum => exact .inr ⟨sum, _, _, rfl, rfl, _, rfl, rfl, inRange added⟩
  cases stands with
  | none => exact counted 0 none
  | some related =>
    rename_i line slot
    obtain ⟨payload, rfl, stands⟩ := related
    obtain ⟨holding, deadline⟩ := line
    cases holding with
    | document document =>
      refine .inl ⟨rfl, ?_⟩
      rw [MemoryStore.addition?, stands.2]
      rfl
    | counter value =>
      obtain ⟨rfl, low, high⟩ := stands
      simp only [addition?, MemoryStore.addition?, Payload.readCounter?_integerText low high,
        Option.bind_some]
      exact counted value deadline

/-- Counting keeps the ledger. -/
theorem keeps_increment (reflects : ledger.Reflects used connection) {key : String}
    (inUse : used key) (amount : Int) :
    ∃ after, Keeps ledger used (.increment key amount) connection after := by
  have alike := Connection.quiet_increment key amount connection
  rcases addition?_eq (reflects.held key inUse) amount with
    ⟨lineRefused, refused⟩ | ⟨sum, line, entry, lineCounted, counted, stands⟩
  · obtain ⟨answered, left⟩ := Connection.increment_refused_onMemory embeds_self rfl refused
    refine ⟨(Connection.increment key amount connection).2, rfl, fun _ => ?_, fun _ => ?_⟩
    · simp only [answer, lineRefused]
      exact congrArg LedgerAnswer.sum answered
    · simp only [Ledger.after, lineRefused]
      exact reflects.of_use alike left
  · obtain ⟨answered, left⟩ := Connection.increment_counted_onMemory embeds_self rfl counted
    refine ⟨(Connection.increment key amount connection).2, rfl, fun _ => ?_, fun kept => ?_⟩
    · simp only [answer, lineCounted]
      exact congrArg LedgerAnswer.sum answered
    · simp only [Ledger.after, lineCounted]
      rw [← MemoryStore.evictions_use connection.store key connection.now] at kept
      exact reflects.of_insert alike (fun other => MemoryStore.find?_use ..) left kept stands

/-- Giving a stem a lifetime keeps the ledger. -/
theorem keeps_override (reflects : ledger.Reflects used connection) (stem : String)
    (lifetime : Seconds) :
    ∃ after, Keeps ledger used (.override stem lifetime) connection after := by
  refine ⟨{ connection with
    cache := { connection.cache with rules := connection.cache.rules.override stem lifetime } },
    rfl, fun _ => rfl, fun _ => ⟨reflects.now, ?_, reflects.held⟩⟩
  exact congrArg (fun rules : LifetimeRules => rules.override stem lifetime) reflects.rules

/-- Letting time pass keeps the ledger, as long as the clock does not start again. -/
theorem keeps_advance (reflects : ledger.Reflects used connection) {span : Millis}
    (clock : ledger.now + span ≤ lastWord) :
    ∃ after, Keeps ledger used (.advance span) connection after := by
  have now : advanceClock connection.now span = connection.now + span := by
    have below : connection.now + span < 2 ^ 64 := by
      rw [reflects.now]
      exact Nat.lt_of_le_of_lt clock (by decide)
    exact Nat.mod_eq_of_lt below
  refine ⟨{ connection with now := advanceClock connection.now span }, rfl,
    fun _ => rfl, fun _ => ⟨?_, reflects.rules, fun key inUse => ?_⟩⟩
  · exact now.trans (congrArg (· + span) reflects.now)
  · dsimp only
    rw [now, find?_advance, MemoryStore.find?_later (Nat.le_add_right connection.now span),
      ← reflects.now]
    exact rel_filter _ (reflects.held key inUse)

/-- Every operation keeps the ledger. -/
theorem keeps (reflects : ledger.Reflects used connection) {command : LedgerCommand}
    (inUse : ∀ key ∈ command.keys, used key) (formed : command.WellFormed)
    (clock : ledger.now + command.span ≤ lastWord) :
    ∃ after, Keeps ledger used command connection after := by
  cases command with
  | get key => exact keeps_get reflects (inUse key List.mem_cons_self)
  | set key value stated => exact keeps_set reflects stated formed
  | setMany items stated => exact keeps_setMany reflects stated formed
  | delete key => exact keeps_delete reflects key
  | probe key => exact keeps_probe reflects (inUse key List.mem_cons_self)
  | increment key amount => exact keeps_increment reflects (inUse key List.mem_cons_self) amount
  | override stem lifetime => exact keeps_override reflects stem lifetime
  | advance span => exact keeps_advance reflects clock

omit [Libraries] in
/-- The clock of a ledger after an operation. -/
theorem now_after (ledger : Ledger) (command : LedgerCommand) :
    (ledger.after command).now = ledger.now + command.span := by
  cases command with
  | set key value stated => exact (ledger.write_alike key value stated).2
  | setMany items stated => exact (writes_alike items stated ledger).2
  | increment key amount =>
    simp only [Ledger.after]
    split <;> rfl
  | _ => rfl

omit [Libraries] in
/-- The evictions in the session of a connection are those of its store. -/
@[simp] theorem evictions_session (connection : Connection MemoryStore) :
    connection.session.evictions = connection.store.evictions := rfl

/-- Every operation leaves a connection and counts the evictions. -/
theorem run_counts (command : LedgerCommand) (connection : Connection MemoryStore) :
    ∃ after : Connection MemoryStore, (command.run connection.session).2 = after.session ∧
      connection.store.evictions ≤ after.store.evictions := by
  cases command with
  | get key =>
    refine ⟨(Connection.get key connection).2, rfl, ?_⟩
    rw [(Connection.get_onMemory embeds_self (Eq.refl connection.store) key).2,
      MemoryStore.evictions_use]
  | set key value stated =>
    refine ⟨(Connection.set key value stated connection).2, rfl, ?_⟩
    cases written : Storable.write? value with
    | none => rw [Connection.set_unwritten written]
    | some document =>
      rw [Connection.set_onMemory embeds_self rfl written]
      exact MemoryStore.evictions_le_insert ..
  | setMany items stated =>
    exact ⟨(Connection.setMany items stated connection).2, rfl,
      Connection.evictions_le_setMany items stated connection⟩
  | delete key =>
    refine ⟨(Connection.deleteAll [key] connection).2, rfl, ?_⟩
    rw [Connection.deleteAll_onMemory embeds_self rfl, MemoryStore.evictions_delete]
  | probe key =>
    refine ⟨(Connection.probe key connection).2, rfl, ?_⟩
    rw [(Connection.probe_onMemory embeds_self (Eq.refl connection.store) key).2,
      MemoryStore.evictions_use]
  | increment key amount =>
    refine ⟨(Connection.increment key amount connection).2, rfl, ?_⟩
    rw [← MemoryStore.evictions_use connection.store key connection.now]
    cases sum : MemoryStore.addition? (connection.store.find? key connection.now) amount with
    | none => rw [(Connection.increment_refused_onMemory embeds_self rfl sum).2]
    | some counted =>
      rw [(Connection.increment_counted_onMemory embeds_self rfl sum).2]
      exact MemoryStore.evictions_le_insert ..
  | override stem lifetime =>
    exact ⟨{ connection with cache := { connection.cache with
      rules := connection.cache.rules.override stem lifetime } }, rfl, Nat.le_refl _⟩
  | advance span =>
    exact ⟨{ connection with now := advanceClock connection.now span }, rfl, Nat.le_refl _⟩

/-- A run answers with its first operation and goes on from what that leaves. -/
theorem runAll_cons (command : LedgerCommand) (rest : List LedgerCommand)
    (session : Session MemoryStore) :
    LedgerCommand.runAll (command :: rest) session =
      ((command.run session).1 :: (LedgerCommand.runAll rest (command.run session).2).1,
        (LedgerCommand.runAll rest (command.run session).2).2) := rfl

/-- A run counts the evictions. -/
theorem runAll_counts (commands : List LedgerCommand) (connection : Connection MemoryStore) :
    connection.store.evictions ≤
      (LedgerCommand.runAll commands connection.session).2.evictions := by
  induction commands generalizing connection with
  | nil => exact Nat.le_refl _
  | cons command rest ih =>
    obtain ⟨after, leaves, counted⟩ := run_counts command connection
    rw [runAll_cons, leaves]
    exact Nat.le_trans counted (ih after)

/-- A run that evicts nothing answers as the ledger does. -/
theorem runAll_eq (commands : List LedgerCommand) {ledger : Ledger}
    {connection : Connection MemoryStore} (reflects : ledger.Reflects used connection)
    (inUse : ∀ command ∈ commands, ∀ key ∈ command.keys, used key)
    (formed : ∀ command ∈ commands, command.WellFormed)
    (clock : ledger.now + (commands.map LedgerCommand.span).sum ≤ lastWord)
    (kept : (LedgerCommand.runAll commands connection.session).2.evictions =
      connection.store.evictions) :
    (LedgerCommand.runAll commands connection.session).1 =
      answers Document.reread? commands ledger := by
  induction commands generalizing ledger connection with
  | nil => rfl
  | cons command rest ih =>
    rw [List.map_cons, List.sum_cons] at clock
    have inTime : ledger.now + command.span ≤ lastWord :=
      Nat.le_trans (Nat.add_le_add_left (Nat.le_add_right _ _) _) clock
    obtain ⟨after, leaves, answered, left⟩ := keeps reflects (inUse command List.mem_cons_self)
      (formed command List.mem_cons_self) inTime
    rw [runAll_cons, leaves] at kept
    -- Evictions only ever grow, so a run without any has none in its first operation either.
    have counted : connection.store.evictions ≤ after.store.evictions := by
      obtain ⟨other, leaves', counted⟩ := run_counts command connection
      rw [← evictions_session after, ← leaves, leaves']
      exact counted
    have first : after.store.evictions = connection.store.evictions :=
      Nat.le_antisymm (kept ▸ runAll_counts rest after) counted
    have later : (ledger.after command).now + (rest.map LedgerCommand.span).sum ≤ lastWord := by
      rw [now_after, Nat.add_assoc]
      exact clock
    rw [runAll_cons, leaves, answers, answered first]
    exact congrArg _ (ih (left first)
      (fun other inside => inUse other (List.mem_cons_of_mem _ inside))
      (fun other inside => formed other (List.mem_cons_of_mem _ inside)) later
      (kept.trans first.symm))

/-- The operations use a key. -/
def Uses (commands : List LedgerCommand) (key : String) : Prop :=
  ∃ command ∈ commands, key ∈ command.keys

/-- A run on a connected cache that evicts nothing answers as the ledger of the cache does, where
documents are read as their texts are. So it answers with the very documents that were written
exactly when every document that it reads nests at most 127 containers and holds only binary
numbers that survive their texts. -/
theorem runAll_answers (commands : List LedgerCommand) {ledger : Ledger}
    {connection : Connection MemoryStore} (reflects : ledger.Reflects (Uses commands) connection)
    (formed : ∀ command ∈ commands, command.WellFormed)
    (clock : ledger.now + (commands.map LedgerCommand.span).sum ≤ lastWord)
    (kept : (LedgerCommand.runAll commands connection.session).2.evictions =
      connection.store.evictions) :
    (LedgerCommand.runAll commands connection.session).1 =
        answers Document.reread? commands ledger ∧
      ((LedgerCommand.runAll commands connection.session).1 = answers some commands ledger ↔
        ∀ document ∈ documentsRead commands ledger,
          document.depth ≤ Document.depthLimit ∧ document.RealsSurvive) := by
  have answered := runAll_eq commands reflects
    (fun command inside key held => ⟨command, inside, held⟩) formed clock kept
  refine ⟨answered, ?_⟩
  rw [answered, answers_eq_iff]
  simp only [Document.reread?_eq_self_iff]

end

/-- The ledger of a new cache at an instant: it has no line. -/
def blank (configuration : Configuration) (now : Millis) : Ledger :=
  ⟨fun _ => none, .ofList configuration.defaultLifetime configuration.overrides, now⟩

/-- The ledger of a new cache has no line, and a new store holds nothing. -/
theorem reflects_opened (configuration : Configuration) (capacity : Nat) (now : Millis)
    (used : String → Prop) :
    (blank configuration now).Reflects used (.opened configuration (.ofCapacity capacity) now) :=
  ⟨rfl, rfl, fun _ _ => .none⟩

open scoped Libraries.Plain

/-- A counter and a document that expires, over a new store. -/
theorem runAll_answers_opened :
    (LedgerCommand.runAll [.set "document" (Document.string "text") (some 1), .get "document",
        .increment "counter" 5, .advance 1000, .increment "counter" 2, .get "document",
        .get "counter"] (Connection.opened .standard (MemoryStore.ofCapacity 9) 7).session).1 =
      [.done, .document (some (.string "text")), .sum 5, .done, .sum 7, .document none,
        .document (some (.integer 7))] := by
  refine ((runAll_answers _ (reflects_opened .standard 9 7 _) ?_ ?_ ?_).2.2 ?_).trans ?_
  · simp [LedgerCommand.WellFormed, Storable.write?, Document.WellFormed]
  · decide
  · decide +kernel
  · intro document held
    obtain rfl : document = .string "text" := List.mem_singleton.1 held
    exact ⟨Nat.zero_le _, trivial⟩
  · decide

end Ledger

end FailOpenCache
