/-
This file is about what a complete `RebuildFromHistory` says of its records.

The status is computed from the disposition that each call returned for its own record,
and from the gaps that are left at the end. A later call may re-drive a gap and decide
it, and that decision is returned by no call. Which decision it is follows from the
records alone: a gap of an item is applied if it starts from the quantity that the version
before it leaves, and a gap of a hop never is. So a complete rebuild has settled every
record exactly when the versions of each item chain and every hop event is a first one.
-/

import SeshatOps.Ledger
import SeshatOps.Replay

namespace SeshatOps

open Relational Event

/-! ### What a call keeps of earlier rows -/

/-- No row goes away or changes its content hash. -/
def KeepsRows (before after : Platform) : Prop :=
  ∀ eventID row, before.inbox.find? eventID = some row →
    ∃ later, after.inbox.find? eventID = some later ∧ later.contentHash = row.contentHash

/-- A row that still awaits its turn, or is settled. -/
def InboxRow.isOpen (row : InboxRow) : Prop :=
  row.disposition.settled = true ∨ row.disposition = .quarantinedGap

/-- Nothing is quarantined but gaps. -/
def AllOpen (platform : Platform) : Prop := ∀ row ∈ platform.inbox.rows, row.isOpen

section Keeping

variable {first second third platform final : Platform} {env : Envelope} {payload : Payload}
  {hash canonical : Bytes} {disposition : Disposition}

theorem KeepsRows.refl (platform : Platform) : KeepsRows platform platform :=
  fun _ row found => ⟨row, found, rfl⟩

theorem KeepsRows.trans (late : KeepsRows second third) (early : KeepsRows first second) :
    KeepsRows first third := by
  intro eventID row found
  obtain ⟨middle, kept, same⟩ := early eventID row found
  obtain ⟨later, keptLater, sameLater⟩ := late eventID middle kept
  exact ⟨later, keptLater, sameLater.trans same⟩

/-- Storing a row keeps the others, and its own if that has the same content. -/
theorem KeepsRows.store {row : InboxRow} (inbox : final.inbox = platform.inbox.store row)
    (same : ∀ existing, platform.inbox.find? row.eventID = some existing →
      row.contentHash = existing.contentHash) : KeepsRows platform final := by
  intro eventID existing found
  rw [inbox]
  by_cases own : eventID = row.eventID
  · subst own
    exact ⟨row, Table.find?_store_self _ row, same existing found⟩
  · exact ⟨existing, (Table.find?_store_of_ne _ own).trans found, rfl⟩

theorem AllOpen.store {row : InboxRow} (allOpen : AllOpen platform)
    (inbox : final.inbox = platform.inbox.store row) (own : row.isOpen) : AllOpen final := by
  rw [AllOpen, inbox]
  exact Table.forall_mem_store allOpen own

/-- A fresh decision replaces nothing but a gap of the same content. -/
theorem Applies.keepsRows (applies : Applies platform env hash canonical payload disposition final)
    (undecided : Undecided platform env hash) : KeepsRows platform final := by
  obtain ⟨row, of, -, hashed, inbox⟩ := applies.stores
  refine .store inbox fun existing found => ?_
  rw [of.eventID] at found
  exact hashed.trans (undecided existing found).1.symm

/-- What a decision leaves that a rebuild lets pass. -/
theorem Decides.passed (decides : Decides platform env hash canonical payload disposition final)
    (passed : passes (some disposition) = true) :
    KeepsRows platform final ∧ (AllOpen platform → AllOpen final) ∧
      ∃ row, final.inbox.find? env.eventID = some row ∧ row.contentHash = hash := by
  have isOpen : ∀ row : InboxRow, row.disposition = disposition → row.isOpen := by
    rintro row rfl
    rw [InboxRow.isOpen]
    cases decided : row.disposition <;> simp_all [passes, Disposition.settled]
  cases decides with
  | conflict existing found differs => cases passed
  | duplicate existing found same settled =>
    rw [storeInbox_of_ne platform (by simp [inboxRow])]
    refine ⟨.store rfl fun other present => ?_, fun allOpen => allOpen.store rfl (isOpen _ rfl), _,
      Table.find?_store_self platform.inbox (inboxRow env hash .duplicateNoop), rfl⟩
    obtain rfl := Option.some.inj (present.symm.trans found)
    exact same.symm
  | terminal existing found same unsettled noGap => exact ⟨.refl _, id, existing, found, same⟩
  | fresh undecided _ _ applies =>
    obtain ⟨row, of, decided, hashed, inbox⟩ := applies.stores
    refine ⟨applies.keepsRows undecided, fun allOpen => allOpen.store inbox (isOpen row decided),
      row, ?_, hashed⟩
    rw [inbox, ← of.eventID]
    exact Table.find?_store_self _ row

end Keeping

/-! ### Events that follow one another -/

/-- The events of each item follow one another, and those of a hop are first versions. -/
structure Chained (known : Envelope → Prop) : Prop where
  items : ∀ first second earlier later, known first → known second →
    asQuantityDecremented first = some earlier → asQuantityDecremented second = some later →
    first.tenantID = second.tenantID → first.aggregateID = second.aggregateID →
    second.aggregateVersion = first.aggregateVersion + 1 →
    later.quantityBefore = earlier.quantityAfter
  hops : ∀ env, known env → env.aggregateType ≠ aggregateTypeInventoryItem →
    env.aggregateVersion = 1

section Redriving

variable {delivered : Envelope → Prop} {log after : Log} {platform final : Platform}
  {tenantID aggregateType aggregateID : Bytes} {env : Envelope} {payload : Payload}
  {canonical : Bytes} {disposition : Disposition}

/-- Where events follow one another, every re-driven gap is applied. -/
theorem Chained.applied (chained : Chained delivered)
    (redriven : Redriven delivered tenantID aggregateType aggregateID platform env payload
      canonical)
    (applies : Applies platform env (digest canonical) canonical payload disposition final)
    (grounded : Grounded delivered log platform) : disposition = .applied := by
  have later := redriven.later
  have next := redriven.next
  have notHop : ∀ hop, payloadHop env.tenantID payload ≠ some hop := by
    intro hop described
    have first := chained.hops env redriven.known (aggregateType_hop redriven.valid described)
    omega
  rw [← redriven.sameTenant, ← redriven.sameID] at next
  cases applies with
  | gap quantity ahead => omega
  | stale quantity current found behind =>
    rw [projectedVersion, found, Option.elim_some] at next
    omega
  | transition quantity current found following other =>
    -- The projection shows a known event, and the gap is its successor.
    obtain ⟨member, key⟩ := Table.find?_eq_some_iff.mp found
    have shows := grounded.shows member
    obtain ⟨last, earlier, ends, carried, onHand⟩ := shows.quantity
    have listed := List.mem_of_getLast? ends
    have place := shows.consecutive.versions ((log current.key).length - 1) last
      (by rw [← List.getLast?_eq_getElem?]; exact ends)
    have positive := List.length_pos_of_mem listed
    have version := shows.version
    refine absurd ?_ other
    rw [onHand]
    exact chained.items last env earlier quantity (shows.consecutive.known last listed)
      redriven.known carried (asQuantityDecremented_of_valid redriven.valid)
      ((shows.consecutive.tenantID last listed).trans (congrArg Prod.fst key))
      ((shows.consecutive.aggregateID last listed).trans (congrArg Prod.snd key)) (by omega)
  | applied => rfl
  | hopGap _ hop described | hopStale _ hop described | hopDuplicate _ hop described
  | hopInvalid _ hop described => exact absurd described (notHop hop)
  | hopApplied _ hop described => rfl
  | hopClash _ hop described => exact absurd described (notHop hop)

theorem Drains.keepsRows {mayFail : Bool} {fuel : Nat} {ended : Bool} {notes : List AppliedUpdate}
    (drains : Drains delivered mayFail tenantID aggregateType aggregateID fuel log platform ended
      notes after final) (grounded : Grounded delivered log platform) :
    KeepsRows platform final := by
  refine drains.preserves (fun _ later => KeepsRows platform later) ?_ grounded (.refl platform)
  intro _ _ _ _ _ _ _ redriven applies _ kept
  exact (applies.keepsRows redriven.undecided).trans kept

theorem Drains.allOpen {mayFail : Bool} {fuel : Nat} {ended : Bool} {notes : List AppliedUpdate}
    (drains : Drains delivered mayFail tenantID aggregateType aggregateID fuel log platform ended
      notes after final) (grounded : Grounded delivered log platform)
    (chained : Chained delivered) (start : AllOpen platform) : AllOpen final := by
  refine drains.preserves (fun _ later => AllOpen later) ?_ grounded start
  intro _ _ _ _ _ _ _ redriven applies grounded allOpen
  obtain ⟨row, -, decided, -, inbox⟩ := applies.stores
  refine allOpen.store inbox (Or.inl ?_)
  rw [decided, chained.applied redriven applies grounded]
  rfl

end Redriving

/-- A record that a rebuild lets pass: it carries an event under its own key, the call has kept
the earlier rows, and the event has a row of its own content. -/
structure HistoryRecord.Passes (record : HistoryRecord) (env : Envelope)
    (delivered : Envelope → Prop) (before after : Platform) : Prop where
  parsed : parse record.value = .ok env
  kept : KeepsRows before after
  own : ∃ row, after.inbox.find? env.eventID = some row ∧ contentHash env = .ok row.contentHash
  allOpen : Chained delivered → AllOpen before → AllOpen after

theorem HistoryRecord.Decided.passed {record : HistoryRecord} {mayFail : Bool}
    {policy : ReplayPolicy} {fuel : Nat} {before after : Platform}
    {disposition : Option Disposition} {delivered : Envelope → Prop} {log : Log}
    (decided : record.Decided mayFail policy fuel before disposition after)
    (passed : passes disposition = true) (grounded : Grounded delivered log before)
    (known : ∀ env, parse record.value = .ok env → delivered env) :
    ∃ env, record.Passes env delivered before after := by
  obtain ⟨result, sent, processes, rfl⟩ := decided
  cases processes with
  | unparsed error refused admitted => cases passed
  | misdelivered env payload canonical carries otherKey admitted => cases passed
  | quarantined env payload canonical carries ownKey disposition final decides unsettled admitted =>
    obtain ⟨kept, allOpen, row, found, hashed⟩ := decides.passed passed
    refine ⟨env, carries.parsed, kept, ⟨row, found, ?_⟩, fun _ => allOpen⟩
    rw [contentHash_of_canonical carries.written, hashed]
  | redriven env payload canonical carries ownKey disposition middle decides settled notes final
      redrives admitted =>
    obtain ⟨kept, allOpen, row, found, hashed⟩ := decides.passed passed
    have between := grounded.decides (known env carries.parsed) carries decides
    obtain ⟨last, drains, -⟩ := redrives.drains between
    have late := drains.keepsRows between
    obtain ⟨later, still, same⟩ := late env.eventID row found
    refine ⟨env, carries.parsed, late.trans kept, ⟨later, still, ?_⟩,
      fun chained start => drains.allOpen between chained (allOpen start)⟩
    rw [contentHash_of_canonical carries.written, same, hashed]

/-! ### Rebuilds of a history -/

/-- One call of `RebuildFromHistory`: what it is given, and what the server does with its
requests. -/
structure HistoryRebuild where
  fuel : Nat
  records : List HistoryRecord
  options : RebuildOptions
  replies : List Reply

namespace HistoryRebuild

variable (rebuild : HistoryRebuild) (db : Database)

/-- The rebuild run alone on a database. -/
def session : Except Empty RebuildOutcome × List Reply × Program.Session Database AppliedUpdate :=
  (rebuildFromHistory rebuild.fuel rebuild.records rebuild.options).run rebuild.replies
    ⟨db, none, []⟩

/-- What the rebuild returns. -/
def outcome : RebuildOutcome := returned (rebuild.session db).1

/-- The database that the rebuild leaves. -/
def after : Database := (rebuild.session db).2.2.committed

end HistoryRebuild

theorem Platform.cleared_none (platform : Platform) : platform.cleared none = .empty := by
  have rows : ∀ row : LineageRow, row.hop.kind = .shipment ∨ row.hop.kind = .productionBatch ∨
      row.hop.kind = .ingredientLot ∨ row.hop.kind = .supplier := by
    intro row
    cases row.hop.kind <;> simp
  have lineage : (platform.cleared none).lineage = .empty := by
    refine Table.eq_of_rows (List.eq_nil_iff_forall_not_mem.mpr fun row member => ?_)
    simp only [cleared, derivedTables, List.foldl_cons, List.foldl_nil, clear, reaches,
      Bool.and_true, Table.mem_discard] at member
    rcases rows row with kind | kind | kind | kind <;> simp [kind] at member
  have failures : (platform.cleared none).failures = .empty :=
    Table.eq_of_rows (by simp [cleared, derivedTables, clear, reaches, Table.discard])
  have inbox : (platform.cleared none).inbox = .empty :=
    Table.eq_of_rows (by simp [cleared, derivedTables, clear, reaches, Table.discard])
  have projection : (platform.cleared none).projection = .empty :=
    Table.eq_of_rows (by simp [cleared, derivedTables, clear, reaches, Table.discard])
  show Platform.mk (platform.cleared none).inbox (platform.cleared none).projection
    (platform.cleared none).lineage (platform.cleared none).failures = _
  rw [inbox, projection, lineage, failures]
  rfl

theorem rebuildFromHistory_eq (fuel : Nat) (records : List HistoryRecord)
    {options : RebuildOptions} (resets : options.resetFirst = true) :
    rebuildFromHistory fuel records options =
      returning (orReturn {} resetDerivedState >>= fun _ =>
        replayHistory fuel records options) := by
  simp [rebuildFromHistory, resets]

/-- A complete rebuild as a chain of calls from empty tables. -/
structure HistoryRebuild.Chain (rebuild : HistoryRebuild) (db : Database)
    (states : Nat → Platform) (dispositions : List (Option Disposition)) : Prop where
  replayed : Replayed true historyPolicy rebuild.fuel rebuild.records states dispositions
  first : states 0 = .empty
  passed : ∀ disposition ∈ dispositions, passes disposition = true
  last : (rebuild.after db).platform = states rebuild.records.length
  drained : (states rebuild.records.length).residualGaps none = 0

/-- A rebuild of a history returns early only with an error. -/
theorem rebuildHistory_early (fuel : Nat) (records : List HistoryRecord)
    (options : RebuildOptions) (db : Database) :
    Program.Ensures true
      (orReturn {} resetDerivedState >>= fun _ => replayHistory fuel records options)
      ⟨db, none, []⟩ (Program.Ends (fun _ _ => True) fun outcome _ => outcome.error ≠ none) := by
  refine ensures_orReturn _ _ _ ((resetScope_ensures none db).mono ?_)
  rintro (error | _) final ends
  · exact Option.some_ne_none error
  · cases records with
    | nil => exact Program.ensures_done _ trivial
    | cons record records =>
      obtain ⟨-, rfl⟩ := ends
      refine Program.ensures_bind _ _ ((replayRecords_ensures 0 _ _ _ _ (fun _ => True) trivial
        fun _ _ _ _ _ _ _ _ => trivial).mono ?_)
      rintro (outcome | out) final ends
      · intro none
        obtain ⟨_, _, _, _, stopped⟩ := ends.2 none
        cases stopped
      · obtain ⟨platform, sent, -, rfl⟩ := ends
        refine (concludeHistory_ensures options out _).mono ?_
        rintro (outcome | result) final ends
        · exact ends.2
        · trivial

theorem HistoryRebuild.chain (rebuild : HistoryRebuild) (db : Database)
    (resets : rebuild.options.resetFirst = true) (succeeded : (rebuild.outcome db).error = none)
    (complete : (rebuild.outcome db).result.status = .complete) :
    ∃ states dispositions, rebuild.Chain db states dispositions := by
  obtain ⟨fuel, records, options, replies⟩ := rebuild
  have reset : Program.Ensures true (orReturn {} resetDerivedState) ⟨db, none, []⟩
      (Program.Ends (fun _ final => final = ⟨⟨db.erp, .empty⟩, none, []⟩) fun _ _ => True) := by
    refine orReturn_ensures _ _ ((resetScope_ensures none db).mono ?_)
    rintro (error | _) final ends
    · trivial
    · show final = _
      rw [ends.2, Database.onPlatform, Platform.cleared_none]
  rcases ran : (rebuildFromHistory fuel records options).run replies ⟨db, none, []⟩ with
    ⟨never | ⟨result, error⟩, rest, final⟩
  · exact never.elim
  have left : (HistoryRebuild.mk fuel records options replies).after db = final.committed := by
    rw [HistoryRebuild.after, HistoryRebuild.session, ran]
  simp only [HistoryRebuild.outcome, HistoryRebuild.session, ran, returned] at succeeded complete
  have program := rebuildFromHistory_eq fuel records resets
  rw [program] at ran
  rcases returning_run ran with ⟨body, -⟩ | early
  · obtain ⟨_, middle, between, resetRan, replayed⟩ := Program.run_bind_ok body
    obtain rfl : between = ⟨⟨db.erp, .empty⟩, none, []⟩ := by
      have ends := reset replies (by simp)
      rwa [resetRan] at ends
    cases records with
    | nil =>
      cases replayed
      cases complete
    | cons record records =>
      obtain ⟨out, remaining, session, looped, concluded⟩ := Program.run_bind_ok replayed
      obtain ⟨states, dispositions, loop⟩ : ∃ states dispositions,
          LoopRun true historyPolicy fuel (record :: records) _ _ out session states
            dispositions := replayRecords_run (by simp) looped
      obtain ⟨sent, rfl⟩ := loop.last
      have spec : Program.Ensures true (concludeHistory options out)
        ⟨⟨db.erp, states (record :: records).length⟩, none, sent⟩ _ :=
        concludeHistory_ensures options out _
      have ends := spec remaining (by simp)
      rw [concluded] at ends
      obtain ⟨rfl, status⟩ := ends
      obtain ⟨passed, drained⟩ := status complete
      exact ⟨states, dispositions, loop.replayed, loop.first, ((loop.status).mp passed).2,
        congrArg Database.platform left, drained⟩
  · have ends := rebuildHistory_early fuel records options db replies (by simp)
    rw [early] at ends
    exact absurd succeeded ends

/-! ### What a complete rebuild hides -/

/-- The record's event has an inbox row of disposition applied or duplicate. -/
def HistoryRecord.Settled (record : HistoryRecord) (platform : Platform) : Prop :=
  ∃ env row, parse record.value = .ok env ∧ platform.inbox.find? env.eventID = some row ∧
    row.disposition.settled = true

/-- The event of a record. -/
def InRecords (records : List HistoryRecord) (env : Envelope) : Prop :=
  ∃ record ∈ records, parse record.value = .ok env

section Chains

variable {rebuild : HistoryRebuild} {db : Database} {states : Nat → Platform}
  {dispositions : List (Option Disposition)}

theorem InRecords.item {records : List HistoryRecord} {env : Envelope}
    {quantity : QuantityDecremented} (recorded : InRecords records env)
    (carried : asQuantityDecremented env = some quantity) :
    env.aggregateType = aggregateTypeInventoryItem := by
  obtain ⟨record, -, parsed⟩ := recorded
  obtain ⟨payload, valid⟩ := validate_ok env (parse_valid record.value env parsed)
  rw [asQuantityDecremented, valid.carried] at carried
  cases payload with
  | quantityDecremented own => exact valid.aggregateType
  | _ => cases carried

variable (chain : rebuild.Chain db states dispositions)

include chain

/-- The tables between the records hold nothing but what the records say. -/
theorem HistoryRebuild.Chain.accounted (count : Nat) (bound : count ≤ rebuild.records.length) :
    ∃ log, Grounded (InRecords rebuild.records) log (states count) ∧
      Accounted (InRecords rebuild.records) (fun _ => False) log (states count) := by
  induction count with
  | zero =>
    rw [chain.first]
    exact ⟨.empty, .empty, by simp [Log.empty], by simp [Platform.empty]⟩
  | succ count hypothesis =>
    obtain ⟨log, grounded, accounted⟩ := hypothesis (by omega)
    obtain ⟨disposition, -, result, sent, processes, -⟩ :=
      chain.replayed.step count _ (List.getElem?_eq_getElem (by omega))
    exact processes.accounted grounded accounted
      (fun env parsed _ => ⟨_, List.getElem_mem (by omega), parsed⟩)
      (fun _ _ never => never.elim) fun _ _ never => never.elim

/-- One record of a complete rebuild. -/
theorem HistoryRebuild.Chain.step (count : Nat) (record : HistoryRecord)
    (found : rebuild.records[count]? = some record) :
    ∃ env, record.Passes env (InRecords rebuild.records) (states count) (states (count + 1)) := by
  obtain ⟨log, grounded, -⟩ :=
    chain.accounted count (Nat.le_of_lt (List.getElem?_eq_some_iff.mp found).1)
  obtain ⟨disposition, listed, decided⟩ := chain.replayed.step count record found
  exact decided.passed (chain.passed disposition (List.mem_of_getElem? listed)) grounded
    fun env parsed => ⟨record, List.mem_of_getElem? found, parsed⟩

/-- The records after a point keep the rows before it. -/
theorem HistoryRebuild.Chain.keepsRows (count more : Nat)
    (bound : count + more ≤ rebuild.records.length) :
    KeepsRows (states count) (states (count + more)) := by
  induction more with
  | zero => exact .refl _
  | succ more hypothesis =>
    obtain ⟨env, passes⟩ := chain.step (count + more) _ (List.getElem?_eq_getElem (by omega))
    exact passes.kept.trans (hypothesis (by omega))

/-- In the end the event of each record has a row of its own content. -/
theorem HistoryRebuild.Chain.row {record : HistoryRecord} (member : record ∈ rebuild.records)
    {env : Envelope} (parsed : parse record.value = .ok env) :
    ∃ row, (states rebuild.records.length).inbox.find? env.eventID = some row ∧
      contentHash env = .ok row.contentHash := by
  obtain ⟨count, bound, rfl⟩ := List.getElem_of_mem member
  obtain ⟨other, passes⟩ := chain.step count _ (List.getElem?_eq_getElem bound)
  cases passes.parsed.symm.trans parsed
  obtain ⟨row, found, hashed⟩ := passes.own
  have kept := chain.keepsRows (count + 1) (rebuild.records.length - (count + 1)) (by omega)
  rw [Nat.add_sub_cancel' bound] at kept
  obtain ⟨last, foundLast, same⟩ := kept env.eventID row found
  exact ⟨last, foundLast, by rw [hashed, same]⟩

/-- Where the records follow one another, nothing is quarantined but gaps. -/
theorem HistoryRebuild.Chain.allOpen (chained : Chained (InRecords rebuild.records)) (count : Nat)
    (bound : count ≤ rebuild.records.length) : AllOpen (states count) := by
  induction count with
  | zero =>
    rw [chain.first]
    exact fun row member => absurd member List.not_mem_nil
  | succ count hypothesis =>
    obtain ⟨env, passes⟩ := chain.step count _ (List.getElem?_eq_getElem (by omega))
    exact passes.allOpen chained (hypothesis (by omega))

theorem HistoryRebuild.Chain.settled (chained : Chained (InRecords rebuild.records))
    {record : HistoryRecord} (member : record ∈ rebuild.records) :
    record.Settled (states rebuild.records.length) := by
  obtain ⟨count, bound, rfl⟩ := List.getElem_of_mem member
  obtain ⟨env, passes⟩ := chain.step count _ (List.getElem?_eq_getElem bound)
  obtain ⟨row, found, -⟩ := chain.row member passes.parsed
  have present := (Table.find?_eq_some_iff.mp found).1
  refine ⟨env, row, passes.parsed, found,
    (chain.allOpen chained _ le_rfl row present).resolve_right fun isGap => ?_⟩
  have drained := chain.drained
  rw [Platform.residualGaps, List.countP_eq_zero] at drained
  refine drained row present ?_
  simp [reaches, isGap]

/-- A settled event has its place in the log, if its identifier has no other content of its
hash. -/
theorem HistoryRebuild.Chain.places {log : Log}
    (accounted : Accounted (InRecords rebuild.records) (fun _ => False) log
      (states rebuild.records.length))
    (distinct : ∀ eventID, ¬ Collides (InRecords rebuild.records) eventID)
    (settled : ∀ record ∈ rebuild.records, record.Settled (states rebuild.records.length))
    {env : Envelope} (recorded : InRecords rebuild.records env) :
    ∃ row, row.Of env ∧ log.Places row env := by
  obtain ⟨record, member, parsed⟩ := recorded
  obtain ⟨other, row, otherParsed, found, rowSettled⟩ := settled record member
  cases otherParsed.symm.trans parsed
  obtain ⟨last, foundLast, hashed⟩ := chain.row member parsed
  obtain rfl := Option.some.inj (foundLast.symm.trans found)
  obtain ⟨present, itsID⟩ := Table.find?_eq_some_iff.mp found
  obtain ⟨source, known, settles, placed⟩ := accounted.sources last present rowSettled
  obtain rfl : source = env := by
    by_contra different
    exact distinct env.eventID ⟨source, env, known, ⟨record, member, parsed⟩,
      settles.of.eventID.symm.trans itsID, rfl, different, settles.hash.trans hashed.symm⟩
  exact ⟨last, settles.of, placed.resolve_right (distinct last.eventID)⟩

theorem HistoryRebuild.Chain.chained
    (distinct : ∀ eventID, ¬ Collides (InRecords rebuild.records) eventID)
    (settled : ∀ record ∈ rebuild.records, record.Settled (states rebuild.records.length)) :
    Chained (InRecords rebuild.records) := by
  obtain ⟨log, grounded, accounted⟩ := chain.accounted _ le_rfl
  constructor
  · intro first second earlier later firstKnown secondKnown firstCarries secondCarries sameTenant
      sameItem next
    obtain ⟨row, of, places⟩ := chain.places accounted distinct settled firstKnown
    obtain ⟨other, otherOf, otherPlaces⟩ := chain.places accounted distinct settled secondKnown
    obtain ⟨index, listed, version⟩ :=
      places.item (of.aggregateType.trans (firstKnown.item firstCarries))
    obtain ⟨nextIndex, nextListed, nextVersion⟩ :=
      otherPlaces.item (otherOf.aggregateType.trans (secondKnown.item secondCarries))
    have ownVersion := of.aggregateVersion
    have otherVersion := otherOf.aggregateVersion
    obtain rfl : nextIndex = index + 1 := by omega
    rw [of.tenantID, of.aggregateID] at listed
    rw [otherOf.tenantID, otherOf.aggregateID, ← sameTenant, ← sameItem] at nextListed
    have follows := (grounded.applied _).chained index first second listed nextListed
    rw [firstCarries, secondCarries] at follows
    exact Option.some.inj follows
  · intro env known otherType
    obtain ⟨row, of, places⟩ := chain.places accounted distinct settled known
    rw [← of.aggregateType] at otherType
    exact of.aggregateVersion.symm.trans (places.hop otherType)

end Chains

/-- A complete rebuild has settled every record exactly when the events of its records follow one
another, up to a collision of SHA-256 between two records of one identifier. -/
theorem complete_rebuild_settles_iff (rebuild : HistoryRebuild) (db : Database)
    (resets : rebuild.options.resetFirst = true) (succeeded : (rebuild.outcome db).error = none)
    (complete : (rebuild.outcome db).result.status = .complete) :
    (∃ eventID, Collides (InRecords rebuild.records) eventID) ∨
      ((∀ record ∈ rebuild.records, record.Settled (rebuild.after db).platform) ↔
        Chained (InRecords rebuild.records)) := by
  refine or_iff_not_imp_left.mpr fun distinct => ?_
  obtain ⟨states, dispositions, chain⟩ := rebuild.chain db resets succeeded complete
  rw [chain.last]
  exact ⟨chain.chained (not_exists.mp distinct), fun chained record member =>
    chain.settled chained member⟩

/-- The record under which the relay publishes an envelope. -/
def historyRecord (env : Envelope) : HistoryRecord :=
  ⟨envelopeKey env, recordValue env, ⟨[], 0, 0⟩⟩

/-- A history whose second version, of the given quantity, comes first. -/
def swappedHistory (quantity : Int) : HistoryRebuild where
  fuel := 8
  records := [historyRecord (sampleDecrement sampleTenant secondEvent 2 quantity),
    historyRecord (sampleDecrement sampleTenant sampleEvent 1 10)]
  options := { tenantID := sampleTenant, resetFirst := true }
  replies := []

set_option maxRecDepth 20000 in
/-- The second version starts from the quantity that the first one leaves. -/
theorem chainedHistory_run : ((swappedHistory 9).outcome .empty).error = none ∧
    ((swappedHistory 9).outcome .empty).result.status = .complete ∧
    (((swappedHistory 9).after .empty).platform.inbox.find? secondEvent).map InboxRow.disposition =
      some .applied := by
  decide +kernel

set_option maxRecDepth 20000 in
/-- The second version starts from another quantity than the first one leaves. -/
theorem brokenHistory_run : ((swappedHistory 5).outcome .empty).error = none ∧
    ((swappedHistory 5).outcome .empty).result.status = .complete ∧
    (((swappedHistory 5).after .empty).platform.inbox.find? secondEvent).map InboxRow.disposition =
      some .quarantinedTransition := by
  decide +kernel

/-- The two events of the chained history. -/
theorem inRecords_chainedHistory {env : Envelope}
    (recorded : InRecords (swappedHistory 9).records env) :
    env = sampleDecrement sampleTenant secondEvent 2 9 ∨
      env = sampleDecrement sampleTenant sampleEvent 1 10 := by
  obtain ⟨record, member, parsed⟩ := recorded
  rw [swappedHistory, List.mem_pair] at member
  obtain rfl | rfl := member
  · exact Or.inl (Except.ok.inj (parsed.symm.trans (parse_ownCall sampleGap_valid)))
  · exact Or.inr (Except.ok.inj (parsed.symm.trans (parse_ownCall sampleDecrement_valid.1)))

theorem chainedHistory_chained : Chained (InRecords (swappedHistory 9).records) := by
  constructor
  · intro first second earlier later firstKnown secondKnown firstCarries secondCarries _ _ next
    obtain rfl | rfl := inRecords_chainedHistory firstKnown
    · obtain rfl | rfl := inRecords_chainedHistory secondKnown <;> cases next
    · obtain rfl | rfl := inRecords_chainedHistory secondKnown
      · cases firstCarries
        cases secondCarries
        rfl
      · cases next
  · intro env known otherType
    obtain rfl | rfl := inRecords_chainedHistory known <;> exact absurd rfl otherType

theorem chainedHistory_distinct (eventID : Bytes) :
    ¬ Collides (InRecords (swappedHistory 9).records) eventID := by
  rintro ⟨first, second, firstKnown, secondKnown, firstID, secondID, different, -⟩
  have sameID := firstID.trans secondID.symm
  refine different ?_
  obtain rfl | rfl := inRecords_chainedHistory firstKnown
  all_goals
    obtain rfl | rfl := inRecords_chainedHistory secondKnown
    all_goals first
      | rfl
      | exact absurd sameID (by decide)

/-- Both records of the chained history are settled. -/
theorem complete_rebuild_settles_iff_sample :
    (swappedHistory 9).options.resetFirst = true ∧
      ((swappedHistory 9).outcome .empty).error = none ∧
      ((swappedHistory 9).outcome .empty).result.status = .complete ∧
      Chained (InRecords (swappedHistory 9).records) ∧
      ∀ record ∈ (swappedHistory 9).records,
        record.Settled ((swappedHistory 9).after .empty).platform := by
  obtain ⟨succeeded, complete, -⟩ := chainedHistory_run
  obtain collision | settles :=
    complete_rebuild_settles_iff (swappedHistory 9) .empty rfl succeeded complete
  · obtain ⟨eventID, collides⟩ := collision
    exact absurd collides (chainedHistory_distinct eventID)
  · exact ⟨rfl, succeeded, complete, chainedHistory_chained, settles.mpr chainedHistory_chained⟩

/-- The re-drive behind the first version quarantines the second one, and the rebuild is
complete. -/
theorem complete_rebuild_hides_quarantine :
    ¬ ∀ (rebuild : HistoryRebuild) (db : Database), rebuild.options.resetFirst = true →
      (rebuild.outcome db).error = none → (rebuild.outcome db).result.status = .complete →
      ∀ record ∈ rebuild.records, record.Settled (rebuild.after db).platform := by
  intro settles
  obtain ⟨succeeded, complete, quarantined⟩ := brokenHistory_run
  have read : parse (historyRecord (sampleDecrement sampleTenant secondEvent 2 5)).value =
      .ok (sampleDecrement sampleTenant secondEvent 2 5) := parse_ownCall (by decide +kernel)
  obtain ⟨env, row, parsed, found, settled⟩ :=
    settles (swappedHistory 5) .empty rfl succeeded complete
    (historyRecord (sampleDecrement sampleTenant secondEvent 2 5)) List.mem_cons_self
  obtain rfl : sampleDecrement sampleTenant secondEvent 2 5 = env :=
    Except.ok.inj (read.symm.trans parsed)
  have here : ((swappedHistory 5).after .empty).platform.inbox.find? secondEvent = some row := found
  rw [here, Option.map_some, Option.some.injEq] at quarantined
  rw [quarantined] at settled
  cases settled

end SeshatOps
