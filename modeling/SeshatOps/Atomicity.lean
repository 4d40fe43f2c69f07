/-
This file is about one call of the processor under faults, in every state that calls leave.

What an acknowledgement stands for, what a commit joins, and what a withheld
acknowledgement leaves behind are read off the list of what a call can do and the list of
what it makes visible. A re-drive behind the decision on a record writes the rows of
retained gaps only, and the settled row of the record is none of them.
-/

import SeshatOps.Visible

namespace SeshatOps

open Relational Event

/-! ### What is committed together -/

/-- The row of an event that a commit has made an applied one. -/
structure InboxRow.BecomesApplied (row : InboxRow) (before after : Platform) : Prop where
  present : after.inbox.find? row.eventID = some row
  applied : row.disposition = .applied
  fresh : ∀ earlier, before.inbox.find? row.eventID = some earlier →
    earlier.disposition ≠ .applied

/-- Every change of the projection or of the lineage between two states comes with the row of its
event becoming applied. -/
structure AppliesTogether (before after : Platform) : Prop where
  projection : ∀ key, after.projection.find? key ≠ before.projection.find? key →
    ∃ (row : InboxRow) (shown : ProjectionRow), row.BecomesApplied before after ∧
      (row.tenantID, row.aggregateID) = key ∧
      after.projection.find? key = some shown ∧ shown.aggregateVersion = row.aggregateVersion
  lineage : ∀ key, after.lineage.find? key ≠ before.lineage.find? key →
    ∃ (row : InboxRow) (shown : LineageRow), row.BecomesApplied before after ∧
      (row.tenantID, row.aggregateID) = key.2 ∧
      after.lineage.find? key = some shown ∧ shown.sourceEventID = row.eventID

section Commits

variable {before after : Platform} {env : Envelope} {payload : Payload} {hash canonical : Bytes}
  {disposition : Disposition}

theorem appliesTogether_of_same (projection : after.projection = before.projection)
    (lineage : after.lineage = before.lineage) : AppliesTogether before after where
  projection key changed := absurd (by rw [projection]) changed
  lineage key changed := absurd (by rw [lineage]) changed

theorem Undecided.not_applied (undecided : Undecided before env hash) {earlier : InboxRow}
    (found : before.inbox.find? env.eventID = some earlier) :
    earlier.disposition ≠ .applied := by
  rw [(undecided earlier found).2]
  decide

theorem Writes.appliesTogether (valid : Valid env payload)
    (writes : Writes before env hash canonical payload disposition after) :
    AppliesTogether before after := by
  cases writes with
  | unchanged | quarantined | retained | repeated | joined => exact appliesTogether_of_same rfl rfl
  | advanced quantity undecided next continues =>
    refine ⟨fun key changed => ?_, fun key changed => absurd rfl changed⟩
    by_cases own : key = (env.tenantID, env.aggregateID)
    · subst own
      exact ⟨inboxRow env hash .applied, _,
        ⟨Table.find?_store_self before.inbox _, rfl, fun _ => undecided.not_applied⟩, rfl,
        Table.find?_store_self before.projection _, rfl⟩
    · exact absurd (Table.find?_store_of_ne before.projection own) changed
  | linked _ undecided hop described first absent free =>
    refine ⟨fun key changed => absurd rfl changed, fun key changed => ?_⟩
    by_cases own : key = hop.key
    · subst own
      refine ⟨inboxRow env hash .applied, _,
        ⟨Table.find?_store_self before.inbox _, rfl, fun _ => undecided.not_applied⟩, ?_,
        Table.find?_store_self before.lineage (lineageRow env hop), rfl⟩
      rw [(payloadHop_key valid described).1]
      rfl
    · exact absurd (Table.find?_store_of_ne before.lineage own) changed

theorem Stores.appliesTogether (stores : Stores before after) : AppliesTogether before after := by
  cases stores with
  | nothing same => exact appliesTogether_of_same (by rw [same]) (by rw [same])
  | failure row stored => exact appliesTogether_of_same (by rw [stored]; rfl) (by rw [stored]; rfl)
  | quarantine row unsettled stored =>
    exact appliesTogether_of_same (by rw [stored]; rfl) (by rw [stored]; rfl)
  | decision env payload canonical valid written disposition decides =>
    exact decides.writes.appliesTogether valid

end Commits

/-! ### Re-drive steps -/

/-- One complete step of a re-drive: a retained gap of the aggregate is read back and decided, or
quarantined for another hash. -/
def RedriveStep (tenantID aggregateType aggregateID : Bytes) (before after : Platform) : Prop :=
  ∃ gap ∈ eligibleGaps before tenantID aggregateType aggregateID, ∃ env payload canonical,
    Retained gap env payload canonical ∧
      (digest canonical ≠ gap.contentHash ∧
          after = storeInbox (inboxRow env (digest canonical) .quarantinedConflict) before ∨
        digest canonical = gap.contentHash ∧
          ∃ disposition, Decides before env (digest canonical) canonical payload disposition after)

theorem Redrives.steps {mayFail : Bool} {tenantID aggregateType aggregateID : Bytes} {fuel : Nat}
    {before after : Platform} {ended : Bool} {notes : List AppliedUpdate}
    (redrives : Redrives mayFail tenantID aggregateType aggregateID fuel before ended notes after) :
    Relation.ReflTransGen (RedriveStep tenantID aggregateType aggregateID) before after := by
  induction redrives with
  | unfinished | failed | drained => exact .refl
  | requarantined fuel platform gap eligible env payload canonical retained differs ended notes
      final rest hypothesis =>
    exact .head ⟨gap, eligible, env, payload, canonical, retained, Or.inl ⟨differs, rfl⟩⟩
      hypothesis
  | stopped fuel platform gap eligible env payload canonical retained same disposition final
      decides other =>
    exact .single ⟨gap, eligible, env, payload, canonical, retained,
      Or.inr ⟨same, disposition, decides⟩⟩
  | advanced fuel platform gap eligible env payload canonical retained same next decides ended
      notes final rest hypothesis =>
    exact .head ⟨gap, eligible, env, payload, canonical, retained, Or.inr ⟨same, _, decides⟩⟩
      hypothesis

/-! ### One call under faults -/

/-- The result of a call is on record: in the inbox, under its event, or as a failure at its
position. -/
def Call.OnRecord (call : Call) (result : Result) (platform : Platform) : Prop :=
  (∃ env row, parse call.value = .ok env ∧ platform.inbox.find? env.eventID = some row ∧
    result.disposition = some row.disposition) ∨
  ∃ row ∈ platform.failures.rows, row.source = recordPosition call.pos

/-- What a call without an acknowledgement may leave: nothing, or the settled decision on its event
followed by complete steps of the re-drive. -/
def Call.Interrupted (call : Call) (result : Result) (before after : Database) : Prop :=
  after = before ∨ after.erp = before.erp ∧
    ∃ env payload canonical disposition middle, Carries call.value env payload canonical ∧
      (disposition = .applied ∨ disposition = .duplicateNoop) ∧
      result.disposition = some disposition ∧
      Decides before.platform env (digest canonical) canonical payload disposition middle ∧
      Relation.ReflTransGen (RedriveStep env.tenantID env.aggregateType env.aggregateID) middle
        after.platform

/-- The decision on an event is in its inbox row. -/
theorem Decides.records {platform final : Platform} {env : Envelope} {hash canonical : Bytes}
    {payload : Payload} {disposition : Disposition}
    (decides : Decides platform env hash canonical payload disposition final) :
    ∃ row, final.inbox.find? env.eventID = some row ∧ row.disposition = disposition := by
  cases decides with
  | conflict existing found differs =>
    rw [storeInbox_conflict found]
    exact ⟨_, Table.find?_store_self platform.inbox
      (inboxRow env existing.contentHash .quarantinedConflict), rfl⟩
  | duplicate existing found same settled =>
    rw [storeInbox_of_ne platform (by simp [inboxRow])]
    exact ⟨_, Table.find?_store_self platform.inbox (inboxRow env hash .duplicateNoop), rfl⟩
  | terminal existing found same unsettled noGap => exact ⟨existing, found, rfl⟩
  | fresh undecided _ _ applies =>
    obtain ⟨row, of, decided, -, stored⟩ := applies.stores
    refine ⟨row, ?_, decided⟩
    rw [stored, ← of.eventID]
    exact Table.find?_store_self platform.inbox row

/-- A failure is counted at its own position. -/
theorem mergeFailure_source (platform : Platform) (row : FailureRow) :
    (mergeFailure row (platform.failures.find? row.source)).source = row.source := by
  cases found : platform.failures.find? row.source with
  | none => rfl
  | some existing => exact (Table.find?_eq_some_iff.mp found).2

section Faults

variable {call : Call} {before after : Platform} {outcome : Outcome} {sent : List AppliedUpdate}

theorem Processes.onRecord {delivered : Envelope → Prop} {log : Log}
    (processes : Processes true call.fuel call.key call.value call.pos before outcome sent after)
    (grounded : Grounded delivered log before)
    (known : ∀ env, parse call.value = .ok env → call.key = envelopeKey env → delivered env)
    (acknowledged : outcome.result.shouldAck = true) : call.OnRecord outcome.result after := by
  cases processes with
  | failed error cause => cases acknowledged
  | unparsed error refused admitted =>
    refine Or.inr ⟨_, Table.mem_store_self before.failures _, ?_⟩
    exact mergeFailure_source before (parseFailureRow call.value (recordPosition call.pos) error)
  | misdelivered env payload canonical carries otherKey admitted =>
    refine Or.inl ⟨env, inboxRow env (digest canonical) .quarantinedMismatch, carries.parsed, ?_,
      rfl⟩
    rw [storeInbox_of_ne _ (by simp [inboxRow])]
    exact Table.find?_store_self before.inbox _
  | quarantined env payload canonical carries ownKey disposition final decides unsettled admitted =>
    obtain ⟨row, found, rfl⟩ := decides.records
    exact Or.inl ⟨env, row, carries.parsed, found, rfl⟩
  | redriven env payload canonical carries ownKey disposition middle decides settled notes final
      redrives admitted =>
    obtain ⟨row, found, rfl⟩ := decides.records
    have between := grounded.decides (known env carries.parsed ownKey) carries decides
    obtain ⟨last, drains, -⟩ := redrives.drains between
    refine Or.inl ⟨env, row, carries.parsed, drains.preserves
      (fun _ later => later.inbox.find? env.eventID = some row) ?_ between found, rfl⟩
    intro _ _ gapEnv _ _ _ _ redriven applies _ held
    refine ((applies.writes redriven.undecided).find?_of_ne fun same => ?_).trans held
    obtain ⟨gap, gapFound, isGap, -⟩ := redriven.retained
    rw [← same, held] at gapFound
    obtain rfl := Option.some.inj gapFound
    rw [isGap] at settled
    cases settled
  | interrupted => cases acknowledged

theorem Processes.interruption (erp : Erp)
    (processes : Processes true call.fuel call.key call.value call.pos before outcome sent after)
    (failed : outcome.error ≠ none) :
    call.Interrupted outcome.result ⟨erp, before⟩ ⟨erp, after⟩ := by
  cases processes with
  | failed error cause => exact Or.inl rfl
  | unparsed | misdelivered | quarantined | redriven => exact absurd rfl failed
  | interrupted env payload canonical carries ownKey disposition middle decides settled notes
      final redrives admitted error =>
    exact Or.inr ⟨rfl, env, payload, canonical, disposition, middle, carries,
      (settled_iff disposition).mp settled, rfl, decides, redrives.steps⟩

end Faults

/-- Whatever calls were made before and whatever requests are lost: an acknowledged call is on
record; the visible moments account for every change, and each change of projection or
lineage is committed with the row of its event becoming applied; and a call that returns an
error is not acknowledged and leaves nothing, or its own settled decision and complete
steps of the re-drive. -/
theorem call_atomic_under_faults (erp : Erp) (calls : List Call) (call : Call) :
    let db := deliver calls ⟨erp, .empty⟩
    ((call.outcome db).result.shouldAck = true →
      call.OnRecord (call.outcome db).result (call.after db).platform) ∧
    (Moment.Links db (call.moments db) (call.after db) ∧
      ∀ before after, .stored before after ∈ call.moments db →
        after.erp = before.erp ∧ AppliesTogether before.platform after.platform) ∧
    ((call.outcome db).error ≠ none → (call.outcome db).result.shouldAck = false ∧
      call.Interrupted (call.outcome db).result db (call.after db)) := by
  intro db
  obtain ⟨log, grounded⟩ : ∃ log, Grounded (Delivered calls) log db.platform :=
    deliver_grounded erp calls
  obtain ⟨processes, sameErp⟩ := call.processes db true (by simp)
  have linked : Moment.Links db (call.moments db) (call.after db) :=
    Program.moments_linked (processRecord call.fuel call.key call.value call.pos) call.replies
      ⟨db, none, []⟩
  refine ⟨fun acknowledged => processes.onRecord (grounded.mono fun _ _ => trivial)
    (fun _ _ _ => trivial) acknowledged, ⟨linked, fun before after member => ?_⟩,
    fun failed => ⟨?_, ?_⟩⟩
  · obtain ⟨erp, stores⟩ := processRecord_shows call.fuel call.key call.value call.pos _ _ member
    exact ⟨erp, stores.appliesTogether⟩
  · cases ended : (call.outcome db).error with
    | none => exact absurd ended failed
    | some error =>
      have outcome : call.outcome db = ⟨(call.outcome db).result, some error⟩ := by
        rw [← ended]
      rw [outcome] at processes
      exact processes.unacknowledged
  · have left : call.after db = ⟨db.erp, (call.after db).platform⟩ := by rw [← sameErp]
    rw [left]
    exact processes.interruption db.erp failed

/-- Behind a retained gap, the decision on the record is durable and the re-drive is not. -/
theorem call_atomic_under_faults_sample :
    let db := deliver [ownCall (sampleDecrement sampleTenant secondEvent 2 9)] ⟨.empty, .empty⟩
    db.platform.inbox.rows.map InboxRow.disposition = [.quarantinedGap] ∧
    (cutOffCall.outcome db).result.disposition = some .applied ∧
    (cutOffCall.outcome db).result.shouldAck = false ∧
    cutOffCall.Interrupted (cutOffCall.outcome db).result db (cutOffCall.after db) := by
  obtain ⟨retained, decided, failed, -⟩ := cutOffCall_run
  exact ⟨retained, decided, (call_atomic_under_faults .empty
    [ownCall (sampleDecrement sampleTenant secondEvent 2 9)] cutOffCall).2.2 failed⟩

end SeshatOps
