/-
This file says which records the processor can decide when the server loses no request.

The re-drive loop needs one pass for each retained gap, so with that much fuel a call
ends by itself. What then keeps it from an acknowledgement is a value that a column
cannot hold, in the one row the record itself has to write: a text with U+0000, which
the contract admits in identifiers and the lenient recovery of an identity passes on,
or a count of attempts that has reached the bound of its column.
-/

import SeshatOps.Gaps

namespace SeshatOps

open Relational Event

/-! ### Enough fuel -/

/-- The number of retained gaps. -/
def gapCount (platform : Platform) : Nat :=
  platform.inbox.rows.countP fun row => row.disposition == .quarantinedGap

/-- The gap rows of one aggregate. -/
def aggregateGaps (platform : Platform) (tenantID aggregateType aggregateID : Bytes) : Nat :=
  platform.inbox.rows.countP fun row =>
    row.disposition == .quarantinedGap && row.tenantID == tenantID &&
      row.aggregateType == aggregateType && row.aggregateID == aggregateID

theorem aggregateGaps_le (platform : Platform) (tenantID aggregateType aggregateID : Bytes) :
    aggregateGaps platform tenantID aggregateType aggregateID ≤ gapCount platform := by
  refine List.countP_mono_left fun row _ counted => ?_
  simp only [Bool.and_eq_true] at counted
  exact counted.1.1.1

section Fuel

variable {delivered : Envelope → Prop} {log after : Log} {platform final : Platform}
  {tenantID aggregateType aggregateID : Bytes} {env : Envelope} {payload : Payload}
  {canonical : Bytes} {disposition : Disposition}

/-- A settled decision adds no gap. -/
theorem Writes.gapCount_le {hash : Bytes}
    (writes : Writes platform env hash canonical payload disposition final)
    (settled : disposition.settled = true) : gapCount final ≤ gapCount platform := by
  cases writes with
  | unchanged => exact le_refl _
  | quarantined _ row of unsettled noGap => exact Table.countP_store_le _ _ (by simp [noGap])
  | retained => cases settled
  | repeated | joined | advanced | linked => exact Table.countP_store_le _ _ rfl

/-- An applied re-drive turns a gap of its aggregate into an applied row. -/
theorem Redriven.aggregateGaps_lt
    (redriven : Redriven delivered tenantID aggregateType aggregateID platform env payload
      canonical)
    (applies : Applies platform env (digest canonical) canonical payload .applied final) :
    aggregateGaps final tenantID aggregateType aggregateID <
      aggregateGaps platform tenantID aggregateType aggregateID := by
  obtain ⟨gap, found, isGap, -, of⟩ := redriven.retained
  have counted : (gap.disposition == .quarantinedGap && gap.tenantID == tenantID &&
      gap.aggregateType == aggregateType && gap.aggregateID == aggregateID) = true := by
    simp [isGap, of.tenantID, of.aggregateType, of.aggregateID, redriven.sameTenant,
      redriven.sameType, redriven.sameID]
  have lower : (platform.inbox.store (inboxRow env (digest canonical) .applied)).rows.countP
      (fun row => row.disposition == .quarantinedGap && row.tenantID == tenantID &&
        row.aggregateType == aggregateType && row.aggregateID == aggregateID) <
      aggregateGaps platform tenantID aggregateType aggregateID :=
    Table.countP_store_lt _ _ found counted rfl
  cases applies with
  | applied | hopApplied =>
    rw [storeInbox_of_ne _ (by simp [inboxRow])]
    exact lower

/-- One pass for each gap of the aggregate, and one more, is enough for the loop to end by
itself. -/
theorem Drains.ended {fuel : Nat} {ended : Bool} {notes : List AppliedUpdate}
    (drains : Drains delivered false tenantID aggregateType aggregateID fuel log platform ended
      notes after final)
    (fit : [tenantID, aggregateType, aggregateID].all storable = true)
    (enough : aggregateGaps platform tenantID aggregateType aggregateID < fuel) :
    ended = true := by
  induction drains with
  | cut fuel log platform cause =>
    rcases cause with rfl | never | unfit
    · exact absurd enough (Nat.not_lt_zero _)
    · cases never
    · rw [fit] at unfit
      cases unfit
  | drained => rfl
  | stopped => rfl
  | advanced fuel log platform env payload canonical redriven next applies ended notes after final
      rest hypothesis =>
    have lower := redriven.aggregateGaps_lt applies
    exact hypothesis (by omega)

end Fuel

/-! ### Recordable records -/

/-- Every value that a record makes the processor store fits its column. A record that failed
to parse is stored with its recovered identity, under a count of attempts. A record
under a foreign key is stored with its identifiers. A record under its own key that an
earlier decision has quarantined for good is not stored again; any other is stored with
its identifiers, and, where it is the first event of a hop, with its lineage row. -/
def Recordable (platform : Platform) (key value : Bytes) (pos : SourcePosition) : Prop :=
  match parse value with
  | .error error =>
      (∀ text ∈ (parseFailureRow value (recordPosition pos) error).texts,
        storable text = true) ∧
      ∀ existing, platform.failures.find? (recordPosition pos) = some existing →
        existing.attemptCount < maxInteger
  | .ok env =>
      if key = envelopeKey env then
        (∃ existing, platform.inbox.find? env.eventID = some existing ∧
          contentHash env = .ok existing.contentHash ∧
          existing.disposition.settled = false ∧ existing.disposition ≠ .quarantinedGap) ∨
        (storable env.aggregateID = true ∧
          ((∀ existing, platform.inbox.find? env.eventID = some existing →
            contentHash env = .ok existing.contentHash ∧
              existing.disposition = .quarantinedGap) →
          ∀ hop, env.payload.bind (payloadHop env.tenantID) = some hop →
            env.aggregateVersion = 1 → platform.lineage.find? hop.key = none →
            ∀ text ∈ (lineageRow env hop).texts, storable text = true))
      else storable env.aggregateID = true

section Admission

variable {delivered : Envelope → Prop} {log : Log} {platform final : Platform}

theorem hopAccepts_iff (env : Envelope) :
    hopAccepts platform env = true ↔
      ∀ hop, env.payload.bind (payloadHop env.tenantID) = some hop →
        env.aggregateVersion = 1 → platform.lineage.find? hop.key = none →
        ∀ text ∈ (lineageRow env hop).texts, storable text = true := by
  unfold hopAccepts
  cases described : env.payload.bind (payloadHop env.tenantID) with
  | none => simp
  | some hop =>
    simp only [Option.some.injEq, forall_eq']
    split_ifs with inserts
    · simp [inserts]
    · exact ⟨fun _ first absent => absurd ⟨first, absent⟩ inserts, fun _ => rfl⟩

/-- In a grounded state the stored hashes fit, so `accepts` asks for the event's own values. -/
theorem accepts_iff (grounded : Grounded delivered log platform) (env : Envelope) (hash : Bytes) :
    accepts platform env hash = true ↔
      (∃ existing, platform.inbox.find? env.eventID = some existing ∧
        existing.contentHash = hash ∧ existing.disposition.settled = false ∧
        existing.disposition ≠ .quarantinedGap) ∨
      (storable env.aggregateID = true ∧
        (Undecided platform env hash → hopAccepts platform env = true)) := by
  cases found : platform.inbox.find? env.eventID with
  | none => simp [accepts, found, Undecided]
  | some existing =>
    obtain ⟨bytes, stored⟩ :=
      grounded.hashes existing (Table.find?_eq_some_iff.mp found).1
    have fits : storable existing.contentHash = true := stored ▸ storable_digest bytes
    have undecided : Undecided platform env hash ↔
        existing.contentHash = hash ∧ existing.disposition = .quarantinedGap := by
      simp [Undecided, found]
    simp only [accepts, found, Option.some.injEq, exists_eq_left', undecided]
    split_ifs with differs settled gap
    · simp [differs, fits]
    · have noGap : existing.disposition ≠ .quarantinedGap := by
        intro isGap
        rw [isGap] at settled
        cases settled
      simp [settled, noGap]
    · simp [not_not.mp differs, gap]
    · simp [not_not.mp differs, Bool.eq_false_of_not_eq_true settled, gap]

/-- An event that was quarantined for good is never settled. -/
theorem Decides.terminal_unsettled {env : Envelope} {hash canonical : Bytes} {payload : Payload}
    {disposition : Disposition} {existing : InboxRow}
    (decides : Decides platform env hash canonical payload disposition final)
    (found : platform.inbox.find? env.eventID = some existing)
    (unsettled : existing.disposition.settled = false)
    (noGap : existing.disposition ≠ .quarantinedGap) : disposition.settled = false := by
  cases decides with
  | conflict => rfl
  | duplicate other present same settled =>
    rw [found] at present
    cases present
    rw [unsettled] at settled
    cases settled
  | terminal other present same otherUnsettled => exact otherUnsettled
  | fresh undecided => exact absurd (undecided existing found).2 noGap

theorem admits_iff (grounded : Grounded delivered log platform) (key value : Bytes)
    (pos : SourcePosition) :
    admits platform key value pos = true ↔ Recordable platform key value pos := by
  unfold admits Recordable
  cases parsed : parse value with
  | error error =>
    have source : (parseFailureRow value (recordPosition pos) error).source =
        recordPosition pos := rfl
    simp only [source, Bool.and_eq_true, List.all_eq_true, decide_eq_true_eq]
    refine and_congr Iff.rfl ?_
    cases found : platform.failures.find? (recordPosition pos) with
    | none => simp [mergeFailure, parseFailureRow, maxInteger]
    | some existing =>
      simp only [mergeFailure, Option.some.injEq, forall_eq']
      omega
  | ok env =>
    obtain ⟨payload, canonical, valid, written⟩ := parse_ok parsed
    have hashed := contentHash_of_canonical written
    have hash : ((contentHash env).toOption).getD [] = digest canonical := by
      rw [hashed]
      rfl
    have same : ∀ existing : InboxRow, contentHash env = .ok existing.contentHash ↔
        existing.contentHash = digest canonical := by
      intro existing
      rw [hashed]
      exact ⟨fun equal => (Except.ok.inj equal).symm, fun equal => by rw [equal]⟩
    simp only [hash]
    split_ifs with ownKey
    · rw [accepts_iff grounded, hopAccepts_iff]
      simp only [same, Undecided]
    · exact Iff.rfl

/-- The aggregate of an admitted event that is settled can be a parameter of the re-drive. -/
theorem Decides.fits {env : Envelope} {payload : Payload} {canonical : Bytes}
    {disposition : Disposition} {key value : Bytes} {pos : SourcePosition}
    (decides : Decides platform env (digest canonical) canonical payload disposition final)
    (settled : disposition.settled = true) (carries : Carries value env payload canonical)
    (ownKey : key = envelopeKey env) (admitted : admits platform key value pos = true)
    (grounded : Grounded delivered log platform) :
    [env.tenantID, env.aggregateType, env.aggregateID].all storable = true := by
  have fit : storable env.aggregateID = true := by
    have recordable := (admits_iff grounded key value pos).mp admitted
    simp only [Recordable, carries.parsed, if_pos ownKey] at recordable
    rcases recordable with ⟨existing, found, same, unsettled, noGap⟩ | ⟨fit, -⟩
    · exact absurd settled (by simp [decides.terminal_unsettled found unsettled noGap])
    · exact fit
  simp [storable_uuid _ carries.valid.tenantID, carries.valid.aggregateType,
    storable_aggregateType, fit]

/-- A call that no request is lost to, with fuel for every gap, is acknowledged exactly when its
record can be stored. -/
theorem Processes.acknowledged_iff {fuel : Nat} {key value : Bytes} {pos : SourcePosition}
    {outcome : Outcome} {sent : List AppliedUpdate}
    (processes : Processes false fuel key value pos platform outcome sent final)
    (grounded : Grounded delivered log platform)
    (known : ∀ env, parse value = .ok env → key = envelopeKey env → delivered env)
    (enough : gapCount platform < fuel) :
    outcome.result.shouldAck = true ↔ admits platform key value pos = true := by
  cases processes with
  | failed error cause =>
    have refused : admits platform key value pos = false :=
      cause.resolve_left (by decide)
    simp [refused]
  | unparsed error refused admitted => simp [admitted]
  | misdelivered env payload canonical carries otherKey admitted => simp [decided, admitted]
  | quarantined env payload canonical carries ownKey disposition final decides unsettled admitted =>
    simp [decided, admitted]
  | redriven env payload canonical carries ownKey disposition middle decides settled notes final
      redrives admitted => simp [decided, admitted]
  | interrupted env payload canonical carries ownKey disposition middle decides settled notes
      final redrives admitted error =>
    -- The loop behind a settled event cannot be cut off.
    have between := grounded.decides (known env carries.parsed ownKey) carries decides
    obtain ⟨after, drains, -, -⟩ := redrives.drains between
    have fits := decides.fits settled carries ownKey admitted grounded
    have fewer := aggregateGaps_le middle env.tenantID env.aggregateType env.aggregateID
    have lower := decides.writes.gapCount_le settled
    cases drains.ended fits (by omega)

end Admission

/-- Without a lost request, and with fuel for every gap, a call in a reachable state is
acknowledged exactly when its record can be stored. -/
theorem acknowledged_iff_recordable (erp : Erp) (calls : List Call) (call : Call)
    (served : call.Served)
    (enough : gapCount (deliver calls ⟨erp, .empty⟩).platform < call.fuel) :
    (call.outcome (deliver calls ⟨erp, .empty⟩)).result.shouldAck = true ↔
      Recordable (deliver calls ⟨erp, .empty⟩).platform call.key call.value call.pos := by
  obtain ⟨log, grounded⟩ := deliver_grounded erp calls
  have reachable := grounded.mono fun env known => known.append [call]
  obtain ⟨processes, -⟩ := call.processes (deliver calls ⟨erp, .empty⟩) false fun _ => served
  rw [← admits_iff reachable]
  exact processes.acknowledged_iff reachable
    (fun env parsed ownKey => ⟨call, by simp, parsed, ownKey⟩) enough

/-- The first version of the sample item is acknowledged before the gap behind it. -/
theorem acknowledged_iff_recordable_sample :
    gapCount (deliver [ownCall (sampleDecrement sampleTenant secondEvent 2 9)]
      ⟨.empty, .empty⟩).platform = 1 ∧
    Recordable (deliver [ownCall (sampleDecrement sampleTenant secondEvent 2 9)]
      ⟨.empty, .empty⟩).platform (ownCall (sampleDecrement sampleTenant sampleEvent 1 10)).key
      (ownCall (sampleDecrement sampleTenant sampleEvent 1 10)).value
      (ownCall (sampleDecrement sampleTenant sampleEvent 1 10)).pos := by
  obtain ⟨retained, -, -, -, -, -, ⟨-, ⟨acked, -⟩, -⟩, -⟩ := cutOffCall_run
  have one : gapCount (deliver [ownCall (sampleDecrement sampleTenant secondEvent 2 9)]
      ⟨.empty, .empty⟩).platform = 1 := by
    obtain ⟨row, only, isGap⟩ := List.map_eq_singleton_iff.mp retained
    rw [gapCount, only, List.countP_singleton, isGap]
    rfl
  rw [← deliver_one] at acked
  constructor
  · exact one
  · rw [← acknowledged_iff_recordable .empty
      [ownCall (sampleDecrement sampleTenant secondEvent 2 9)]
      (ownCall (sampleDecrement sampleTenant sampleEvent 1 10)) List.not_mem_nil
      (by rw [one]; decide)]
    exact acked

/-- A value that is no event and carries U+0000 where the recovery looks for an identifier. -/
def nullIdentity : Bytes := ascii "\x7b\"event_id\":\"\\u0000\"\x7d"

set_option maxRecDepth 20000 in
/-- The failure row of such a value is refused each time, so the record is never acknowledged. -/
theorem null_identity_wedges :
    ¬ ∀ (erp : Erp) (calls : List Call) (call : Call), call.Served →
      gapCount (deliver calls ⟨erp, .empty⟩).platform < call.fuel →
      (call.outcome (deliver calls ⟨erp, .empty⟩)).result.shouldAck = true := by
  intro acknowledged
  have acked := acknowledged .empty [] ⟨1, [], nullIdentity, ⟨[], 0, 0⟩, []⟩ List.not_mem_nil
    (by decide)
  exact absurd acked (by decide +kernel)

end SeshatOps
