/-
This file reads the decision on a record as a function of the platform tables.

`Decides` lists what one transaction of `ProcessRecord` can do. It leaves nothing open: the
tables, the envelope and its digest fix the disposition and the tables after it. The function
only compares digests and stores them, so a run is followed through it without computing one.
A call that the server serves, on an item with no gap to re-drive, does what the function says.
-/

import SeshatOps.Redrive

namespace SeshatOps

open Relational Event

/-! ### The decision as a function -/

section Functions

variable (platform : Platform) (env : Envelope) (hash canonical : Bytes)

/-- The decision on an item's event that no earlier decision settles. -/
def decideItem (quantity : QuantityDecremented) : Disposition × Platform :=
  match platform.projection.find? (env.tenantID, env.aggregateID) with
  | none =>
      if env.aggregateVersion ≠ 1 then
        (.quarantinedGap, storeInbox (versionedRow env hash .quarantinedGap 1 canonical) platform)
      else
        (.applied, storeInbox (inboxRow env hash .applied) (storeProjection
          ⟨env.tenantID, env.aggregateID, quantity.quantityAfter, env.aggregateVersion⟩ platform))
  | some current =>
      if env.aggregateVersion ≤ current.aggregateVersion then
        (.quarantinedStale, storeInbox (versionedRow env hash .quarantinedStale
          (current.aggregateVersion + 1) []) platform)
      else if current.aggregateVersion + 1 < env.aggregateVersion then
        (.quarantinedGap, storeInbox (versionedRow env hash .quarantinedGap
          (current.aggregateVersion + 1) canonical) platform)
      else if quantity.quantityBefore ≠ current.quantityOnHand then
        (.quarantinedTransition, storeInbox (inboxRow env hash .quarantinedTransition) platform)
      else
        (.applied, storeInbox (inboxRow env hash .applied) (storeProjection
          ⟨env.tenantID, env.aggregateID, quantity.quantityAfter, env.aggregateVersion⟩ platform))

/-- The decision on a hop's event that no earlier decision settles. -/
def decideHop (hop : Hop) : Disposition × Platform :=
  match platform.lineage.find? hop.key with
  | none =>
      if env.aggregateVersion ≠ 1 then
        (.quarantinedGap, storeInbox (versionedRow env hash .quarantinedGap 1 canonical) platform)
      else if platform.hasClash hop then
        (.quarantinedInvalid, storeInbox (inboxRow env hash .quarantinedInvalid) platform)
      else
        (.applied, storeInbox (inboxRow env hash .applied)
          { platform with lineage := platform.lineage.store (lineageRow env hop) })
  | some current =>
      if env.aggregateVersion ≤ current.aggregateVersion then
        if current.sourceEventID = env.eventID then
          (.duplicateNoop, storeInbox (inboxRow env hash .duplicateNoop) platform)
        else
          (.quarantinedStale, storeInbox (versionedRow env hash .quarantinedStale
            (current.aggregateVersion + 1) []) platform)
      else if current.aggregateVersion + 1 < env.aggregateVersion then
        (.quarantinedGap, storeInbox (versionedRow env hash .quarantinedGap
          (current.aggregateVersion + 1) canonical) platform)
      else
        (.quarantinedInvalid, storeInbox (versionedRow env hash .quarantinedInvalid
          (current.aggregateVersion + 1) []) platform)

/-- The decision on an event that no earlier decision settles, by the family of its payload. -/
def decideEvent : Payload → Disposition × Platform
  | .quantityDecremented quantity => decideItem platform env hash canonical quantity
  | payload =>
      match payloadHop env.tenantID payload with
      | some hop => decideHop platform env hash canonical hop
      | none => (.quarantinedInvalid, platform)

/-- The decision on an event, after the inbox row of the event if there is one. -/
def decision (payload : Payload) : Disposition × Platform :=
  match platform.inbox.find? env.eventID with
  | none => decideEvent platform env hash canonical payload
  | some existing =>
      if existing.contentHash ≠ hash then
        (.quarantinedConflict,
          storeInbox (inboxRow env existing.contentHash .quarantinedConflict) platform)
      else if existing.disposition.settled then
        (.duplicateNoop, storeInbox (inboxRow env hash .duplicateNoop) platform)
      else if existing.disposition = .quarantinedGap then
        decideEvent platform env hash canonical payload
      else (existing.disposition, platform)

end Functions

/-! ### The transaction computes the function -/

section Determined

variable {platform final : Platform} {env : Envelope} {hash canonical : Bytes} {payload : Payload}
  {disposition : Disposition}

theorem decideEvent_of_hop {hop : Hop} (described : payloadHop env.tenantID payload = some hop) :
    decideEvent platform env hash canonical payload =
      decideHop platform env hash canonical hop := by
  cases payload <;> simp_all [decideEvent, payloadHop]

theorem Applies.decideEvent_eq (valid : Valid env payload)
    (applies : Applies platform env hash canonical payload disposition final) :
    decideEvent platform env hash canonical payload = (disposition, final) := by
  have positive := valid.version.1
  cases applies with
  | gap quantity ahead =>
    rw [decideEvent, decideItem]
    unfold projectedVersion at ahead ⊢
    cases found : platform.projection.find? (env.tenantID, env.aggregateID) with
    | none =>
      simp only [found, Option.elim_none, zero_add] at ahead ⊢
      rw [if_pos (by omega)]
    | some current =>
      simp only [found, Option.elim_some] at ahead ⊢
      rw [if_neg (by omega), if_pos ahead]
  | stale quantity current found behind =>
    rw [decideEvent, decideItem, found]
    simp only [if_pos behind]
  | transition quantity current found next other =>
    rw [decideEvent, decideItem, found]
    simp only
    rw [if_neg (by omega), if_neg (by omega), if_pos other]
  | applied quantity next continues =>
    rw [decideEvent, decideItem]
    unfold projectedVersion at next
    cases found : platform.projection.find? (env.tenantID, env.aggregateID) with
    | none =>
      simp only [found, Option.elim_none, zero_add] at next ⊢
      rw [if_neg (not_not.mpr next)]
    | some current =>
      simp only [found, Option.elim_some] at next ⊢
      rw [if_neg (by omega), if_neg (by omega), if_neg (not_not.mpr (continues current found))]
  | hopGap payload hop described ahead =>
    rw [decideEvent_of_hop described, decideHop]
    unfold lineageVersion at ahead ⊢
    cases found : platform.lineage.find? hop.key with
    | none =>
      simp only [found, Option.elim_none, zero_add] at ahead ⊢
      rw [if_pos (by omega)]
    | some current =>
      simp only [found, Option.elim_some] at ahead ⊢
      rw [if_neg (by omega), if_pos ahead]
  | hopStale payload hop described current found behind foreign =>
    rw [decideEvent_of_hop described, decideHop, found]
    simp only [if_pos behind, if_neg foreign]
  | hopDuplicate payload hop described current found behind own =>
    rw [decideEvent_of_hop described, decideHop, found]
    simp only [if_pos behind, if_pos own]
  | hopInvalid payload hop described current found next =>
    rw [decideEvent_of_hop described, decideHop, found]
    simp only
    rw [if_neg (by omega), if_neg (by omega)]
  | hopApplied payload hop described first absent free =>
    rw [decideEvent_of_hop described, decideHop, absent]
    simp only [if_neg (not_not.mpr first), free, Bool.false_eq_true, if_false]
  | hopClash payload hop described first absent taken =>
    rw [decideEvent_of_hop described, decideHop, absent]
    simp only [if_neg (not_not.mpr first), taken, if_true]

/-- An event with no inbox row, or with a gap of its own digest, is decided by its version. -/
theorem decision_of_undecided (undecided : Undecided platform env hash) :
    decision platform env hash canonical payload =
      decideEvent platform env hash canonical payload := by
  rw [decision]
  cases found : platform.inbox.find? env.eventID with
  | none => rfl
  | some existing =>
    obtain ⟨same, gap⟩ := undecided existing found
    simp only [if_neg (not_not.mpr same), gap, Disposition.settled, Bool.false_eq_true, if_false,
      if_true]

/-- What the transaction can do is what the function says. -/
theorem Decides.decision_eq (valid : Valid env payload)
    (decides : Decides platform env hash canonical payload disposition final) :
    decision platform env hash canonical payload = (disposition, final) := by
  cases decides with
  | conflict existing found differs =>
    rw [decision, found]
    simp only [if_pos differs]
  | duplicate existing found same settled =>
    rw [decision, found]
    simp only [if_neg (not_not.mpr same), settled, if_true]
  | terminal existing found same unsettled noGap =>
    rw [decision, found]
    simp only [if_neg (not_not.mpr same), unsettled, Bool.false_eq_true, if_false, if_neg noGap]
  | fresh undecided disposition final applies =>
    rw [decision_of_undecided undecided]
    exact applies.decideEvent_eq valid

/-! ### A served call -/

/-- With no gap to re-drive the loop ends at once. -/
theorem Redrives.of_none {tenantID aggregateType aggregateID : Bytes} {fuel : Nat} {ended : Bool}
    {notes : List AppliedUpdate}
    (redrives : Redrives false tenantID aggregateType aggregateID fuel platform ended notes final)
    (passes : 0 < fuel) (stored : [tenantID, aggregateType, aggregateID].all storable = true)
    (none : eligibleGaps platform tenantID aggregateType aggregateID = []) :
    ended = true ∧ notes = [] ∧ final = platform := by
  have never : ∀ gap, gap ∉ eligibleGaps platform tenantID aggregateType aggregateID := by
    simp [none]
  cases redrives with
  | unfinished => omega
  | failed fuel _ cause =>
    rcases cause with lost | stuck
    · cases lost
    · cases stuck with
      | texts unfit => rw [stored] at unfit; cases unfit
      | unreadable gap eligible | conflicting gap eligible | refused gap eligible =>
        exact absurd eligible (never gap)
  | drained => exact ⟨rfl, rfl, rfl⟩
  | requarantined fuel _ gap eligible | stopped fuel _ gap eligible
  | advanced fuel _ gap eligible => exact absurd eligible (never gap)

section Served

variable {fuel : Nat} {key value : Bytes} {pos : SourcePosition} {outcome : Outcome}
  {sent : List AppliedUpdate}

/-- A served call on an admitted record makes the decision, and re-drives behind a settled one. -/
theorem Processes.served
    (processes : Processes false fuel key value pos platform outcome sent final)
    (carries : Carries value env payload canonical) (ownKey : key = envelopeKey env)
    (fits : accepts platform env (digest canonical) = true) :
    ((decision platform env (digest canonical) canonical payload).1.settled = false ∧
      outcome =
        ⟨decided env (decision platform env (digest canonical) canonical payload).1, none⟩ ∧
      final = (decision platform env (digest canonical) canonical payload).2) ∨
    ((decision platform env (digest canonical) canonical payload).1.settled = true ∧
      ∃ ended notes, Redrives false env.tenantID env.aggregateType env.aggregateID fuel
        (decision platform env (digest canonical) canonical payload).2 ended notes final ∧
      (ended = true → outcome =
        ⟨decided env (decision platform env (digest canonical) canonical payload).1, none⟩)) := by
  have admitted : admits platform key value pos = true := by
    simp only [admits, carries.parsed, if_pos ownKey, contentHash_of_canonical carries.written]
    exact fits
  rcases processes.own carries ownKey with ⟨error, -, -, cause⟩ |
    ⟨disposition, decides, unsettled, made⟩ |
    ⟨disposition, middle, ended, notes, decides, settled, redrives, made, clean⟩
  · simp [admitted] at cause
  · rw [decides.decision_eq carries.valid]
    exact Or.inl ⟨unsettled, made, rfl⟩
  · rw [decides.decision_eq carries.valid]
    refine Or.inr ⟨settled, ended, notes, redrives, ?_⟩
    rintro rfl
    cases outcome
    exact congrArg₂ Outcome.mk made (clean rfl)

/-- With no gap to re-drive, the call does what the function says. -/
theorem Processes.decision_eq
    (processes : Processes false fuel key value pos platform outcome sent final)
    (carries : Carries value env payload canonical) (ownKey : key = envelopeKey env)
    (fits : accepts platform env (digest canonical) = true)
    (stored : storable env.aggregateID = true) (passes : 0 < fuel)
    (calm : eligibleGaps (decision platform env (digest canonical) canonical payload).2
      env.tenantID env.aggregateType env.aggregateID = []) :
    outcome =
      ⟨decided env (decision platform env (digest canonical) canonical payload).1, none⟩ ∧
    final = (decision platform env (digest canonical) canonical payload).2 := by
  rcases processes.served carries ownKey fits with ⟨-, made, left⟩ |
    ⟨-, ended, notes, redrives, made⟩
  · exact ⟨made, left⟩
  · have texts : [env.tenantID, env.aggregateType, env.aggregateID].all storable = true := by
      simp [storable_uuid _ carries.valid.tenantID, carries.valid.aggregateType,
        storable_aggregateType, stored]
    obtain ⟨rfl, -, left⟩ := redrives.of_none passes texts calm
    exact ⟨made rfl, left⟩

end Served

end Determined

end SeshatOps
