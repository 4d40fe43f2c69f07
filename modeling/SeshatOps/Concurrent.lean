/-
This file runs two calls of `ProcessRecord` on one record at the same time, as when the
consumer and an operator's replay overlap.

A select for update locks the inbox row of the event only where there is one. With a
retained row the calls queue up behind it: the first applies the event and the second
finds it applied. Without one both calls may pass the lookup before either writes; the
second then finds the projection at its own version and quarantines the event as stale,
over the row that says it was applied.
-/

import SeshatOps.Admission
import SeshatOps.Interleaving

namespace SeshatOps

open Relational Event

/-! ### The invariant of an applied event -/

/-- The event is applied and its inbox row says so, and retained gaps are sound. -/
structure Guarded (env : Envelope) (hash : Bytes) (db : Database) : Prop where
  entry : ∃ row, db.platform.inbox.find? env.eventID = some row ∧ row.contentHash = hash ∧
    row.disposition.settled = true
  shown : ∃ row, db.platform.projection.find? (env.tenantID, env.aggregateID) = some row ∧
    env.aggregateVersion ≤ row.aggregateVersion
  gaps : ∀ row ∈ db.platform.inbox.rows, row.disposition = .quarantinedGap →
    ∃ env payload canonical, Retains (fun _ => True) row env payload canonical

/-- An inbox row that may be written while the event is guarded. -/
structure Harmless (env : Envelope) (hash : Bytes) (row : InboxRow) : Prop where
  entry : row.eventID = env.eventID → row.contentHash = hash ∧ row.disposition.settled = true
  gap : row.disposition = .quarantinedGap →
    ∃ env payload canonical, Retains (fun _ => True) row env payload canonical

section Guarding

variable {env : Envelope} {hash : Bytes} {db : Database}

theorem Guarded.storeInbox {row : InboxRow} (guarded : Guarded env hash db)
    (harmless : Harmless env hash row) : Guarded env hash (db.onPlatform (storeInbox row)) := by
  have sameID : (mergeInbox row (db.platform.inbox.find? row.eventID)).eventID = row.eventID := by
    cases db.platform.inbox.find? row.eventID with
    | none => rfl
    | some existing =>
      rw [mergeInbox]
      split_ifs <;> rfl
  by_cases conflict : row.disposition = .quarantinedConflict
  · -- A conflict is about another event, and it is no gap.
    have different : row.eventID ≠ env.eventID := by
      intro own
      have settled := (harmless.entry own).2
      rw [conflict] at settled
      cases settled
    obtain ⟨entry, found, facts⟩ := guarded.entry
    refine ⟨⟨entry, ?_, facts⟩, guarded.shown, Table.forall_mem_store guarded.gaps fun gap => ?_⟩
    · exact (Table.find?_store_of_ne _ fun same => different (sameID.symm.trans same.symm)).trans
        found
    · cases found : db.platform.inbox.find? row.eventID <;>
        simp [found, mergeInbox, conflict] at gap
  · rw [Database.onPlatform, storeInbox_of_ne _ conflict]
    refine ⟨?_, guarded.shown, Table.forall_mem_store guarded.gaps harmless.gap⟩
    by_cases own : row.eventID = env.eventID
    · exact ⟨row, own ▸ Table.find?_store_self _ row, harmless.entry own⟩
    · obtain ⟨entry, found, facts⟩ := guarded.entry
      exact ⟨entry, (Table.find?_store_of_ne _ fun same => own same.symm).trans found, facts⟩

theorem Guarded.storeProjection (guarded : Guarded env hash db) (row : ProjectionRow)
    (later : row.key = (env.tenantID, env.aggregateID) →
      env.aggregateVersion ≤ row.aggregateVersion) :
    Guarded env hash (db.onPlatform (storeProjection row)) := by
  refine ⟨guarded.entry, ?_, guarded.gaps⟩
  by_cases own : row.key = (env.tenantID, env.aggregateID)
  · exact ⟨row, own ▸ Table.find?_store_self _ row, later own⟩
  · obtain ⟨current, found, bound⟩ := guarded.shown
    refine ⟨current, ?_, bound⟩
    simp only [Database.onPlatform_platform, SeshatOps.storeProjection]
    rw [Table.find?_store_of_ne _ fun same => own same.symm]
    exact found

end Guarding

/-! ### Programs that keep the event guarded -/

section Keeping

variable {Value : Type} {env other : Envelope} {hash canonical : Bytes}
  {allowed : AppliedUpdate → Prop} {ends : Except ProcessError Value → Prop}

theorem record_keeps {row : InboxRow} (harmless : Harmless env hash row)
    (continuation : Disposition → Action Value) (failed : ∀ error, ends (.error error))
    (rest : Program.Keeps (Guarded env hash) allowed ends (continuation row.disposition)) :
    Program.Keeps (Guarded env hash) allowed ends (record row >>= continuation) := by
  rw [record, upsertInbox, upsertInboxStatement, bind_assoc]
  refine Program.keeps_exec _ _ _ (fun _ => failed _) fun choice db answer change _ executed => ?_
  rw [(command_executed executed).2]
  exact ⟨fun _ guarded => guarded.storeInbox harmless, rest⟩

theorem recordAndCommit_keeps {env' : Envelope} {ends : Except ProcessError Result → Prop}
    {row : InboxRow} (harmless : Harmless env hash row) (failed : ∀ error, ends (.error error))
    (done : ends (.ok (decided env' row.disposition))) :
    Program.Keeps (Guarded env hash) allowed ends (recordAndCommit env' row) := by
  rw [recordAndCommit]
  exact record_keeps harmless _ failed (Program.keeps_commitOr _ _ (fun _ => failed _) done)

/-- A row of another event is harmless when it is no gap. -/
theorem Harmless.of_other {row : InboxRow} (different : row.eventID ≠ env.eventID)
    (noGap : row.disposition ≠ .quarantinedGap) : Harmless env hash row :=
  ⟨fun same => absurd same different, fun gap => absurd gap noGap⟩

/-- An inventory event that is not the guarded one. -/
structure Apart (env other : Envelope) (quantity : QuantityDecremented) (canonical : Bytes) :
    Prop where
  different : other.eventID ≠ env.eventID
  valid : Valid other (.quantityDecremented quantity)
  written : canonicalBytes other = .ok canonical

theorem Apart.gapRow {quantity : QuantityDecremented} (apart : Apart env other quantity canonical)
    (expected : Int) :
    Harmless env hash
      (versionedRow other (digest canonical) .quarantinedGap expected canonical) := by
  refine ⟨fun same => absurd same apart.different, fun _ => ⟨other, _, canonical, trivial,
    apart.valid, apart.written, versionedRow_of _ _ _, rfl, ?_⟩⟩
  have filled := canonicalBytes_ne_nil other canonical apart.written
  simp [versionedRow, nullBytes, filled]

theorem applyProjection_keeps {quantity : QuantityDecremented}
    (apart : Apart env other quantity canonical) (continuation : Disposition → Action Value)
    (failed : ∀ error, ends (.error error))
    (rest : ∀ disposition,
      Program.Keeps (Guarded env hash) allowed ends (continuation disposition)) :
    Program.Keeps (Guarded env hash) allowed ends
      (applyProjection other (digest canonical) canonical >>= continuation) := by
  have quiet : ∀ row : InboxRow, row.eventID = other.eventID → row.disposition ≠ .quarantinedGap →
      Program.Keeps (Guarded env hash) allowed ends (record row >>= continuation) :=
    fun row itsID noGap => record_keeps (.of_other (itsID ▸ apart.different) noGap) _ failed
      (rest _)
  have gap : ∀ expected, Program.Keeps (Guarded env hash) allowed ends
      (record (versionedRow other (digest canonical) .quarantinedGap expected canonical) >>=
        continuation) :=
    fun expected => record_keeps (apart.gapRow expected) _ failed (rest _)
  rw [applyProjection, asQuantityDecremented_of_valid apart.valid]
  simp only [bind_assoc]
  refine Program.keeps_exec _ _ _ (fun _ => failed _) fun choice db answer change guarded
    executed => ?_
  obtain ⟨-, rfl, rfl⟩ := query_executed executed
  refine ⟨fun _ holds => holds, ?_⟩
  obtain ⟨shown, present, bound⟩ := guarded.shown
  cases found : db.platform.projection.find? (other.tenantID, other.aggregateID) with
  | none =>
    dsimp only
    split_ifs with later
    · exact gap 1
    · rw [bind_assoc, insertProjection, insertProjectionStatement]
      refine Program.keeps_exec _ _ _ (fun _ => failed _) fun choice db answer change _
        inserted => ?_
      rw [(command_executed inserted).2]
      refine ⟨fun _ holds => holds.storeProjection _ fun same => ?_,
        quiet _ rfl (by simp [inboxRow])⟩
      rw [ProjectionRow.key_mk] at same
      rw [same, present] at found
      cases found
  | some current =>
    dsimp only
    split_ifs with behind ahead unequal arithmetic
    · exact quiet _ rfl (by simp [versionedRow, inboxRow])
    · exact gap _
    · exact quiet _ rfl (by simp [inboxRow])
    · exact quiet _ rfl (by simp [inboxRow])
    · rw [bind_assoc, updateProjection, updateProjectionStatement]
      refine Program.keeps_exec _ _ _ (fun _ => failed _) fun choice db answer change _
        updated => ?_
      rw [(command_executed updated).2]
      refine ⟨fun store holds => ?_, quiet _ rfl (by simp [inboxRow])⟩
      have stored := holds.storeProjection ⟨other.tenantID, other.aggregateID,
        quantity.quantityAfter, other.aggregateVersion⟩ fun same => by
          rw [ProjectionRow.key_mk] at same
          rw [same, present] at found
          cases found
          show env.aggregateVersion ≤ other.aggregateVersion
          omega
      simp only [Database.onPlatform]
      split_ifs
      · exact stored
      · exact holds

theorem applyAndCommit_keeps {quantity : QuantityDecremented}
    {ends : Except ProcessError Result → Prop} (apart : Apart env other quantity canonical)
    (all : ∀ result, ends result)
    (quiet : ∀ note : AppliedUpdate, note.eventID ≠ env.eventID → allowed note) :
    Program.Keeps (Guarded env hash) allowed ends
      (applyAndCommit other (digest canonical) canonical) := by
  have type : other.eventType = eventTypeQuantityDecremented := apart.valid.fits.eventType
  rw [applyAndCommit, applyEvent, if_pos type]
  refine applyProjection_keeps apart _ (fun _ => all _) fun disposition => ?_
  refine Program.keeps_commitOr _ _ (fun _ => all _) ?_
  split_ifs
  · rw [asQuantityDecremented_of_valid apart.valid]
    exact ⟨quiet _ apart.different, all _⟩
  · exact all _

/-- The transaction of a valid envelope, behind the computation of its hash. -/
theorem processValidated_eq (written : canonicalBytes other = .ok canonical) :
    processValidated other = .inTransaction (.transient .begin) do
      match ← lockInbox other.eventID with
      | none => applyAndCommit other (digest canonical) canonical
      | some existing =>
          if existing.contentHash ≠ digest canonical then
            recordAndCommit other (inboxRow other existing.contentHash .quarantinedConflict)
          else if existing.disposition.settled then
            recordAndCommit other (inboxRow other (digest canonical) .duplicateNoop)
          else if existing.disposition = .quarantinedGap then
            applyAndCommit other (digest canonical) canonical
          else do
            commitWithHook
            return decided other existing.disposition := by
  rw [processValidated, contentHash_of_canonical written, written]
  rfl

/-- The transaction of another event leaves the guarded one alone. -/
theorem processValidated_keeps {quantity : QuantityDecremented}
    {ends : Except ProcessError Result → Prop} (apart : Apart env other quantity canonical)
    (all : ∀ result, ends result)
    (quiet : ∀ note : AppliedUpdate, note.eventID ≠ env.eventID → allowed note) :
    Program.Keeps (Guarded env hash) allowed ends (processValidated other) := by
  rw [processValidated_eq apart.written]
  refine Program.keeps_inTransaction _ _ (fun _ => all _) ?_
  refine Program.keeps_exec _ _ _ (fun _ => all _) fun choice db answer change _ executed => ?_
  obtain ⟨-, rfl, rfl⟩ := query_executed executed
  refine ⟨fun _ holds => holds, ?_⟩
  have recorded : ∀ row : InboxRow, row.eventID = other.eventID →
      row.disposition ≠ .quarantinedGap →
      Program.Keeps (Guarded env hash) allowed ends (recordAndCommit other row) :=
    fun row itsID noGap => recordAndCommit_keeps (.of_other (itsID ▸ apart.different) noGap)
      (fun _ => all _) (all _)
  cases db.platform.inbox.find? other.eventID with
  | none => exact applyAndCommit_keeps apart all quiet
  | some existing =>
    dsimp only
    split_ifs
    · exact recorded _ rfl (by simp [inboxRow])
    · exact recorded _ rfl (by simp [inboxRow])
    · exact applyAndCommit_keeps apart all quiet
    · exact Program.keeps_commitOr _ _ (fun _ => all _) (all _)

/-- The transaction of the guarded event finds it settled. -/
theorem processValidated_keeps_own {ends : Except ProcessError Result → Prop}
    (written : canonicalBytes env = .ok canonical) (failed : ∀ error, ends (.error error))
    (repeated : ends (.ok (decided env .duplicateNoop))) :
    Program.Keeps (Guarded env (digest canonical)) allowed ends (processValidated env) := by
  rw [processValidated_eq written]
  refine Program.keeps_inTransaction _ _ (fun _ => failed _) ?_
  refine Program.keeps_exec _ _ _ (fun _ => failed _) fun choice db answer change guarded
    executed => ?_
  obtain ⟨-, rfl, rfl⟩ := query_executed executed
  obtain ⟨row, found, same, settled⟩ := guarded.entry
  refine ⟨fun _ holds => holds, ?_⟩
  rw [found]
  simp only [same, settled, ne_eq, not_true_eq_false, if_false, if_true]
  exact recordAndCommit_keeps ⟨fun _ => ⟨rfl, rfl⟩, fun gap => by cases gap⟩ failed repeated

/-- A re-driven gap is an inventory event other than the guarded one. -/
theorem Guarded.apart {db : Database} {tenantID aggregateID : Bytes} {row : InboxRow}
    (guarded : Guarded env hash db)
    (eligible : row ∈ eligibleGaps db.platform tenantID aggregateTypeInventoryItem aggregateID) :
    ∃ other quantity canonical, Apart env other quantity canonical ∧
      row.eventBytes = some canonical ∧ row.contentHash = digest canonical := by
  obtain ⟨-, member, -, sameType, -, isGap, -⟩ := (mem_eligibleGaps row).mp eligible
  obtain ⟨other, payload, canonical, retains⟩ := guarded.gaps row member isGap
  obtain ⟨quantity, rfl⟩ := quantity_of_inventory retains.valid
    (retains.of.aggregateType.symm.trans sameType)
  refine ⟨other, quantity, canonical, ⟨?_, retains.valid, retains.written⟩, retains.bytes,
    retains.hash⟩
  intro same
  obtain ⟨entry, found, -, settled⟩ := guarded.entry
  have present := Table.find?_eq_some_iff.mpr ⟨member, retains.of.eventID.trans same⟩
  rw [found] at present
  cases present
  rw [isGap] at settled
  cases settled

/-- The re-drive leaves the guarded event alone. -/
theorem redriveGaps_keeps {ends : Except ProcessError Unit → Prop} (all : ∀ result, ends result)
    (quiet : ∀ note : AppliedUpdate, note.eventID ≠ env.eventID → allowed note)
    (tenantID aggregateID : Bytes) (fuel : Nat) :
    Program.Keeps (Guarded env hash) allowed ends
      (redriveGaps tenantID aggregateTypeInventoryItem aggregateID fuel) := by
  induction fuel with
  | zero => exact all _
  | succ fuel hypothesis =>
    rw [redriveGaps]
    refine Program.keeps_exec _ _ _ (fun _ => all _) fun choice db answer change guarded
      executed => ?_
    obtain ⟨-, rfl, rfl⟩ := query_executed executed
    refine ⟨fun _ holds => holds, ?_⟩
    dsimp only
    split
    · exact all _
    · rename_i gap selected
      obtain ⟨other, quantity, canonical, apart, bytes, sameHash⟩ :=
        guarded.apart (List.mem_of_getElem? selected)
      have parsed := parse_canonicalBytes other canonical apart.written
      have hashed := contentHash_of_canonical apart.written
      rw [bytes, Option.getD_some, parsed]
      simp only [hashed, checked]
      show Program.Keeps _ _ _ (ite (digest canonical ≠ gap.contentHash) _ _)
      rw [if_neg (not_not.mpr sameHash.symm)]
      refine Program.keeps_bind _ _ (processValidated_keeps apart ?_ quiet)
      rintro (error | result)
      · exact all _
      · show Program.Keeps _ _ _ (ite _ _ _)
        split_ifs
        · exact all _
        · exact hypothesis

end Keeping

/-! ### The call on a guarded event -/

/-- The outcome reports no quarantine. -/
def Unquarantined : Except ProcessError Outcome → Prop :=
  Program.Returns
    (fun outcome => ∀ disposition, outcome.result.disposition = some disposition →
      disposition.settled = true)
    fun _ => False

section Calls

variable {env : Envelope} {canonical : Bytes}

/-- The announcement of the event itself. -/
def Announces (env : Envelope) (note : AppliedUpdate) : Prop := note.eventID = env.eventID

instance (env : Envelope) : DecidablePred (Announces env) :=
  fun note => inferInstanceAs (Decidable (note.eventID = env.eventID))

/-- What follows the transaction of the event, when that settled it. -/
theorem processKeyed_rest_keeps (inventory : env.aggregateType = aggregateTypeInventoryItem)
    (hash : Bytes) (fuel : Nat) (disposition : Disposition)
    (settled : disposition.settled = true) :
    Program.Keeps (Guarded env hash) (fun note => ¬ Announces env note) Unquarantined
      (if (decided env disposition).disposition = some .applied ∨
          (decided env disposition).disposition = some .duplicateNoop then do
        match ← (redriveGaps env.tenantID env.aggregateType env.aggregateID fuel).attempt with
        | .error error =>
            return ⟨{ decided env disposition with shouldAck := false }, some (.gapRedrive error)⟩
        | .ok () => return ⟨decided env disposition, none⟩
      else return ⟨decided env disposition, none⟩) := by
  have reports : ∀ other, (decided env disposition).disposition = some other →
      other.settled = true := by
    rintro _ ⟨⟩
    exact settled
  rw [inventory]
  split_ifs
  · refine Program.keeps_bind _ _ (Program.keeps_attempt _ (redriveGaps_keeps ?_ ?_ _ _ fuel))
    · rintro (error | value)
      · exact reports
      · exact reports
    · exact fun note different => different
  · exact reports

theorem processKeyed_keeps (inventory : env.aggregateType = aggregateTypeInventoryItem)
    (written : canonicalBytes env = .ok canonical) (fuel : Nat) :
    Program.Keeps (Guarded env (digest canonical)) (fun note => ¬ Announces env note)
      Unquarantined (processKeyed fuel env) := by
  rw [processKeyed]
  refine Program.keeps_bind _ _ (Program.keeps_attempt _ (processValidated_keeps_own written ?_ ?_))
  · intro error disposition none
    cases none
  · exact processKeyed_rest_keeps inventory _ fuel .duplicateNoop rfl

end Calls

/-! ### The call on a retained event -/

/-- An inventory event that a call applies. -/
structure Applicable (env : Envelope) (quantity : QuantityDecremented) (canonical : Bytes)
    (db : Database) : Prop where
  valid : Valid env (.quantityDecremented quantity)
  written : canonicalBytes env = .ok canonical
  fit : storable env.aggregateID = true
  undecided : Undecided db.platform env (digest canonical)
  next : env.aggregateVersion =
    projectedVersion db.platform (env.tenantID, env.aggregateID) + 1
  continues : ∀ current,
    db.platform.projection.find? (env.tenantID, env.aggregateID) = some current →
      quantity.quantityBefore = current.quantityOnHand

/-- A row of the event that is retained as a gap, in an inbox whose gaps are sound. -/
structure Ripe (env : Envelope) (quantity : QuantityDecremented) (canonical : Bytes)
    (db : Database) : Prop extends Applicable env quantity canonical db where
  entry : ∃ row, db.platform.inbox.find? env.eventID = some row
  gaps : ∀ row ∈ db.platform.inbox.rows, row.disposition = .quarantinedGap →
    ∃ env payload canonical, Retains (fun _ => True) row env payload canonical

section CriticalStatements

variable {Answer Value : Type} {store : Database} {invariant : Database → Prop}
  {marked : AppliedUpdate → Prop} {write : Database → Database}
  {ends : Except ProcessError Value → Prop}

theorem critical_query (texts : List Bytes) (locks : Database → List Lock)
    (read : Nat → Database → Answer) (failure : SqlError → ProcessError)
    (continuation : Answer → Action Value) (fit : texts.all storable = true)
    (rest : ∀ choice, Program.Critical store invariant marked ends
      (continuation (read choice (write store))) write) :
    Program.Critical store invariant marked ends
      (Program.exec (query texts locks read) failure >>= continuation) write :=
  Program.critical_exec _ _ _ fun choice =>
    ⟨read choice (write store), id, by simp [query, statement, fit], rest choice⟩

theorem critical_command (texts : List Bytes) (locks : Database → List Lock)
    (refusal : Database → Option SqlError) (update : Platform → Platform)
    (failure : SqlError → ProcessError) (continuation : Unit → Action Value)
    (fit : texts.all storable = true) (admitted : refusal (write store) = none)
    (rest : Program.Critical store invariant marked ends (continuation ())
      fun db => (write db).onPlatform update) :
    Program.Critical store invariant marked ends
      (Program.exec (command texts locks refusal update) failure >>= continuation) write :=
  Program.critical_exec _ _ _ fun _ =>
    ⟨(), Database.onPlatform update, by simp [command, statement, fit, admitted], rest⟩

end CriticalStatements

section Retained

variable {env : Envelope} {quantity : QuantityDecremented} {canonical : Bytes} {db : Database}

/-- Applying the event establishes what the calls behind it keep. -/
theorem Ripe.guarded (ripe : Ripe env quantity canonical db) (row : ProjectionRow)
    (itsKey : row.key = (env.tenantID, env.aggregateID))
    (version : row.aggregateVersion = env.aggregateVersion) :
    Guarded env (digest canonical) ((db.onPlatform (storeProjection row)).onPlatform
      (storeInbox (inboxRow env (digest canonical) .applied))) := by
  have stored : storeInbox (inboxRow env (digest canonical) .applied)
      (storeProjection row db.platform) =
      { storeProjection row db.platform with
        inbox := db.platform.inbox.store (inboxRow env (digest canonical) .applied) } :=
    storeInbox_of_ne _ (by simp [inboxRow])
  refine ⟨⟨inboxRow env (digest canonical) .applied, ?_, rfl, rfl⟩, ⟨row, ?_, version.ge⟩, ?_⟩
  · simp only [Database.onPlatform_platform, stored]
    exact Table.find?_store_self _ (inboxRow env (digest canonical) .applied)
  · simp only [Database.onPlatform_platform, stored]
    exact itsKey ▸ Table.find?_store_self _ row
  · simp only [Database.onPlatform_platform, stored]
    exact Table.forall_mem_store ripe.gaps fun gap => by cases gap

/-- The row that the event writes to the projection. -/
def projectionRow (env : Envelope) (quantity : QuantityDecremented) : ProjectionRow :=
  ⟨env.tenantID, env.aggregateID, quantity.quantityAfter, env.aggregateVersion⟩

/-- The inbox row, the commit and the announcement behind the write to the projection. -/
theorem Ripe.record_critical (ripe : Ripe env quantity canonical db) {write : Database → Database}
    (projected : write db = db.onPlatform (storeProjection (projectionRow env quantity)))
    (continuation : Disposition → Action Result) {ends : Except ProcessError Result → Prop}
    (rest : ∀ write : Database → Database, Guarded env (digest canonical) (write db) →
      Program.Critical db (Guarded env (digest canonical)) (Announces env) ends
        (continuation .applied) write) :
    Program.Critical db (Guarded env (digest canonical)) (Announces env) ends
      (record (inboxRow env (digest canonical) .applied) >>= continuation) write := by
  rw [record, bind_assoc]
  refine critical_command _ _ _ _ _ _ ?_ (if_neg (not_lt.mpr ripe.valid.version.1)) (rest _ ?_)
  · simp [inboxRow, storable_uuid _ ripe.valid.eventID, storable_uuid _ ripe.valid.tenantID,
      ripe.valid.aggregateType, storable_aggregateType, storable_digest, ripe.fit]
  · rw [projected]
    exact ripe.guarded _ rfl rfl

/-- The rest of the transaction that holds the lock applies the event. -/
theorem Ripe.applyAndCommit_critical (ripe : Ripe env quantity canonical db)
    {ends : Except ProcessError Result → Prop} (done : ends (.ok (decided env .applied))) :
    Program.Critical db (Guarded env (digest canonical)) (Announces env) ends
      (applyAndCommit env (digest canonical) canonical) id := by
  have type : env.eventType = eventTypeQuantityDecremented := ripe.valid.fits.eventType
  have texts : [env.tenantID, env.aggregateID].all storable = true := by
    simp [storable_uuid _ ripe.valid.tenantID, ripe.fit]
  have numbers := ripe.valid.fits.numbers
  simp only [Payload.numbers, List.forall_mem_cons] at numbers
  have positive := ripe.valid.version.1
  have next := ripe.next
  have allowed : (projectionRow env quantity).allowed = true := by
    rw [ProjectionRow.allowed, Bool.and_eq_true, decide_eq_true_eq, decide_eq_true_eq]
    exact ⟨numbers.2.2.1.1, (by omega : 0 ≤ env.aggregateVersion)⟩
  rw [applyAndCommit, applyEvent, if_pos type, applyProjection,
    asQuantityDecremented_of_valid ripe.valid]
  simp only [bind_assoc]
  refine critical_query _ _ _ _ _ texts fun _ => ?_
  simp only [id_eq]
  cases found : db.platform.projection.find? (env.tenantID, env.aggregateID) with
  | none =>
    have first : env.aggregateVersion = 1 := by simpa [projectedVersion, found] using next
    have row : (⟨env.tenantID, env.aggregateID, quantity.quantityAfter, 1⟩ : ProjectionRow) =
        projectionRow env quantity := by rw [projectionRow, first]
    dsimp only
    rw [if_neg (not_not.mpr first), bind_assoc, row]
    refine critical_command _ _ _ _ _ _ texts ?_ (ripe.record_critical rfl _ fun write holds => ?_)
    · have absent : db.platform.projection.find? (projectionRow env quantity).key = none := found
      simp [allowed, absent]
    · exact Program.critical_commitOr _ _ holds (if_pos ⟨rfl, type⟩) rfl done
  | some current =>
    have version : projectedVersion db.platform (env.tenantID, env.aggregateID) =
        current.aggregateVersion := by simp [projectedVersion, found]
    have present : (db.platform.projection.find? (projectionRow env quantity).key).isSome =
        true := by
      show (db.platform.projection.find? (env.tenantID, env.aggregateID)).isSome = true
      rw [found]
      rfl
    have row : (⟨env.tenantID, env.aggregateID, quantity.quantityAfter,
        env.aggregateVersion⟩ : ProjectionRow) = projectionRow env quantity := rfl
    dsimp only
    rw [if_neg (by omega), if_neg (by omega), if_neg (not_not.mpr (ripe.continues current found)),
      if_neg (not_not.mpr (ripe.valid.fits.arithmetic quantity rfl)), bind_assoc, row]
    refine critical_command _ _ _ _ _ _ texts (by simp [allowed])
      (ripe.record_critical ?_ _ fun write holds => ?_)
    · simp only [Database.onPlatform, id_eq, if_pos present]
    · exact Program.critical_commitOr _ _ holds (if_pos ⟨rfl, type⟩) rfl done

/-- A call on a ripe event begins by asking for the lock on its inbox row. -/
theorem Ripe.atDoor (ripe : Ripe env quantity canonical db) (fuel : Nat) :
    Program.Client.AtDoor db (.inbox env.eventID) (Guarded env (digest canonical))
      (Announces env) Unquarantined ⟨processKeyed fuel env, none, []⟩ := by
  have inventory : env.aggregateType = aggregateTypeInventoryItem := ripe.valid.aggregateType
  obtain ⟨row, found⟩ := ripe.entry
  obtain ⟨same, gap⟩ := ripe.undecided row found
  refine ⟨⟨processKeyed_keeps inventory ripe.written fuel, fun _ none => nomatch none⟩, rfl,
    Or.inl ?_⟩
  show ∃ next, processKeyed fuel env = .start next ∧ _
  rw [processKeyed, processValidated_eq ripe.written]
  refine ⟨_, rfl, rfl, _, lockInboxStatement env.eventID, _, rfl, ?_, fun choice =>
    ⟨some row, ?_, ?_⟩⟩
  · simp [lockInboxStatement, query, statement, found]
  · simp [lockInboxStatement, query, statement, found, storable_uuid _ ripe.valid.eventID]
  · show Program.Critical _ _ _ _ (Program.bind (Program.attempt (Program.bind (Program.attempt
      (ite (row.contentHash ≠ digest canonical) _ _)) _)) _) id
    rw [if_neg (not_not.mpr same), gap, if_neg (by decide), if_pos rfl]
    refine Program.critical_bind _ _ (Program.critical_attempt _ (Program.critical_bind _ _
      (Program.critical_attempt _ (ripe.applyAndCommit_critical ?_))))
    exact processKeyed_rest_keeps inventory _ fuel .applied rfl

end Retained

/-! ### Two calls at once -/

/-- Two calls on one record that start together. -/
def overlap (key value : Bytes) (fuel : Bool → Nat) (pos : Bool → SourcePosition)
    (db : Database) : Program.System Bool Database Lock AppliedUpdate ProcessError Outcome where
  committed := db
  clients index := ⟨processRecord (fuel index) key value (pos index), none, []⟩

/-- The event took effect once, no call reports a quarantine, and the inbox row of the event
says that it was applied. -/
structure DuplicateSafe (env : Envelope)
    (system : Program.System Bool Database Lock AppliedUpdate ProcessError Outcome) : Prop where
  once : system.notes.countP (Announces env) = 1
  shown : ∃ row, system.committed.platform.projection.find? (env.tenantID, env.aggregateID) =
    some row ∧ env.aggregateVersion ≤ row.aggregateVersion
  reported : ∀ index result, (system.clients index).program = .done result → Unquarantined result
  entry : ∃ row, system.committed.platform.inbox.find? env.eventID = some row ∧
    row.disposition.settled = true

/-- Under every schedule that serves all requests, the two calls are safe once both have
returned. -/
def OverlapSafe (env : Envelope) (key value : Bytes) (fuel : Bool → Nat)
    (pos : Bool → SourcePosition) (db : Database) : Prop :=
  ∀ schedule : List (Bool × Nat),
    let system := (overlap key value fuel pos db).run
      (schedule.map fun turn => (turn.1, .served turn.2))
    (∀ index, ∃ result, (system.clients index).program = .done result) → DuplicateSafe env system

section Overlap

variable {delivered : Envelope → Prop} {log : Log} {env : Envelope} {payload : Payload}
  {quantity : QuantityDecremented} {key value canonical : Bytes} {db : Database}

/-- Under the envelope's own key a call goes straight to the decision. -/
theorem processRecord_eq (carries : Carries value env payload canonical)
    (ownKey : key = envelopeKey env) (fuel : Nat) (pos : SourcePosition) :
    processRecord fuel key value pos = processKeyed fuel env := by
  simp only [processRecord, carries.parsed, isProjectionFamily_of_valid carries.valid,
    projectionSelfID_of_valid carries.valid, Bool.not_true, Bool.false_eq_true, if_false, ne_eq,
    not_true_eq_false, or_false]
  exact if_neg (not_not.mpr ownKey)

/-- What a call that applies an inventory event has found. -/
theorem Call.applicable {call : Call} (parsed : parse call.value = .ok env)
    (inventory : env.aggregateType = aggregateTypeInventoryItem)
    (grounded : Grounded delivered log db.platform)
    (applied : (call.outcome db).result.disposition = some .applied) :
    ∃ quantity canonical, Carries call.value env (.quantityDecremented quantity) canonical ∧
        call.key = envelopeKey env ∧ Applicable env quantity canonical db := by
  obtain ⟨processes, -⟩ := call.processes db true (by simp)
  generalize call.outcome db = outcome at processes applied
  generalize call.sent db = sent at processes
  generalize (call.after db).platform = final at processes
  have settled : ∀ {other payload canonical disposition middle},
      Carries call.value other payload canonical → call.key = envelopeKey other →
      Decides db.platform other (digest canonical) canonical payload disposition middle →
      (decided other disposition).disposition = some .applied →
      admits db.platform call.key call.value call.pos = true →
      ∃ quantity canonical, Carries call.value env (.quantityDecremented quantity) canonical ∧
        call.key = envelopeKey env ∧ Applicable env quantity canonical db := by
    intro other payload canonical disposition middle carries ownKey decides isApplied admitted
    obtain rfl := carries.env_eq parsed
    obtain ⟨quantity, rfl⟩ := quantity_of_inventory carries.valid inventory
    have isApplied : disposition = .applied := Option.some.inj isApplied
    have fit : storable other.aggregateID = true := by
      have recordable := (admits_iff grounded call.key call.value call.pos).mp admitted
      simp only [Recordable, parsed, if_pos ownKey] at recordable
      rcases recordable with ⟨existing, found, same, unsettled, noGap⟩ | ⟨fit, -⟩
      · have unsettled := decides.terminal_unsettled found unsettled noGap
        rw [isApplied] at unsettled
        cases unsettled
      · exact fit
    cases decides with
    | conflict | duplicate => cases isApplied
    | terminal existing found same unsettled noGap =>
      rw [isApplied] at unsettled
      cases unsettled
    | fresh undecided disposition final applies =>
      cases applies with
      | applied quantity next continues =>
        exact ⟨quantity, canonical, carries, ownKey, carries.valid, carries.written, fit, undecided,
          next, continues⟩
      | hopApplied _ hop described => cases described
      | _ => cases isApplied
  cases processes with
  | failed => cases applied
  | unparsed => cases applied
  | misdelivered => cases applied
  | quarantined _ _ _ carries ownKey _ _ decides _ admitted
  | redriven _ _ _ carries ownKey _ _ decides _ _ _ _ admitted
  | interrupted _ _ _ carries ownKey _ _ decides _ _ _ _ admitted =>
    exact settled carries ownKey decides applied admitted

/-- A call that has looked for the event's row in vain, and waits there. If the projection has
reached the event's version when the call goes on, it quarantines the event as stale. -/
theorem Applicable.paused (applicable : Applicable env quantity canonical db) (fuel : Nat) :
    ∃ next rest, processKeyed fuel env = .start next ∧
      next (.ok ()) = .ask (lockInboxStatement env.eventID) rest ∧
      ∀ (later : Database) (notes : List AppliedUpdate),
        env.aggregateVersion ≤ projectedVersion later.platform (env.tenantID, env.aggregateID) →
        Program.Ensures false (rest (.ok none)) ⟨later, some id, notes⟩
          (Program.Ends
            (fun outcome _ => outcome.result.disposition = some .quarantinedStale)
            fun _ _ => False) := by
  rw [processKeyed, processValidated_eq applicable.written]
  refine ⟨_, _, rfl, rfl, fun later notes passed => ?_⟩
  show Program.Ensures false (Program.bind (Program.attempt (Program.bind (Program.attempt
    (applyAndCommit env (digest canonical) canonical)) _)) _) _ _
  refine Program.ensures_attempt_bind _ _ (Program.ensures_attempt_bind _ _ ?_)
  have runs : Program.Runs false False (applyAndCommit env (digest canonical) canonical) later
      later notes fun result _ => result = decided env .quarantinedStale := by
    refine applyAndCommit_runs applicable.valid (storable_digest canonical) ?_ ?_
    · simp [applicable.fit, hopAccepts, applicable.valid.carried, payloadHop]
    · intro disposition platform applies _
      cases applies with
      | gap quantity ahead => omega
      | stale quantity current found behind => rfl
      | transition quantity current found next other =>
        simp only [projectedVersion, found, Option.elim_some] at passed
        omega
      | applied quantity next continues => omega
      | _ => cases ‹payloadHop _ _ = some _›
  refine (runs ⟨later, some id, notes⟩ ⟨rfl, rfl, id, rfl, rfl⟩).mono ?_
  rintro (error | result) final ends
  · exact (ends.2.elim (by decide) id).elim
  · obtain rfl : result = decided env .quarantinedStale := ends
    refine Program.ensures_rollback _ (Program.ensures_done _ ?_)
    simp only [decided_disposition, Option.some.injEq, reduceCtorEq, or_self, if_false]
    exact Program.ensures_done _ rfl

/-- A call that nothing disturbs applies the event. -/
theorem Applicable.projected (applicable : Applicable env quantity canonical db)
    (carries : Carries value env (.quantityDecremented quantity) canonical)
    (ownKey : key = envelopeKey env) (grounded : Grounded delivered log db.platform)
    (known : delivered env) (fuel : Nat) (pos : SourcePosition) :
    env.aggregateVersion ≤
      projectedVersion ((⟨fuel, key, value, pos, []⟩ : Call).after db).platform
        (env.tenantID, env.aggregateID) := by
  obtain ⟨processes, -⟩ := (⟨fuel, key, value, pos, []⟩ : Call).processes db false
    fun _ => List.not_mem_nil
  generalize Call.outcome _ db = outcome at processes
  generalize Call.sent _ db = sent at processes
  generalize (Call.after _ db).platform = final at processes ⊢
  have admitted : admits db.platform key value pos = true := by
    rw [admits_iff grounded]
    simp only [Recordable, carries.parsed, if_pos ownKey]
    refine Or.inr ⟨applicable.fit, fun _ hop described => ?_⟩
    simp [applicable.valid.carried, payloadHop] at described
  have decidesApplied : ∀ {disposition middle},
      Decides db.platform env (digest canonical) canonical (.quantityDecremented quantity)
        disposition middle → disposition = .applied := by
    intro disposition middle decides
    have next := applicable.next
    cases decides.applies applicable.undecided with
    | gap quantity ahead => omega
    | stale quantity current found behind =>
      simp only [projectedVersion, found, Option.elim_some] at next
      omega
    | transition quantity current found _ other =>
      exact absurd (applicable.continues current found) other
    | applied => rfl
    | _ => cases ‹payloadHop _ _ = some _›
  rcases processes.own carries ownKey with ⟨error, -, -, cause⟩ |
    ⟨disposition, decides, unsettled, -⟩ |
    ⟨disposition, middle, ended, notes, decides, -, redrives, -⟩
  · simp [admitted] at cause
  · rw [decidesApplied decides] at unsettled
    cases unsettled
  · obtain rfl := decidesApplied decides
    obtain ⟨after, -, last, longer⟩ := redrives.drains (grounded.decides known carries decides)
    obtain ⟨added, continued⟩ := longer (env.tenantID, env.aggregateID)
    rw [last.projectedVersion_eq, continued, applicable.next, grounded.projectedVersion_eq]
    simp only [Log.after, if_true, Log.append, List.length_append, List.length_singleton]
    push_cast
    omega

/-- Where the event has no row yet, one call can pass the lookup, wait for the other to end, and
then quarantine the event that the other has applied. -/
theorem Applicable.unsafe_overlap (applicable : Applicable env quantity canonical db)
    (carries : Carries value env (.quantityDecremented quantity) canonical)
    (ownKey : key = envelopeKey env) (grounded : Grounded delivered log db.platform)
    (known : delivered env) (absent : db.platform.inbox.find? env.eventID = none)
    (fuel : Bool → Nat) (pos : Bool → SourcePosition) :
    ¬ OverlapSafe env key value fuel pos db := by
  intro safe
  obtain ⟨next, rest, starts, asks, late⟩ := applicable.paused (fuel true)
  have program : processRecord (fuel true) key value (pos true) = .start next := by
    rw [processRecord_eq carries ownKey, starts]
  -- The first call looks for the row of the event and waits.
  have begun : (overlap key value fuel pos db).step true (.served 0) =
      ⟨db, Function.update (overlap key value fuel pos db).clients true
        ⟨next (.ok ()), some id, []⟩, []⟩ := by
    rw [Program.System.step_of_free fun _ _ => rfl]
    simp [overlap, Program.Client.advance, program]
  let waiting : Program.System Bool Database Lock AppliedUpdate ProcessError Outcome :=
    ⟨db, Function.update (overlap key value fuel pos db).clients true
      ⟨rest (.ok none), some id, []⟩, []⟩
  have waits : (overlap key value fuel pos db).run [(true, .served 0), (true, .served 0)] =
      waiting := by
    have locked : (lockInboxStatement env.eventID).execute 0 db = .ok (none, id) := by
      simp [lockInboxStatement, query, statement, storable_uuid _ applicable.valid.eventID, absent]
    have unlocked : (lockInboxStatement env.eventID).locks 0 db = [] := by
      simp [lockInboxStatement, query, statement, absent]
    simp only [Program.System.run, List.foldl_cons, List.foldl_nil, begun]
    rw [Program.System.step_of_free]
    · simp only [Program.Client.advance, Program.Client.view, Function.update_self, asks, id_eq,
        locked, unlocked, Function.update_idem, List.append_nil]
      rfl
    · intro other different
      obtain rfl : other = false := by simpa using different
      rfl
  -- The second call runs to its end and applies the event.
  have second : waiting.CanFinish false
      ((processRecord (fuel false) key value (pos false)).run [] ⟨db, none, []⟩) := by
    refine Program.System.canFinish _ waiting rfl (fun _ => rfl) ?_
    intro other different
    obtain rfl : other = true := by simpa using different
    rfl
  obtain ⟨turns, client, ran, ended, closed, tidy⟩ := second
  have passed := applicable.projected carries ownKey grounded known (fuel false) (pos false)
  have returns : client.pending = none := by
    have ensures : Program.Ensures false _ ⟨db, none, []⟩ _ :=
      processRecord_ensures (fuel false) key value (pos false) db
    have spec := ensures [] fun _ => List.not_mem_nil
    rw [closed]
    cases returned : (Program.run (processRecord (fuel false) key value (pos false)) []
        ⟨db, none, []⟩).1 with
    | error error =>
      rw [returned] at spec
      exact spec.elim
    | ok outcome =>
      rw [returned] at spec
      obtain ⟨_, _, -, final⟩ := spec
      rw [final]
  -- The first call goes on, on the database that the second has left.
  have third : ((waiting.run (List.replicate turns (false, .served 0))).CanFinish true
      ((rest (.ok none)).run [] ⟨(⟨fuel false, key, value, pos false, []⟩ : Call).after db, some id,
        (⟨fuel false, key, value, pos false, []⟩ : Call).sent db⟩)) := by
    rw [ran]
    refine Program.System.canFinish _ _ rfl (fun none => by cases none) ?_
    intro other different
    obtain rfl : other = false := by simpa using different
    exact tidy returns
  obtain ⟨more, last, ranOn, endedOn, -⟩ := third
  have spec := late _ ((⟨fuel false, key, value, pos false, []⟩ : Call).sent db) passed []
    fun _ => List.not_mem_nil
  have final : (overlap key value fuel pos db).run
      (([(true, 0), (true, 0)] ++ List.replicate turns (false, 0) ++
        List.replicate more (true, 0) : List (Bool × Nat)).map
          fun turn => (turn.1, .served turn.2)) =
      (waiting.run (List.replicate turns (false, .served 0))).run
        (List.replicate more (true, .served 0)) := by
    simp only [List.map_append, List.map_cons, List.map_nil, List.map_replicate,
      Program.System.run_append, waits]
  cases returned : ((rest (.ok none)).run [] ⟨(⟨fuel false, key, value, pos false, []⟩ :
      Call).after db, some id, (⟨fuel false, key, value, pos false, []⟩ : Call).sent db⟩).1 with
  | error error =>
    rw [returned] at spec
    exact spec.elim
  | ok outcome =>
    rw [returned] at spec endedOn
    have duplicate := safe ([(true, 0), (true, 0)] ++ List.replicate turns (false, 0) ++
      List.replicate more (true, 0))
    simp only [final] at duplicate
    rw [ranOn, ran] at duplicate
    have settled := (duplicate fun index => by
      cases index with
      | false => exact ⟨_, ended⟩
      | true => exact ⟨_, endedOn⟩).reported true _ endedOn .quarantinedStale spec
    cases settled

/-- With a retained row the first call to lock it applies the event, and the second finds it
applied. -/
theorem Ripe.safe_overlap (ripe : Ripe env quantity canonical db)
    (carries : Carries value env (.quantityDecremented quantity) canonical)
    (ownKey : key = envelopeKey env) (fuel : Bool → Nat) (pos : Bool → SourcePosition) :
    OverlapSafe env key value fuel pos db := by
  intro schedule system done
  have contest : Program.Contest db (.inbox env.eventID) (Guarded env (digest canonical))
      (Announces env) Unquarantined (overlap key value fuel pos db) := by
    refine .vacant rfl rfl fun index => ?_
    have door := ripe.atDoor (fuel index)
    rw [← processRecord_eq carries ownKey (fuel index) (pos index)] at door
    exact door
  obtain ⟨guarded, once, reported⟩ := (contest.run schedule).finished done
  obtain ⟨entry, present, -, settled⟩ := guarded.entry
  exact ⟨once, guarded.shown, reported, entry, present, settled⟩

end Overlap

/-- Two overlapping calls on an inventory event that a single call would apply are safe exactly
when the inbox has a row for the event, which the lookup can lock. -/
theorem overlapping_calls_safe_iff (erp : Erp) (calls : List Call) (call : Call) (env : Envelope)
    (fuel : Bool → Nat) (pos : Bool → SourcePosition) (parsed : parse call.value = .ok env)
    (inventory : env.aggregateType = aggregateTypeInventoryItem)
    (applied : (call.outcome (deliver calls ⟨erp, .empty⟩)).result.disposition = some .applied) :
    OverlapSafe env call.key call.value fuel pos (deliver calls ⟨erp, .empty⟩) ↔
      ∃ row, (deliver calls ⟨erp, .empty⟩).platform.inbox.find? env.eventID = some row := by
  obtain ⟨log, before⟩ := deliver_grounded erp calls
  have grounded := before.mono fun _ known => known.append [call]
  obtain ⟨quantity, canonical, carries, ownKey, applicable⟩ :=
    Call.applicable parsed inventory grounded applied
  generalize deliver calls ⟨erp, .empty⟩ = db at *
  constructor
  · intro safe
    cases found : db.platform.inbox.find? env.eventID with
    | some row => exact ⟨row, rfl⟩
    | none =>
      exact absurd safe (applicable.unsafe_overlap carries ownKey grounded
        ⟨call, by simp, parsed, ownKey⟩ found fuel pos)
  · rintro ⟨row, found⟩
    have ripe : Ripe env quantity canonical db := by
      refine ⟨applicable, ⟨row, found⟩, fun other member gap => ?_⟩
      obtain ⟨-, event, payload, bytes, retains⟩ := grounded.gaps other member gap
      exact ⟨event, payload, bytes, { retains with known := trivial }⟩
    exact ripe.safe_overlap carries ownKey fuel pos

/-- The first event of an item is applied by a single call on empty tables. -/
theorem sampleDecrement_applied :
    ((ownCall (sampleDecrement sampleTenant sampleEvent 1 10)).outcome
      (deliver [] ⟨.empty, .empty⟩)).result.disposition = some .applied := by
  have start : deliver [] ⟨.empty, .empty⟩ = .empty := rfl
  rw [start, sampleDecrement_first.1]
  rfl

/-- Two calls on the second version, while its row waits for a re-drive that was cut off. -/
theorem overlapping_calls_safe_iff_sample :
    OverlapSafe (sampleDecrement sampleTenant secondEvent 2 9)
      (ownCall (sampleDecrement sampleTenant secondEvent 2 9)).key
      (ownCall (sampleDecrement sampleTenant secondEvent 2 9)).value (fun _ => 1)
      (fun _ => ⟨[], 0, 0⟩) (deliver cutOffCalls ⟨.empty, .empty⟩) := by
  obtain ⟨-, -, -, eligible, -, applied, -⟩ := cutOffCall_run
  rw [← deliver_cutOffCalls] at eligible applied
  obtain ⟨row, only, own⟩ := List.map_eq_singleton_iff.mp eligible
  refine (overlapping_calls_safe_iff .empty cutOffCalls
    (ownCall (sampleDecrement sampleTenant secondEvent 2 9))
    (sampleDecrement sampleTenant secondEvent 2 9) (fun _ => 1) (fun _ => ⟨[], 0, 0⟩)
    (parse_ownCall sampleGap_valid) rfl applied).mpr ⟨row, ?_⟩
  have member := ((mem_eligibleGaps row).mp (only ▸ List.mem_singleton_self row)).2.1
  exact Table.find?_eq_some_iff.mpr ⟨member, own⟩

/-- Two overlapping calls on the first event of an item are not safe. -/
theorem first_event_quarantined :
    ¬ ∀ (erp : Erp) (calls : List Call) (call : Call) (env : Envelope) (fuel : Bool → Nat)
      (pos : Bool → SourcePosition), parse call.value = .ok env →
      env.aggregateType = aggregateTypeInventoryItem →
      (call.outcome (deliver calls ⟨erp, .empty⟩)).result.disposition = some .applied →
      OverlapSafe env call.key call.value fuel pos (deliver calls ⟨erp, .empty⟩) := by
  intro safe
  have read := parse_ownCall sampleDecrement_valid.1
  have overlapSafe := safe .empty [] _ _ (fun _ => 1) (fun _ => ⟨[], 0, 0⟩) read rfl
    sampleDecrement_applied
  have grounded : Grounded (fun _ => True) .empty (deliver [] ⟨.empty, .empty⟩).platform := .empty
  obtain ⟨quantity, canonical, carries, ownKey, applicable⟩ :=
    Call.applicable read rfl grounded sampleDecrement_applied
  exact applicable.unsafe_overlap carries ownKey grounded trivial rfl _ _ overlapSafe

end SeshatOps
