/-
This file follows the retained gaps of an item through whole runs.

A gap waits when its version is beyond the next one of its item. A call that is
acknowledged leaves every gap waiting, provided that the versions it closes up to
are each retained once: the re-drive takes one row for each version, so a second row
of a version that it passes stays behind. Each pass of the loop turns a gap into
something else, so as many passes as there are gaps are enough, and a call that no
request is lost to fails only for a text or a number that a column cannot hold.
-/

import SeshatOps.Ledger

namespace SeshatOps

open Relational Event

/-! ### Waiting gaps -/

/-- A retained gap of an inventory item at a version. -/
structure InboxRow.GapAt (row : InboxRow) (key : Bytes × Bytes) (version : Int) : Prop where
  tenantID : row.tenantID = key.1
  aggregateType : row.aggregateType = aggregateTypeInventoryItem
  aggregateID : row.aggregateID = key.2
  disposition : row.disposition = .quarantinedGap
  aggregateVersion : row.aggregateVersion = version

/-- Some gap of the item is retained at the version. -/
def HasGap (platform : Platform) (key : Bytes × Bytes) (version : Int) : Prop :=
  ∃ row ∈ platform.inbox.rows, row.GapAt key version

/-- At most one gap of the item is retained at the version. -/
def OneGap (platform : Platform) (key : Bytes × Bytes) (version : Int) : Prop :=
  ∀ first ∈ platform.inbox.rows, ∀ second ∈ platform.inbox.rows,
    first.GapAt key version → second.GapAt key version → first = second

/-- Every gap of an inventory item is beyond the next version of the item. -/
def Waiting (platform : Platform) : Prop :=
  ∀ key version, HasGap platform key version → projectedVersion platform key + 1 < version

/-- The gaps of one item may be next, but no version that the re-drive can reach is retained
twice; the gaps of the other items wait. -/
structure Closing (platform : Platform) (key : Bytes × Bytes) : Prop where
  others : ∀ other version, other ≠ key → HasGap platform other version →
    projectedVersion platform other + 1 < version
  ahead : ∀ version, HasGap platform key version → projectedVersion platform key < version
  single : ∀ version, projectedVersion platform key < version →
    (∀ between, projectedVersion platform key < between → between < version →
      HasGap platform key between) → OneGap platform key version

section Steps

variable {delivered : Envelope → Prop} {mayFail : Bool} {log after : Log}
  {platform final : Platform} {env : Envelope} {payload : Payload} {canonical : Bytes}
  {disposition : Disposition}

/-- A waiting gap is not next, so there is nothing to close. -/
theorem Waiting.closing (waiting : Waiting platform) (key : Bytes × Bytes) :
    Closing platform key where
  others other version _ := waiting other version
  ahead version gap := by
    have := waiting key version gap
    omega
  single version ahead between := by
    intro first firstMember second secondMember firstGap _
    have far := waiting key version ⟨first, firstMember, firstGap⟩
    have next := waiting key _ (between (projectedVersion platform key + 1) (by omega) far)
    omega

/-- Every gap in the second inbox is a row of the first. -/
def NoNewGaps (before after : Table InboxRow.eventID) : Prop :=
  ∀ row ∈ after.rows, ∀ key version, row.GapAt key version → row ∈ before.rows

theorem noNewGaps_store (inbox : Table InboxRow.eventID) {row : InboxRow}
    (harmless : ∀ key version, ¬ row.GapAt key version) : NoNewGaps inbox (inbox.store row) := by
  intro other member key version gap
  rcases Table.mem_store.mp member with ⟨old, -⟩ | rfl
  · exact old
  · exact absurd gap (harmless key version)

theorem NoNewGaps.hasGap (fewer : NoNewGaps platform.inbox final.inbox) {key : Bytes × Bytes}
    {version : Int} (gap : HasGap final key version) : HasGap platform key version := by
  obtain ⟨row, member, isGap⟩ := gap
  exact ⟨row, fewer row member key version isGap, isGap⟩

theorem NoNewGaps.oneGap (fewer : NoNewGaps platform.inbox final.inbox) {key : Bytes × Bytes}
    {version : Int} (single : OneGap platform key version) : OneGap final key version :=
  fun first firstMember second secondMember firstGap secondGap =>
    single first (fewer first firstMember key version firstGap) second
      (fewer second secondMember key version secondGap) firstGap secondGap

theorem not_gapAt_of_ne {row : InboxRow} (other : row.disposition ≠ .quarantinedGap)
    (key : Bytes × Bytes) (version : Int) : ¬ row.GapAt key version :=
  fun gap => other gap.disposition

/-- Gaps go on waiting while no gap is added and the projection stays. -/
theorem Waiting.of_noNewGaps (waiting : Waiting platform)
    (fewer : NoNewGaps platform.inbox final.inbox)
    (same : final.projection = platform.projection) : Waiting final := by
  intro key version gap
  have before := waiting key version (fewer.hasGap gap)
  simpa only [projectedVersion, same] using before

section StoredVersion

variable {tenantID itemID : Bytes} {quantity version : Int}

theorem projectedVersion_self
    (stored : final.projection = platform.projection.store ⟨tenantID, itemID, quantity, version⟩) :
    projectedVersion final (tenantID, itemID) = version := by
  have found := Table.find?_store_self platform.projection
    (⟨tenantID, itemID, quantity, version⟩ : ProjectionRow)
  rw [ProjectionRow.key_mk] at found
  rw [projectedVersion, stored, found]
  rfl

theorem projectedVersion_other
    (stored : final.projection = platform.projection.store ⟨tenantID, itemID, quantity, version⟩)
    {key : Bytes × Bytes} (different : key ≠ (tenantID, itemID)) :
    projectedVersion final key = projectedVersion platform key := by
  have other : key ≠ ProjectionRow.key ⟨tenantID, itemID, quantity, version⟩ := different
  rw [projectedVersion, stored, Table.find?_store_of_ne _ other]
  rfl

/-- An item whose version has just been raised by one. -/
theorem closing_of_stored
    (stored : final.projection = platform.projection.store ⟨tenantID, itemID, quantity, version⟩)
    (fewer : NoNewGaps platform.inbox final.inbox)
    (others : ∀ other above, other ≠ (tenantID, itemID) → HasGap platform other above →
      projectedVersion platform other + 1 < above)
    (ahead : ∀ above, HasGap final (tenantID, itemID) above → version < above)
    (single : ∀ above, version < above →
      (∀ between, version < between → between < above →
        HasGap platform (tenantID, itemID) between) →
      OneGap platform (tenantID, itemID) above) :
    Closing final (tenantID, itemID) where
  others other above different gap := by
    rw [projectedVersion_other stored different]
    exact others other above different (fewer.hasGap gap)
  ahead above gap := by
    rw [projectedVersion_self stored]
    exact ahead above gap
  single above := by
    rw [projectedVersion_self stored]
    intro beyond between
    exact fewer.oneGap (single above beyond fun middle low high =>
      fewer.hasGap (between middle low high))

end StoredVersion

/-- A decision that does not move the projection leaves the gaps waiting. -/
theorem Waiting.writes (waiting : Waiting platform) (valid : Valid env payload) {hash : Bytes}
    (writes : Writes platform env hash canonical payload disposition final)
    (still : disposition = .applied → env.aggregateType ≠ aggregateTypeInventoryItem) :
    Waiting final := by
  have harmless : ∀ kind : Disposition, kind ≠ .quarantinedGap →
      NoNewGaps platform.inbox (platform.inbox.store (inboxRow env hash kind)) :=
    fun kind other => noNewGaps_store _ (not_gapAt_of_ne other)
  have repeats := harmless .duplicateNoop (by decide)
  have applies := harmless .applied (by decide)
  cases writes with
  | unchanged => exact waiting
  | quarantined _ row of _ noGap reason =>
    exact waiting.of_noNewGaps (noNewGaps_store _ (not_gapAt_of_ne noGap)) rfl
  | retained _ undecided current reached ahead =>
    rintro key version ⟨row, member, gap⟩
    show projectedVersion platform key + 1 < version
    rcases Table.mem_store.mp member with ⟨old, -⟩ | rfl
    · exact waiting key version ⟨row, old, gap⟩
    · cases reached with
      | item quantity =>
        have sameKey : key = (env.tenantID, env.aggregateID) :=
          Prod.ext gap.tenantID.symm gap.aggregateID.symm
        have sameVersion : env.aggregateVersion = version := gap.aggregateVersion
        rw [sameKey, ← sameVersion]
        exact ahead
      | hop _ hop described => exact absurd gap.aggregateType (aggregateType_hop valid described)
  | repeated | joined =>
    refine waiting.of_noNewGaps ?_ rfl
    exact repeats
  | advanced quantity => exact absurd valid.aggregateType (still rfl)
  | linked =>
    refine waiting.of_noNewGaps ?_ rfl
    exact applies

/-- The versions that would follow an event without a break are each retained at most once. -/
def SingleFile (platform : Platform) (env : Envelope) : Prop :=
  ∀ version, env.aggregateVersion < version →
    (∀ between, env.aggregateVersion < between → between < version →
      HasGap platform (env.tenantID, env.aggregateID) between) →
    OneGap platform (env.tenantID, env.aggregateID) version

/-- A decision leaves gaps that can be closed. -/
theorem Waiting.closing_writes (waiting : Waiting platform) (valid : Valid env payload)
    {hash : Bytes} (writes : Writes platform env hash canonical payload disposition final)
    (single : env.aggregateType = aggregateTypeInventoryItem →
      env.aggregateVersion = projectedVersion platform (env.tenantID, env.aggregateID) + 1 →
      SingleFile platform env) :
    Closing final (env.tenantID, env.aggregateID) := by
  by_cases moves : disposition = .applied ∧ env.aggregateType = aggregateTypeInventoryItem
  · obtain ⟨isApplied, inventory⟩ := moves
    cases writes with
    | unchanged _ existing found same unsettled | quarantined _ row of unsettled =>
      exact absurd isApplied (ne_applied_of_unsettled unsettled)
    | retained | repeated | joined => cases isApplied
    | linked _ undecided hop described => exact absurd inventory (aggregateType_hop valid described)
    | advanced quantity undecided next continues =>
      have fewer : NoNewGaps platform.inbox (platform.inbox.store (inboxRow env hash .applied)) :=
        noNewGaps_store _ (not_gapAt_of_ne (by simp [inboxRow]))
      refine closing_of_stored rfl fewer (fun other above _ => waiting other above) ?_
        (single inventory next)
      rintro above ⟨row, member, gap⟩
      have before := waiting _ above ⟨row, fewer row member _ _ gap, gap⟩
      omega
  · exact Waiting.closing (waiting.writes valid writes fun isApplied inventory =>
      moves ⟨isApplied, inventory⟩) _

/-- The re-drive of the next gap: either it stops and every gap waits, or it has closed one
version and goes on. -/
theorem Closing.redriven {tenantID itemID : Bytes} (closing : Closing platform (tenantID, itemID))
    (redriven : Redriven delivered tenantID aggregateTypeInventoryItem itemID platform env payload
      canonical)
    (writes : Writes platform env (digest canonical) canonical payload disposition final) :
    (disposition ≠ .applied → Waiting final) ∧
      (disposition = .applied → Closing final (tenantID, itemID)) := by
  obtain ⟨gap, found, isGap, hash, of⟩ := redriven.retained
  obtain ⟨gapMember, gapID⟩ := Table.find?_eq_some_iff.mp found
  obtain rfl := redriven.sameTenant
  obtain rfl := redriven.sameID
  have next := redriven.next
  have inventory := redriven.sameType
  have gapHere : gap.GapAt (env.tenantID, env.aggregateID)
      (projectedVersion platform (env.tenantID, env.aggregateID) + 1) :=
    ⟨of.tenantID, of.aggregateType.trans inventory, of.aggregateID, isGap,
      of.aggregateVersion.trans next⟩
  -- The row of the event is no gap any more, and it was the only one of its version.
  have passed : ∀ (row : InboxRow) (version : Int), row.Of env →
      row.disposition ≠ .quarantinedGap →
      (∃ other ∈ (platform.inbox.store row).rows,
        other.GapAt (env.tenantID, env.aggregateID) version) →
      projectedVersion platform (env.tenantID, env.aggregateID) + 1 < version := by
    rintro row version rowOf noGap ⟨other, member, otherGap⟩
    rcases Table.mem_store.mp member with ⟨old, different⟩ | rfl
    · have ahead := closing.ahead version ⟨other, old, otherGap⟩
      by_contra near
      obtain rfl : version = projectedVersion platform (env.tenantID, env.aggregateID) + 1 := by
        omega
      have only := closing.single _ (by omega) (fun between low high => absurd low (by omega))
        other old gap gapMember otherGap gapHere
      exact different (by rw [only, gapID, rowOf.eventID])
    · exact absurd otherGap.disposition noGap
  cases writes with
  | unchanged _ existing present same unsettled noGap =>
    rw [found] at present
    cases present
    exact absurd isGap noGap
  | quarantined _ row rowOf unsettled noGap reason =>
    refine ⟨fun _ key version hasGap => ?_,
      fun isApplied => absurd isApplied (ne_applied_of_unsettled unsettled)⟩
    by_cases same : key = (env.tenantID, env.aggregateID)
    · subst same
      exact passed row version rowOf noGap hasGap
    · exact closing.others key version same
        ((noNewGaps_store _ (not_gapAt_of_ne noGap)).hasGap hasGap)
  | retained _ undecided current reached ahead =>
    cases reached with
    | item quantity => omega
    | hop _ hop described => exact absurd inventory (aggregateType_hop redriven.valid described)
  | repeated _ existing present same settled =>
    rw [found] at present
    cases present
    rw [isGap] at settled
    cases settled
  | joined _ undecided hop described | linked _ undecided hop described =>
    exact absurd inventory (aggregateType_hop redriven.valid described)
  | advanced quantity undecided _ continues =>
    refine ⟨fun other => absurd rfl other, fun _ => ?_⟩
    refine closing_of_stored rfl (noNewGaps_store _ (not_gapAt_of_ne (by simp [inboxRow])))
      closing.others (fun above hasGap => ?_) fun above beyond between => ?_
    · rw [next]
      exact passed (inboxRow env (digest canonical) .applied) above (inboxRow_of _)
        (by simp [inboxRow]) hasGap
    · refine closing.single above (by omega) fun middle low high => ?_
      by_cases first : middle = projectedVersion platform (env.tenantID, env.aggregateID) + 1
      · rw [first]
        exact ⟨gap, gapMember, gapHere⟩
      · exact between middle (by omega) high

/-- With no eligible gap left, a closing item is a waiting one. -/
theorem Closing.drained {tenantID itemID : Bytes} (closing : Closing platform (tenantID, itemID))
    (grounded : Grounded delivered log platform)
    (none : eligibleGaps platform tenantID aggregateTypeInventoryItem itemID = []) :
    Waiting platform := by
  intro key version hasGap
  by_cases same : key = (tenantID, itemID)
  · subst same
    have ahead := closing.ahead version hasGap
    obtain ⟨row, member, gap⟩ := hasGap
    obtain ⟨later, env, payload, canonical, retains⟩ := grounded.gaps row member gap.disposition
    rw [gap.aggregateVersion] at later
    by_contra near
    have next : version = projectedVersion platform (tenantID, itemID) + 1 := by omega
    have eligible : row ∈ eligibleGaps platform tenantID aggregateTypeInventoryItem itemID := by
      refine (mem_eligibleGaps row).mpr ⟨?_, member, gap.tenantID, gap.aggregateType,
        gap.aggregateID, gap.disposition, by rw [retains.bytes]; rfl⟩
      rw [gap.aggregateVersion, next]
      cases found : platform.projection.find? (tenantID, itemID) with
      | none =>
        rw [projectedVersion, found, Option.elim_none] at next
        omega
      | some current => exact ⟨current, rfl, by rw [projectedVersion, found]; rfl⟩
    rw [none] at eligible
    cases eligible
  · exact closing.others key version same hasGap

/-- A re-drive that ends by itself leaves every gap waiting. -/
theorem Drains.waiting {tenantID aggregateType itemID : Bytes} {fuel : Nat} {ended : Bool}
    {notes : List AppliedUpdate}
    (drains : Drains delivered mayFail tenantID aggregateType itemID fuel log platform ended notes
      after final)
    (grounded : Grounded delivered log platform) (finished : ended = true)
    (start : if aggregateType = aggregateTypeInventoryItem then Closing platform (tenantID, itemID)
      else Waiting platform) :
    Waiting final := by
  induction drains with
  | cut fuel log platform cause => cases finished
  | drained fuel log platform none =>
    split_ifs at start with inventory
    · subst inventory
      exact start.drained grounded none
    · exact start
  | stopped fuel log platform env payload canonical redriven disposition final applies other =>
    have writes := applies.writes redriven.undecided
    split_ifs at start with inventory
    · subst inventory
      exact (start.redriven redriven writes).1 other
    · exact start.writes redriven.valid writes fun isApplied => absurd isApplied other
  | advanced fuel log platform env payload canonical redriven next applies ended notes after final
      rest hypothesis =>
    have writes := applies.writes redriven.undecided
    refine hypothesis
      (grounded.writes redriven.known redriven.valid redriven.written writes) finished ?_
    split_ifs at start ⊢ with inventory
    · subst inventory
      exact (start.redriven redriven writes).2 rfl
    · exact start.writes redriven.valid writes fun _ => redriven.sameType ▸ inventory

end Steps

/-! ### Runs of acknowledged calls -/

/-- When a record is the next event of an item, the versions that would follow it without a
break are each retained at most once. -/
def Unambiguous (platform : Platform) (key value : Bytes) : Prop :=
  ∀ env, parse value = .ok env → key = envelopeKey env →
    env.aggregateType = aggregateTypeInventoryItem →
    env.aggregateVersion = projectedVersion platform (env.tenantID, env.aggregateID) + 1 →
    SingleFile platform env

/-- The call returned `ShouldAck` and no error. -/
def Call.Acknowledged (call : Call) (db : Database) : Prop :=
  (call.outcome db).result.shouldAck = true ∧ (call.outcome db).error = none

instance (call : Call) (db : Database) : Decidable (call.Acknowledged db) :=
  inferInstanceAs (Decidable (_ ∧ _))

/-- Every call of a run meets a condition on the database it finds. -/
def EachCall (condition : Call → Database → Prop) : List Call → Database → Prop
  | [], _ => True
  | call :: rest, db => condition call db ∧ EachCall condition rest (call.after db)

instance EachCall.decidable (condition : Call → Database → Prop)
    [∀ call db, Decidable (condition call db)] :
    ∀ (calls : List Call) (db : Database), Decidable (EachCall condition calls db)
  | [], _ => isTrue trivial
  | call :: rest, db =>
      have := EachCall.decidable condition rest (call.after db)
      inferInstanceAs (Decidable (condition call db ∧ EachCall condition rest (call.after db)))

theorem Processes.waiting {delivered : Envelope → Prop} {mayFail : Bool} {log : Log}
    {platform final : Platform} {fuel : Nat} {key value : Bytes} {pos : SourcePosition}
    {outcome : Outcome} {sent : List AppliedUpdate}
    (processes : Processes mayFail fuel key value pos platform outcome sent final)
    (grounded : Grounded delivered log platform)
    (known : ∀ env, parse value = .ok env → key = envelopeKey env → delivered env)
    (clean : outcome.error = none) (clear : Unambiguous platform key value)
    (waiting : Waiting platform) : Waiting final := by
  cases processes with
  | failed error cause => cases clean
  | unparsed error refused admitted => exact waiting
  | misdelivered env payload canonical carries otherKey admitted =>
    rw [storeInbox_of_ne platform (by simp [inboxRow])]
    exact waiting.of_noNewGaps (noNewGaps_store _ (not_gapAt_of_ne (by simp [inboxRow]))) rfl
  | quarantined env payload canonical carries ownKey disposition final decides unsettled admitted =>
    exact waiting.writes carries.valid decides.writes fun isApplied =>
      absurd isApplied (ne_applied_of_unsettled unsettled)
  | redriven env payload canonical carries ownKey disposition middle decides settled notes final
      redrives admitted =>
    have between := grounded.decides (known env carries.parsed ownKey) carries decides
    obtain ⟨after, drains, -, -⟩ := redrives.drains between
    refine drains.waiting between rfl ?_
    split_ifs with inventory
    · exact waiting.closing_writes carries.valid decides.writes
        (clear env carries.parsed ownKey)
    · exact waiting.writes carries.valid decides.writes fun _ => inventory
  | interrupted => cases clean

/-- After any run of acknowledged calls, each of which found the gaps behind its record retained
once, every gap is beyond the next version of its item. -/
theorem gaps_waiting (erp : Erp) (calls : List Call)
    (acknowledged : EachCall Call.Acknowledged calls ⟨erp, .empty⟩)
    (clear : EachCall (fun call db => Unambiguous db.platform call.key call.value) calls
      ⟨erp, .empty⟩) :
    Waiting (deliver calls ⟨erp, .empty⟩).platform := by
  have run : ∀ (calls : List Call) (db : Database) (log : Log),
      Grounded (fun _ => True) log db.platform → Waiting db.platform →
      EachCall Call.Acknowledged calls db →
      EachCall (fun call db => Unambiguous db.platform call.key call.value) calls db →
      Waiting (deliver calls db).platform := by
    intro calls
    induction calls with
    | nil => exact fun _ _ _ waiting _ _ => waiting
    | cons call rest hypothesis =>
      rintro db log grounded waiting ⟨acked, ackedRest⟩ ⟨clear, clearRest⟩
      obtain ⟨processes, -⟩ := call.processes db true (by simp)
      obtain ⟨after, last, -⟩ := processes.grounded grounded fun _ _ _ => trivial
      exact hypothesis (call.after db) after last
        (processes.waiting grounded (fun _ _ _ => trivial) acked.2 clear waiting) ackedRest
        clearRest
  refine run calls ⟨erp, .empty⟩ .empty .empty ?_ acknowledged clear
  rintro key version ⟨row, member, -⟩
  cases member

/-- The second version of the sample item, and then the first one. -/
def releasingCalls : List Call :=
  [ownCall (sampleDecrement sampleTenant secondEvent 2 9),
    ownCall (sampleDecrement sampleTenant sampleEvent 1 10)]

/-- The first version of the sample item, whose re-drive of the second loses its commit. -/
def cutOffCall : Call :=
  { ownCall (sampleDecrement sampleTenant sampleEvent 1 10) with
    replies := List.replicate 12 (.served 0) ++ [.lost] }

set_option maxRecDepth 20000 in
/-- The first version releases the gap behind it. Where the re-drive is cut off, the gap stays until
its own record comes again. -/
theorem cutOffCall_run :
    let db := deliver [ownCall (sampleDecrement sampleTenant secondEvent 2 9)] ⟨.empty, .empty⟩
    db.platform.inbox.rows.map InboxRow.disposition = [.quarantinedGap] ∧
    (cutOffCall.outcome db).result.disposition = some .applied ∧
    (cutOffCall.outcome db).error ≠ none ∧
    (eligibleGaps (cutOffCall.after db).platform sampleTenant aggregateTypeInventoryItem
      (ascii "flour")).map InboxRow.eventID = [secondEvent] ∧
    (cutOffCall.after db).platform.inbox.rows.map InboxRow.disposition =
      [.quarantinedGap, .applied] ∧
    ((ownCall (sampleDecrement sampleTenant secondEvent 2 9)).outcome
      (cutOffCall.after db)).result.disposition = some .applied ∧
    EachCall Call.Acknowledged releasingCalls ⟨.empty, .empty⟩ ∧
    projectedVersion (deliver releasingCalls ⟨.empty, .empty⟩).platform
      (sampleTenant, ascii "flour") = 2 := by
  decide +kernel

/-- The first version releases the gap behind it. -/
theorem gaps_waiting_sample :
    EachCall Call.Acknowledged releasingCalls ⟨.empty, .empty⟩ ∧
    ((ownCall (sampleDecrement sampleTenant secondEvent 2 9)).after
      ⟨.empty, .empty⟩).platform.inbox.rows.map InboxRow.disposition = [.quarantinedGap] ∧
    projectedVersion (deliver releasingCalls ⟨.empty, .empty⟩).platform
      (sampleTenant, ascii "flour") = 2 ∧
    Waiting (deliver releasingCalls ⟨.empty, .empty⟩).platform := by
  obtain ⟨retained, -, -, -, -, -, acknowledged, version⟩ := cutOffCall_run
  rw [deliver_one] at retained
  refine ⟨acknowledged, retained, version,
    gaps_waiting .empty releasingCalls acknowledged ⟨?_, ?_, trivial⟩⟩
  · intro env _ _ _ _ version _ _ gap member
    cases member
  · intro env _ _ _ _ version _ _ gap member other otherMember _ _
    obtain ⟨row, only, -⟩ := List.map_eq_singleton_iff.mp retained
    rw [only, List.mem_singleton] at member otherMember
    rw [member, otherMember]

/-- The second version, and then the first one with the re-drive behind it cut off. -/
def cutOffCalls : List Call :=
  [ownCall (sampleDecrement sampleTenant secondEvent 2 9)] ++ [cutOffCall]

theorem deliver_cutOffCalls : deliver cutOffCalls ⟨.empty, .empty⟩ = cutOffCall.after
    (deliver [ownCall (sampleDecrement sampleTenant secondEvent 2 9)] ⟨.empty, .empty⟩) := by
  rw [cutOffCalls, deliver_append, deliver_one cutOffCall]

/-- Two second versions of the sample item under different events, and then the first one. -/
def rivalCalls : List Call :=
  [ownCall (sampleDecrement sampleTenant sampleEvent 2 9),
    ownCall (sampleDecrement sampleTenant secondEvent 2 9),
    ownCall (sampleDecrement sampleTenant thirdEvent 1 10)]

set_option maxRecDepth 20000 in
theorem rivalCalls_run :
    EachCall Call.Acknowledged rivalCalls ⟨.empty, .empty⟩ ∧
    projectedVersion (deliver rivalCalls ⟨.empty, .empty⟩).platform
      (sampleTenant, ascii "flour") = 2 ∧
    ∃ row ∈ (deliver rivalCalls ⟨.empty, .empty⟩).platform.inbox.rows,
      row.tenantID = sampleTenant ∧ row.aggregateType = aggregateTypeInventoryItem ∧
      row.aggregateID = ascii "flour" ∧ row.disposition = .quarantinedGap ∧
      row.aggregateVersion = 2 := by
  decide +kernel

/-- Two gaps of one version under different events: the re-drive applies one of them and leaves
the other, whose version the projection has passed. -/
theorem passed_gap_left :
    ¬ ∀ (erp : Erp) (calls : List Call), EachCall Call.Acknowledged calls ⟨erp, .empty⟩ →
      Waiting (deliver calls ⟨erp, .empty⟩).platform := by
  intro waits
  obtain ⟨acknowledged, version, row, member, tenant, type, item, isGap, left⟩ := rivalCalls_run
  have ahead := waits .empty rivalCalls acknowledged (sampleTenant, ascii "flour") 2
    ⟨row, member, tenant, type, item, isGap, left⟩
  rw [version] at ahead
  omega

end SeshatOps
