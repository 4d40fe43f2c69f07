/-
This file proves what the relay does to the outbox and the broker, for any number of
workers that run at once, crash and begin again, while operators release quarantined
rows, the source adds rows and time passes.

Every change of an outbox row is one of a few (`RowStep`), and each says under which
condition on the row it happens. Programs guarantee these steps: what a worker knows
about a row it has claimed is what never changes, its identity and what the broker has
acknowledged, and the rest is in the condition of its updates. The claim itself needs
its locks, which keep the selected rows due until it commits.
-/

import Mathlib.Logic.Relation
import SeshatOps.History
import SeshatOps.Relay

namespace SeshatOps

open Relational Event

/-! ### Steps of the world -/

/-- The columns that say which event a row is, and its bytes. -/
def OutboxRow.identity (row : OutboxRow) :
    Bytes × Bytes × Bytes × Bytes × Int × Bytes × Bytes :=
  (row.eventID, row.tenantID, row.aggregateType, row.aggregateID, row.aggregateVersion,
    row.contentHash, row.eventBytes)

/-- The key under which a row is published. -/
def OutboxRow.brokerKey (row : OutboxRow) : Bytes :=
  aggregateKey row.tenantID row.aggregateType row.aggregateID

/-- The bytes of the row parse, to an event of the row's tenant and aggregate. -/
def OutboxRow.Publishable (row : OutboxRow) : Prop :=
  ∃ env, parse row.eventBytes = .ok env ∧ env.tenantID = row.tenantID ∧
    env.aggregateType = row.aggregateType ∧ env.aggregateID = row.aggregateID

/-- The message of a row that the broker has acknowledged. -/
def OutboxRow.message (row : OutboxRow) (acknowledged : Bool) : Produced :=
  ⟨row.eventID, row.brokerKey, row.eventBytes, acknowledged⟩

/-- What a worker may do to a row. -/
inductive RowStep (owner : Bytes) (world : RelayWorld) : OutboxRow → OutboxRow → Prop
  | kept (row : OutboxRow) : RowStep owner world row row
  | claimed (row : OutboxRow) (now : Int) (due : row.due now = true) (past : now ≤ world.clock)
      (expires attempts : Int) :
      RowStep owner world row { row.claim owner expires with publishAttempts := attempts }
  | published (row : OutboxRow) (claimed : row.claimedBy owner = true)
      (acknowledged : row.message true ∈ world.broker) : RowStep owner world row row.published
  | released (row : OutboxRow) (claimed : row.claimedBy owner = true) (errCode : Bytes)
      (now : Int) : RowStep owner world row (row.released errCode now)
  | quarantined (row : OutboxRow) (claimed : row.claimedBy owner = true) (errCode : Bytes)
      (unfit : ¬ row.Publishable) : RowStep owner world row (row.quarantined errCode)

/-- The rows of two outboxes, related event by event. -/
structure RowsBy (related : OutboxRow → OutboxRow → Prop)
    (before after : Table OutboxRow.eventID) : Prop where
  kept : ∀ eventID row, before.find? eventID = some row →
    ∃ later, after.find? eventID = some later ∧ related row later
  absent : ∀ eventID, before.find? eventID = none → after.find? eventID = none

/-- What a worker may do to the world in one step. -/
structure RelayStep (owner : Bytes) (before after : RelayWorld) : Prop where
  clock : after.clock = before.clock
  rows : RowsBy (RowStep owner before) before.outbox after.outbox
  grows : ∀ message ∈ before.broker, message ∈ after.broker
  sent : ∀ message ∈ after.broker, message ∈ before.broker ∨
    ∃ row ∈ before.outbox.rows, row.Publishable ∧
      message = row.message message.acknowledged

/-- What an operator may do to the world in one step. -/
structure OperatorStep (before after : RelayWorld) : Prop where
  clock : after.clock = before.clock
  rows : RowsBy (fun row later => later = row ∨
    row.status = .quarantined ∧ later = row.unquarantined) before.outbox after.outbox
  broker : after.broker = before.broker

/-- What happens around the relay: time passes, and the source adds a pending row. -/
inductive Surroundings (before : RelayWorld) : RelayWorld → Prop
  | passed (clock : Int) (later : before.clock ≤ clock) : Surroundings before { before with clock }
  | added (row : OutboxRow) (fresh : before.outbox.find? row.eventID = none)
      (pending : row.status = .pending) (free : row.publishLeaseOwner = none) :
      Surroundings before { before with outbox := before.outbox.store row }

/-! ### What everybody keeps -/

/-- What nobody undoes: rows keep their identity, and messages stay sent. -/
structure Persists (before after : RelayWorld) : Prop where
  clock : before.clock ≤ after.clock
  rows : ∀ eventID row, before.outbox.find? eventID = some row →
    ∃ later, after.outbox.find? eventID = some later ∧ later.identity = row.identity
  grows : ∀ message ∈ before.broker, message ∈ after.broker

theorem Persists.refl (world : RelayWorld) : Persists world world :=
  ⟨le_refl _, fun _ row found => ⟨row, found, rfl⟩, fun _ member => member⟩

theorem Persists.trans {first second third : RelayWorld} (early : Persists first second)
    (late : Persists second third) : Persists first third where
  clock := early.clock.trans late.clock
  rows eventID row found := by
    obtain ⟨middle, present, same⟩ := early.rows eventID row found
    obtain ⟨last, still, again⟩ := late.rows eventID middle present
    exact ⟨last, still, again.trans same⟩
  grows message member := late.grows message (early.grows message member)

/-- What the parties of the relay may count on: an outbox row that one of them has locked is
left alone. -/
def relayContract : Contract RelayWorld Lock where
  same lock before after :=
    ∀ eventID, lock = .outbox eventID → before.outbox.find? eventID = after.outbox.find? eventID
  rely := Persists
  same_refl _ _ _ _ := rfl
  same_trans _ _ _ _ early late eventID own := (early eventID own).trans (late eventID own)
  rely_refl := Persists.refl
  rely_trans _ _ _ := Persists.trans

theorem RowStep.identity {owner : Bytes} {world : RelayWorld} {row later : OutboxRow}
    (step : RowStep owner world row later) : later.identity = row.identity := by
  cases step <;> rfl

variable {before after : RelayWorld}

theorem RelayStep.persists {owner : Bytes} (step : RelayStep owner before after) :
    Persists before after where
  clock := step.clock.ge
  rows eventID row found := by
    obtain ⟨later, present, moved⟩ := step.rows.kept eventID row found
    exact ⟨later, present, moved.identity⟩
  grows := step.grows

theorem OperatorStep.persists (step : OperatorStep before after) : Persists before after where
  clock := step.clock.ge
  rows eventID row found := by
    obtain ⟨later, present, rfl | ⟨-, rfl⟩⟩ := step.rows.kept eventID row found
    · exact ⟨_, present, rfl⟩
    · exact ⟨_, present, rfl⟩
  grows message member := step.broker ▸ member

theorem Surroundings.persists (step : Surroundings before after) : Persists before after := by
  cases step with
  | passed clock later =>
    exact ⟨later, fun _ row found => ⟨row, found, rfl⟩, fun _ member => member⟩
  | added row fresh pending free =>
    refine ⟨le_refl _, fun eventID old found => ⟨old, ?_, rfl⟩, fun _ member => member⟩
    have other : eventID ≠ row.eventID := by
      rintro rfl
      rw [fresh] at found
      cases found
    exact (Table.find?_store_of_ne _ other).trans found

/-! ### Updates of one row -/

section Updates

variable {related : OutboxRow → OutboxRow → Prop} {world : RelayWorld} {eventID : Bytes}
  {change : OutboxRow → OutboxRow}

@[simp] theorem updateRow_clock : (world.updateRow eventID change).clock = world.clock := by
  unfold RelayWorld.updateRow
  split <;> rfl

@[simp] theorem updateRow_broker : (world.updateRow eventID change).broker = world.broker := by
  unfold RelayWorld.updateRow
  split <;> rfl

theorem find?_updateRow_of_ne {other : Bytes} (different : other ≠ eventID)
    (sameID : ∀ row, (change row).eventID = row.eventID) :
    (world.updateRow eventID change).outbox.find? other = world.outbox.find? other := by
  unfold RelayWorld.updateRow
  cases found : world.outbox.find? eventID with
  | none => rfl
  | some row =>
    obtain ⟨-, itsID⟩ := Table.find?_eq_some_iff.mp found
    refine Table.find?_store_of_ne _ ?_
    rw [sameID, itsID]
    exact different

theorem find?_updateRow_self (sameID : ∀ row, (change row).eventID = row.eventID) :
    (world.updateRow eventID change).outbox.find? eventID =
      (world.outbox.find? eventID).map change := by
  unfold RelayWorld.updateRow
  cases found : world.outbox.find? eventID with
  | none => simpa using found
  | some row =>
    obtain ⟨-, itsID⟩ := Table.find?_eq_some_iff.mp found
    have stored := Table.find?_store_self world.outbox (change row)
    rwa [sameID, itsID] at stored

/-- An update of one row relates the outboxes when it relates that row. -/
theorem RowsBy.updateRow (sameID : ∀ row, (change row).eventID = row.eventID)
    (self : ∀ row, related row row)
    (moved : ∀ row, world.outbox.find? eventID = some row → related row (change row)) :
    RowsBy related world.outbox (world.updateRow eventID change).outbox := by
  refine ⟨fun other row found => ?_, fun other none => ?_⟩
  · by_cases same : other = eventID
    · subst same
      exact ⟨change row, by rw [find?_updateRow_self sameID, found]; rfl, moved row found⟩
    · exact ⟨row, by rw [find?_updateRow_of_ne same sameID, found], self row⟩
  · by_cases same : other = eventID
    · subst same
      rw [find?_updateRow_self sameID, none]
      rfl
    · rw [find?_updateRow_of_ne same sameID, none]

/-- What an executed update has found. -/
theorem updateStatement_executed {texts : List Bytes} {matching : OutboxRow → Bool}
    {refusal : OutboxRow → Option SqlError} {change : Int → OutboxRow → OutboxRow} {choice : Nat}
    {count : Nat} {write : RelayWorld → RelayWorld}
    (executed : (updateStatement texts eventID matching refusal change).execute choice world =
      .ok (count, write)) :
    write = id ∨ (∃ row, world.outbox.find? eventID = some row ∧ matching row = true) ∧
      write = fun later => later.updateRow eventID (change world.clock) := by
  simp only [updateStatement] at executed
  split_ifs at executed
  cases found : (world.outbox.find? eventID).filter matching with
  | none =>
    simp only [found, Except.ok.injEq, Prod.mk.injEq] at executed
    exact Or.inl executed.2.symm
  | some row =>
    obtain ⟨present, matched⟩ := Option.filter_eq_some_iff.mp found
    simp only [found] at executed
    cases refused : refusal row with
    | some error => simp [refused] at executed
    | none =>
      simp only [refused, Except.ok.injEq, Prod.mk.injEq] at executed
      exact Or.inr ⟨⟨row, present, matched⟩, executed.2.symm⟩

end Updates

/-- An update keeps to its row: it is permitted where the change of the row is a step. -/
theorem updateStatement_permits {guarantee : RelayWorld → RelayWorld → Prop}
    {texts : List Bytes} {eventID : Bytes} {matching : OutboxRow → Bool}
    {refusal : OutboxRow → Option SqlError} {change : Int → OutboxRow → OutboxRow} {choice : Nat}
    {count : Nat} {world : RelayWorld} {write : RelayWorld → RelayWorld}
    (executed : (updateStatement texts eventID matching refusal change).execute choice world =
      .ok (count, write))
    (sameID : ∀ row, (change world.clock row).eventID = row.eventID) (still : guarantee world world)
    (moves : ∀ row, world.outbox.find? eventID = some row → matching row = true →
      guarantee world (world.updateRow eventID (change world.clock))) :
    relayContract.Permits guarantee
      ([] ++ (updateStatement texts eventID matching refusal change).locks choice world) world
      (write world) := by
  rcases updateStatement_executed executed with rfl | ⟨⟨row, found, matched⟩, rfl⟩
  · exact ⟨still, fun _ _ _ _ => rfl⟩
  · refine ⟨moves row found matched, ?_⟩
    rintro lock free other rfl
    have different : other ≠ eventID := by
      rintro rfl
      simp [updateStatement, found, matched] at free
    exact (find?_updateRow_of_ne different sameID).symm

/-! ### What a worker guarantees after its claim -/

/-- The row of the event is still the one that was read. -/
def Known (row : OutboxRow) (world : RelayWorld) : Prop :=
  ∃ current, world.outbox.find? row.eventID = some current ∧ current.identity = row.identity

/-- The program has ended outside of any transaction, some time after the given world. -/
def Outside (world : RelayWorld) (pending : Option (RelayWorld → RelayWorld)) (held : List Lock)
    (later : RelayWorld) : Prop := pending = none ∧ held = [] ∧ Persists world later

section Identity

variable {row other : OutboxRow}

theorem OutboxRow.eventID_of_identity (same : row.identity = other.identity) :
    row.eventID = other.eventID := congrArg Prod.fst same

theorem OutboxRow.publishable_of_identity (same : row.identity = other.identity) :
    row.Publishable ↔ other.Publishable := by
  simp only [OutboxRow.identity, Prod.mk.injEq] at same
  obtain ⟨-, tenant, type, aggregate, -, -, bytes⟩ := same
  simp only [OutboxRow.Publishable, tenant, type, aggregate, bytes]

theorem OutboxRow.message_of_identity (same : row.identity = other.identity)
    (acknowledged : Bool) : row.message acknowledged = other.message acknowledged := by
  simp only [OutboxRow.identity, Prod.mk.injEq] at same
  obtain ⟨event, tenant, type, aggregate, -, -, bytes⟩ := same
  simp only [OutboxRow.message, OutboxRow.brokerKey, event, tenant, type, aggregate, bytes]

theorem Known.persists {first second : RelayWorld} (known : Known row first)
    (persists : Persists first second) : Known row second := by
  obtain ⟨current, found, same⟩ := known
  obtain ⟨later, present, again⟩ := persists.rows _ current found
  exact ⟨later, present, again.trans same⟩

theorem undisturbed_nil :
    relayContract.Undisturbed [] before after ↔ Persists before after := by
  simp [Contract.Undisturbed, relayContract]

end Identity

section Publishing

variable {owner : Bytes} {world : RelayWorld}

theorem RelayStep.refl (owner : Bytes) (world : RelayWorld) : RelayStep owner world world :=
  ⟨rfl, ⟨fun _ row found => ⟨row, found, .kept row⟩, fun _ absent => absent⟩,
    fun _ member => member, fun _ member => Or.inl member⟩

/-- An update of one row by its owner, from a world in which its condition allows the step. -/
theorem updateOne_guarantees (operation : RelayOperation) (texts : List Bytes) (eventID : Bytes)
    (matching : OutboxRow → Bool) (refusal : OutboxRow → Option SqlError)
    (change : Int → OutboxRow → OutboxRow)
    (sameID : ∀ now row, (change now row).eventID = row.eventID)
    (moves : ∀ later row, Persists world later → later.outbox.find? eventID = some row →
      matching row = true → RowStep owner later row (change later.clock row))
    {ends : Except RelayError Unit → Option (RelayWorld → RelayWorld) → List Lock → RelayWorld →
      Prop} (ended : ∀ result later, Persists world later → ends result none [] later) :
    Program.Guarantees relayContract (RelayStep owner) ends
      (updateOne operation texts eventID matching refusal change) none [] world := by
  rw [updateOne]
  refine Program.guarantees_exec _ _ _ ?_ ?_
  · intro later error undisturbed
    exact ended _ later (undisturbed_nil.mp undisturbed)
  · intro later choice count write undisturbed executed
    have persists := undisturbed_nil.mp undisturbed
    have moved : ∀ row, later.outbox.find? eventID = some row → matching row = true →
        RelayStep owner later (later.updateRow eventID (change later.clock)) := by
      intro row found matched
      refine ⟨by simp, RowsBy.updateRow (sameID later.clock) .kept ?_, by simp,
        fun _ member => Or.inl (by simpa using member)⟩
      intro current present
      rw [found] at present
      cases present
      exact moves later row persists found matched
    have permits := updateStatement_permits executed (sameID later.clock) (.refl owner later) moved
    refine ⟨permits, ?_⟩
    have after := persists.trans permits.1.persists
    split_ifs
    · exact fun last rest => ended _ last (after.trans (undisturbed_nil.mp rest))
    · exact fun last rest => ended _ last (after.trans (undisturbed_nil.mp rest))

/-- What an update finds under a known event is the row that was read. -/
theorem Known.found {row current : OutboxRow} {later : RelayWorld} (known : Known row world)
    (persists : Persists world later) (found : later.outbox.find? row.eventID = some current) :
    current.identity = row.identity := by
  obtain ⟨same, present, identity⟩ := known.persists persists
  rw [found] at present
  cases present
  exact identity

/-- A program that has nothing left to do, some time after the given world. -/
theorem guarantees_return {Value : Type} (owner : Bytes) (result : Except RelayError Value)
    {later : RelayWorld} (persists : Persists world later) :
    Program.Guarantees relayContract (RelayStep owner) (fun _ => Outside world)
      (.done result : RelayAction Value) none [] later :=
  fun _ rest => ⟨rfl, rfl, persists.trans (undisturbed_nil.mp rest)⟩

variable {start : RelayWorld}

/-- The quarantine of a known row that cannot be published. -/
theorem quarantine_guarantees (since : Persists start world) {row : OutboxRow}
    (known : Known row world) (unfit : ¬ row.Publishable) (errCode : Bytes) :
    Program.Guarantees relayContract (RelayStep owner) (fun _ => Outside start)
      (quarantine row.eventID owner errCode >>= fun _ => pure OutcomeKind.quarantine) none []
      world := by
  refine Program.guarantees_bind _ _ (updateOne_guarantees _ _ _ _ _ _ ?_ ?_ ?_)
  · exact fun _ _ => rfl
  · intro later current persists found claimed
    have same := known.found persists found
    exact .quarantined current claimed errCode fun publishable =>
      unfit ((OutboxRow.publishable_of_identity same).mp publishable)
  · rintro (error | value) later persists
    · exact ⟨rfl, rfl, since.trans persists⟩
    · exact guarantees_return owner (.ok OutcomeKind.quarantine) (since.trans persists)

/-- The release of a row whose message was not acknowledged. -/
theorem release_guarantees (since : Persists start world) (eventID errCode : Bytes) :
    Program.Guarantees relayContract (RelayStep owner) (fun _ => Outside start)
      (releaseTransient eventID owner errCode >>= fun _ => pure OutcomeKind.transient) none []
      world := by
  refine Program.guarantees_bind _ _ (updateOne_guarantees _ _ _ _ _ _ ?_ ?_ ?_)
  · exact fun _ _ => rfl
  · intro later current _ _ claimed
    exact .released current claimed errCode later.clock
  · rintro (error | value) later persists
    · exact ⟨rfl, rfl, since.trans persists⟩
    · exact guarantees_return owner (.ok OutcomeKind.transient) (since.trans persists)

/-- The mark behind an acknowledged message. -/
theorem mark_guarantees (since : Persists start world) {row : OutboxRow} (known : Known row world)
    (acknowledged : row.message true ∈ world.broker) :
    Program.Guarantees relayContract (RelayStep owner) (fun _ => Outside start)
      (do match ← (markPublished row.eventID owner).attempt with
          | .ok () => return OutcomeKind.published
          | .error _ => return .ambiguous : RelayAction OutcomeKind) none [] world := by
  refine Program.guarantees_attempt_bind _ _ (updateOne_guarantees _ _ _ _ _ _ ?_ ?_ ?_)
  · exact fun _ _ => rfl
  · intro later current persists found claimed
    have same := known.found persists found
    refine .published current claimed ?_
    rw [OutboxRow.message_of_identity same]
    exact persists.grows _ acknowledged
  · rintro (error | value) later persists
    · exact guarantees_return owner (.ok OutcomeKind.ambiguous) (since.trans persists)
    · exact guarantees_return owner (.ok OutcomeKind.published) (since.trans persists)

/-- The message of a known row that can be published. -/
theorem publish_step {row : OutboxRow} (known : Known row world) (fit : row.Publishable)
    (acknowledged : Bool) :
    RelayStep owner world
      { world with broker := world.broker ++ [row.message acknowledged] } := by
  obtain ⟨current, found, same⟩ := known
  refine ⟨rfl, ⟨fun _ row found => ⟨row, found, .kept row⟩, fun _ absent => absent⟩,
    fun _ member => List.mem_append_left _ member, fun message member => ?_⟩
  rcases List.mem_append.mp member with old | new
  · exact Or.inl old
  · obtain rfl := List.mem_singleton.mp new
    refine Or.inr ⟨current, (Table.find?_eq_some_iff.mp found).1,
      (OutboxRow.publishable_of_identity same).mpr fit, ?_⟩
    exact (OutboxRow.message_of_identity same acknowledged).symm

theorem publishOne_guarantees (since : Persists start world) {row : OutboxRow}
    (known : Known row world) :
    Program.Guarantees relayContract (RelayStep owner) (fun _ => Outside start)
      (publishOne owner row) none [] world := by
  unfold publishOne
  cases parsed : parse row.eventBytes with
  | error error =>
    refine quarantine_guarantees since known ?_ _
    rintro ⟨env, read, -⟩
    rw [parsed] at read
    cases read
  | ok env =>
    dsimp only
    split_ifs with mismatch
    · refine quarantine_guarantees since known ?_ _
      rintro ⟨other, read, tenant, type, aggregate⟩
      rw [parsed] at read
      cases read
      simp [tenant, type, aggregate] at mismatch
    · obtain ⟨tenant, type, aggregate⟩ : env.tenantID = row.tenantID ∧
          env.aggregateType = row.aggregateType ∧ env.aggregateID = row.aggregateID := by
        simpa [not_or] using mismatch
      have fit : row.Publishable := ⟨env, parsed, tenant, type, aggregate⟩
      rw [tenant, type, aggregate]
      refine Program.guarantees_attempt_bind _ _ (Program.guarantees_request _ _ ?_ ?_)
      · intro later error undisturbed
        exact release_guarantees (since.trans (undisturbed_nil.mp undisturbed)) _ _
      · intro later choice acknowledged write undisturbed executed
        have persists := undisturbed_nil.mp undisturbed
        simp only [publishStatement, Except.ok.injEq, Prod.mk.injEq] at executed
        obtain ⟨rfl, rfl⟩ := executed
        have step : RelayStep owner later _ := publish_step (known.persists persists) fit
          (choice % 2 == 0)
        refine ⟨⟨step, fun _ _ _ _ => rfl⟩, fun last rest => ?_⟩
        have after := undisturbed_nil.mp rest
        have sinceStart := (since.trans persists).trans (step.persists.trans after)
        cases answered : choice % 2 == 0 with
        | false => exact release_guarantees sinceStart _ _
        | true =>
          refine mark_guarantees sinceStart (known.persists (persists.trans
            (step.persists.trans after))) (after.grows _ ?_)
          rw [answered]
          exact List.mem_append_right _ (List.mem_singleton_self _)

/-- The loop over known rows. -/
theorem publishEach_guarantees (rows : List OutboxRow) (out : DrainResult)
    (since : Persists start world) (known : ∀ row ∈ rows, Known row world) :
    Program.Guarantees relayContract (RelayStep owner) (fun _ => Outside start)
      (publishEach owner rows out) none [] world := by
  induction rows generalizing out world with
  | nil => exact guarantees_return owner (.ok (out, none)) since
  | cons row rest hypothesis =>
    rw [publishEach]
    refine Program.guarantees_attempt_bind _ _
      ((publishOne_guarantees (.refl world) (known row List.mem_cons_self)).mono ?_)
    rintro (error | kind) _ _ later ⟨rfl, rfl, persists⟩
    · exact guarantees_return owner (.ok (out, some error)) (since.trans persists)
    · exact hypothesis (out.count kind) (since.trans persists) fun other member =>
        (known other (List.mem_cons_of_mem row member)).persists persists

end Publishing

/-! ### What a worker guarantees of its claim -/

/-- The selected rows are in the outbox and were due at a time that has passed. -/
structure Selected (now : Int) (rows : List OutboxRow) (world : RelayWorld) : Prop where
  past : now ≤ world.clock
  due : ∀ row ∈ rows, world.outbox.find? row.eventID = some row ∧ row.due now = true

/-- A write that claims some of the rows with the given events, and does nothing else. -/
structure Claims (owner : Bytes) (expires : Int) (eventIDs : List Bytes)
    (write : RelayWorld → RelayWorld) : Prop where
  clock : ∀ world, (write world).clock = world.clock
  broker : ∀ world, (write world).broker = world.broker
  rows : ∀ world, RowsBy (fun row later => later = row ∨ row.eventID ∈ eventIDs ∧
    ∃ attempts, later = { row.claim owner expires with publishAttempts := attempts })
    world.outbox (write world).outbox

section Claiming

variable {owner : Bytes} {expires now : Int} {eventIDs : List Bytes}
  {write : RelayWorld → RelayWorld} {world : RelayWorld} {held : List Lock}
  {selected : List OutboxRow}

theorem skipLocked_sublist (taken : Nat) (rows : List OutboxRow) :
    (skipLocked taken rows).Sublist rows := by
  induction rows generalizing taken with
  | nil => exact .slnil
  | cons row rest hypothesis =>
    rw [skipLocked]
    split_ifs
    · exact (hypothesis _).cons row
    · exact (hypothesis _).cons_cons row

/-- The select returns due rows of the outbox. -/
theorem selected_dueRows (limit taken : Nat) (past : now ≤ world.clock) :
    Selected now (dueRows now limit taken world) world := by
  refine ⟨past, fun row member => ?_⟩
  have listed := (skipLocked_sublist taken _).subset (List.mem_of_mem_take member)
  rw [List.mem_mergeSort, List.mem_filter] at listed
  exact ⟨Table.find?_eq_some_iff.mpr ⟨listed.1, rfl⟩, listed.2⟩

/-- While the selected rows are locked they stay due. -/
theorem Selected.undisturbed {later : RelayWorld} (isSelected : Selected now selected world)
    (locked : ∀ row ∈ selected, Lock.outbox row.eventID ∈ held)
    (undisturbed : relayContract.Undisturbed held world later) : Selected now selected later := by
  refine ⟨isSelected.past.trans undisturbed.1.clock, fun row member => ?_⟩
  obtain ⟨found, due⟩ := isSelected.due row member
  exact ⟨(undisturbed.2 _ (locked row member) row.eventID rfl).symm.trans found, due⟩

theorem Claims.id (owner : Bytes) (expires : Int) : Claims owner expires [] id :=
  ⟨fun _ => rfl, fun _ => rfl, fun _ => ⟨fun _ row found => ⟨row, found, Or.inl rfl⟩,
    fun _ absent => absent⟩⟩

/-- A write that claims, and the claim of one more row. -/
theorem Claims.claim (claims : Claims owner expires eventIDs write) (eventID : Bytes) :
    Claims owner expires (eventID :: eventIDs)
      fun world => (write world).updateRow eventID (OutboxRow.claim owner expires) := by
  have sameID : ∀ row, (OutboxRow.claim owner expires row).eventID = row.eventID := fun _ => rfl
  refine ⟨fun world => ?_, fun world => ?_, fun world => ⟨fun other row found => ?_,
    fun other absent => ?_⟩⟩
  · rw [updateRow_clock, claims.clock]
  · rw [updateRow_broker, claims.broker]
  · obtain ⟨middle, present, moved⟩ := (claims.rows world).kept other row found
    obtain ⟨-, itsID⟩ := Table.find?_eq_some_iff.mp found
    by_cases same : other = eventID
    · subst same
      refine ⟨middle.claim owner expires, by rw [find?_updateRow_self sameID, present]; rfl,
        Or.inr ⟨by simp [itsID], middle.publishAttempts + 1, ?_⟩⟩
      rcases moved with rfl | ⟨-, attempts, rfl⟩ <;> rfl
    · refine ⟨middle, by rw [find?_updateRow_of_ne same sameID, present], ?_⟩
      exact moved.imp_right fun claimed => ⟨List.mem_cons_of_mem _ claimed.1, claimed.2⟩
  · have none := (claims.rows world).absent other absent
    by_cases same : other = eventID
    · subst same
      rw [find?_updateRow_self sameID, none]
      rfl
    · rw [find?_updateRow_of_ne same sameID, none]

/-- The commit of a claim is a step of the worker that keeps to the locked rows. -/
theorem Claims.permits (claims : Claims owner expires eventIDs write)
    (isSelected : Selected now selected world)
    (chosen : ∀ eventID ∈ eventIDs, ∃ row ∈ selected, row.eventID = eventID)
    (locked : ∀ row ∈ selected, Lock.outbox row.eventID ∈ held) :
    relayContract.Permits (RelayStep owner) held world (write world) := by
  refine ⟨⟨claims.clock world, ⟨fun eventID row found => ?_, (claims.rows world).absent⟩,
    fun message member => (claims.broker world).symm ▸ member,
    fun message member => Or.inl ((claims.broker world) ▸ member)⟩, ?_⟩
  · obtain ⟨later, present, moved⟩ := (claims.rows world).kept eventID row found
    refine ⟨later, present, ?_⟩
    rcases moved with rfl | ⟨listed, attempts, rfl⟩
    · exact .kept later
    · obtain ⟨choice, member, sameID⟩ := chosen _ listed
      obtain ⟨-, itsID⟩ := Table.find?_eq_some_iff.mp found
      obtain ⟨current, due⟩ := isSelected.due choice member
      rw [sameID, itsID, found] at current
      cases current
      exact .claimed row now due isSelected.past expires attempts
  · rintro lock free eventID rfl
    cases found : world.outbox.find? eventID with
    | none => exact ((claims.rows world).absent eventID found).symm
    | some row =>
      obtain ⟨later, present, rfl | ⟨listed, -⟩⟩ := (claims.rows world).kept eventID row found
      · exact present.symm
      · obtain ⟨choice, member, sameID⟩ := chosen _ listed
        obtain ⟨-, itsID⟩ := Table.find?_eq_some_iff.mp found
        refine absurd (locked choice member) ?_
        rw [sameID, itsID]
        exact free

theorem claimStatement_executed {eventID : Bytes} {choice : Nat} {answer : Option (Int × Int)}
    {change : RelayWorld → RelayWorld}
    (executed : (claimStatement owner expires eventID).execute choice world =
      .ok (answer, change)) :
    answer = none ∨
      change = fun later => later.updateRow eventID (OutboxRow.claim owner expires) := by
  simp only [claimStatement] at executed
  split_ifs at executed
  cases found : world.outbox.find? eventID with
  | none =>
    simp only [found, Except.ok.injEq, Prod.mk.injEq] at executed
    exact Or.inl executed.1.symm
  | some row =>
    simp only [found] at executed
    split_ifs at executed
    simp only [Except.ok.injEq, Prod.mk.injEq] at executed
    exact Or.inr executed.2.symm

variable {start : RelayWorld}

/-- A claim under way: its rows are selected and locked, and its write claims some of them. -/
structure Claiming (start : RelayWorld) (owner : Bytes) (expires now : Int)
    (selected : List OutboxRow) (write : RelayWorld → RelayWorld) (held : List Lock)
    (world : RelayWorld) : Prop where
  since : Persists start world
  isSelected : Selected now selected world
  locked : ∀ row ∈ selected, Lock.outbox row.eventID ∈ held
  claims : ∃ eventIDs, Claims owner expires eventIDs write ∧
    ∀ eventID ∈ eventIDs, ∃ row ∈ selected, row.eventID = eventID

theorem Claiming.undisturbed {later : RelayWorld}
    (claiming : Claiming start owner expires now selected write held world)
    (undisturbed : relayContract.Undisturbed held world later) :
    Claiming start owner expires now selected write held later where
  since := claiming.since.trans undisturbed.1
  isSelected := claiming.isSelected.undisturbed claiming.locked undisturbed
  locked := claiming.locked
  claims := claiming.claims

/-- The loop of the claim. -/
theorem claimRows_guarantees {Value : Type} (rows : List OutboxRow)
    (continuation : List OutboxRow → RelayAction Value)
    {ends : Except RelayError Value → Option (RelayWorld → RelayWorld) → List Lock → RelayWorld →
      Prop}
    (claiming : Claiming start owner expires now selected write held world)
    (listed : ∀ row ∈ rows, row ∈ selected)
    (failed : ∀ error pending held later, Persists start later →
      ends (.error error) pending held later)
    (rest : ∀ claimed write held later,
      (∀ row ∈ claimed, ∃ origin ∈ selected, row.identity = origin.identity) →
      Claiming start owner expires now selected write held later →
      Program.Guarantees relayContract (RelayStep owner) ends (continuation claimed) (some write)
        held later) :
    Program.Guarantees relayContract (RelayStep owner) ends
      (claimRows owner expires rows >>= continuation) (some write) held world := by
  induction rows generalizing continuation write held world with
  | nil => exact rest [] write held world (by simp) claiming
  | cons row others hypothesis =>
    rw [claimRows, bind_assoc]
    refine Program.guarantees_exec_within _ _ _ ?_ ?_
    · intro later error undisturbed
      exact failed _ _ _ _ (claiming.since.trans undisturbed.1)
    · intro later choice answer change undisturbed executed
      have still := claiming.undisturbed undisturbed
      cases answer with
      | none => exact fun last later => failed _ _ _ _ (still.since.trans later.1)
      | some pair =>
        obtain rfl := (claimStatement_executed executed).resolve_left (by simp)
        obtain ⟨eventIDs, claims, chosen⟩ := still.claims
        dsimp only
        rw [bind_assoc]
        refine hypothesis _ ⟨still.since, still.isSelected, fun row member =>
          List.mem_append_left _ (still.locked row member), row.eventID :: eventIDs,
          claims.claim row.eventID, ?_⟩ (fun other member => listed other
            (List.mem_cons_of_mem row member)) ?_
        · intro eventID member
          rcases List.mem_cons.mp member with rfl | old
          · exact ⟨row, listed row List.mem_cons_self, rfl⟩
          · exact chosen eventID old
        · intro claimed write held last origins claiming
          refine rest _ write held last (fun other member => ?_) claiming
          rcases List.mem_cons.mp member with rfl | old
          · exact ⟨row, listed row List.mem_cons_self, rfl⟩
          · exact origins other old

theorem claimDue_guarantees (leaseTTL limit : Int) :
    Program.Guarantees relayContract (RelayStep owner)
      (Program.Leaves
        (fun rows pending held later => Outside world pending held later ∧
          ∀ row ∈ rows, Known row later)
        fun _ => Outside world)
      (claimDue owner leaseTTL limit) none [] world := by
  rw [claimDue]
  by_cases unnamed : owner.isEmpty = true
  · rw [if_pos unnamed]
    exact fun last rest => ⟨rfl, rfl, undisturbed_nil.mp rest⟩
  rw [if_neg unnamed]
  generalize (if leaseTTL ≤ 0 then defaultLeaseTTL else leaseTTL) = leaseTTL
  generalize (if limit < 1 then 1 else limit.toNat) = limit
  refine Program.guarantees_inTransaction _ _ ?_ fun first began => ?_
  · intro later error undisturbed
    exact ⟨rfl, rfl, undisturbed_nil.mp undisturbed⟩
  have sinceStart := undisturbed_nil.mp began
  -- Whatever fails inside the transaction leaves it behind.
  have failed : ∀ (error : RelayError) (pending : Option (RelayWorld → RelayWorld))
      (held : List Lock) (later : RelayWorld), Persists world later →
      ∀ last, relayContract.Undisturbed held later last →
        Program.Guarantees relayContract (RelayStep owner)
          (Program.Leaves
            (fun rows pending held later => Outside world pending held later ∧
              ∀ row ∈ rows, Known row later)
            fun _ => Outside world)
          (.done (.error error) : RelayAction (List OutboxRow)) none [] last := by
    intro error pending held later since last rest final undisturbed
    exact ⟨rfl, rfl, (since.trans rest.1).trans (undisturbed_nil.mp undisturbed)⟩
  refine Program.guarantees_exec_within _ _ _ ?_ ?_
  · exact fun later error undisturbed =>
      failed _ none _ _ (sinceStart.trans (undisturbed_nil.mp undisturbed))
  intro second choice now change reached executed
  simp only [nowStatement, Except.ok.injEq, Prod.mk.injEq, id_eq] at executed
  obtain ⟨rfl, rfl⟩ := executed
  have sinceSecond := sinceStart.trans (undisturbed_nil.mp reached)
  refine Program.guarantees_exec_within _ _ _ ?_ ?_
  · exact fun later error undisturbed =>
      failed _ none _ _ (sinceSecond.trans (undisturbed_nil.mp undisturbed))
  intro third taken selected change passed executed
  simp only [selectDueStatement, Except.ok.injEq, Prod.mk.injEq, id_eq] at executed
  obtain ⟨rfl, rfl⟩ := executed
  have sinceThird := undisturbed_nil.mp passed
  have claiming : Claiming world owner (second.clock + leaseTTL / 1000000 * 1000) second.clock
      (dueRows second.clock limit taken third) id
      ([] ++ nowStatement.locks choice second ++
        (selectDueStatement second.clock limit).locks taken third) third :=
    ⟨sinceSecond.trans sinceThird, selected_dueRows limit taken sinceThird.clock,
      fun row member => List.mem_append_right _ (List.mem_map_of_mem member), [],
      Claims.id owner _, by simp⟩
  refine claimRows_guarantees _ _ claiming (fun _ member => member) (failed · · · ·) ?_
  intro claimed write held fourth origins claiming
  refine Program.guarantees_commitOr _ _ ?_ ?_
  · exact fun later error undisturbed =>
      failed _ none _ _ (claiming.since.trans undisturbed.1)
  intro fifth undisturbed
  have still := claiming.undisturbed undisturbed
  obtain ⟨eventIDs, claims, chosen⟩ := still.claims
  have permits := claims.permits still.isSelected chosen still.locked
  refine ⟨permits, fun _ rest last undisturbed final settled => ?_⟩
  have after := permits.1.persists.trans ((undisturbed_nil.mp rest).trans
    ((undisturbed_nil.mp undisturbed).trans (undisturbed_nil.mp settled)))
  refine ⟨⟨rfl, rfl, still.since.trans after⟩, fun row member => ?_⟩
  obtain ⟨origin, listed, same⟩ := origins row member
  refine Known.persists ⟨origin, ?_, same.symm⟩ after
  rw [OutboxRow.eventID_of_identity same]
  exact (still.isSelected.due origin listed).1

/-- A whole cycle of a worker. -/
theorem drainOnce_guarantees (leaseTTL limit : Int) :
    Program.Guarantees relayContract (RelayStep owner) (fun _ => Outside world)
      (drainOnce owner leaseTTL limit) none [] world := by
  rw [drainOnce]
  refine Program.guarantees_attempt_bind _ _ ((claimDue_guarantees leaseTTL limit).mono ?_)
  rintro (error | rows) pending held later ends
  · obtain ⟨rfl, rfl, persists⟩ := ends
    exact guarantees_return owner (.ok ((({} : DrainResult), some error))) persists
  · obtain ⟨⟨rfl, rfl, persists⟩, known⟩ := ends
    exact publishEach_guarantees rows _ persists known

end Claiming

/-! ### What an operator guarantees -/

theorem releaseQuarantined_guarantees (tenantID eventID : Bytes) (world : RelayWorld) :
    Program.Guarantees relayContract OperatorStep (fun _ => Outside world)
      (releaseQuarantined tenantID eventID) none [] world := by
  unfold releaseQuarantined
  split_ifs
  · exact fun last rest => ⟨rfl, rfl, undisturbed_nil.mp rest⟩
  refine Program.guarantees_exec _ _ _ ?_ ?_
  · intro later error undisturbed
    exact ⟨rfl, rfl, undisturbed_nil.mp undisturbed⟩
  · intro later choice count write undisturbed executed
    have still : OperatorStep later later :=
      ⟨rfl, ⟨fun _ row found => ⟨row, found, Or.inl rfl⟩, fun _ absent => absent⟩, rfl⟩
    have moved : ∀ row, later.outbox.find? eventID = some row →
        (row.tenantID == tenantID && row.status == .quarantined) = true →
        OperatorStep later (later.updateRow eventID OutboxRow.unquarantined) := by
      intro row found matched
      refine ⟨by simp, RowsBy.updateRow (fun _ => rfl) (fun _ => Or.inl rfl) ?_, by simp⟩
      intro current present
      rw [found] at present
      cases present
      simp only [Bool.and_eq_true, beq_iff_eq] at matched
      exact Or.inr ⟨matched.2, rfl⟩
    have permits := updateStatement_permits executed (fun _ => rfl) still moved
    refine ⟨permits, ?_⟩
    have after := (undisturbed_nil.mp undisturbed).trans permits.1.persists
    split_ifs
    · exact fun last rest => ⟨rfl, rfl, after.trans (undisturbed_nil.mp rest)⟩
    · exact fun last rest => ⟨rfl, rfl, after.trans (undisturbed_nil.mp rest)⟩

/-! ### Relays and operators together -/

/-- Who a party is. -/
inductive Role
  | relay (owner : Bytes)
  | operator

/-- What a party has to show for its work. -/
inductive RelayReport
  | drained (result : DrainResult) (error : Option RelayError)
  | released

abbrev RelaySystem (Index : Type) :=
  Program.System Index RelayWorld Lock Empty RelayError RelayReport

/-- The programs that a party runs: a worker drains the outbox, again and again, and an operator
releases quarantined rows. -/
def Role.launches (role : Role) (program : RelayAction RelayReport) : Prop :=
  match role with
  | .relay owner => ∃ leaseTTL limit, program = do
      let (result, error) ← drainOnce owner leaseTTL limit
      return .drained result error
  | .operator => ∃ tenantID eventID, program = do
      releaseQuarantined tenantID eventID
      return .released

/-- The steps that a party takes. -/
def Role.step (role : Role) : RelayWorld → RelayWorld → Prop :=
  match role with
  | .relay owner => RelayStep owner
  | .operator => OperatorStep

/-- Nobody has begun. -/
def RelaySystem.start {Index : Type} (world : RelayWorld) : RelaySystem Index where
  committed := world
  clients _ := ⟨.done (.ok .released), none, []⟩

/-- The outbox as the source writes it, and nothing sent. -/
structure Fresh (world : RelayWorld) : Prop where
  rows : ∀ row ∈ world.outbox.rows, row.status = .pending
  broker : world.broker = []

section Parties

variable {Index : Type} [DecidableEq Index] [Fintype Index]

/-- One system follows another: parties move, crash and begin anew, time passes and the source
adds rows, any number of times and in any order. -/
def Reaches (roles : Index → Role) : RelaySystem Index → RelaySystem Index → Prop :=
  Relation.ReflTransGen
    (Program.System.Evolves relayContract Surroundings fun index => (roles index).launches)

variable {roles : Index → Role} {system later : RelaySystem Index}

theorem Role.step_persists {role : Role}
    (step : role.step before after) : Persists before after := by
  cases role with
  | relay owner => exact RelayStep.persists step
  | operator => exact OperatorStep.persists step

/-- Whatever a party launches guarantees its steps. -/
theorem Role.launches_guarantees {role : Role} {program : RelayAction RelayReport}
    (launches : role.launches program) (world : RelayWorld) :
    Program.Guarantees relayContract role.step (fun _ _ _ _ => True) program none [] world := by
  cases role with
  | relay owner =>
    obtain ⟨leaseTTL, limit, rfl⟩ := launches
    refine Program.guarantees_bind _ _ ((drainOnce_guarantees leaseTTL limit).mono ?_)
    rintro (error | result) pending held last -
    · trivial
    · exact fun _ _ => trivial
  | operator =>
    obtain ⟨tenantID, eventID, rfl⟩ := launches
    refine Program.guarantees_bind _ _
      ((releaseQuarantined_guarantees tenantID eventID world).mono ?_)
    rintro (error | result) pending held last -
    · trivial
    · exact fun _ _ => trivial

theorem Reaches.orderly (reaches : Reaches roles system later)
    (orderly : system.Orderly relayContract fun index => (roles index).step) :
    later.Orderly relayContract fun index => (roles index).step := by
  induction reaches with
  | refl => exact orderly
  | tail _ evolves hypothesis =>
    exact hypothesis.evolves (fun _ _ _ => Role.step_persists)
      (fun _ _ => Surroundings.persists) (fun _ _ launches => Role.launches_guarantees launches)
      evolves

omit [DecidableEq Index] [Fintype Index] in
theorem RelaySystem.start_orderly (roles : Index → Role) (world : RelayWorld) :
    (RelaySystem.start world : RelaySystem Index).Orderly relayContract
      fun index => (roles index).step :=
  ⟨fun _ _ _ _ member => (by cases member), fun _ _ _ => trivial⟩

/-- A property of the world that every step keeps holds along every run. -/
theorem Reaches.preserves {holds : RelayWorld → Prop} (reaches : Reaches roles system later)
    (orderly : system.Orderly relayContract fun index => (roles index).step)
    (relay : ∀ owner before after, RelayStep owner before after → holds before → holds after)
    (operator : ∀ before after, OperatorStep before after → holds before → holds after)
    (surroundings : ∀ before after, Surroundings before after → holds before → holds after)
    (first : holds system.committed) : holds later.committed := by
  induction reaches with
  | refl => exact first
  | tail reaches evolves hypothesis =>
    cases evolves with
    | moved index reply =>
      rcases (Reaches.orderly reaches orderly).step_guarantee index reply with same | step
      · rw [same]
        exact hypothesis
      · cases role : roles index with
        | relay owner =>
          rw [role] at step
          exact relay owner _ _ step hypothesis
        | operator =>
          rw [role] at step
          exact operator _ _ step hypothesis
    | disturbed db allowed waits => exact surroundings _ _ allowed hypothesis
    | launched index program begins => exact hypothesis

end Parties

/-! ### What the outbox says about the broker -/

/-- Every mark of the outbox is true of the broker, and the broker has only what it should. -/
structure Sound (world : RelayWorld) : Prop where
  published : ∀ row ∈ world.outbox.rows, row.status = .published → row.message true ∈ world.broker
  quarantined : ∀ row ∈ world.outbox.rows, row.status = .quarantined → ¬ row.Publishable
  sent : ∀ message ∈ world.broker, ∃ row ∈ world.outbox.rows, row.Publishable ∧
    message = row.message message.acknowledged

theorem Fresh.sound {world : RelayWorld} (fresh : Fresh world) : Sound world where
  published row member marked := by
    rw [fresh.rows row member] at marked
    cases marked
  quarantined row member marked := by
    rw [fresh.rows row member] at marked
    cases marked
  sent message member := by
    rw [fresh.broker] at member
    cases member

/-- A row after a step was there before it. -/
theorem RowsBy.origin {related : OutboxRow → OutboxRow → Prop}
    {before after : Table OutboxRow.eventID} (rows : RowsBy related before after)
    {row : OutboxRow} (member : row ∈ after.rows) : ∃ old ∈ before.rows, related old row := by
  have present : after.find? row.eventID = some row :=
    Table.find?_eq_some_iff.mpr ⟨member, rfl⟩
  cases found : before.find? row.eventID with
  | none =>
    rw [rows.absent _ found] at present
    cases present
  | some old =>
    obtain ⟨later, there, moved⟩ := rows.kept _ _ found
    rw [present] at there
    cases there
    exact ⟨old, (Table.find?_eq_some_iff.mp found).1, moved⟩

theorem Persists.row (persists : Persists before after)
    {row : OutboxRow} (member : row ∈ before.outbox.rows) :
    ∃ later ∈ after.outbox.rows, later.identity = row.identity := by
  obtain ⟨later, found, same⟩ := persists.rows row.eventID row
    (Table.find?_eq_some_iff.mpr ⟨member, rfl⟩)
  exact ⟨later, (Table.find?_eq_some_iff.mp found).1, same⟩

/-- What was sent for a row is still a message of that row. -/
theorem Persists.sent (persists : Persists before after)
    {message : Produced} (sent : ∃ row ∈ before.outbox.rows, row.Publishable ∧
      message = row.message message.acknowledged) :
    ∃ row ∈ after.outbox.rows, row.Publishable ∧
      message = row.message message.acknowledged := by
  obtain ⟨row, member, fit, isMessage⟩ := sent
  obtain ⟨later, present, same⟩ := persists.row member
  refine ⟨later, present, (OutboxRow.publishable_of_identity same).mpr fit, ?_⟩
  rw [OutboxRow.message_of_identity same]
  exact isMessage

theorem RelayStep.sound {owner : Bytes}
    (step : RelayStep owner before after) (sound : Sound before) : Sound after where
  published row member marked := by
    obtain ⟨old, present, moved⟩ := step.rows.origin member
    cases moved with
    | kept => exact step.grows _ (sound.published _ present marked)
    | published claimed acknowledged => exact step.grows _ acknowledged
    | claimed | released | quarantined => cases marked
  quarantined row member marked := by
    obtain ⟨old, present, moved⟩ := step.rows.origin member
    cases moved with
    | kept => exact sound.quarantined _ present marked
    | quarantined claimed errCode unfit => exact unfit
    | claimed | released | published => cases marked
  sent message member := by
    rcases step.sent message member with old | new
    · exact step.persists.sent (sound.sent message old)
    · exact step.persists.sent new

theorem OperatorStep.sound (step : OperatorStep before after)
    (sound : Sound before) : Sound after where
  published row member marked := by
    obtain ⟨old, present, rfl | ⟨-, rfl⟩⟩ := step.rows.origin member
    · rw [step.broker]
      exact sound.published _ present marked
    · cases marked
  quarantined row member marked := by
    obtain ⟨old, present, rfl | ⟨-, rfl⟩⟩ := step.rows.origin member
    · exact sound.quarantined _ present marked
    · cases marked
  sent message member := by
    rw [step.broker] at member
    exact step.persists.sent (sound.sent message member)

theorem Surroundings.sound (step : Surroundings before after)
    (sound : Sound before) : Sound after := by
  have persists := step.persists
  cases step with
  | passed clock later => exact ⟨sound.published, sound.quarantined, sound.sent⟩
  | added row fresh pending free =>
    exact ⟨Table.forall_mem_store sound.published (by simp [pending]),
      Table.forall_mem_store sound.quarantined (by simp [pending]),
      fun message member => persists.sent (sound.sent message member)⟩

/-- A row of this identity is there, and is published. -/
def Settled (row : OutboxRow) (world : RelayWorld) : Prop :=
  ∃ current ∈ world.outbox.rows, current.identity = row.identity ∧ current.status = .published

/-- A published row stays as it is. -/
theorem RowStep.published_kept {owner : Bytes} {world : RelayWorld} {row later : OutboxRow}
    (step : RowStep owner world row later) (published : row.status = .published) :
    later = row := by
  cases step with
  | kept => rfl
  | claimed now due => simp [OutboxRow.due, published] at due
  | published claimed | released claimed | quarantined claimed =>
    simp [OutboxRow.claimedBy, published] at claimed

/-- A row under somebody else's lease stays as it is. -/
theorem RowStep.leased_kept {owner holder : Bytes} {world : RelayWorld} {row later : OutboxRow}
    {expires : Int} (step : RowStep owner world row later)
    (leased : row.publishLeaseOwner = some holder) (foreign : holder ≠ owner)
    (expiry : row.publishLeaseExpiresAt = some expires) (unexpired : world.clock < expires) :
    later = row := by
  cases step with
  | kept => rfl
  | claimed now due past =>
    simp only [OutboxRow.due, expiry, Option.all_some, Bool.and_eq_true,
      decide_eq_true_eq] at due
    omega
  | published claimed | released claimed | quarantined claimed =>
    simp [OutboxRow.claimedBy, leased, foreign] at claimed

theorem RowsBy.settled {related : OutboxRow → OutboxRow → Prop} {row : OutboxRow}
    (rows : RowsBy related before.outbox after.outbox)
    (keeps : ∀ old later, related old later → old.status = .published → later = old)
    (settled : Settled row before) : Settled row after := by
  obtain ⟨current, member, same, published⟩ := settled
  obtain ⟨later, found, moved⟩ := rows.kept current.eventID current
    (Table.find?_eq_some_iff.mpr ⟨member, rfl⟩)
  cases keeps _ _ moved published
  exact ⟨current, (Table.find?_eq_some_iff.mp found).1, same, published⟩

theorem OperatorStep.settled {row : OutboxRow}
    (step : OperatorStep before after) (settled : Settled row before) : Settled row after := by
  refine step.rows.settled ?_ settled
  rintro old later (rfl | ⟨quarantined, -⟩) published
  · rfl
  · rw [quarantined] at published
    cases published

theorem Surroundings.settled {row : OutboxRow}
    (step : Surroundings before after) (settled : Settled row before) : Settled row after := by
  cases step with
  | passed => exact settled
  | added new fresh =>
    obtain ⟨current, member, same, published⟩ := settled
    refine ⟨current, Table.mem_store_of_ne _ member ?_, same, published⟩
    intro taken
    rw [← taken] at fresh
    exact Table.find?_eq_none_iff.mp fresh current member rfl

/-! ### Safety of the relay -/

section Safety

variable {Index : Type} [DecidableEq Index] [Fintype Index]

/-- Safety of the relay, in every system that any number of workers and operators reach from an
outbox of pending rows. A published row was acknowledged by the broker, byte for byte and under
the key of its columns. A quarantined row is one that cannot be published, and no such row was
ever sent. Whatever happens later, every row keeps its identity, and a published row stays
published. And no worker changes a row under an unexpired lease of another owner. -/
theorem relay_safe (roles : Index → Role) (world : RelayWorld) (fresh : Fresh world)
    (system : RelaySystem Index) (reached : Reaches roles (RelaySystem.start world) system) :
    (∀ row ∈ system.committed.outbox.rows, row.status = .published →
      ⟨row.eventID, aggregateKey row.tenantID row.aggregateType row.aggregateID, row.eventBytes,
        true⟩ ∈ system.committed.broker) ∧
    (∀ row ∈ system.committed.outbox.rows, row.status = .quarantined → ¬ row.Publishable) ∧
    (∀ row ∈ system.committed.outbox.rows, ¬ row.Publishable →
      ∀ message ∈ system.committed.broker, message.eventID ≠ row.eventID) ∧
    (∀ later, Reaches roles system later → ∀ row ∈ system.committed.outbox.rows,
      ∃ same ∈ later.committed.outbox.rows, same.identity = row.identity ∧
        (row.status = .published → same.status = .published)) ∧
    (∀ index owner reply, roles index = .relay owner → ∀ row ∈ system.committed.outbox.rows,
      ∀ holder expires, row.publishLeaseOwner = some holder → holder ≠ owner →
        row.publishLeaseExpiresAt = some expires → system.committed.clock < expires →
          row ∈ (system.step index reply).committed.outbox.rows) := by
  have orderly := Reaches.orderly reached (RelaySystem.start_orderly roles world)
  have sound : Sound system.committed := Reaches.preserves reached
    (RelaySystem.start_orderly roles world) (fun _ _ _ step => step.sound)
    (fun _ _ step => step.sound) (fun _ _ step => step.sound) fresh.sound
  refine ⟨sound.published, sound.quarantined, ?_, ?_, ?_⟩
  · intro row member unfit message sent same
    obtain ⟨origin, present, fit, isMessage⟩ := sound.sent message sent
    have itsID : origin.eventID = row.eventID := by
      rw [← same, isMessage]
      rfl
    rw [system.committed.outbox.eq_of_key present member itsID] at fit
    exact unfit fit
  · intro later reaches row member
    by_cases published : row.status = .published
    · obtain ⟨same, present, identity, still⟩ := Reaches.preserves reaches orderly
        (fun _ _ _ step settled => step.rows.settled (fun _ _ => RowStep.published_kept) settled)
        (fun _ _ step => step.settled) (fun _ _ step => step.settled)
        (⟨row, member, rfl, published⟩ : Settled row system.committed)
      exact ⟨same, present, identity, fun _ => still⟩
    · have persists : Persists system.committed later.committed := Reaches.preserves reaches
        orderly (fun _ _ _ step before => before.trans step.persists)
        (fun _ _ step before => before.trans step.persists)
        (fun _ _ step before => before.trans step.persists) (Persists.refl system.committed)
      obtain ⟨same, present, identity⟩ := persists.row member
      exact ⟨same, present, identity, fun marked => absurd marked published⟩
  · intro index owner reply role row member holder expires leased foreign expiry unexpired
    rcases orderly.step_guarantee index reply with same | step
    · rw [same]
      exact member
    · rw [role] at step
      obtain ⟨later, found, moved⟩ := RelayStep.rows step |>.kept row.eventID row
        (Table.find?_eq_some_iff.mpr ⟨member, rfl⟩)
      cases moved.leased_kept leased foreign expiry unexpired
      exact (Table.find?_eq_some_iff.mp found).1

/-- Moves of the parties are steps of the system. -/
theorem Reaches.run (roles : Index → Role) (system : RelaySystem Index)
    (schedule : List (Index × Reply)) : Reaches roles system (system.run schedule) := by
  induction schedule generalizing system with
  | nil => exact .refl
  | cons move rest hypothesis =>
    exact .head (.moved move.1 move.2) (hypothesis (system.step move.1 move.2))

end Safety

/-- A row with the first event of the sample item, as the source inserts it. -/
def pendingRow : OutboxRow :=
  ⟨sampleEvent, sampleTenant, aggregateTypeInventoryItem, ascii "flour", 1, ascii "hash",
    recordValue (sampleDecrement sampleTenant sampleEvent 1 10), .pending, 0, none, none, 0, none,
    0⟩

def sampleWorld : RelayWorld := ⟨7, Table.empty.store pendingRow, []⟩

def sampleRoles : Bool → Role
  | true => .relay (ascii "first")
  | false => .relay (ascii "second")

/-- A drain of at most ten rows, under the default lease. -/
def sampleDrain (owner : Bytes) : RelayAction RelayReport := do
  let (result, error) ← drainOnce owner 0 10
  return .drained result error

/-- Two workers, who have both begun to drain the outbox. -/
def sampleSystem : RelaySystem Bool where
  committed := sampleWorld
  clients := Function.update (Function.update (RelaySystem.start sampleWorld).clients true
    ⟨sampleDrain (ascii "first"), none, []⟩) false ⟨sampleDrain (ascii "second"), none, []⟩

theorem sampleSystem_reached (schedule : List (Bool × Reply)) :
    Reaches sampleRoles (RelaySystem.start sampleWorld) (sampleSystem.run schedule) :=
  .trans (.tail (.single (.launched true _ ⟨0, 10, rfl⟩)) (.launched false _ ⟨0, 10, rfl⟩))
    (Reaches.run _ sampleSystem schedule)

/-- The first worker has claimed the row and sent its event, and the second is about to select the
rows that are due. -/
def leasedSchedule : List (Bool × Reply) :=
  List.replicate 7 (true, .served 0) ++ List.replicate 2 (false, .served 0)

/-- The second worker ends its drain, and the first marks the row. -/
def publishedSchedule : List (Bool × Reply) :=
  leasedSchedule ++ List.replicate 3 (false, .served 0) ++ [(true, .served 0)]

theorem sampleSystem_run :
    (∃ row ∈ (sampleSystem.run leasedSchedule).committed.outbox.rows,
      row.publishLeaseOwner = some (ascii "first") ∧ row.publishLeaseExpiresAt = some 30000007) ∧
    (sampleSystem.run leasedSchedule).committed.clock = 7 ∧
    ∃ row ∈ (sampleSystem.run publishedSchedule).committed.outbox.rows,
      row.status = .published := by
  decide +kernel

/-- The second worker leaves the row to the first, who then publishes it. -/
theorem relay_safe_sample :
    (∃ row ∈ (sampleSystem.run leasedSchedule).committed.outbox.rows,
      row.publishLeaseOwner = some (ascii "first") ∧ ∀ reply,
        row ∈ ((sampleSystem.run leasedSchedule).step false reply).committed.outbox.rows) ∧
    ∃ row ∈ (sampleSystem.run publishedSchedule).committed.outbox.rows, row.status = .published ∧
      ⟨row.eventID, aggregateKey row.tenantID row.aggregateType row.aggregateID, row.eventBytes,
        true⟩ ∈ (sampleSystem.run publishedSchedule).committed.broker := by
  obtain ⟨⟨leased, present, holder, expiry⟩, clock, row, member, published⟩ := sampleSystem_run
  have fresh : Fresh sampleWorld := ⟨by decide, rfl⟩
  have safe := relay_safe sampleRoles sampleWorld fresh _ (sampleSystem_reached leasedSchedule)
  have later := relay_safe sampleRoles sampleWorld fresh _ (sampleSystem_reached publishedSchedule)
  refine ⟨⟨leased, present, holder, fun reply => ?_⟩, row, member, published,
    later.1 row member published⟩
  exact safe.2.2.2.2 false (ascii "second") reply rfl leased present (ascii "first") 30000007
    holder (by decide) expiry (by rw [clock]; decide)

end SeshatOps
