/-
This file is about a world that goes on: what later deliveries leave as it was.

The events that the source had at some point are old. Deliveries of later decrements touch
no inbox row of an old event, and what they append to the logs is not old. A re-drive
behind such a delivery does not break this: it takes events of higher versions of the same
item, and the versions of an item are given out in order.
-/

import SeshatOps.Convergence

namespace SeshatOps

open Relational Event Source

/-! ### One delivery -/

/-- Log and inbox went on from earlier ones without touching the old events. -/
structure Spares (old : Bytes → Prop) (earlierLog : Log) (earlier : Platform) (log : Log)
    (platform : Platform) : Prop where
  inbox : ∀ eventID, old eventID →
    platform.inbox.find? eventID = earlier.inbox.find? eventID
  log : ∀ key, ∃ added, log key = earlierLog key ++ added ∧ ∀ env ∈ added, ¬ old env.eventID

section Deliveries

variable {old : Bytes → Prop} {published : Envelope → Prop} {earlierLog log : Log}
  {earlier platform final : Platform} {env : Envelope} {payload : Payload} {canonical : Bytes}
  {disposition : Disposition} {quantity : QuantityDecremented}

theorem Spares.refl : Spares old log platform log platform :=
  ⟨fun _ _ => rfl, fun _ => ⟨[], by simp, by simp⟩⟩

theorem Spares.trans {middleLog : Log} {middle : Platform}
    (late : Spares old middleLog middle log platform)
    (early : Spares old earlierLog earlier middleLog middle) :
    Spares old earlierLog earlier log platform := by
  refine ⟨fun eventID isOld => (late.inbox eventID isOld).trans (early.inbox eventID isOld),
    fun key => ?_⟩
  obtain ⟨first, extended, firstNew⟩ := early.log key
  obtain ⟨second, longer, secondNew⟩ := late.log key
  refine ⟨first ++ second, by rw [longer, extended, List.append_assoc], fun env member => ?_⟩
  exact (List.mem_append.mp member).elim (firstNew env) (secondNew env)

/-- A decision about an event that is not old. -/
theorem Writes.spares {hash : Bytes}
    (writes : Writes platform env hash canonical payload disposition final)
    (fresh : ¬ old env.eventID) :
    Spares old log platform (log.after env payload disposition) final := by
  refine ⟨fun eventID isOld => writes.find?_of_ne ?_, fun key => ?_⟩
  · rintro rfl
    exact fresh isOld
  · by_cases kept : log.after env payload disposition key = log key
    · exact ⟨[], by rw [kept, List.append_nil], by simp⟩
    · refine ⟨[env], ?_, by simpa using fresh⟩
      unfold Log.after at kept ⊢
      cases payload with
      | quantityDecremented quantity =>
        simp only at kept ⊢
        split_ifs at kept ⊢ with applied
        · unfold Log.append at kept ⊢
          split_ifs at kept ⊢ with own
          · rfl
          · exact absurd rfl kept
        · exact absurd rfl kept
      | _ => exact absurd rfl kept

/-- What the re-drive behind a delivered decrement keeps. -/
structure Redriving (old : Bytes → Prop) (published : Envelope → Prop) (env : Envelope)
    (earlierLog : Log) (earlier : Platform) (log : Log) (platform : Platform) : Prop where
  follows : Follows published log platform
  listed : env ∈ log env.item
  spares : Spares old earlierLog earlier log platform

/-- The events that are re-driven come after the delivered one. -/
theorem Drains.redriving {mayFail ended : Bool} {fuel : Nat} {notes : List AppliedUpdate}
    {after : Log} (coherent : Coherent published) (known : published env)
    (valid : Valid env (.quantityDecremented quantity))
    (later : ∀ other, published other → other.item = env.item →
      env.aggregateVersion < other.aggregateVersion → ¬ old other.eventID)
    (drains : Drains published mayFail env.tenantID env.aggregateType env.aggregateID fuel log
      platform ended notes after final)
    (start : Redriving old published env earlierLog earlier log platform) :
    Redriving old published env earlierLog earlier after final := by
  refine drains.preserves (Redriving old published env earlierLog earlier) ?_
    start.follows.grounded start
  intro log platform other otherPayload bytes disposition final redriven applies grounded before
  have decides : Decides platform other (digest bytes) bytes otherPayload disposition final :=
    .fresh redriven.undecided _ _ applies
  have item : other.item = env.item := Prod.ext redriven.sameTenant redriven.sameID
  have reached := (coherent.mem_log_iff grounded known valid).mp before.listed
  have next := redriven.next
  rw [grounded.projectedVersion_eq] at next
  have behind : env.aggregateVersion < other.aggregateVersion := by
    have length : (log (env.tenantID, env.aggregateID)).length = (log env.item).length := rfl
    omega
  refine ⟨before.follows.decides coherent redriven.known redriven.valid redriven.written decides,
    ?_, (decides.writes.spares (later other redriven.known item behind)).trans before.spares⟩
  obtain ⟨added, extended⟩ := log.after_extends other otherPayload disposition env.item
  rw [extended]
  exact List.mem_append_left _ before.listed

/-- A delivery of a decrement that is not old spares the old events. -/
theorem Processes.spares {mayFail : Bool} {fuel : Nat} {key value : Bytes} {pos : SourcePosition}
    {outcome : Outcome} {sent : List AppliedUpdate} (coherent : Coherent published)
    (follows : Follows published log platform)
    (processes : Processes mayFail fuel key value pos platform outcome sent final)
    (carries : Carries value env (.quantityDecremented quantity) canonical)
    (ownKey : key = envelopeKey env) (known : published env) (fresh : ¬ old env.eventID)
    (later : ∀ other, published other → other.item = env.item →
      env.aggregateVersion < other.aggregateVersion → ¬ old other.eventID) :
    ∃ after, Follows published after final ∧ Spares old log platform after final := by
  rcases processes.own carries ownKey with ⟨error, -, rfl, -⟩ | ⟨disposition, decides, -⟩ |
    ⟨disposition, middle, ended, notes, decides, settled, redrives, -⟩
  · exact ⟨log, follows, .refl⟩
  · exact ⟨_, follows.decides coherent known carries.valid carries.written decides,
      decides.writes.spares fresh⟩
  · have between := follows.decides coherent known carries.valid carries.written decides
    have listed : env ∈ log.after env (.quantityDecremented quantity) disposition env.item := by
      cases follows.takes coherent known carries.valid carries.written decides with
      | repeated _ inEffect => exact inEffect
      | retained _ undecided ahead => cases settled
      | advanced _ undecided next => simp [Log.after, Log.append, Envelope.item]
      | linked _ undecided hop described absent => cases described
    obtain ⟨after, drains, -, -⟩ := redrives.drains between.grounded
    have ends := drains.redriving coherent known carries.valid later
      ⟨between, listed, decides.writes.spares fresh⟩
    exact ⟨after, ends.follows, ends.spares⟩

end Deliveries

/-! ### A world that goes on -/

/-- The identifiers of the events of a source. -/
def Erp.announced (erp : Erp) (eventID : Bytes) : Prop :=
  ∃ row ∈ erp.outbox.rows, row.eventID = eventID

/-- The versions of an item are given out in order. -/
theorem Source.Sourced.version_lt {before after : Erp} (earlier : Sourced before)
    (later : Sourced after) (keeps : KeepsEvents before after) {key : Bytes × Bytes}
    {row added : OutboxRow} (member : row ∈ itemEvents before key)
    (listed : added ∈ itemEvents after key) (fresh : added ∉ before.outbox.rows) :
    row.aggregateVersion < added.aggregateVersion := by
  cases found : before.inventoryItems.find? key with
  | none =>
    rw [(earlier.unstocked key found).1] at member
    cases member
  | some item =>
    obtain ⟨initial, decrements, stock⟩ := earlier.stocked key item found
    have bound := (stock.conserved.versions row.aggregateVersion).mp ⟨row, member, rfl⟩
    obtain ⟨env, quantity, -, valid, -, version, -, -⟩ := later.mem_itemEvents listed
    have positive := valid.version.1
    by_contra behind
    -- The version is one that the earlier source has given out.
    obtain ⟨holder, held, same⟩ := (stock.conserved.versions added.aggregateVersion).mpr
      ⟨by omega, by omega⟩
    simp only [itemEvents, List.mem_filter, Bool.and_eq_true, beq_iff_eq] at held listed
    obtain rfl := later.placed holder (keeps holder held.1) added listed.1 (by
      rw [OutboxRow.place, OutboxRow.place, held.2.1.1, held.2.1.2, held.2.2, listed.2.1.1,
        listed.2.1.2, listed.2.2, same])
    exact fresh held.1

section Worlds

variable {Index : Type} [Fintype Index] [DecidableEq Index]

theorem World.Sound.keeps {world : World Index} (sound : world.Sound) (move : World.Move Index) :
    KeepsEvents world.db.erp (world.step move).db.erp := by
  cases move with
  | source move => exact (sound.source.move move).2.1
  | deliver eventID fuel pos replies =>
    rw [World.step]
    cases found : world.db.erp.outbox.find? eventID with
    | none => exact fun _ => id
    | some row =>
      have sameErp := ((row.call fuel pos replies).processes world.db true (by simp)).2
      intro other member
      show other ∈ ((row.call fuel pos replies).after world.db).erp.outbox.rows
      rw [sameErp]
      exact member

theorem World.Sound.run_keeps {world : World Index} (sound : world.Sound)
    (moves : List (World.Move Index)) : KeepsEvents world.db.erp (world.run moves).db.erp := by
  induction moves generalizing world with
  | nil => exact fun _ => id
  | cons move rest hypothesis =>
    intro row member
    exact hypothesis (sound.step move) row (sound.keeps move row member)

/-- A world that went on from a database without touching its events. -/
structure World.Onward (base : Database) (baseLog : Log) (world : World Index) (log : Log) :
    Prop where
  sound : world.Sound
  keeps : KeepsEvents base.erp world.db.erp
  follows : Follows (Published world.db.erp) log world.db.platform
  spares : Spares base.erp.announced baseLog base.platform log world.db.platform

/-- A move of the source, or a delivery of a later decrement. -/
theorem World.Onward.step {base : Database} {baseLog log : Log} {world : World Index}
    (sourced : Sourced base.erp) (onward : world.Onward base baseLog log)
    (move : World.Move Index)
    (onlyLater : ∀ eventID fuel pos replies, move = .deliver eventID fuel pos replies →
      ¬ base.erp.announced eventID)
    (inventory : ∀ row ∈ world.db.erp.outbox.rows, row ∉ base.erp.outbox.rows →
      row.aggregateType = aggregateTypeInventoryItem) :
    ∃ later, (world.step move).Onward base baseLog later := by
  have keeps : KeepsEvents base.erp (world.step move).db.erp := fun row member =>
    onward.sound.keeps move row (onward.keeps row member)
  cases move with
  | source move =>
    obtain ⟨-, kept, platform⟩ := onward.sound.source.move move
    have same : (world.step (.source move)).db.platform = world.db.platform := platform
    refine ⟨log, onward.sound.step _, keeps, ?_, ?_⟩
    · rw [same]
      exact onward.follows.mono fun env known => known.mono kept
    · rw [same]
      exact onward.spares
  | deliver eventID fuel pos replies =>
    cases found : world.db.erp.outbox.find? eventID with
    | none =>
      have same : world.step (.deliver eventID fuel pos replies) = world := by
        simp only [World.step, found]
      rw [same]
      exact ⟨log, onward⟩
    | some row =>
      have stepped : world.step (.deliver eventID fuel pos replies) =
          world.deliver row (row.call fuel pos replies) := by
        simp only [World.step, found]
      obtain ⟨member, rfl⟩ := Table.find?_eq_some_iff.mp found
      have fresh := onlyLater _ _ _ _ rfl
      have isNew : row ∉ base.erp.outbox.rows := fun isOld => fresh ⟨row, isOld, rfl⟩
      have source := onward.sound.source.sourced
      obtain ⟨env, payload, canonical, records, -⟩ := source.recorded row member
      obtain ⟨quantity, rfl⟩ := quantity_of_inventory records.valid
        (records.columns.2.1.symm.trans (inventory row member isNew))
      have listed := records.mem_itemEvents member
      have known : Published world.db.erp env := ⟨row, member, _, canonical, records⟩
      -- An old event of a higher version would have had its version before this one.
      have later : ∀ other, Published world.db.erp other → other.item = env.item →
          env.aggregateVersion < other.aggregateVersion →
          ¬ base.erp.announced other.eventID := by
        rintro other ⟨otherRow, otherMember, otherPayload, bytes, otherRecords⟩ sameItem behind
          ⟨oldRow, isOld, sameID⟩
        obtain rfl : oldRow = otherRow := world.db.erp.outbox.eq_of_key
          (onward.keeps oldRow isOld) otherMember (sameID.trans otherRecords.eventID.symm)
        cases described : payloadHop other.tenantID otherPayload with
        | some hop =>
          have first := source.coherent.first other otherPayload hop
            ⟨oldRow, otherMember, _, bytes, otherRecords⟩ otherRecords.valid described
          have positive := records.valid.version.1
          omega
        | none =>
          obtain ⟨amount, rfl⟩ := payload_of_no_hop described
          have oldListed := otherRecords.mem_itemEvents isOld
          rw [sameItem] at oldListed
          have before := sourced.version_lt source onward.keeps oldListed listed isNew
          rw [otherRecords.aggregateVersion, records.aggregateVersion] at before
          omega
      obtain ⟨processes, sameErp⟩ := (row.call fuel pos replies).processes world.db true (by simp)
      obtain ⟨after, follows, spares⟩ := processes.spares source.coherent onward.follows
        records.carries records.ownKey known (records.eventID ▸ fresh) later
      refine ⟨after, onward.sound.step _, keeps, ?_, ?_⟩
      · rw [stepped]
        show Follows (Published ((row.call fuel pos replies).after world.db).erp) after _
        rw [sameErp]
        exact follows
      · rw [stepped]
        exact spares.trans onward.spares

/-- A run whose deliveries are all of later events, and whose later events are all decrements. -/
theorem World.Onward.run {base : Database} {baseLog log : Log} {world : World Index}
    (sourced : Sourced base.erp) (onward : world.Onward base baseLog log)
    (moves : List (World.Move Index))
    (onlyLater : ∀ eventID fuel pos replies, .deliver eventID fuel pos replies ∈ moves →
      ¬ base.erp.announced eventID)
    (inventory : ∀ row ∈ (world.run moves).db.erp.outbox.rows, row ∉ base.erp.outbox.rows →
      row.aggregateType = aggregateTypeInventoryItem) :
    ∃ later, (world.run moves).Onward base baseLog later := by
  induction moves generalizing world log with
  | nil => exact ⟨log, onward⟩
  | cons move rest hypothesis =>
    have kept := onward.sound.run_keeps (move :: rest)
    obtain ⟨later, stepped⟩ := onward.step sourced move
      (fun eventID fuel pos replies isDelivery =>
        onlyLater eventID fuel pos replies (isDelivery ▸ List.mem_cons_self ..))
      fun row member fresh => inventory row (kept row member) fresh
    exact hypothesis stepped
      (fun eventID fuel pos replies member =>
        onlyLater eventID fuel pos replies (List.mem_cons_of_mem _ member)) inventory

/-- The source only appends: an event once recorded stays as it is, and an event recorded later
has a higher version than the events of its item before it. -/
theorem outbox_append_only (commands : Index → Command) (moves more : List (World.Move Index)) :
    let before := ((World.start commands).run moves).db.erp
    let after := ((World.start commands).run (moves ++ more)).db.erp
    KeepsEvents before after ∧ ∀ key, ∀ old ∈ itemEvents before key,
      ∀ added ∈ itemEvents after key, added ∉ before.outbox.rows →
        old.aggregateVersion < added.aggregateVersion := by
  have keeps := (World.run_sound commands moves).run_keeps more
  rw [← World.run_append] at keeps
  exact ⟨keeps, fun key old member added listed fresh =>
    (World.run_sourced commands moves).version_lt (World.run_sourced commands (moves ++ more)) keeps
      member listed fresh⟩

end Worlds

end SeshatOps
