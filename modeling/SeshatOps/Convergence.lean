/-
This file puts the source and the processor together and proves that they converge.

A `World` is the source with its commands under way, and the events whose delivery some
call has acknowledged. Commands go on in any order, and the stored bytes of any outbox
row are handed to `ProcessRecord` at any time, as often as one likes, with any requests
lost. `World.Sound` holds along every such run. Once every event of the outbox has been
acknowledged, projection and lineage show the source exactly. Until then an acknowledged
event of an item is shown or waits for an earlier one, and a pass over the outbox mends
whatever a run has left undone.
-/

import SeshatOps.Delivery

namespace SeshatOps

open Relational Event Source

/-! ### Runs -/

/-- The call that delivers the stored bytes of an outbox row under its aggregate key. -/
def OutboxRow.call (row : OutboxRow) (fuel : Nat) (pos : SourcePosition) (replies : List Reply) :
    Call :=
  ⟨fuel, aggregateKey row.tenantID row.aggregateType row.aggregateID, row.eventBytes, pos, replies⟩

/-- The source, the platform's tables, and the events that were acknowledged. -/
structure World (Index : Type) where
  source : Sourcing Index
  acked : List Bytes

inductive World.Move (Index : Type)
  | source (move : Source.Move Index)
  | deliver (eventID : Bytes) (fuel : Nat) (pos : SourcePosition) (replies : List Reply)

/-- The event that a move delivers. -/
def World.Move.delivered {Index : Type} : World.Move Index → Option Bytes
  | .source _ => none
  | .deliver eventID _ _ _ => some eventID

section Runs

variable {Index : Type}

def World.start (commands : Index → Command) : World Index := ⟨.start commands, []⟩

/-- `World.start` with each command spared the check on its digest. -/
def World.hashed (commands : Index → Command) : World Index where
  source := { committed := .empty, clients index := { program := (commands index).hashed.val } }
  acked := []

/-- Runs from either are the same. From the second they are computed without a digest. -/
theorem World.start_eq (commands : Index → Command) :
    World.start commands = World.hashed commands := by
  have actions : (fun index => (commands index).action) =
      fun index => (commands index).hashed.val :=
    funext fun index => (commands index).hashed.property
  exact congrArg (fun actions : Index → SourceAction (AcceptResult ⊕ SourceAcceptResult) =>
    (⟨⟨.empty, fun index => { program := actions index }, []⟩, []⟩ : World Index)) actions

def World.db (world : World Index) : Database := world.source.committed

/-- A delivery is one call, run to its end. -/
def World.deliver (world : World Index) (row : OutboxRow) (call : Call) : World Index where
  source := { world.source with committed := call.after world.db }
  acked := if (call.outcome world.db).result.shouldAck then row.eventID :: world.acked
    else world.acked

/-- What holds along every run. -/
structure World.Sound (world : World Index) : Prop where
  source : world.source.Sound
  tracks : ∃ log, Tracks (Published world.db.erp) (· ∈ world.acked) log
    world.db.platform

theorem World.start_sound (commands : Index → Command) : (World.start commands).Sound := by
  refine ⟨Sourcing.start_sound commands, .empty, .empty, ?_, ?_⟩
  · simp [World.start]
  · simp [World.start, World.db, Sourcing.start, Database.empty, Platform.empty]

/-- A delivery is a call with a published event under its own key. -/
theorem Source.Records.ownKey {row : OutboxRow} {env : Envelope} {payload : Payload}
    {canonical : Bytes} (records : Records row env payload canonical) :
    aggregateKey row.tenantID row.aggregateType row.aggregateID = envelopeKey env := by
  have place := records.columns
  rw [envelopeKey, place.1, place.2.1, place.2.2.1]

theorem World.Sound.deliver {world : World Index} (sound : world.Sound) {row : OutboxRow}
    (member : row ∈ world.db.erp.outbox.rows) (fuel : Nat) (pos : SourcePosition)
    (replies : List Reply) : (world.deliver row (row.call fuel pos replies)).Sound := by
  obtain ⟨log, tracks⟩ := sound.tracks
  obtain ⟨env, payload, canonical, records, -⟩ := sound.source.sourced.recorded row member
  obtain ⟨processes, sameErp⟩ := (row.call fuel pos replies).processes world.db true (by simp)
  obtain ⟨later, kept, -⟩ := processes.tracks records.carries records.ownKey
    ⟨row, member, payload, canonical, records⟩ sound.source.sourced.coherent tracks
  have erp : (world.deliver row (row.call fuel pos replies)).db.erp = world.db.erp := sameErp
  refine ⟨sound.source.withPlatform sameErp, later, ?_⟩
  rw [erp]
  refine kept.narrow fun eventID isAcked => ?_
  rw [World.deliver] at isAcked
  split_ifs at isAcked with ack
  · rcases List.mem_cons.mp isAcked with rfl | old
    · exact Or.inr ⟨ack, records.eventID⟩
    · exact Or.inl old
  · exact Or.inl isAcked

/-- A delivery that the server serves is acknowledged, with fuel for every gap. -/
theorem World.Sound.acknowledges {world : World Index} (sound : world.Sound) {row : OutboxRow}
    (member : row ∈ world.db.erp.outbox.rows) {fuel : Nat} (pos : SourcePosition)
    {replies : List Reply} (served : Reply.lost ∉ replies)
    (enough : gapCount world.db.platform < fuel) :
    ((row.call fuel pos replies).outcome world.db).result.shouldAck = true := by
  obtain ⟨log, tracks⟩ := sound.tracks
  obtain ⟨env, payload, canonical, records, -⟩ := sound.source.sourced.recorded row member
  obtain ⟨processes, -⟩ := (row.call fuel pos replies).processes world.db false fun _ => served
  have grounded := tracks.follows.grounded
  refine (processes.acknowledged_iff grounded (fun other parsed _ => ?_) enough).mpr
    ((admits_iff grounded _ _ _).mpr ?_)
  · obtain rfl := records.carries.env_eq parsed
    exact ⟨row, member, payload, canonical, records⟩
  · rw [OutboxRow.call, records.ownKey]
    exact records.recordable _ _

/-- Each inbox row is an event of the outbox, so there are no more gaps than events. -/
theorem World.Sound.gapCount_le {world : World Index} (sound : world.Sound) :
    gapCount world.db.platform ≤ world.db.erp.outbox.rows.length := by
  obtain ⟨log, tracks⟩ := sound.tracks
  have backed : world.db.platform.inbox.rows.map InboxRow.eventID ⊆
      world.db.erp.outbox.rows.map OutboxRow.eventID := by
    intro eventID member
    obtain ⟨row, present, rfl⟩ := List.mem_map.mp member
    obtain ⟨env, payload, canonical, backs⟩ := tracks.follows.backed row present
    obtain ⟨published, listed, _, _, records⟩ := backs.known
    exact List.mem_map.mpr ⟨published, listed, records.eventID.trans backs.of.eventID.symm⟩
  have fewer := (List.subperm_of_subset world.db.platform.inbox.unique backed).length_le
  rw [List.length_map, List.length_map] at fewer
  exact List.countP_le_length.trans fewer

variable [Fintype Index] [DecidableEq Index]

def World.step (world : World Index) : World.Move Index → World Index
  | .source move => { world with source := world.source.move move }
  | .deliver eventID fuel pos replies =>
      match world.db.erp.outbox.find? eventID with
      | none => world
      | some row => world.deliver row (row.call fuel pos replies)

def World.run (world : World Index) (moves : List (World.Move Index)) : World Index :=
  moves.foldl World.step world

theorem World.run_append (world : World Index) (first second : List (World.Move Index)) :
    world.run (first ++ second) = (world.run first).run second := List.foldl_append

theorem World.run_one (world : World Index) (move : World.Move Index) :
    world.run [move] = world.step move := rfl

/-- A served delivery of an event of the outbox adds it to the acknowledged ones. -/
theorem World.Sound.step_deliver {world : World Index} (sound : world.Sound) {row : OutboxRow}
    {eventID : Bytes} (found : world.db.erp.outbox.find? eventID = some row) {fuel : Nat}
    (pos : SourcePosition) {replies : List Reply} (served : Reply.lost ∉ replies)
    (enough : gapCount world.db.platform < fuel) :
    (world.step (.deliver eventID fuel pos replies)).acked = eventID :: world.acked ∧
      (world.step (.deliver eventID fuel pos replies)).db.erp = world.db.erp := by
  obtain ⟨member, own⟩ := Table.find?_eq_some_iff.mp found
  obtain ⟨-, sameErp⟩ := (row.call fuel pos replies).processes world.db true (by simp)
  have step : world.step (.deliver eventID fuel pos replies) =
      world.deliver row (row.call fuel pos replies) := by
    simp only [World.step, found]
  rw [step]
  refine ⟨?_, sameErp⟩
  simp only [World.deliver, sound.acknowledges member pos served enough, if_true]
  exact congrArg (· :: world.acked) own

/-- A delivery leaves the source alone, and what was acknowledged stays acknowledged. -/
theorem World.step_delivers (world : World Index) {move : World.Move Index}
    (delivers : move.delivered.isSome = true) :
    (world.step move).db.erp = world.db.erp ∧ world.acked ⊆ (world.step move).acked := by
  cases move with
  | source move => cases delivers
  | deliver eventID fuel pos replies =>
    rw [World.step]
    cases world.db.erp.outbox.find? eventID with
    | none => exact ⟨rfl, List.Subset.refl _⟩
    | some row =>
      refine ⟨((row.call fuel pos replies).processes world.db true (by simp)).2, ?_⟩
      dsimp only [World.deliver]
      split
      · exact List.subset_cons_self _ _
      · exact List.Subset.refl _

/-- Every move keeps the world sound. -/
theorem World.Sound.step {world : World Index} (sound : world.Sound) (move : World.Move Index) :
    (world.step move).Sound := by
  cases move with
  | source move =>
    obtain ⟨source, keeps, platform⟩ := sound.source.move move
    obtain ⟨log, tracks⟩ := sound.tracks
    refine ⟨source, log, ?_⟩
    have same : (world.step (.source move)).db.platform = world.db.platform := platform
    rw [same]
    exact tracks.mono fun env known => known.mono keeps
  | deliver eventID fuel pos replies =>
    rw [World.step]
    cases found : world.db.erp.outbox.find? eventID with
    | none => exact sound
    | some row =>
      exact sound.deliver (Table.find?_eq_some_iff.mp found).1 fuel pos replies

/-- Deliveries that the server serves, each with fuel for every gap. -/
def World.Serves : World Index → List (World.Move Index) → Prop
  | _, [] => True
  | _, .source _ :: _ => False
  | world, .deliver eventID fuel pos replies :: rest =>
      Reply.lost ∉ replies ∧ gapCount world.db.platform < fuel ∧
        World.Serves (world.step (.deliver eventID fuel pos replies)) rest

/-- What a served pass delivers is acknowledged. -/
theorem World.Sound.serves (pass : List (World.Move Index)) {world : World Index}
    (sound : world.Sound) (served : world.Serves pass) :
    (world.run pass).db.erp = world.db.erp ∧ world.acked ⊆ (world.run pass).acked ∧
      ∀ row ∈ world.db.erp.outbox.rows, some row.eventID ∈ pass.map World.Move.delivered →
        row.eventID ∈ (world.run pass).acked := by
  induction pass generalizing world with
  | nil => exact ⟨rfl, List.Subset.refl _, fun _ _ none => absurd none List.not_mem_nil⟩
  | cons move rest hypothesis =>
    cases move with
    | source move => exact served.elim
    | deliver eventID fuel pos replies =>
      obtain ⟨intact, enough, later⟩ := served
      have delivers : (World.Move.delivered
        (.deliver eventID fuel pos replies : World.Move Index)).isSome = true := rfl
      obtain ⟨erp, acked⟩ := world.step_delivers delivers
      obtain ⟨laterErp, laterAcked, others⟩ := hypothesis (sound.step _) later
      refine ⟨laterErp.trans erp, List.Subset.trans acked laterAcked,
        fun row member delivered => ?_⟩
      rcases List.mem_cons.mp delivered with here | there
      · obtain rfl := Option.some.inj here
        have found := Table.find?_eq_some_iff.mpr ⟨member, rfl⟩
        refine laterAcked ?_
        rw [(sound.step_deliver found pos intact enough).1]
        exact List.mem_cons_self
      · exact others row (erp ▸ member) there

/-- Deliveries of events, one after the other, that the server serves. -/
def World.pass (fuel : Nat) (events : List Bytes) : List (World.Move Index) :=
  events.map fun eventID => .deliver eventID fuel ⟨[], 0, 0⟩ []

/-- As many passes of the re-drive as there are events are enough. -/
theorem World.Sound.serves_pass {fuel : Nat} (events : List Bytes) {world : World Index}
    (sound : world.Sound) (enough : world.db.erp.outbox.rows.length < fuel) :
    world.Serves (World.pass fuel events) := by
  induction events generalizing world with
  | nil => trivial
  | cons first rest hypothesis =>
    refine ⟨List.not_mem_nil, sound.gapCount_le.trans_lt enough, hypothesis (sound.step _) ?_⟩
    rw [(world.step_delivers rfl).1]
    exact enough

/-- A pass over all events leaves the source alone, and every event acknowledged. -/
theorem World.Sound.passed {fuel : Nat} {world : World Index} (sound : world.Sound)
    (events : List Bytes) (enough : world.db.erp.outbox.rows.length < fuel)
    (all : ∀ row ∈ world.db.erp.outbox.rows, row.eventID ∈ events) :
    (world.run (World.pass fuel events)).db.erp = world.db.erp ∧
      ∀ row ∈ (world.run (World.pass fuel events)).db.erp.outbox.rows,
        row.eventID ∈ (world.run (World.pass fuel events)).acked := by
  obtain ⟨erp, -, acked⟩ := sound.serves _ (sound.serves_pass events enough)
  refine ⟨erp, fun row member => ?_⟩
  rw [erp] at member
  refine acked row member ?_
  rw [World.pass, List.map_map]
  exact List.mem_map_of_mem (all row member)

theorem World.run_sound (commands : Index → Command) (moves : List (World.Move Index)) :
    ((World.start commands).run moves).Sound := by
  suffices all : ∀ world : World Index, world.Sound → (world.run moves).Sound from
    all _ (World.start_sound commands)
  induction moves with
  | nil => exact fun _ sound => sound
  | cons move rest hypothesis =>
    exact fun world sound => hypothesis (world.step move) (sound.step move)

theorem World.run_sourced (commands : Index → Command) (moves : List (World.Move Index)) :
    Sourced ((World.start commands).run moves).db.erp :=
  (World.run_sound commands moves).source.sourced

end Runs

/-- The commands of the source wrote its tables, and the platform follows the outbox. -/
structure Followed (db : Database) (log : Log) : Prop
    extends Follows (Published db.erp) log db.platform where
  sourced : Sourced db.erp

theorem World.Sound.followed {Index : Type} {world : World Index} (sound : world.Sound) :
    ∃ log, Followed world.db log := by
  obtain ⟨log, tracks⟩ := sound.tracks
  exact ⟨log, tracks.follows, sound.source.sourced⟩

/-! ### The main result -/

/-- The platform shows the source. -/
structure Converged (db : Database) : Prop where
  projection : ∀ key, itemEvents db.erp key ≠ [] →
    ∃ item, db.erp.inventoryItems.find? key = some item ∧
      db.platform.projection.find? key =
        some ⟨key.1, key.2, item.quantityOnHand, item.aggregateVersion⟩
  nothingElse : ∀ key, itemEvents db.erp key = [] → db.platform.projection.find? key = none
  linked : ∀ source ∈ db.erp.hops.rows,
    ∃! line, line ∈ db.platform.lineage.rows ∧ line.hop = source.hop
  sourced : ∀ line ∈ db.platform.lineage.rows,
    ∃! source, source ∈ db.erp.hops.rows ∧ source.hop = line.hop
  settled : ∀ row ∈ db.platform.inbox.rows,
    row.disposition = .applied ∨ row.disposition = .duplicateNoop

section Converging

variable {erp : Erp} {acked : Bytes → Prop} {log : Log} {platform : Platform}
  {key : Bytes × Bytes}

/-- The events of an item are its published decrements. -/
theorem Source.Sourced.mem_itemEvents (sourced : Sourced erp) {row : OutboxRow}
    (member : row ∈ itemEvents erp key) :
    ∃ env quantity, Published erp env ∧ Valid env (.quantityDecremented quantity) ∧
      env.item = key ∧ env.aggregateVersion = row.aggregateVersion ∧
      decrementOf row = some quantity ∧ env.eventID = row.eventID := by
  simp only [itemEvents, List.mem_filter, Bool.and_eq_true, beq_iff_eq] at member
  obtain ⟨listed, ⟨tenant, type⟩, aggregate⟩ := member
  obtain ⟨env, payload, canonical, records, -⟩ := sourced.recorded row listed
  obtain ⟨sameTenant, sameType, sameAggregate, sameVersion⟩ := records.columns
  obtain ⟨quantity, rfl⟩ := quantity_of_inventory records.valid (sameType.symm.trans type)
  exact ⟨env, quantity, ⟨row, listed, _, canonical, records⟩, records.valid,
    Prod.ext (sameTenant.symm.trans tenant) (sameAggregate.symm.trans aggregate), sameVersion.symm,
    records.decrementOf, records.eventID.symm⟩

/-- An item with all its events in the log is projected to what the source has. -/
theorem Source.Sourced.projects (sourced : Sourced erp)
    (follows : Follows (Published erp) log platform)
    (all : ∀ env quantity, Published erp env → Valid env (.quantityDecremented quantity) →
      env.item = key → env ∈ log key)
    (some_event : itemEvents erp key ≠ []) :
    ∃ item, erp.inventoryItems.find? key = some item ∧ platform.projection.find? key =
      some ⟨key.1, key.2, item.quantityOnHand, item.aggregateVersion⟩ := by
  have consecutive := follows.grounded.applied key
  cases found : erp.inventoryItems.find? key with
  | none => exact absurd (sourced.unstocked key found).1 some_event
  | some item =>
    obtain ⟨initial, decrements, stock⟩ := sourced.stocked key item found
    have conserved := stock.conserved
    refine ⟨item, rfl, ?_⟩
    -- The event of the item's own version is in the log.
    obtain ⟨row, member⟩ := List.exists_mem_of_ne_nil _ some_event
    have positive := (conserved.versions row.aggregateVersion).mp ⟨row, member, rfl⟩
    obtain ⟨newest, newestMember, newestVersion⟩ :=
      (conserved.versions item.aggregateVersion).mpr ⟨by omega, le_refl _⟩
    obtain ⟨env, quantity, known, valid, own, version, -, -⟩ := sourced.mem_itemEvents newestMember
    have listed := all env quantity known valid own
    have reached := (sourced.coherent.mem_log_iff follows.grounded known valid).mp (own ▸ listed)
    rw [own] at reached
    rcases List.eq_nil_or_concat (log key) with none | ⟨front, last, split⟩
    · rw [none] at listed
      cases listed
    rw [List.concat_eq_append] at split
    -- The last event of the log is one of the item's events, so it has no later version.
    have lastMember : last ∈ log key := by simp [split]
    obtain ⟨lastQuantity, lastValid⟩ := consecutive.valid last lastMember
    have lastOwn : last.item = key :=
      Prod.ext (consecutive.tenantID last lastMember) (consecutive.aggregateID last lastMember)
    have lastVersion : last.aggregateVersion = (log key).length := by
      rw [consecutive.versions front.length last (by simp [split]), split]
      simp
    obtain ⟨-, -, -, -, lastRow, lastListed, carries, sameVersion⟩ :=
      sourced.stock_of_event (consecutive.known last lastMember) lastValid
    rw [lastOwn] at lastListed
    have bound := (conserved.versions lastRow.aggregateVersion).mp ⟨lastRow, lastListed, rfl⟩
    have atEnd : last.aggregateVersion = item.aggregateVersion := by omega
    obtain ⟨decrement, found, onHand⟩ :=
      conserved.ends lastRow lastListed (sameVersion.trans atEnd)
    obtain rfl := Option.some.inj (carries.symm.trans found)
    rw [follows.grounded.projection, split, projected_append, shown_of_valid lastValid, onHand,
      atEnd, ← lastOwn]
    rfl

theorem Source.Sourced.projects_nothing (follows : Follows (Published erp) log platform)
    (no_event : itemEvents erp key = []) : platform.projection.find? key = none := by
  have consecutive := follows.grounded.applied key
  rw [follows.grounded.projection]
  cases events : log key with
  | nil => rfl
  | cons env rest =>
    have member : env ∈ log key := by simp [events]
    obtain ⟨quantity, valid⟩ := consecutive.valid env member
    obtain ⟨row, listed, payload, canonical, records⟩ := consecutive.known env member
    obtain rfl : payload = .quantityDecremented quantity :=
      Option.some.inj (records.valid.carried.symm.trans valid.carried)
    have own : env.item = key :=
      Prod.ext (consecutive.tenantID env member) (consecutive.aggregateID env member)
    have present := records.mem_itemEvents listed
    rw [own, no_event] at present
    cases present

/-- A hop whose event is acknowledged has its lineage row, which names the event. -/
theorem Source.Sourced.line_of_hop (sourced : Sourced erp)
    (tracks : Tracks (Published erp) acked log platform) {source : SourceHop}
    (member : source ∈ erp.hops.rows)
    (all : ∀ row ∈ erp.outbox.rows, row.place =
      (source.hop.tenantID, source.hop.kind.aggregateType, source.hop.hopID, 1) →
      acked row.eventID) :
    ∃ row ∈ erp.outbox.rows, ∃ env payload canonical, Records row env payload canonical ∧
      payloadHop env.tenantID payload = some source.hop ∧
      platform.lineage.find? source.key = some (lineageRow env source.hop) := by
  obtain ⟨row, listed, env, payload, canonical, records, described⟩ :=
    sourced.announced source member
  have known : Published erp env := ⟨row, listed, payload, canonical, records⟩
  have first := (sourced.hop_of_event known records.valid described).1
  refine ⟨row, listed, env, payload, canonical, records, described, ?_⟩
  refine tracks.linked sourced.coherent known records.valid described ?_
  rw [← records.eventID]
  exact all row listed (records.place.trans (place_of_hop records.valid described first))

/-- Every lineage row is the row of a source hop. -/
theorem Source.Sourced.hop_of_line (sourced : Sourced erp)
    (follows : Follows (Published erp) log platform) {line : LineageRow}
    (member : line ∈ platform.lineage.rows) :
    ∃! source, source ∈ erp.hops.rows ∧ source.hop = line.hop := by
  obtain ⟨env, payload, hop, known, valid, described, -, rfl⟩ :=
    follows.grounded.lineage line member
  obtain ⟨-, -, source, listed, same⟩ := sourced.hop_of_event known valid described
  refine ⟨source, ⟨listed, same⟩, ?_⟩
  rintro other ⟨otherListed, otherSame⟩
  refine erp.hops.eq_of_key otherListed listed ?_
  rw [SourceHop.key, SourceHop.key, otherSame, same]
  rfl

/-- Once everything is acknowledged the platform shows the source. -/
theorem Source.Sourced.converged {db : Database} (sourced : Sourced db.erp)
    (tracks : Tracks (Published db.erp) acked log db.platform)
    (all : ∀ row ∈ db.erp.outbox.rows, acked row.eventID) : Converged db := by
  have everything : ∀ env, Published db.erp env → acked env.eventID := by
    rintro env ⟨row, member, payload, canonical, records⟩
    rw [← records.eventID]
    exact all row member
  have logged : ∀ {env quantity}, Published db.erp env →
      Valid env (.quantityDecremented quantity) → env ∈ log env.item := fun known valid =>
    tracks.applied_all sourced.coherent (fun env _ known _ _ => everything env known) known valid
      rfl
  refine ⟨fun key some_event => ?_, fun key no_event => projects_nothing tracks.follows no_event,
    fun source member => ?_, fun line member => sourced.hop_of_line tracks.follows member,
    fun row member => ?_⟩
  · refine sourced.projects tracks.follows ?_ some_event
    rintro env quantity known valid rfl
    exact logged known valid
  · obtain ⟨row, listed, env, payload, canonical, records, described, found⟩ :=
      sourced.line_of_hop tracks member fun row listed _ => all row listed
    obtain ⟨present, -⟩ := Table.find?_eq_some_iff.mp found
    refine ⟨_, ⟨present, rfl⟩, ?_⟩
    rintro other ⟨otherPresent, same⟩
    refine db.platform.lineage.eq_of_key otherPresent present ?_
    rw [LineageRow.key, same]
    rfl
  · obtain ⟨env, payload, canonical, backs⟩ := tracks.follows.backed row member
    rcases backs.state with ⟨settled, -⟩ | ⟨-, decrement, beyond⟩
    · exact (settled_iff _).mp settled
    · obtain ⟨quantity, rfl⟩ := payload_of_no_hop decrement
      have reached := (sourced.coherent.mem_log_iff tracks.follows.grounded backs.known
        backs.valid).mp (logged backs.known backs.valid)
      omega

end Converging

/-- However the commands and the deliveries interleave, and whatever requests are lost: once a
call has acknowledged each event of the outbox, projection, lineage and inbox show
exactly what the source has. -/
theorem spine_converges {Index : Type} [Fintype Index] [DecidableEq Index]
    (commands : Index → Command) (moves : List (World.Move Index))
    (all : ∀ row ∈ ((World.start commands).run moves).db.erp.outbox.rows,
      row.eventID ∈ ((World.start commands).run moves).acked) :
    Converged ((World.start commands).run moves).db := by
  have sound := World.run_sound commands moves
  obtain ⟨log, tracks⟩ := sound.tracks
  exact sound.source.sourced.converged tracks all

section Recovery

variable {Index : Type} [Fintype Index] [DecidableEq Index]

/-- Whatever a run left undelivered, unfinished or out of order: a served pass over every event
of the outbox, in any order and with any repetitions, makes the platform show the source. -/
theorem redelivery_converges (commands : Index → Command) (moves pass : List (World.Move Index))
    (served : ((World.start commands).run moves).Serves pass)
    (all : ∀ row ∈ ((World.start commands).run moves).db.erp.outbox.rows,
      some row.eventID ∈ pass.map World.Move.delivered) :
    Converged ((World.start commands).run (moves ++ pass)).db := by
  obtain ⟨erp, -, acked⟩ := (World.run_sound commands moves).serves pass served
  rw [← World.run_append] at erp acked
  have sound := World.run_sound commands (moves ++ pass)
  obtain ⟨log, tracks⟩ := sound.tracks
  refine sound.source.sourced.converged tracks fun row member => ?_
  have listed : row ∈ ((World.start commands).run moves).db.erp.outbox.rows := erp ▸ member
  exact acked row listed (all row listed)

/-- An acknowledged event of an item is in the item's projection, or it waits for an earlier
event of the item that nobody has acknowledged. -/
theorem acknowledged_shown_or_waiting (commands : Index → Command)
    (moves : List (World.Move Index)) (key : Bytes × Bytes) :
    let world := (World.start commands).run moves
    ∀ row ∈ itemEvents world.db.erp key, row.eventID ∈ world.acked →
      row.aggregateVersion ≤ projectedVersion world.db.platform key ∨
      ∃ earlier ∈ itemEvents world.db.erp key,
        earlier.aggregateVersion < row.aggregateVersion ∧ earlier.eventID ∉ world.acked := by
  intro world row member acked
  have sound : world.Sound := World.run_sound commands moves
  have sourced := sound.source.sourced
  obtain ⟨log, tracks⟩ := sound.tracks
  obtain ⟨env, quantity, known, valid, rfl, version, -, named⟩ := sourced.mem_itemEvents member
  refine or_iff_not_imp_right.mpr fun none => ?_
  rw [tracks.follows.grounded.projectedVersion_eq, ← version]
  refine (sourced.coherent.mem_log_iff tracks.follows.grounded known valid).mp ?_
  refine tracks.applied_upTo sourced.coherent known valid ?_
  intro other amount otherKnown otherValid sameItem notLater
  rcases notLater.lt_or_eq with earlier | same
  · obtain ⟨otherRow, listed, payload, canonical, records⟩ := id otherKnown
    obtain rfl : payload = .quantityDecremented amount :=
      Option.some.inj (records.valid.carried.symm.trans otherValid.carried)
    have own := records.mem_itemEvents listed
    rw [sameItem] at own
    rw [← records.eventID]
    by_contra unacked
    refine none ⟨otherRow, own, ?_, unacked⟩
    rw [records.aggregateVersion, ← version]
    exact earlier
  · have place : other.place = env.place := by
      rw [Envelope.place, Envelope.place, otherValid.aggregateType, valid.aggregateType, same,
        (Prod.mk.inj sameItem).1, (Prod.mk.inj sameItem).2]
      rfl
    rw [sourced.coherent.placed other env otherKnown known place, named]
    exact acked

end Recovery

/-! ### A sample run -/

/-- One order of the sample item. -/
def sampleCommands : Fin 1 → Command := fun _ =>
  .acceptOrder (sampleOrder sampleEvent secondEvent 7)

/-- The item is seeded and the order is accepted. -/
def orderMoves : List (World.Move (Fin 1)) :=
  .source (.seed sampleTenant sampleItem 10) ::
    List.replicate 7 (.source (.advance 0 (.served 0)))

/-- The event of the order is delivered too. -/
def sampleMoves : List (World.Move (Fin 1)) := orderMoves ++ World.pass 2 [secondEvent]

/-- The one event is acknowledged, and the tables of the source stay as they were. -/
theorem order_delivered (commands : Fin 1 → Command)
    (events : ((World.start commands).run orderMoves).db.erp.outbox.rows.map OutboxRow.eventID =
      [secondEvent]) :
    ((World.start commands).run sampleMoves).db.erp =
      ((World.start commands).run orderMoves).db.erp ∧
    ∀ row ∈ ((World.start commands).run sampleMoves).db.erp.outbox.rows,
      row.eventID ∈ ((World.start commands).run sampleMoves).acked := by
  rw [sampleMoves, World.run_append]
  refine (World.run_sound commands orderMoves).passed _ ?_ fun row member => ?_
  · rw [← List.length_map (f := OutboxRow.eventID), events]
    decide
  · rw [← events]
    exact List.mem_map_of_mem member

theorem sampleOrder_events :
    ((World.start sampleCommands).run orderMoves).db.erp.outbox.rows.map OutboxRow.eventID =
      [secondEvent] := by
  rw [World.start_eq]
  decide +kernel

/-- Two orders of the sample item. -/
def pairCommands : Bool → Command
  | false => .acceptOrder (sampleOrder sampleEvent secondEvent 7)
  | true => .acceptOrder (sampleOrder thirdEvent thirdEvent 2)

/-- The item is seeded and both orders are accepted. -/
def pairMoves : List (World.Move Bool) :=
  .source (.seed sampleTenant sampleItem 10) ::
    (List.replicate 7 (.source (.advance false (.served 0))) ++
      List.replicate 7 (.source (.advance true (.served 0))))

/-- A delivery of the second event that loses its first request. -/
def lostDelivery : World.Move Bool := .deliver thirdEvent 3 ⟨[], 0, 0⟩ [.lost]

theorem pairMoves_run :
    ((World.start pairCommands).run pairMoves).db.erp.outbox.rows.map OutboxRow.eventID =
      [secondEvent, thirdEvent] ∧
    ((World.start pairCommands).run pairMoves).acked = [] ∧
    ∃ row ∈ itemEvents ((World.start pairCommands).run pairMoves).db.erp
      (sampleTenant, sampleItem), row.eventID = thirdEvent ∧ row.aggregateVersion = 2 := by
  rw [World.start_eq]
  decide +kernel

/-- The lost delivery leaves both events to be delivered. -/
theorem lostDelivery_run :
    ((World.start pairCommands).run (pairMoves ++ [lostDelivery])).db.erp.outbox.rows.length < 3 ∧
    ∀ row ∈ ((World.start pairCommands).run (pairMoves ++ [lostDelivery])).db.erp.outbox.rows,
      row.eventID ∈ [secondEvent, thirdEvent] := by
  have erp : ((World.start pairCommands).run (pairMoves ++ [lostDelivery])).db.erp =
      ((World.start pairCommands).run pairMoves).db.erp := by
    rw [World.run_append, World.run_one]
    exact (World.step_delivers _ rfl).1
  rw [erp, ← List.length_map (f := OutboxRow.eventID), ← pairMoves_run.1]
  exact ⟨by rw [pairMoves_run.1]; decide, fun row member => List.mem_map_of_mem member⟩

/-- The second event is lost once, and then delivered before the first one and after it. -/
theorem spine_converges_sample :
    let world := (World.start pairCommands).run
      (pairMoves ++ [lostDelivery] ++ World.pass 3 [thirdEvent, secondEvent, thirdEvent])
    (∀ row ∈ world.db.erp.outbox.rows, row.eventID ∈ world.acked) ∧ Converged world.db := by
  obtain ⟨enough, events⟩ := lostDelivery_run
  obtain ⟨-, acked⟩ := (World.run_sound pairCommands (pairMoves ++ [lostDelivery])).passed
    [thirdEvent, secondEvent, thirdEvent] enough fun row member =>
      (by decide : [secondEvent, thirdEvent] ⊆ _) (events row member)
  rw [← World.run_append] at acked
  exact ⟨acked, spine_converges pairCommands _ acked⟩

theorem redelivery_converges_order :
    Converged ((World.start pairCommands).run (pairMoves ++ [lostDelivery] ++
      World.pass 3 [thirdEvent, secondEvent, secondEvent])).db := by
  obtain ⟨enough, events⟩ := lostDelivery_run
  refine redelivery_converges pairCommands (pairMoves ++ [lostDelivery]) _
    ((World.run_sound pairCommands _).serves_pass _ enough) fun row member => ?_
  rw [World.pass, List.map_map]
  exact List.mem_map_of_mem ((by decide : [secondEvent, thirdEvent] ⊆ _) (events row member))

/-- The second event is acknowledged, and the first one is still to be delivered. -/
theorem acknowledged_shown_or_waiting_order :
    let world := (World.start pairCommands).run (pairMoves ++ World.pass 3 [thirdEvent])
    world.acked = [thirdEvent] ∧
    ∃ row ∈ itemEvents world.db.erp (sampleTenant, sampleItem), row.eventID = thirdEvent ∧
      row.aggregateVersion = 2 ∧
      (row.aggregateVersion ≤ projectedVersion world.db.platform (sampleTenant, sampleItem) ∨
      ∃ earlier ∈ itemEvents world.db.erp (sampleTenant, sampleItem),
        earlier.aggregateVersion < row.aggregateVersion ∧ earlier.eventID ∉ world.acked) := by
  obtain ⟨events, none, row, member, own, version⟩ := pairMoves_run
  have sound := World.run_sound pairCommands pairMoves
  have found := Table.find?_eq_some_iff.mpr ⟨(List.mem_filter.mp member).1, own⟩
  have enough : gapCount ((World.start pairCommands).run pairMoves).db.platform < 3 := by
    refine sound.gapCount_le.trans_lt ?_
    rw [← List.length_map (f := OutboxRow.eventID), events]
    decide
  obtain ⟨acked, erp⟩ := sound.step_deliver found ⟨[], 0, 0⟩ List.not_mem_nil enough
  have shown := acknowledged_shown_or_waiting pairCommands (pairMoves ++ World.pass 3 [thirdEvent])
    (sampleTenant, sampleItem)
  rw [World.run_append, World.pass, List.map_singleton, World.run_one] at shown ⊢
  rw [none] at acked
  rw [← erp] at member
  refine ⟨acked, row, member, own, version, shown row member ?_⟩
  rw [acked, own]
  exact List.mem_singleton_self _

end SeshatOps
