/-
This file is about deliveries from one source: events that agree with each other,
processed in any order and any number of times.

`Coherent` says what one source guarantees of the events it publishes: identifiers and
places are used once, the decrements of an item are numbered without a hole and chained,
and lineage rows do not compete. `Follows` is what the platform makes of them: every inbox
row belongs to a published event that is in effect or is a gap ahead of its item, and
nothing is quarantined. A decision about a published event keeps this, so it holds
after any run of deliveries, however the calls fail.
-/

import SeshatOps.Admission

namespace SeshatOps

open Relational Event

/-! ### Coherent events -/

/-- The place of an event in the history of its aggregate. -/
def Event.Envelope.place (env : Envelope) : Bytes × Bytes × Bytes × Int :=
  (env.tenantID, env.aggregateType, env.aggregateID, env.aggregateVersion)

/-- The inventory item that an event names. -/
def Event.Envelope.item (env : Envelope) : Bytes × Bytes := (env.tenantID, env.aggregateID)

/-- Events as one source publishes them. -/
structure Coherent (published : Envelope → Prop) : Prop where
  sound : ∀ env, published env → ∃ payload canonical, Valid env payload ∧
    canonicalBytes env = .ok canonical ∧ env.Storable payload
  named : ∀ first second, published first → published second →
    first.eventID = second.eventID → first = second
  placed : ∀ first second, published first → published second →
    first.place = second.place → first = second
  dense : ∀ env quantity, published env → Valid env (.quantityDecremented quantity) →
    ∀ version, 1 ≤ version → version ≤ env.aggregateVersion →
    ∃ other, published other ∧
      other.place = (env.tenantID, env.aggregateType, env.aggregateID, version)
  chained : ∀ first second earlier later, published first → published second →
    Valid first (.quantityDecremented earlier) → Valid second (.quantityDecremented later) →
    first.item = second.item → second.aggregateVersion = first.aggregateVersion + 1 →
    later.quantityBefore = earlier.quantityAfter
  first : ∀ env payload hop, published env → Valid env payload →
    payloadHop env.tenantID payload = some hop → env.aggregateVersion = 1
  apart : ∀ first second payload other hop rival, published first → published second →
    Valid first payload → Valid second other → payloadHop first.tenantID payload = some hop →
    payloadHop second.tenantID other = some rival → hop.clashes rival = true → first = second

/-! ### What the platform makes of them -/

/-- The effect of an event is in the tables: a decrement is in the log of its item, a hop has
its lineage row. -/
def InEffect (log : Log) (platform : Platform) (env : Envelope) (payload : Payload) : Prop :=
  match payloadHop env.tenantID payload with
  | none => env ∈ log env.item
  | some hop => platform.lineage.find? hop.key = some (lineageRow env hop)

/-- An inbox row of a published event: the event is in effect, or it is a retained gap ahead of
its item. -/
structure Backs (published : Envelope → Prop) (log : Log) (platform : Platform) (row : InboxRow)
    (env : Envelope) (payload : Payload) (canonical : Bytes) : Prop where
  known : published env
  valid : Valid env payload
  written : canonicalBytes env = .ok canonical
  of : row.Of env
  hash : row.contentHash = digest canonical
  state : (row.disposition.settled = true ∧ InEffect log platform env payload) ∨
    (row.disposition = .quarantinedGap ∧ payloadHop env.tenantID payload = none ∧
      ((log env.item).length : Int) < env.aggregateVersion)

/-- The tables follow the published events. -/
structure Follows (published : Envelope → Prop) (log : Log) (platform : Platform) : Prop where
  grounded : Grounded published log platform
  backed : ∀ row ∈ platform.inbox.rows, ∃ env payload canonical,
    Backs published log platform row env payload canonical
  applied : ∀ key, ∀ env ∈ log key, ∃ row, platform.inbox.find? env.eventID = some row ∧
    row.disposition.settled = true
  linked : ∀ line ∈ platform.lineage.rows, ∃ row,
    platform.inbox.find? line.sourceEventID = some row ∧ row.disposition.settled = true
  noFailures : platform.failures.rows = []

section Following

variable {published : Envelope → Prop} {log later : Log} {platform final : Platform}
  {env : Envelope} {payload : Payload} {canonical : Bytes} {disposition : Disposition}

theorem Follows.empty : Follows published .empty .empty := by
  refine ⟨.empty, ?_, ?_, ?_, rfl⟩ <;> simp [Platform.empty, Log.empty]

theorem Follows.mono {wider : Envelope → Prop} (follows : Follows published log platform)
    (wide : ∀ env, published env → wider env) : Follows wider log platform where
  grounded := follows.grounded.mono wide
  backed row member := by
    obtain ⟨env, payload, canonical, backs⟩ := follows.backed row member
    exact ⟨env, payload, canonical, { backs with known := wide env backs.known }⟩
  applied := follows.applied
  linked := follows.linked
  noFailures := follows.noFailures

/-- What is in effect stays in effect while the log grows and lineage rows stay. -/
theorem InEffect.mono (inEffect : InEffect log platform env payload) (longer : later.Extends log)
    (lines : ∀ key row, platform.lineage.find? key = some row →
      final.lineage.find? key = some row) : InEffect later final env payload := by
  unfold InEffect at inEffect ⊢
  cases described : payloadHop env.tenantID payload with
  | none =>
    simp only [described] at inEffect ⊢
    obtain ⟨added, extended⟩ := longer env.item
    rw [extended]
    exact List.mem_append_left added inEffect
  | some hop =>
    simp only [described] at inEffect ⊢
    exact lines _ _ inEffect

/-- A payload that describes no hop is a decrement. -/
theorem payload_of_no_hop {tenantID : Bytes} (none : payloadHop tenantID payload = none) :
    ∃ quantity, payload = .quantityDecremented quantity := by
  cases payload with
  | quantityDecremented quantity => exact ⟨quantity, rfl⟩
  | _ => cases none

/-- A published decrement is in the log of its item once the log is long enough. -/
theorem Coherent.mem_log_iff (coherent : Coherent published)
    (grounded : Grounded published log platform) (known : published env)
    {quantity : QuantityDecremented} (valid : Valid env (.quantityDecremented quantity)) :
    env ∈ log env.item ↔ env.aggregateVersion ≤ (log env.item).length := by
  have consecutive := grounded.applied env.item
  constructor
  · intro member
    obtain ⟨index, inside, found⟩ := List.mem_iff_getElem.mp member
    rw [consecutive.versions index env (List.getElem?_eq_some_iff.mpr ⟨inside, found⟩)]
    omega
  · intro reached
    have positive := valid.version.1
    have inside : (env.aggregateVersion - 1).toNat < (log env.item).length := by omega
    have member := List.getElem_mem inside
    have version := consecutive.versions _ _ (List.getElem?_eq_getElem inside)
    have same : (log env.item)[(env.aggregateVersion - 1).toNat] = env := by
      refine coherent.placed _ _ (consecutive.known _ member) known ?_
      rw [Envelope.place, Envelope.place, consecutive.tenantID _ member,
        consecutive.aggregateType _ member, consecutive.aggregateID _ member, version,
        valid.aggregateType]
      simp only [Envelope.item, Payload.aggregateType, Prod.mk.injEq, true_and]
      omega
    rw [same] at member
    exact member

/-- The decisions about a published event that such a state allows. -/
inductive Takes (log : Log) (platform : Platform) (env : Envelope) (canonical : Bytes) :
    Payload → Disposition → Platform → Prop
  | repeated (payload : Payload) (inEffect : InEffect log platform env payload) :
      Takes log platform env canonical payload .duplicateNoop
        { platform with
          inbox := platform.inbox.store (inboxRow env (digest canonical) .duplicateNoop) }
  | retained (quantity : QuantityDecremented)
      (undecided : Undecided platform env (digest canonical))
      (ahead : ((log env.item).length : Int) + 1 < env.aggregateVersion) :
      Takes log platform env canonical (.quantityDecremented quantity) .quarantinedGap
        { platform with
          inbox := platform.inbox.store (versionedRow env (digest canonical) .quarantinedGap
            ((log env.item).length + 1) canonical) }
  | advanced (quantity : QuantityDecremented)
      (undecided : Undecided platform env (digest canonical))
      (next : env.aggregateVersion = (log env.item).length + 1) :
      Takes log platform env canonical (.quantityDecremented quantity) .applied
        { platform with
          inbox := platform.inbox.store (inboxRow env (digest canonical) .applied)
          projection := platform.projection.store
            ⟨env.tenantID, env.aggregateID, quantity.quantityAfter, env.aggregateVersion⟩ }
  | linked (payload : Payload) (undecided : Undecided platform env (digest canonical)) (hop : Hop)
      (described : payloadHop env.tenantID payload = some hop)
      (absent : platform.lineage.find? hop.key = none) :
      Takes log platform env canonical payload .applied
        { platform with
          inbox := platform.inbox.store (inboxRow env (digest canonical) .applied)
          lineage := platform.lineage.store (lineageRow env hop) }

section Step

variable (follows : Follows published log platform)

include follows

/-- An event in effect has a settled row. -/
theorem Follows.settles (inEffect : InEffect log platform env payload) :
    ∃ row, platform.inbox.find? env.eventID = some row ∧ row.disposition.settled = true := by
  unfold InEffect at inEffect
  cases described : payloadHop env.tenantID payload with
  | none =>
    simp only [described] at inEffect
    exact follows.applied _ env inEffect
  | some hop =>
    simp only [described] at inEffect
    exact follows.linked _ (Table.find?_eq_some_iff.mp inEffect).1

/-- An event that no row settles is not in effect. -/
theorem Follows.not_inEffect (undecided : Undecided platform env (digest canonical)) :
    ¬ InEffect log platform env payload := by
  intro inEffect
  obtain ⟨row, found, settled⟩ := follows.settles inEffect
  rw [(undecided row found).2] at settled
  cases settled

/-- A decision about a published event that writes its inbox row. -/
theorem Follows.store {row : InboxRow}
    (backs : Backs published later final row env payload canonical)
    (grounded : Grounded published later final) (inbox : final.inbox = platform.inbox.store row)
    (longer : later.Extends log)
    (lines : ∀ key line, platform.lineage.find? key = some line →
      final.lineage.find? key = some line)
    (ahead : ∀ other, published other → other.eventID ≠ env.eventID →
      ((log other.item).length : Int) < other.aggregateVersion →
      ∀ quantity, Valid other (.quantityDecremented quantity) →
      ((later other.item).length : Int) < other.aggregateVersion)
    (fair : row.disposition.settled = true ∨ ∀ existing,
      platform.inbox.find? env.eventID = some existing → existing.disposition.settled = false)
    (applied : ∀ key, ∀ other ∈ later key,
      other ∈ log key ∨ other = env ∧ row.disposition.settled = true)
    (linked : ∀ line ∈ final.lineage.rows, line ∈ platform.lineage.rows ∨
      line.sourceEventID = env.eventID ∧ row.disposition.settled = true)
    (failures : final.failures = platform.failures) : Follows published later final := by
  -- A settled row survives: it is another one, or the new row is settled.
  have survives : ∀ eventID, (∃ kept, platform.inbox.find? eventID = some kept ∧
      kept.disposition.settled = true) → ∃ kept, final.inbox.find? eventID = some kept ∧
        kept.disposition.settled = true := by
    rintro eventID ⟨kept, found, settled⟩
    rw [inbox]
    by_cases same : eventID = row.eventID
    · subst same
      refine ⟨row, Table.find?_store_self _ row, fair.resolve_right fun unsettled => ?_⟩
      rw [backs.of.eventID] at found
      rw [unsettled kept found] at settled
      cases settled
    · exact ⟨kept, (Table.find?_store_of_ne _ same).trans found, settled⟩
  have own : row.disposition.settled = true → ∃ kept,
      final.inbox.find? env.eventID = some kept ∧ kept.disposition.settled = true := by
    intro settled
    refine ⟨row, ?_, settled⟩
    rw [inbox, ← backs.of.eventID]
    exact Table.find?_store_self _ row
  refine ⟨grounded, fun kept member => ?_, fun key other member => ?_, fun line member => ?_, ?_⟩
  · rw [inbox] at member
    rcases Table.mem_store.mp member with ⟨old, different⟩ | rfl
    · obtain ⟨other, otherPayload, bytes, backed⟩ := follows.backed kept old
      refine ⟨other, otherPayload, bytes, { backed with state := ?_ }⟩
      rcases backed.state with ⟨settled, inEffect⟩ | ⟨isGap, decrement, beyond⟩
      · exact Or.inl ⟨settled, inEffect.mono longer lines⟩
      · refine Or.inr ⟨isGap, decrement, ?_⟩
        obtain ⟨quantity, rfl⟩ := payload_of_no_hop decrement
        refine ahead other backed.known (fun same => different ?_) beyond quantity backed.valid
        rw [backed.of.eventID, backs.of.eventID, same]
    · exact ⟨env, payload, canonical, backs⟩
  · rcases applied key other member with old | ⟨rfl, settled⟩
    · exact survives _ (follows.applied key other old)
    · exact own settled
  · rcases linked line member with old | ⟨source, settled⟩
    · exact survives _ (follows.linked line old)
    · rw [source]
      exact own settled
  · rw [failures]
    exact follows.noFailures

/-- A published hop gets its lineage row. -/
theorem Follows.link (known : published env)
    (valid : Valid env payload) (written : canonicalBytes env = .ok canonical) {hop : Hop}
    (described : payloadHop env.tenantID payload = some hop)
    (absent : platform.lineage.find? hop.key = none)
    (grounded : Grounded published log { platform with
      inbox := platform.inbox.store (inboxRow env (digest canonical) .applied)
      lineage := platform.lineage.store (lineageRow env hop) }) :
    Follows published log { platform with
      inbox := platform.inbox.store (inboxRow env (digest canonical) .applied)
      lineage := platform.lineage.store (lineageRow env hop) } := by
  have own : (platform.lineage.store (lineageRow env hop)).find? hop.key =
      some (lineageRow env hop) :=
    Table.find?_store_self platform.lineage (lineageRow env hop)
  refine follows.store ⟨known, valid, written, inboxRow_of _, rfl, Or.inl ⟨rfl, ?_⟩⟩ grounded rfl
    (.refl log) ?_ (fun _ _ _ beyond _ _ => beyond) (Or.inl rfl) (fun _ _ member => Or.inl member)
    ?_ rfl
  · simp only [InEffect, described]
    exact own
  · intro key line found
    refine (Table.find?_store_of_ne _ ?_).trans found
    rintro rfl
    have none : platform.lineage.find? (lineageRow env hop).key = none := absent
    rw [none] at found
    cases found
  · intro line member
    rcases Table.mem_store.mp member with ⟨old, -⟩ | rfl
    · exact Or.inl old
    · exact Or.inr ⟨rfl, rfl⟩

variable (coherent : Coherent published)

include coherent

/-- The row under the identifier of a published event is the event's own. -/
theorem Follows.existing (known : published env) (valid : Valid env payload)
    (written : canonicalBytes env = .ok canonical) {row : InboxRow}
    (found : platform.inbox.find? env.eventID = some row) :
    Backs published log platform row env payload canonical := by
  obtain ⟨member, sameID⟩ := Table.find?_eq_some_iff.mp found
  obtain ⟨other, otherPayload, bytes, backs⟩ := follows.backed row member
  obtain rfl := coherent.named other env backs.known known (backs.of.eventID.symm.trans sameID)
  obtain rfl : otherPayload = payload :=
    Option.some.inj (backs.valid.carried.symm.trans valid.carried)
  obtain rfl : bytes = canonical := Except.ok.inj (backs.written.symm.trans written)
  exact backs

/-- A lineage row that clashes with a published hop is the hop's own. -/
theorem Follows.clash (known : published env) (valid : Valid env payload) {hop : Hop}
    (described : payloadHop env.tenantID payload = some hop) {line : LineageRow}
    (member : line ∈ platform.lineage.rows) (clashes : hop.clashes line.hop = true) :
    line = lineageRow env hop := by
  obtain ⟨other, otherPayload, rival, otherKnown, otherValid, otherDescribed, -, rfl⟩ :=
    follows.grounded.lineage line member
  obtain rfl := coherent.apart env other payload otherPayload hop rival known otherKnown valid
    otherValid described otherDescribed clashes
  obtain rfl : payload = otherPayload :=
    Option.some.inj (valid.carried.symm.trans otherValid.carried)
  rw [Option.some.inj (described.symm.trans otherDescribed)]

/-- The event after the last one of a log continues its quantity. -/
theorem Follows.continues (known : published env) {quantity : QuantityDecremented}
    (valid : Valid env (.quantityDecremented quantity)) {current : ProjectionRow}
    (found : platform.projection.find? env.item = some current)
    (next : env.aggregateVersion = current.aggregateVersion + 1) :
    quantity.quantityBefore = current.quantityOnHand := by
  have consecutive := follows.grounded.applied env.item
  rw [follows.grounded.projection] at found
  rcases List.eq_nil_or_concat (log env.item) with none | ⟨front, last, split⟩
  · rw [none] at found
    cases found
  · rw [List.concat_eq_append] at split
    have member : last ∈ log env.item := by simp [split]
    obtain ⟨earlier, lastValid⟩ := consecutive.valid last member
    rw [split, projected_append, shown_of_valid lastValid] at found
    cases found
    refine coherent.chained last env earlier quantity (consecutive.known last member) known
      lastValid valid ?_ next
    exact Prod.ext (consecutive.tenantID last member) (consecutive.aggregateID last member)

/-- A published decrement takes its place at the end of its item's log. -/
theorem Follows.advance (known : published env) {quantity : QuantityDecremented}
    (valid : Valid env (.quantityDecremented quantity))
    (written : canonicalBytes env = .ok canonical)
    (next : env.aggregateVersion = (log env.item).length + 1) (projection : Table ProjectionRow.key)
    (grounded : Grounded published (log.append env) { platform with
      inbox := platform.inbox.store (inboxRow env (digest canonical) .applied), projection }) :
    Follows published (log.append env) { platform with
      inbox := platform.inbox.store (inboxRow env (digest canonical) .applied), projection } := by
  have own : env ∈ log.append env env.item := by simp [Log.append, Envelope.item]
  refine follows.store ⟨known, valid, written, inboxRow_of _, rfl, Or.inl ⟨rfl, own⟩⟩ grounded rfl
    (log.after_extends env (.quantityDecremented quantity) .applied) (fun _ _ found => found) ?_
    (Or.inl rfl) ?_ (fun _ member => Or.inl member) rfl
  · intro other otherKnown different beyond otherQuantity otherValid
    by_cases same : other.item = env.item
    · have notNext : other.aggregateVersion ≠ env.aggregateVersion := by
        intro sameVersion
        refine different (congrArg Envelope.eventID (coherent.placed other env otherKnown known ?_))
        rw [Envelope.place, Envelope.place, (Prod.mk.inj same).1, (Prod.mk.inj same).2,
          otherValid.aggregateType, valid.aggregateType, sameVersion]
        rfl
      rw [same] at beyond ⊢
      have length : (log.append env env.item).length = (log env.item).length + 1 := by
        simp [Log.append, Envelope.item]
      omega
    · have untouched : log.append env other.item = log other.item := if_neg same
      rw [untouched]
      exact beyond
  · intro key other member
    rw [Log.append] at member
    split_ifs at member
    · rcases List.mem_append.mp member with old | new
      · exact Or.inl old
      · exact Or.inr ⟨List.mem_singleton.mp new, rfl⟩
    · exact Or.inl member

/-- A published event that no row settles is applied, or retained as a gap ahead of its item. -/
theorem Follows.takes_fresh (known : published env) (valid : Valid env payload)
    (undecided : Undecided platform env (digest canonical))
    (applies : Applies platform env (digest canonical) canonical payload disposition final) :
    Takes log platform env canonical payload disposition final := by
  have fresh : ¬ InEffect log platform env payload := follows.not_inEffect undecided
  have length := follows.grounded.projectedVersion_eq env.item
  -- A lineage row under the key of the hop would be the hop's own, which is not there yet.
  have unlinked : ∀ hop, payloadHop env.tenantID payload = some hop → ∀ line ∈
      platform.lineage.rows, hop.clashes line.hop = true → False := by
    intro hop described line member clashes
    refine fresh ?_
    simp only [InEffect, described]
    rw [← follows.clash coherent known valid described member clashes]
    refine Table.find?_eq_some_iff.mpr ⟨member, ?_⟩
    rw [follows.clash coherent known valid described member clashes]
    rfl
  have present : ∀ hop, payloadHop env.tenantID payload = some hop → ∀ line,
      platform.lineage.find? hop.key = some line → False := by
    intro hop described line found
    obtain ⟨member, sameKey⟩ := Table.find?_eq_some_iff.mp found
    exact unlinked hop described line member ((Hop.clashes_iff _ _).mpr (Or.inl sameKey))
  cases applies with
  | gap quantity ahead =>
    rw [storeInbox_of_ne platform (by simp [versionedRow, inboxRow])]
    have reached : projectedVersion platform (env.tenantID, env.aggregateID) =
      (log env.item).length := length
    rw [reached] at ahead ⊢
    exact .retained quantity undecided ahead
  | stale quantity current found behind =>
    refine absurd ((coherent.mem_log_iff follows.grounded known valid).mpr ?_) fresh
    have shown : platform.projection.find? env.item = some current := found
    rw [projectedVersion, shown, Option.elim_some] at length
    omega
  | transition quantity current found next other =>
    exact absurd (follows.continues coherent known valid found next) other
  | applied quantity next continues =>
    rw [storeInbox_of_ne _ (by simp [inboxRow])]
    exact .advanced quantity undecided (length ▸ next)
  | hopGap _ hop described ahead =>
    have first := coherent.first env payload hop known valid described
    have bound := follows.grounded.lineageVersion_nonneg hop.key
    omega
  | hopStale _ hop described current found | hopDuplicate _ hop described current found
  | hopInvalid _ hop described current found => exact (present hop described current found).elim
  | hopApplied _ hop described first absent free =>
    rw [storeInbox_of_ne _ (by simp [inboxRow])]
    exact .linked payload undecided hop described absent
  | hopClash _ hop described first absent taken =>
    obtain ⟨line, member, clashes⟩ := List.any_eq_true.mp taken
    exact (unlinked hop described line member clashes).elim

/-- No published event is quarantined for good: its own row can only be settled or a gap. -/
theorem Follows.takes (known : published env) (valid : Valid env payload)
    (written : canonicalBytes env = .ok canonical)
    (decides : Decides platform env (digest canonical) canonical payload disposition final) :
    Takes log platform env canonical payload disposition final := by
  cases decides with
  | conflict existing found differs =>
    exact absurd (follows.existing coherent known valid written found).hash differs
  | duplicate existing found same settled =>
    rw [storeInbox_of_ne platform (by simp [inboxRow])]
    rcases (follows.existing coherent known valid written found).state with state | ⟨isGap, -⟩
    · exact .repeated payload state.2
    · rw [isGap] at settled
      cases settled
  | terminal existing found same unsettled noGap =>
    rcases (follows.existing coherent known valid written found).state with state | ⟨isGap, -⟩
    · rw [unsettled] at state
      cases state.1
    · exact absurd isGap noGap
  | fresh undecided _ _ applies => exact follows.takes_fresh coherent known valid undecided applies

/-- Such a decision keeps the tables following the source. -/
theorem Follows.decides (known : published env) (valid : Valid env payload)
    (written : canonicalBytes env = .ok canonical)
    (decides : Decides platform env (digest canonical) canonical payload disposition final) :
    Follows published (log.after env payload disposition) final := by
  have grounded := follows.grounded.writes known valid written decides.writes
  cases follows.takes coherent known valid written decides with
  | repeated _ inEffect =>
    rw [Log.after_of_ne _ _ _ (by decide)] at grounded ⊢
    exact follows.store ⟨known, valid, written, inboxRow_of _, rfl, Or.inl ⟨rfl, inEffect⟩⟩
      grounded rfl (.refl log) (fun _ _ found => found) (fun _ _ _ beyond _ _ => beyond)
      (Or.inl rfl) (fun _ _ member => Or.inl member) (fun _ member => Or.inl member) rfl
  | retained quantity undecided ahead =>
    rw [Log.after_of_ne _ _ _ (by decide)] at grounded ⊢
    refine follows.store ⟨known, valid, written, versionedRow_of _ _ _, rfl,
      Or.inr ⟨rfl, rfl, by omega⟩⟩ grounded rfl (.refl log) (fun _ _ found => found)
      (fun _ _ _ beyond _ _ => beyond) (Or.inr fun existing found => ?_)
      (fun _ _ member => Or.inl member) (fun _ member => Or.inl member) rfl
    rw [(undecided existing found).2]
    rfl
  | advanced quantity undecided next =>
    exact follows.advance coherent known valid written next _ grounded
  | linked _ undecided hop described absent =>
    rw [Log.after_hop _ _ _ described] at grounded ⊢
    exact follows.link known valid written described absent grounded

end Step

end Following

/-! ### What acknowledgements promise -/

/-- The tables with the events that some call acknowledged: each has its inbox row, and a gap
whose turn has come waits for an event of its item that no call has acknowledged yet. -/
structure Tracks (published : Envelope → Prop) (acked : Bytes → Prop) (log : Log)
    (platform : Platform) : Prop where
  follows : Follows published log platform
  received : ∀ eventID, acked eventID → ∃ row, platform.inbox.find? eventID = some row
  waiting : ∀ row ∈ platform.inbox.rows, row.disposition = .quarantinedGap →
    row.aggregateVersion = ((log (row.tenantID, row.aggregateID)).length : Int) + 1 →
    ∃ env ∈ log (row.tenantID, row.aggregateID), ¬ acked env.eventID

section Tracking

variable {published : Envelope → Prop} {acked : Bytes → Prop} {log later : Log}
  {platform final : Platform}
  {env : Envelope} {payload : Payload} {canonical : Bytes} {disposition : Disposition}

/-- A decision leaves a row for its event. -/
theorem Takes.present (takes : Takes log platform env canonical payload disposition final) :
    ∃ row, final.inbox.find? env.eventID = some row := by
  cases takes <;> exact ⟨_, Table.find?_store_self platform.inbox _⟩

/-- A decision takes no inbox row away. -/
theorem Writes.find?_isSome {hash : Bytes}
    (writes : Writes platform env hash canonical payload disposition final) {eventID : Bytes}
    (present : ∃ row, platform.inbox.find? eventID = some row) :
    ∃ row, final.inbox.find? eventID = some row := by
  rcases writes.stores with same | ⟨row, -, stored⟩
  · rw [same]
    exact present
  · rw [stored, ← Option.isSome_iff_exists]
    exact Table.isSome_find?_store _ row eventID (Option.isSome_iff_exists.mpr present)

section Acknowledged

variable (tracks : Tracks published acked log platform)

include tracks

theorem Tracks.mono {wider : Envelope → Prop}
    (wide : ∀ env, published env → wider env) : Tracks wider acked log platform :=
  { tracks with follows := tracks.follows.mono wide }

/-- Fewer acknowledgements promise less. -/
theorem Tracks.narrow {fewer : Bytes → Prop}
    (narrow : ∀ eventID, fewer eventID → acked eventID) : Tracks published fewer log platform where
  follows := tracks.follows
  received eventID isAcked := tracks.received eventID (narrow eventID isAcked)
  waiting row member isGap next := by
    obtain ⟨env, listed, unacked⟩ := tracks.waiting row member isGap next
    exact ⟨env, listed, fun isAcked => unacked (narrow _ isAcked)⟩

variable (coherent : Coherent published)

include coherent

/-- A decision by itself leaves every gap waiting: the event that it applies has not been
acknowledged, or was a gap whose turn had come. -/
theorem Tracks.decides (known : published env) (valid : Valid env payload)
    (written : canonicalBytes env = .ok canonical)
    (decides : Decides platform env (digest canonical) canonical payload disposition final) :
    Tracks published acked (log.after env payload disposition) final := by
  have takes := tracks.follows.takes coherent known valid written decides
  refine ⟨tracks.follows.decides coherent known valid written decides, fun eventID isAcked =>
    decides.writes.find?_isSome (tracks.received eventID isAcked), ?_⟩
  cases takes with
  | repeated _ inEffect =>
    rw [Log.after_of_ne _ _ _ (by decide)]
    exact Table.forall_mem_store tracks.waiting fun isGap => by cases isGap
  | retained quantity undecided ahead =>
    rw [Log.after_of_ne _ _ _ (by decide)]
    refine Table.forall_mem_store tracks.waiting fun _ next => ?_
    have turn : env.aggregateVersion = ((log env.item).length : Int) + 1 := next
    omega
  | advanced quantity undecided turn =>
    intro row member isGap next
    rcases Table.mem_store.mp member with ⟨old, -⟩ | rfl
    · by_cases same : (row.tenantID, row.aggregateID) = env.item
      · have extended : log.append env (row.tenantID, row.aggregateID) =
            log env.item ++ [env] := by
          rw [same]
          exact if_pos rfl
        rw [show log.after env (.quantityDecremented quantity) .applied = log.append env from rfl,
          extended] at next ⊢
        by_cases isAcked : acked env.eventID
        · obtain ⟨existing, found⟩ := tracks.received env.eventID isAcked
          have backs := tracks.follows.existing coherent known valid written found
          obtain ⟨other, listed, unacked⟩ := tracks.waiting existing
            (Table.find?_eq_some_iff.mp found).1 (undecided existing found).2 (by
              rw [backs.of.aggregateVersion, backs.of.tenantID, backs.of.aggregateID]
              exact turn)
          rw [backs.of.tenantID, backs.of.aggregateID] at listed
          exact ⟨other, List.mem_append_left _ listed, unacked⟩
        · exact ⟨env, by simp, isAcked⟩
      · have untouched : log.append env (row.tenantID, row.aggregateID) =
            log (row.tenantID, row.aggregateID) := if_neg same
        rw [show log.after env (.quantityDecremented quantity) .applied = log.append env from rfl,
          untouched] at next ⊢
        exact tracks.waiting row old isGap next
    · cases isGap
  | linked _ undecided hop described absent =>
    rw [Log.after_hop _ _ _ described]
    exact Table.forall_mem_store tracks.waiting fun isGap => by cases isGap

/-- An event may be acknowledged when it has its row and no gap of its item has its turn. -/
theorem Tracks.acknowledge (known : published env)
    (present : ∃ row, platform.inbox.find? env.eventID = some row)
    (clear : env ∈ log env.item → ∀ row ∈ platform.inbox.rows, row.disposition = .quarantinedGap →
      (row.tenantID, row.aggregateID) = env.item →
      row.aggregateVersion ≠ ((log env.item).length : Int) + 1) :
    Tracks published (fun eventID => acked eventID ∨ eventID = env.eventID) log platform where
  follows := tracks.follows
  received eventID isAcked := by
    rcases isAcked with old | rfl
    · exact tracks.received eventID old
    · exact present
  waiting row member isGap next := by
    obtain ⟨other, listed, unacked⟩ := tracks.waiting row member isGap next
    refine ⟨other, listed, fun isAcked => isAcked.elim unacked fun sameID => ?_⟩
    have consecutive := tracks.follows.grounded.applied (row.tenantID, row.aggregateID)
    obtain rfl := coherent.named other env (consecutive.known other listed) known sameID
    have same : (row.tenantID, row.aggregateID) = other.item :=
      Prod.ext (consecutive.tenantID other listed).symm (consecutive.aggregateID other listed).symm
    rw [same] at listed next
    exact clear listed row member isGap same next

/-- Once an event of an item and all before it are acknowledged, it is in the log: the first one
that is missing would be a gap whose turn has come. -/
theorem Tracks.applied_upTo {quantity : QuantityDecremented} (known : published env)
    (valid : Valid env (.quantityDecremented quantity))
    (all : ∀ other amount, published other → Valid other (.quantityDecremented amount) →
      other.item = env.item → other.aggregateVersion ≤ env.aggregateVersion →
      acked other.eventID) : env ∈ log env.item := by
  have consecutive := tracks.follows.grounded.applied env.item
  rw [coherent.mem_log_iff tracks.follows.grounded known valid]
  by_contra missing
  obtain ⟨next, nextKnown, place⟩ := coherent.dense env quantity known valid
    ((log env.item).length + 1) (by omega) (by omega)
  simp only [Envelope.place, Prod.mk.injEq] at place
  obtain ⟨tenant, type, aggregate, version⟩ := place
  obtain ⟨payload, canonical, nextValid, written, -⟩ := coherent.sound next nextKnown
  obtain ⟨amount, rfl⟩ := quantity_of_inventory nextValid (type.trans valid.aggregateType)
  have sameItem : next.item = env.item := Prod.ext tenant aggregate
  obtain ⟨row, found⟩ := tracks.received next.eventID
    (all next amount nextKnown nextValid sameItem (by omega))
  have backs := tracks.follows.existing coherent nextKnown nextValid written found
  rcases backs.state with ⟨-, inEffect⟩ | ⟨isGap, -, -⟩
  · have reached := (coherent.mem_log_iff tracks.follows.grounded nextKnown nextValid).mp inEffect
    rw [sameItem] at reached
    omega
  · have rowItem : (row.tenantID, row.aggregateID) = env.item := by
      rw [backs.of.tenantID, backs.of.aggregateID]
      exact sameItem
    obtain ⟨other, listed, unacked⟩ := tracks.waiting row
      (Table.find?_eq_some_iff.mp found).1 isGap (by
        rw [rowItem, backs.of.aggregateVersion, version])
    rw [rowItem] at listed
    obtain ⟨amount, otherValid⟩ := consecutive.valid other listed
    have otherKnown := consecutive.known other listed
    have own : other.item = env.item :=
      Prod.ext (consecutive.tenantID other listed) (consecutive.aggregateID other listed)
    have below := (coherent.mem_log_iff tracks.follows.grounded otherKnown otherValid).mp
      (own ▸ listed)
    rw [own] at below
    exact unacked (all other amount otherKnown otherValid own (by omega))

/-- Once every event of an item is acknowledged, every one of them is in the log. -/
theorem Tracks.applied_all {key : Bytes × Bytes}
    (all : ∀ env quantity, published env → Valid env (.quantityDecremented quantity) →
      env.item = key → acked env.eventID)
    {quantity : QuantityDecremented} (known : published env)
    (valid : Valid env (.quantityDecremented quantity)) (own : env.item = key) :
    env ∈ log key := by
  subst own
  exact tracks.applied_upTo coherent known valid fun other amount known valid same _ =>
    all other amount known valid same

/-- An acknowledged hop has its lineage row. -/
theorem Tracks.linked (known : published env) (valid : Valid env payload)
    {hop : Hop} (described : payloadHop env.tenantID payload = some hop)
    (isAcked : acked env.eventID) :
    platform.lineage.find? hop.key = some (lineageRow env hop) := by
  obtain ⟨payload', canonical, valid', written, -⟩ := coherent.sound env known
  obtain ⟨row, found⟩ := tracks.received env.eventID isAcked
  have backs := tracks.follows.existing coherent known valid written found
  rcases backs.state with ⟨-, inEffect⟩ | ⟨-, decrement, -⟩
  · simpa only [InEffect, described] using inEffect
  · rw [described] at decrement
    cases decrement

end Acknowledged

section Redriving

variable {tenantID aggregateType aggregateID : Bytes} {mayFail : Bool} {fuel : Nat}

/-- A gap whose turn has come is applied. -/
theorem Redriven.applied
    (redriven : Redriven published tenantID aggregateType aggregateID platform env payload
      canonical) (follows : Follows published log platform) (coherent : Coherent published)
    (applies : Applies platform env (digest canonical) canonical payload disposition final) :
    disposition = .applied := by
  have next := redriven.next
  rw [← redriven.sameTenant, ← redriven.sameID, follows.grounded.projectedVersion_eq] at next
  cases follows.takes_fresh coherent redriven.known redriven.valid redriven.undecided applies with
  | repeated _ inEffect => exact absurd inEffect (follows.not_inEffect redriven.undecided)
  | retained quantity undecided ahead =>
    rw [Envelope.item] at ahead
    omega
  | advanced => rfl
  | linked => rfl

/-- The re-drive keeps what acknowledgements promise, and ends by itself only when no gap of the
aggregate has its turn. -/
theorem Drains.tracks {ended : Bool} {notes : List AppliedUpdate}
    (drains : Drains published mayFail tenantID aggregateType aggregateID fuel log platform ended
      notes later final)
    (tracks : Tracks published acked log platform) (coherent : Coherent published) :
    Tracks published acked later final ∧
      (ended = true → eligibleGaps final tenantID aggregateType aggregateID = []) := by
  induction drains with
  | cut fuel log platform cause => exact ⟨tracks, by simp⟩
  | drained fuel log platform none => exact ⟨tracks, fun _ => none⟩
  | stopped fuel log platform env payload canonical redriven disposition final applies other =>
    exact absurd (redriven.applied tracks.follows coherent applies) other
  | advanced fuel log platform env payload canonical redriven next applies ended notes after final
      rest hypothesis =>
    exact hypothesis (tracks.decides coherent redriven.known redriven.valid
      redriven.written (.fresh redriven.undecided _ _ applies))

end Redriving

/-- A gap whose turn has come is one that the re-drive looks for. -/
theorem Follows.eligible (follows : Follows published log platform) {row : InboxRow}
    (member : row ∈ platform.inbox.rows) (isGap : row.disposition = .quarantinedGap)
    (next : row.aggregateVersion = ((log (row.tenantID, row.aggregateID)).length : Int) + 1) :
    row ∈ eligibleGaps platform row.tenantID aggregateTypeInventoryItem row.aggregateID := by
  obtain ⟨env, payload, canonical, backs⟩ := follows.backed row member
  obtain ⟨second, kept, keptPayload, bytes, retains⟩ := follows.grounded.gaps row member isGap
  have reached := follows.grounded.projectedVersion_eq (row.tenantID, row.aggregateID)
  refine (mem_eligibleGaps row).mpr ⟨?_, member, rfl, ?_, rfl, isGap, by simp [retains.bytes]⟩
  · rw [projectedVersion] at reached
    cases found : platform.projection.find? (row.tenantID, row.aggregateID) with
    | none =>
      rw [found, Option.elim_none] at reached
      omega
    | some current =>
      rw [found, Option.elim_some] at reached
      exact ⟨current, rfl, by omega⟩
  · rcases backs.state with ⟨settled, -⟩ | ⟨-, decrement, -⟩
    · rw [isGap] at settled
      cases settled
    · obtain ⟨quantity, rfl⟩ := payload_of_no_hop decrement
      rw [backs.of.aggregateType, backs.valid.aggregateType]
      rfl

/-- A call with a published event under its own key keeps what acknowledgements promise, and
adds its own. -/
theorem Processes.tracks {mayFail : Bool} {fuel : Nat} {key value : Bytes} {pos : SourcePosition}
    {outcome : Outcome} {sent : List AppliedUpdate}
    (processes : Processes mayFail fuel key value pos platform outcome sent final)
    (carries : Carries value env payload canonical) (ownKey : key = envelopeKey env)
    (known : published env) (coherent : Coherent published)
    (tracks : Tracks published acked log platform) :
    ∃ later, Tracks published
      (fun eventID => acked eventID ∨ (outcome.result.shouldAck = true ∧ eventID = env.eventID))
      later final ∧
      later.Extends log := by
  rcases processes.own carries ownKey with ⟨error, rfl, rfl, -⟩ |
    ⟨disposition, decides, unsettled, -⟩ |
    ⟨disposition, middle, ended, notes, decides, -, redrives, result, -⟩
  · exact ⟨log, tracks.narrow fun other isAcked => isAcked.elim id (by simp), .refl log⟩
  · have kept := tracks.decides coherent known carries.valid carries.written decides
    have takes := tracks.follows.takes coherent known carries.valid carries.written decides
    refine ⟨_, (kept.acknowledge coherent known takes.present ?_).narrow fun other isAcked =>
      isAcked.imp_right And.right, log.after_extends _ _ _⟩
    · -- A gap is ahead of its item, so it is not in the log.
      cases takes with
      | repeated | advanced | linked => cases unsettled
      | retained quantity undecided ahead =>
        intro listed
        rw [Log.after_of_ne _ _ _ (by decide)] at listed
        have reached := (coherent.mem_log_iff tracks.follows.grounded known carries.valid).mp listed
        omega
  · have between := tracks.decides coherent known carries.valid carries.written decides
    have takes := tracks.follows.takes coherent known carries.valid carries.written decides
    obtain ⟨after, drains, grounded, longer⟩ := redrives.drains between.follows.grounded
    obtain ⟨kept, drained⟩ := drains.tracks between coherent
    refine ⟨after, ?_, longer.trans (log.after_extends _ _ _)⟩
    rw [result]
    cases ended with
    | false => exact kept.narrow fun other isAcked => isAcked.elim id (by simp)
    | true =>
      refine (kept.acknowledge coherent known ?_ ?_).narrow fun other isAcked =>
        isAcked.imp_right And.right
      · refine drains.preserves _ (fun _ _ _ _ _ _ _ next applies _ present =>
          (applies.writes next.undecided).find?_isSome present) between.follows.grounded
          takes.present
      · intro listed row member isGap same next
        have consecutive := grounded.applied env.item
        have eligible := kept.follows.eligible member isGap (by rw [same]; exact next)
        rw [← consecutive.aggregateType env listed, (Prod.mk.inj same).1, (Prod.mk.inj same).2,
          drained rfl] at eligible
        cases eligible

end Tracking

end SeshatOps
