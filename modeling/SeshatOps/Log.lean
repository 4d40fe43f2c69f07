/-
This file gives the projection its meaning: for each item the log of the events that were
applied to it, whose last event the projection row shows.

The log is not in the database. `Grounded` ties it to the tables: the projection is what
the log projects to, a lineage row is the payload of a delivered event, and a retained
gap holds the canonical bytes of a delivered event. Every decision keeps this and
appends at most its own event to the log of its own item. In a grounded state the
re-drive loop has fewer outcomes than in an arbitrary one, since the bytes of a gap
parse to the event of its row; `Drains` lists them.
-/

import SeshatOps.Redrive

namespace SeshatOps

open Relational Event

/-! ### What a decision writes -/

theorem storeInbox_of_ne {row : InboxRow} (platform : Platform)
    (other : row.disposition ≠ .quarantinedConflict) :
    storeInbox row platform = { platform with inbox := platform.inbox.store row } := by
  cases found : platform.inbox.find? row.eventID with
  | none => simp only [storeInbox, mergeInbox, found]
  | some existing => simp only [storeInbox, mergeInbox, found, if_neg other]

theorem storeInbox_conflict {platform : Platform} {env : Envelope} {existing : InboxRow}
    (found : platform.inbox.find? env.eventID = some existing) :
    storeInbox (inboxRow env existing.contentHash .quarantinedConflict) platform =
      { platform with
        inbox := platform.inbox.store
          (inboxRow env existing.contentHash .quarantinedConflict) } := by
  have present : platform.inbox.find?
      (inboxRow env existing.contentHash .quarantinedConflict).eventID = some existing := found
  simp only [storeInbox, present, mergeInbox]
  rfl

/-- The version that an event of the family is compared with. -/
inductive Reached (platform : Platform) (env : Envelope) : Payload → Int → Prop
  | item (quantity : QuantityDecremented) :
      Reached platform env (.quantityDecremented quantity)
        (projectedVersion platform (env.tenantID, env.aggregateID))
  | hop (payload : Payload) (hop : Hop) (described : payloadHop env.tenantID payload = some hop) :
      Reached platform env payload (lineageVersion platform hop.key)

/-- A decision by what it writes. The quarantines that retain nothing are one case here. -/
inductive Writes (platform : Platform) (env : Envelope) (hash canonical : Bytes) :
    Payload → Disposition → Platform → Prop
  | unchanged (payload : Payload) (existing : InboxRow)
      (found : platform.inbox.find? env.eventID = some existing)
      (same : existing.contentHash = hash) (unsettled : existing.disposition.settled = false)
      (noGap : existing.disposition ≠ .quarantinedGap) :
      Writes platform env hash canonical payload existing.disposition platform
  | quarantined (payload : Payload) (row : InboxRow) (of : row.Of env)
      (unsettled : row.disposition.settled = false) (noGap : row.disposition ≠ .quarantinedGap)
      (reason : (row.contentHash = hash ∧ Undecided platform env hash) ∨ ∃ existing,
        platform.inbox.find? env.eventID = some existing ∧
          row.contentHash = existing.contentHash ∧ existing.contentHash ≠ hash ∧
          row.disposition = .quarantinedConflict) :
      Writes platform env hash canonical payload row.disposition
        { platform with inbox := platform.inbox.store row }
  | retained (payload : Payload) (undecided : Undecided platform env hash) (current : Int)
      (reached : Reached platform env payload current)
      (ahead : current + 1 < env.aggregateVersion) :
      Writes platform env hash canonical payload .quarantinedGap
        { platform with
          inbox := platform.inbox.store
            (versionedRow env hash .quarantinedGap (current + 1) canonical) }
  | repeated (payload : Payload) (existing : InboxRow)
      (found : platform.inbox.find? env.eventID = some existing)
      (same : existing.contentHash = hash) (settled : existing.disposition.settled = true) :
      Writes platform env hash canonical payload .duplicateNoop
        { platform with inbox := platform.inbox.store (inboxRow env hash .duplicateNoop) }
  | joined (payload : Payload) (undecided : Undecided platform env hash) (hop : Hop)
      (described : payloadHop env.tenantID payload = some hop) (current : LineageRow)
      (found : platform.lineage.find? hop.key = some current)
      (own : current.sourceEventID = env.eventID)
      (behind : env.aggregateVersion ≤ current.aggregateVersion) :
      Writes platform env hash canonical payload .duplicateNoop
        { platform with inbox := platform.inbox.store (inboxRow env hash .duplicateNoop) }
  | advanced (quantity : QuantityDecremented) (undecided : Undecided platform env hash)
      (next : env.aggregateVersion =
        projectedVersion platform (env.tenantID, env.aggregateID) + 1)
      (continues : ∀ current,
        platform.projection.find? (env.tenantID, env.aggregateID) = some current →
          quantity.quantityBefore = current.quantityOnHand) :
      Writes platform env hash canonical (.quantityDecremented quantity) .applied
        { platform with
          inbox := platform.inbox.store (inboxRow env hash .applied)
          projection := platform.projection.store
            ⟨env.tenantID, env.aggregateID, quantity.quantityAfter, env.aggregateVersion⟩ }
  | linked (payload : Payload) (undecided : Undecided platform env hash) (hop : Hop)
      (described : payloadHop env.tenantID payload = some hop) (first : env.aggregateVersion = 1)
      (absent : platform.lineage.find? hop.key = none) (free : platform.hasClash hop = false) :
      Writes platform env hash canonical payload .applied
        { platform with
          inbox := platform.inbox.store (inboxRow env hash .applied)
          lineage := platform.lineage.store (lineageRow env hop) }

section Decisions

variable {platform final : Platform} {env : Envelope} {hash canonical : Bytes} {payload : Payload}
  {disposition : Disposition}

theorem Applies.writes (undecided : Undecided platform env hash)
    (applies : Applies platform env hash canonical payload disposition final) :
    Writes platform env hash canonical payload disposition final := by
  -- A row that is neither a gap nor a conflict, written over no decision.
  have noted : ∀ (row : InboxRow), row.Of env → row.contentHash = hash →
      row.disposition.settled = false → row.disposition ≠ .quarantinedGap →
      row.disposition ≠ .quarantinedConflict →
      Writes platform env hash canonical payload row.disposition (storeInbox row platform) := by
    intro row of hashed unsettled noGap noConflict
    rw [storeInbox_of_ne platform noConflict]
    exact .quarantined payload row of unsettled noGap (Or.inl ⟨hashed, undecided⟩)
  cases applies with
  | gap quantity ahead =>
    rw [storeInbox_of_ne platform (by simp [versionedRow, inboxRow])]
    exact .retained _ undecided _ (.item quantity) ahead
  | stale quantity current found behind =>
    exact noted _ (versionedRow_of _ _ _) rfl rfl (by simp [versionedRow, inboxRow])
      (by simp [versionedRow, inboxRow])
  | transition quantity current found next other =>
    exact noted _ (inboxRow_of _) rfl rfl (by simp [inboxRow]) (by simp [inboxRow])
  | applied quantity next continues =>
    rw [storeInbox_of_ne _ (by simp [inboxRow])]
    exact .advanced quantity undecided next continues
  | hopGap _ hop described ahead =>
    rw [storeInbox_of_ne platform (by simp [versionedRow, inboxRow])]
    exact .retained _ undecided _ (.hop _ hop described) ahead
  | hopStale _ hop described current found behind foreign =>
    exact noted _ (versionedRow_of _ _ _) rfl rfl (by simp [versionedRow, inboxRow])
      (by simp [versionedRow, inboxRow])
  | hopDuplicate _ hop described current found behind own =>
    rw [storeInbox_of_ne platform (by simp [inboxRow])]
    exact .joined _ undecided hop described current found own behind
  | hopInvalid _ hop described current found next =>
    exact noted _ (versionedRow_of _ _ _) rfl rfl (by simp [versionedRow, inboxRow])
      (by simp [versionedRow, inboxRow])
  | hopApplied _ hop described first absent free =>
    rw [storeInbox_of_ne _ (by simp [inboxRow])]
    exact .linked _ undecided hop described first absent free
  | hopClash _ hop described first absent taken =>
    exact noted _ (inboxRow_of _) rfl rfl (by simp [inboxRow]) (by simp [inboxRow])

theorem Decides.writes
    (decides : Decides platform env hash canonical payload disposition final) :
    Writes platform env hash canonical payload disposition final := by
  cases decides with
  | conflict existing found differs =>
    rw [storeInbox_conflict found]
    exact .quarantined payload _ (inboxRow_of _) rfl (by simp [inboxRow])
      (Or.inr ⟨existing, found, rfl, differs, rfl⟩)
  | duplicate existing found same settled =>
    rw [storeInbox_of_ne platform (by simp [inboxRow])]
    exact .repeated payload existing found same settled
  | terminal existing found same unsettled noGap =>
    exact .unchanged payload existing found same unsettled noGap
  | fresh undecided _ _ applies => exact applies.writes undecided

/-- A fresh decision is written down in the inbox, under the event's own identity. -/
theorem Applies.stores (applies : Applies platform env hash canonical payload disposition final) :
    ∃ row : InboxRow, row.Of env ∧ row.disposition = disposition ∧ row.contentHash = hash ∧
      final.inbox = platform.inbox.store row := by
  -- What is stored is never a conflict, so nothing of an earlier row is kept.
  have noted : ∀ (row : InboxRow) (between : Platform), row.Of env →
      row.disposition = disposition → row.contentHash = hash →
      row.disposition ≠ .quarantinedConflict → between.inbox = platform.inbox →
      ∃ stored : InboxRow, stored.Of env ∧ stored.disposition = disposition ∧
        stored.contentHash = hash ∧
        (storeInbox row between).inbox = platform.inbox.store stored := by
    intro row between of decided hashed noConflict same
    refine ⟨row, of, decided, hashed, ?_⟩
    rw [storeInbox_of_ne between noConflict, ← same]
  cases applies with
  | gap | stale | hopGap | hopStale | hopInvalid =>
    exact noted _ _ (versionedRow_of _ _ _) rfl rfl (by simp [versionedRow, inboxRow]) rfl
  | transition | applied | hopDuplicate | hopApplied | hopClash =>
    exact noted _ _ (inboxRow_of _) rfl rfl (by simp [inboxRow]) rfl

/-- A decision changes the inbox in the row of its event at most. -/
theorem Writes.stores (writes : Writes platform env hash canonical payload disposition final) :
    final.inbox = platform.inbox ∨
      ∃ row : InboxRow, row.Of env ∧ final.inbox = platform.inbox.store row := by
  cases writes with
  | unchanged => exact Or.inl rfl
  | quarantined _ row of unsettled noGap reason => exact Or.inr ⟨row, of, rfl⟩
  | retained => exact Or.inr ⟨_, versionedRow_of _ _ _, rfl⟩
  | repeated | joined | advanced | linked => exact Or.inr ⟨_, inboxRow_of _, rfl⟩

/-- A decision leaves the inbox rows of other events alone. -/
theorem Writes.find?_of_ne (writes : Writes platform env hash canonical payload disposition final)
    {eventID : Bytes} (other : eventID ≠ env.eventID) :
    final.inbox.find? eventID = platform.inbox.find? eventID := by
  rcases writes.stores with same | ⟨row, of, stored⟩
  · rw [same]
  · rw [stored]
    exact Table.find?_store_of_ne _ (of.eventID ▸ other)

/-- An event that no earlier decision settles is decided afresh. -/
theorem Decides.applies (decides : Decides platform env hash canonical payload disposition final)
    (undecided : Undecided platform env hash) :
    Applies platform env hash canonical payload disposition final := by
  cases decides with
  | conflict existing found differs => exact absurd (undecided existing found).1 differs
  | duplicate existing found same settled =>
    rw [(undecided existing found).2] at settled
    cases settled
  | terminal existing found same unsettled noGap =>
    exact absurd (undecided existing found).2 noGap
  | fresh _ _ _ applies => exact applies

end Decisions

/-! ### The applied log -/

/-- For each item, the events applied to it, the first one first. -/
def Log := Bytes × Bytes → List Envelope

def Log.empty : Log := fun _ => []

/-- Append an event to the log of its item. -/
def Log.append (log : Log) (env : Envelope) : Log := fun key =>
  if key = (env.tenantID, env.aggregateID) then log key ++ [env] else log key

/-- The log after a decision: an applied inventory event is appended. -/
def Log.after (log : Log) (env : Envelope) (payload : Payload) (disposition : Disposition) : Log :=
  match payload with
  | .quantityDecremented _ => if disposition = .applied then log.append env else log
  | _ => log

theorem Log.after_of_ne (log : Log) (env : Envelope) (payload : Payload)
    {disposition : Disposition} (other : disposition ≠ .applied) :
    log.after env payload disposition = log := by
  cases payload <;> simp [Log.after, other]

theorem Log.after_hop (log : Log) (env : Envelope) {payload : Payload} (disposition : Disposition)
    {hop : Hop} (described : payloadHop env.tenantID payload = some hop) :
    log.after env payload disposition = log := by
  cases payload with
  | quantityDecremented quantity => cases described
  | _ => rfl

/-- One log continues another. -/
def Log.Extends (later earlier : Log) : Prop :=
  ∀ key, ∃ added, later key = earlier key ++ added

theorem Log.Extends.refl (log : Log) : log.Extends log := fun _ => ⟨[], by simp⟩

theorem Log.Extends.trans {first second third : Log} (late : third.Extends second)
    (early : second.Extends first) : third.Extends first := by
  intro key
  obtain ⟨before, middle⟩ := early key
  obtain ⟨after, last⟩ := late key
  exact ⟨before ++ after, by rw [last, middle, List.append_assoc]⟩

theorem Log.after_extends (log : Log) (env : Envelope) (payload : Payload)
    (disposition : Disposition) : (log.after env payload disposition).Extends log := by
  intro key
  cases payload with
  | quantityDecremented quantity =>
    by_cases applied : disposition = .applied
    · by_cases same : key = (env.tenantID, env.aggregateID)
      · exact ⟨[env], by simp [Log.after, applied, Log.append, same]⟩
      · exact ⟨[], by simp [Log.after, applied, Log.append, same]⟩
    · exact ⟨[], by simp [Log.after, applied]⟩
  | _ => exact ⟨[], by simp [Log.after]⟩

/-- The projection row that an event leaves. -/
def shown (env : Envelope) : Option ProjectionRow :=
  (asQuantityDecremented env).map fun quantity =>
    ⟨env.tenantID, env.aggregateID, quantity.quantityAfter, env.aggregateVersion⟩

/-- The projection row of a log: what its last event leaves. -/
def projected (events : List Envelope) : Option ProjectionRow := events.getLast?.bind shown

/-- A log of delivered events of one item: one for each version from 1 on, each starting from
the quantity that the one before it left. -/
structure Consecutive (delivered : Envelope → Prop) (key : Bytes × Bytes)
    (events : List Envelope) : Prop where
  known : ∀ env ∈ events, delivered env
  tenantID : ∀ env ∈ events, env.tenantID = key.1
  aggregateType : ∀ env ∈ events, env.aggregateType = aggregateTypeInventoryItem
  aggregateID : ∀ env ∈ events, env.aggregateID = key.2
  valid : ∀ env ∈ events, ∃ quantity, Valid env (.quantityDecremented quantity)
  versions : ∀ (index : Nat) env, events[index]? = some env →
    env.aggregateVersion = (index : Int) + 1
  chained : ∀ (index : Nat) first second, events[index]? = some first →
    events[index + 1]? = some second →
    (asQuantityDecremented second).map QuantityDecremented.quantityBefore =
      (asQuantityDecremented first).map QuantityDecremented.quantityAfter

section ConsecutiveEvents

variable {delivered : Envelope → Prop} {key : Bytes × Bytes} {events : List Envelope}
  {env : Envelope} {quantity : QuantityDecremented}

/-- An event of an inventory item is a decrement. -/
theorem quantity_of_inventory {payload : Payload} (valid : Valid env payload)
    (inventory : env.aggregateType = aggregateTypeInventoryItem) :
    ∃ quantity, payload = .quantityDecremented quantity := by
  have type := valid.aggregateType.symm.trans inventory
  cases payload with
  | quantityDecremented quantity => exact ⟨quantity, rfl⟩
  | _ => exact absurd type (by simp only [Payload.aggregateType]; decide)

theorem asQuantityDecremented_of_valid (valid : Valid env (.quantityDecremented quantity)) :
    asQuantityDecremented env = some quantity := by
  simp [asQuantityDecremented, valid.carried]

theorem shown_of_valid (valid : Valid env (.quantityDecremented quantity)) :
    shown env = some ⟨env.tenantID, env.aggregateID, quantity.quantityAfter,
      env.aggregateVersion⟩ := by
  rw [shown, asQuantityDecremented_of_valid valid, Option.map_some]

@[simp] theorem projected_nil : projected [] = none := rfl

@[simp] theorem projected_append (events : List Envelope) (env : Envelope) :
    projected (events ++ [env]) = shown env := by
  simp [projected]

theorem Consecutive.nil : Consecutive delivered key [] := by
  constructor <;> simp

theorem Consecutive.mono {wider : Envelope → Prop} (consecutive : Consecutive delivered key events)
    (wide : ∀ env, delivered env → wider env) : Consecutive wider key events :=
  { consecutive with known := fun env member => wide env (consecutive.known env member) }

/-- The version of the row that a log projects to is the length of the log. -/
theorem Consecutive.projected_version (consecutive : Consecutive delivered key events) :
    (projected events).elim 0 ProjectionRow.aggregateVersion = events.length := by
  rcases List.eq_nil_or_concat events with rfl | ⟨front, last, rfl⟩
  · rfl
  · rw [List.concat_eq_append] at consecutive ⊢
    obtain ⟨quantity, valid⟩ := consecutive.valid last (by simp)
    have version := consecutive.versions front.length last (by simp)
    rw [projected_append, shown_of_valid valid]
    simp [version]

/-- The log may be continued by the event of the next version. -/
theorem Consecutive.append (consecutive : Consecutive delivered key events) (known : delivered env)
    (tenantID : env.tenantID = key.1) (aggregateID : env.aggregateID = key.2)
    (valid : Valid env (.quantityDecremented quantity))
    (next : env.aggregateVersion = events.length + 1)
    (continues : ∀ current, projected events = some current →
      quantity.quantityBefore = current.quantityOnHand) :
    Consecutive delivered key (events ++ [env]) := by
  have last : ∀ other, other ∈ events ++ [env] → other ∈ events ∨ other = env := by
    intro other member
    simpa using member
  have type : env.aggregateType = aggregateTypeInventoryItem := valid.aggregateType
  refine ⟨?_, ?_, ?_, ?_, ?_, ?_, ?_⟩
  · exact fun other member => (last other member).elim (consecutive.known other) (· ▸ known)
  · exact fun other member => (last other member).elim (consecutive.tenantID other) (· ▸ tenantID)
  · exact fun other member => (last other member).elim (consecutive.aggregateType other) (· ▸ type)
  · exact fun other member =>
      (last other member).elim (consecutive.aggregateID other) (· ▸ aggregateID)
  · exact fun other member =>
      (last other member).elim (consecutive.valid other) (· ▸ ⟨quantity, valid⟩)
  · intro index other found
    rcases lt_trichotomy index events.length with inside | rfl | outside
    · rw [List.getElem?_append_left inside] at found
      exact consecutive.versions index other found
    · simp only [List.getElem?_concat_length, Option.some.injEq] at found
      rw [← found, next]
    · rw [List.getElem?_eq_none (by simp; omega)] at found
      cases found
  · intro index first second foundFirst foundSecond
    rcases lt_trichotomy (index + 1) events.length with inside | edge | outside
    · rw [List.getElem?_append_left (by omega)] at foundFirst foundSecond
      exact consecutive.chained index first second foundFirst foundSecond
    · rw [List.getElem?_append_left (by omega)] at foundFirst
      rw [edge, List.getElem?_concat_length, Option.some.injEq] at foundSecond
      subst foundSecond
      obtain ⟨earlier, validFirst⟩ := consecutive.valid first (List.mem_of_getElem? foundFirst)
      have shownLast : projected events = some ⟨first.tenantID, first.aggregateID,
          earlier.quantityAfter, first.aggregateVersion⟩ := by
        rw [projected, List.getLast?_eq_getElem?, ← edge, Nat.add_sub_cancel, foundFirst]
        exact shown_of_valid validFirst
      rw [asQuantityDecremented_of_valid valid, asQuantityDecremented_of_valid validFirst,
        Option.map_some, Option.map_some, continues _ shownLast]
    · rw [List.getElem?_eq_none (by simp; omega)] at foundSecond
      cases foundSecond

end ConsecutiveEvents

/-! ### Grounded states -/

/-- A gap row that holds the canonical bytes of a delivered event. -/
structure Retains (delivered : Envelope → Prop) (row : InboxRow) (env : Envelope)
    (payload : Payload) (canonical : Bytes) : Prop where
  known : delivered env
  valid : Valid env payload
  written : canonicalBytes env = .ok canonical
  of : row.Of env
  hash : row.contentHash = digest canonical
  bytes : row.eventBytes = some canonical

/-- The tables hold nothing that is not derived from delivered events. -/
structure Grounded (delivered : Envelope → Prop) (log : Log) (platform : Platform) : Prop where
  applied : ∀ key, Consecutive delivered key (log key)
  projection : ∀ key, platform.projection.find? key = projected (log key)
  lineage : ∀ row ∈ platform.lineage.rows, ∃ env payload hop, delivered env ∧ Valid env payload ∧
    payloadHop env.tenantID payload = some hop ∧ env.aggregateVersion = 1 ∧
    row = lineageRow env hop
  gaps : ∀ row ∈ platform.inbox.rows, row.disposition = .quarantinedGap →
    2 ≤ row.aggregateVersion ∧ ∃ env payload canonical, Retains delivered row env payload canonical
  hashes : ∀ row ∈ platform.inbox.rows, ∃ bytes, row.contentHash = digest bytes

section Steps

variable {delivered : Envelope → Prop} {log : Log} {platform final : Platform} {env : Envelope}
  {payload : Payload} {canonical : Bytes} {disposition : Disposition}

theorem ne_applied_of_unsettled (unsettled : disposition.settled = false) :
    disposition ≠ .applied := by
  rintro rfl
  cases unsettled

theorem Grounded.empty : Grounded delivered .empty .empty := by
  refine ⟨fun _ => .nil, fun _ => rfl, ?_, ?_, ?_⟩ <;> simp [Platform.empty]

theorem Grounded.mono {wider : Envelope → Prop} (grounded : Grounded delivered log platform)
    (wide : ∀ env, delivered env → wider env) : Grounded wider log platform where
  applied key := (grounded.applied key).mono wide
  projection := grounded.projection
  lineage row member := by
    obtain ⟨env, payload, hop, known, rest⟩ := grounded.lineage row member
    exact ⟨env, payload, hop, wide env known, rest⟩
  gaps row member gap := by
    obtain ⟨bound, env, payload, canonical, retains⟩ := grounded.gaps row member gap
    exact ⟨bound, env, payload, canonical, { retains with known := wide env retains.known }⟩
  hashes := grounded.hashes

theorem Grounded.projectedVersion_eq (grounded : Grounded delivered log platform)
    (key : Bytes × Bytes) : projectedVersion platform key = (log key).length := by
  rw [projectedVersion, grounded.projection]
  exact (grounded.applied key).projected_version

theorem Grounded.lineageVersion_nonneg (grounded : Grounded delivered log platform)
    (key : HopKind × Bytes × Bytes) : 0 ≤ lineageVersion platform key := by
  rw [lineageVersion]
  cases found : platform.lineage.find? key with
  | none => exact le_refl 0
  | some row =>
    obtain ⟨env, payload, hop, -, -, -, first, rfl⟩ :=
      grounded.lineage row (Table.find?_eq_some_iff.mp found).1
    simp [lineageRow, first]

theorem Grounded.reached_nonneg (grounded : Grounded delivered log platform) {current : Int}
    (reached : Reached platform env payload current) : 0 ≤ current := by
  cases reached with
  | item quantity =>
    rw [grounded.projectedVersion_eq]
    exact Int.natCast_nonneg _
  | hop _ hop described => exact grounded.lineageVersion_nonneg hop.key

/-- Writing an inbox row keeps a state grounded when the row is not a gap, or is a sound one. -/
theorem Grounded.storeRow (grounded : Grounded delivered log platform) (row : InboxRow)
    (sound : row.disposition = .quarantinedGap → 2 ≤ row.aggregateVersion ∧
      ∃ env payload canonical, Retains delivered row env payload canonical)
    (hashed : ∃ bytes, row.contentHash = digest bytes) :
    Grounded delivered log { platform with inbox := platform.inbox.store row } where
  applied := grounded.applied
  projection := grounded.projection
  lineage := grounded.lineage
  gaps := Table.forall_mem_store grounded.gaps sound
  hashes := Table.forall_mem_store grounded.hashes hashed

theorem Grounded.storeProjection (grounded : Grounded delivered log platform)
    {quantity : QuantityDecremented} (known : delivered env)
    (valid : Valid env (.quantityDecremented quantity))
    (next : env.aggregateVersion =
      projectedVersion platform (env.tenantID, env.aggregateID) + 1)
    (continues : ∀ current,
      platform.projection.find? (env.tenantID, env.aggregateID) = some current →
        quantity.quantityBefore = current.quantityOnHand) :
    Grounded delivered (log.append env) { platform with
      projection := platform.projection.store
        ⟨env.tenantID, env.aggregateID, quantity.quantityAfter, env.aggregateVersion⟩ } where
  applied key := by
    by_cases same : key = (env.tenantID, env.aggregateID)
    · subst same
      rw [Log.append, if_pos rfl]
      rw [grounded.projectedVersion_eq] at next
      refine (grounded.applied _).append known rfl rfl valid next fun current found => ?_
      exact continues current ((grounded.projection _).trans found)
    · rw [Log.append, if_neg same]
      exact grounded.applied key
  projection key := by
    by_cases same : key = (env.tenantID, env.aggregateID)
    · subst same
      rw [Log.append, if_pos rfl, projected_append, shown_of_valid valid]
      exact Table.find?_store_self platform.projection
        (⟨env.tenantID, env.aggregateID, quantity.quantityAfter, env.aggregateVersion⟩ :
          ProjectionRow)
    · rw [Log.append, if_neg same, ← grounded.projection key]
      exact Table.find?_store_of_ne _ same
  lineage := grounded.lineage
  gaps := grounded.gaps
  hashes := grounded.hashes

theorem Grounded.storeLineage (grounded : Grounded delivered log platform) (known : delivered env)
    (valid : Valid env payload) {hop : Hop}
    (described : payloadHop env.tenantID payload = some hop) (first : env.aggregateVersion = 1) :
    Grounded delivered log
      { platform with lineage := platform.lineage.store (lineageRow env hop) } where
  applied := grounded.applied
  projection := grounded.projection
  lineage := Table.forall_mem_store grounded.lineage
    ⟨env, payload, hop, known, valid, described, first, rfl⟩
  gaps := grounded.gaps
  hashes := grounded.hashes

/-- A decision about a delivered event keeps the state grounded. -/
theorem Grounded.writes (grounded : Grounded delivered log platform) (known : delivered env)
    (valid : Valid env payload) (written : canonicalBytes env = .ok canonical)
    (writes : Writes platform env (digest canonical) canonical payload disposition final) :
    Grounded delivered (log.after env payload disposition) final := by
  cases writes with
  | unchanged _ existing found same unsettled noGap =>
    rwa [Log.after_of_ne _ _ _ (ne_applied_of_unsettled unsettled)]
  | quarantined _ row of unsettled noGap reason =>
    rw [Log.after_of_ne _ _ _ (ne_applied_of_unsettled unsettled)]
    refine grounded.storeRow row (fun gap => absurd gap noGap) ?_
    rcases reason with ⟨hashed, _⟩ | ⟨existing, found, kept, _⟩
    · exact ⟨canonical, hashed⟩
    · rw [kept]
      exact grounded.hashes existing (Table.find?_eq_some_iff.mp found).1
  | retained _ undecided current reached ahead =>
    rw [Log.after_of_ne _ _ _ (by decide)]
    have bound := grounded.reached_nonneg reached
    have bytes : nullBytes canonical = some canonical := by
      simp [nullBytes, canonicalBytes_ne_nil env canonical written]
    refine grounded.storeRow _ (fun _ => ⟨?_, env, payload, canonical, ?_⟩) ⟨canonical, rfl⟩
    · show 2 ≤ env.aggregateVersion
      omega
    · exact ⟨known, valid, written, versionedRow_of _ _ _, rfl, bytes⟩
  | repeated | joined =>
    rw [Log.after_of_ne _ _ _ (by decide)]
    exact grounded.storeRow _ (by simp [inboxRow]) ⟨canonical, rfl⟩
  | advanced quantity undecided next continues =>
    exact (grounded.storeProjection known valid next continues).storeRow _ (by simp [inboxRow])
      ⟨canonical, rfl⟩
  | linked _ undecided hop described first absent free =>
    rw [Log.after_hop _ _ _ described]
    exact (grounded.storeLineage known valid described first).storeRow _ (by simp [inboxRow])
      ⟨canonical, rfl⟩

end Steps

/-! ### The re-drive in a grounded state -/

/-- A retained gap of the aggregate whose turn it is. -/
structure Redriven (delivered : Envelope → Prop) (tenantID aggregateType aggregateID : Bytes)
    (platform : Platform) (env : Envelope) (payload : Payload) (canonical : Bytes) : Prop where
  known : delivered env
  valid : Valid env payload
  written : canonicalBytes env = .ok canonical
  sameTenant : env.tenantID = tenantID
  sameType : env.aggregateType = aggregateType
  sameID : env.aggregateID = aggregateID
  next : env.aggregateVersion = projectedVersion platform (tenantID, aggregateID) + 1
  later : 2 ≤ env.aggregateVersion
  retained : ∃ gap, platform.inbox.find? env.eventID = some gap ∧
    gap.disposition = .quarantinedGap ∧ gap.contentHash = digest canonical ∧ gap.Of env

/-- The runs of the re-drive loop from a grounded state. It is cut off only for a lost request,
for want of fuel, or for an identifier that cannot be a parameter. -/
inductive Drains (delivered : Envelope → Prop) (mayFail : Bool)
    (tenantID aggregateType aggregateID : Bytes) :
    Nat → Log → Platform → Bool → List AppliedUpdate → Log → Platform → Prop
  | cut (fuel : Nat) (log : Log) (platform : Platform)
      (cause : fuel = 0 ∨ mayFail = true ∨
        [tenantID, aggregateType, aggregateID].all storable = false) :
      Drains delivered mayFail tenantID aggregateType aggregateID fuel log platform false [] log
        platform
  | drained (fuel : Nat) (log : Log) (platform : Platform)
      (none : eligibleGaps platform tenantID aggregateType aggregateID = []) :
      Drains delivered mayFail tenantID aggregateType aggregateID (fuel + 1) log platform true []
        log platform
  | stopped (fuel : Nat) (log : Log) (platform : Platform) (env : Envelope) (payload : Payload)
      (canonical : Bytes)
      (redriven : Redriven delivered tenantID aggregateType aggregateID platform env payload
        canonical)
      (disposition : Disposition) (final : Platform)
      (applies : Applies platform env (digest canonical) canonical payload disposition final)
      (other : disposition ≠ .applied) :
      Drains delivered mayFail tenantID aggregateType aggregateID (fuel + 1) log platform true []
        log final
  | advanced (fuel : Nat) (log : Log) (platform : Platform) (env : Envelope) (payload : Payload)
      (canonical : Bytes)
      (redriven : Redriven delivered tenantID aggregateType aggregateID platform env payload
        canonical)
      (next : Platform)
      (applies : Applies platform env (digest canonical) canonical payload .applied next)
      (ended : Bool) (notes : List AppliedUpdate) (after : Log) (final : Platform)
      (rest : Drains delivered mayFail tenantID aggregateType aggregateID fuel
        (log.after env payload .applied) next ended notes after final) :
      Drains delivered mayFail tenantID aggregateType aggregateID (fuel + 1) log platform ended
        (appliedNotes env payload .applied ++ notes) after final

section Draining

variable {delivered : Envelope → Prop} {mayFail : Bool} {log after : Log}
  {platform final : Platform} {tenantID aggregateType aggregateID : Bytes} {env : Envelope}
  {payload : Payload} {canonical : Bytes} {disposition : Disposition}

theorem mem_eligibleGaps (row : InboxRow) :
    row ∈ eligibleGaps platform tenantID aggregateType aggregateID ↔
      (∃ current, platform.projection.find? (tenantID, aggregateID) = some current ∧
        row.aggregateVersion = current.aggregateVersion + 1) ∧
      row ∈ platform.inbox.rows ∧ row.tenantID = tenantID ∧ row.aggregateType = aggregateType ∧
      row.aggregateID = aggregateID ∧ row.disposition = .quarantinedGap ∧
      row.eventBytes.isSome = true := by
  cases found : platform.projection.find? (tenantID, aggregateID) with
  | none => simp [eligibleGaps, found]
  | some current =>
    simp only [eligibleGaps, found, List.mem_filter, Bool.and_eq_true, beq_iff_eq,
      Option.some.injEq, exists_eq_left']
    tauto

theorem Redriven.undecided
    (redriven : Redriven delivered tenantID aggregateType aggregateID platform env payload
      canonical) : Undecided platform env (digest canonical) := by
  obtain ⟨gap, found, isGap, hash, -⟩ := redriven.retained
  intro existing present
  rw [found] at present
  cases present
  exact ⟨hash, isGap⟩

/-- In a grounded state the bytes of an eligible gap parse to the event of its row. -/
theorem Grounded.redriven (grounded : Grounded delivered log platform) {gap : InboxRow}
    (eligible : gap ∈ eligibleGaps platform tenantID aggregateType aggregateID) :
    ∃ env payload canonical, parse (gap.eventBytes.getD []) = .ok env ∧
      digest canonical = gap.contentHash ∧
      Redriven delivered tenantID aggregateType aggregateID platform env payload canonical := by
  obtain ⟨⟨current, found, next⟩, member, sameTenant, sameType, sameID, isGap, -⟩ :=
    (mem_eligibleGaps gap).mp eligible
  obtain ⟨later, env, payload, canonical, retains⟩ := grounded.gaps gap member isGap
  have version := retains.of.aggregateVersion
  refine ⟨env, payload, canonical, ?_, retains.hash.symm, retains.known, retains.valid,
    retains.written, ?_, ?_, ?_, ?_, ?_, gap, ?_, isGap, retains.hash, retains.of⟩
  · rw [retains.bytes]
    exact parse_canonicalBytes env canonical retains.written
  · rw [← retains.of.tenantID, sameTenant]
  · rw [← retains.of.aggregateType, sameType]
  · rw [← retains.of.aggregateID, sameID]
  · rw [projectedVersion, found, Option.elim_some, ← version, next]
  · rw [← version]
    exact later
  · exact Table.find?_eq_some_iff.mpr ⟨member, retains.of.eventID⟩

/-- A gap that is re-driven is refused only for its identifier. -/
theorem Redriven.accepts
    (redriven : Redriven delivered tenantID aggregateType aggregateID platform env payload
      canonical) (fit : storable aggregateID = true) :
    accepts platform env (digest canonical) = true := by
  obtain ⟨gap, found, isGap, hash, -⟩ := redriven.retained
  have later := redriven.later
  have hop : hopAccepts platform env = true := by
    unfold hopAccepts
    split
    · rfl
    · rw [if_neg fun first => by omega]
  simp [SeshatOps.accepts, found, hash, isGap, Disposition.settled, redriven.sameID, fit, hop]

/-- The re-drive loop of a grounded state ends in a grounded state. -/
theorem Redrives.drains {fuel : Nat} {ended : Bool} {notes : List AppliedUpdate}
    (redrives : Redrives mayFail tenantID aggregateType aggregateID fuel platform ended notes
      final) (grounded : Grounded delivered log platform) :
    ∃ after, Drains delivered mayFail tenantID aggregateType aggregateID fuel log platform ended
      notes after final ∧ Grounded delivered after final ∧ after.Extends log := by
  -- The bytes determine the event, so what the loop reads is what the row was written for.
  have reread : ∀ {platform : Platform} {log : Log} {gap : InboxRow} {env : Envelope}
      {payload : Payload} {canonical : Bytes}, Grounded delivered log platform →
      gap ∈ eligibleGaps platform tenantID aggregateType aggregateID →
      Retained gap env payload canonical → digest canonical = gap.contentHash ∧
        Redriven delivered tenantID aggregateType aggregateID platform env payload canonical := by
    intro platform log gap env payload canonical grounded eligible retained
    obtain ⟨env', payload', canonical', parsed, hash, redriven⟩ := grounded.redriven eligible
    obtain ⟨rfl, rfl, rfl⟩ := Carries.unique ⟨parsed, redriven.valid, redriven.written⟩
      ⟨retained.parsed, retained.valid, retained.written⟩
    exact ⟨hash, redriven⟩
  induction redrives generalizing log with
  | unfinished platform => exact ⟨log, .cut 0 log platform (Or.inl rfl), grounded, .refl log⟩
  | failed fuel platform cause =>
    refine ⟨log, .cut _ log platform (Or.inr ?_), grounded, .refl log⟩
    rcases cause with may | stuck
    · exact Or.inl may
    · right
      cases stuck with
      | texts unfit => exact unfit
      | unreadable gap eligible error refused =>
        obtain ⟨env, payload, canonical, parsed, -⟩ := grounded.redriven eligible
        rw [parsed] at refused
        cases refused
      | conflicting gap eligible env payload canonical retained differs unfit =>
        exact absurd (reread grounded eligible retained).1 differs
      | refused gap eligible env payload canonical retained same unfit =>
        obtain ⟨-, redriven⟩ := reread grounded eligible retained
        cases fit : storable aggregateID with
        | true => rw [redriven.accepts fit] at unfit; cases unfit
        | false => simp [fit]
  | drained fuel platform none =>
    exact ⟨log, .drained fuel log platform none, grounded, .refl log⟩
  | requarantined fuel platform gap eligible env payload canonical retained differs ended notes
      final rest hypothesis =>
    exact absurd (reread grounded eligible retained).1 differs
  | stopped fuel platform gap eligible env payload canonical retained same disposition final
      decides other =>
    obtain ⟨-, redriven⟩ := reread grounded eligible retained
    have applies := decides.applies redriven.undecided
    have kept := grounded.writes redriven.known redriven.valid redriven.written decides.writes
    rw [Log.after_of_ne _ _ _ other] at kept
    exact ⟨log, .stopped fuel log platform env payload canonical redriven disposition final applies
      other, kept, .refl log⟩
  | advanced fuel platform gap eligible env payload canonical retained same next decides ended
      notes final rest hypothesis =>
    obtain ⟨-, redriven⟩ := reread grounded eligible retained
    have applies := decides.applies redriven.undecided
    have kept := grounded.writes redriven.known redriven.valid redriven.written decides.writes
    obtain ⟨after, drains, last, longer⟩ := hypothesis kept
    exact ⟨after, .advanced fuel log platform env payload canonical redriven next applies ended
      notes after final drains, last, longer.trans (log.after_extends _ _ _)⟩

/-- A property of log and tables that every re-driven decision keeps is kept by the loop. -/
theorem Drains.preserves {fuel : Nat} {ended : Bool} {notes : List AppliedUpdate}
    (holds : Log → Platform → Prop)
    (step : ∀ log platform env payload canonical disposition final,
      Redriven delivered tenantID aggregateType aggregateID platform env payload canonical →
      Applies platform env (digest canonical) canonical payload disposition final →
      Grounded delivered log platform → holds log platform →
      holds (log.after env payload disposition) final)
    (drains : Drains delivered mayFail tenantID aggregateType aggregateID fuel log platform ended
      notes after final)
    (grounded : Grounded delivered log platform) (start : holds log platform) :
    holds after final := by
  induction drains with
  | cut fuel log platform cause => exact start
  | drained fuel log platform none => exact start
  | stopped fuel log platform env payload canonical redriven disposition final applies other =>
    have kept := step _ _ _ _ _ _ _ redriven applies grounded start
    rwa [Log.after_of_ne _ _ _ other] at kept
  | advanced fuel log platform env payload canonical redriven next applies ended notes after final
      rest hypothesis =>
    exact hypothesis
      (grounded.writes redriven.known redriven.valid redriven.written
        (applies.writes redriven.undecided))
      (step _ _ _ _ _ _ _ redriven applies grounded start)

end Draining

end SeshatOps
