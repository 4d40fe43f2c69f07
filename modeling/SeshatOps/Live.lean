/-
This file models the live inventory view: the REST snapshot and the stream of updates of
the API server, the hub between the record processor and the streams, and the web
client that merges both into what it shows.

The client numbers its attempts to connect, and each attempt has at most one fetch and
one stream, so everything is kept by that number: what the attempt waits for, the
messages on its wire, and the channel its stream subscribed. Attempts that the client
has given up stay around on the server until it notices. Applies and notifications go
on at any point in between, in the order of the commits.
-/

import Mathlib.Logic.Function.Basic
import SeshatOps.Checksum
import SeshatOps.History

namespace SeshatOps

namespace Live

open Relational Event

/-! ### What the server sends -/

structure InventoryItem where
  itemID : Bytes
  quantityOnHand : Int
  aggregateVersion : Int
  deriving DecidableEq

structure InventorySnapshot where
  tenantID : Bytes
  items : List InventoryItem
  checksum : Bytes
  observedAt : Bytes
  deriving DecidableEq

/-- The data of an `inventory_projection.updated` event. -/
structure ProjectionUpdated where
  tenantID : Bytes
  itemID : Bytes
  quantityOnHand : Int
  aggregateVersion : Int
  lastAppliedEventID : Bytes
  checksum : Bytes
  deriving DecidableEq

/-- The orders of texts that the environment decides: the collation of the database and the
locale of the browser. -/
structure TextOrders where
  collation : Bytes → Bytes → Bool
  localeCompare : Bytes → Bytes → Bool

/-- `lowerUUIDv4`, byte by byte. -/
def lowerUUIDv4Byte (place : Nat) (byte : UInt8) : Bool :=
  if place = 8 ∨ place = 13 ∨ place = 18 ∨ place = 23 then byte == 0x2D
  else if place = 14 then byte == 0x34
  else if place = 19 then byte == 0x38 || byte == 0x39 || byte == 0x61 || byte == 0x62
  else (0x30 ≤ byte && byte ≤ 0x39) || (0x61 ≤ byte && byte ≤ 0x66)

def validTenantID (tenantID : Bytes) : Bool :=
  !tenantID.isEmpty && tenantID == Strings.toLower tenantID && tenantID.length == 36 &&
    tenantID.zipIdx.all fun (byte, place) => lowerUUIDv4Byte place byte

/-- `ListTenantProjection`, as the items of a snapshot. -/
def listTenantProjection (orders : TextOrders) (projection : Table ProjectionRow.key)
    (tenantID : Bytes) : List InventoryItem :=
  ((projection.rows.filter fun row => row.tenantID = Strings.toLower tenantID).insertionSort
    fun first second => orders.collation first.itemID second.itemID).map
      fun row => ⟨row.itemID, row.quantityOnHand, row.aggregateVersion⟩

/-- The payload of an update, with the checksum of the moment it is sent. -/
def projectionUpdatedPayload (projection : Table ProjectionRow.key) (update : AppliedUpdate) :
    ProjectionUpdated where
  tenantID := update.tenantID
  itemID := update.itemID
  quantityOnHand := update.quantityOnHand
  aggregateVersion := update.aggregateVersion
  lastAppliedEventID := update.eventID
  checksum := checksumTenant ⟨.empty, projection, .empty, .empty⟩ update.tenantID

/-! ### The hub -/

/-- The capacity of a subscriber's channel. -/
def subscriberBuf : Nat := 16

/-- A subscriber's channel, and what is buffered in it. -/
structure Channel where
  tenantID : Bytes
  buffer : List AppliedUpdate
  deriving DecidableEq

/-- The subscribers, by the attempt whose stream subscribed. -/
def Hub := Nat → Option Channel

def Hub.empty : Hub := fun _ => none

def Hub.subscribe (hub : Hub) (attempt : Nat) (tenantID : Bytes) : Hub :=
  Function.update hub attempt (some ⟨tenantID, []⟩)

def Hub.cancel (hub : Hub) (attempt : Nat) : Hub := Function.update hub attempt none

/-- The send to one subscriber, which drops the update when the channel is full. -/
def Channel.send (update : AppliedUpdate) (channel : Channel) : Channel :=
  if channel.tenantID = update.tenantID ∧ channel.buffer.length < subscriberBuf then
    { channel with buffer := channel.buffer ++ [update] }
  else channel

def Hub.notifyApplied (hub : Hub) (update : AppliedUpdate) : Hub :=
  fun attempt => (hub attempt).map (Channel.send update)

/-! ### What the client shows -/

structure DisplayItem where
  itemID : Bytes
  quantityOnHand : Int
  aggregateVersion : Int
  previousQuantityOnHand : Option Int
  deriving DecidableEq

structure ProjectionViewState where
  items : List DisplayItem
  checksum : Bytes
  observedAt : Bytes
  lastAppliedEventID : Option Bytes
  deriving DecidableEq

def emptyProjectionView : ProjectionViewState := ⟨[], [], [], none⟩

def toDisplayItem (row : InventoryItem) : Option DisplayItem → DisplayItem
  | none => ⟨row.itemID, row.quantityOnHand, row.aggregateVersion, none⟩
  | some prior =>
      if prior.quantityOnHand = row.quantityOnHand then
        ⟨row.itemID, row.quantityOnHand, row.aggregateVersion, prior.previousQuantityOnHand⟩
      else ⟨row.itemID, row.quantityOnHand, row.aggregateVersion, some prior.quantityOnHand⟩

/-- Replace what is shown. A `Map` of the prior items keeps the last of each identifier. -/
def applySnapshot (previous : ProjectionViewState) (snapshot : InventorySnapshot) :
    ProjectionViewState where
  items := snapshot.items.map fun row =>
    toDisplayItem row (previous.items.reverse.find? fun item => item.itemID = row.itemID)
  checksum := snapshot.checksum
  observedAt := snapshot.observedAt
  lastAppliedEventID := none

def applySseUpdate (orders : TextOrders) (previous : ProjectionViewState)
    (update : ProjectionUpdated) : ProjectionViewState :=
  let existing := previous.items.find? fun item => item.itemID = update.itemID
  if existing.any fun item => item.quantityOnHand == update.quantityOnHand &&
      item.aggregateVersion == update.aggregateVersion then
    { previous with
      checksum := update.checksum
      lastAppliedEventID := some update.lastAppliedEventID }
  else
    let display := toDisplayItem
      ⟨update.itemID, update.quantityOnHand, update.aggregateVersion⟩ existing
    let others := previous.items.filter fun item => item.itemID ≠ update.itemID
    { items := (others ++ [display]).insertionSort fun first second =>
        orders.localeCompare first.itemID second.itemID
      checksum := update.checksum
      observedAt := previous.observedAt
      lastAppliedEventID := some update.lastAppliedEventID }

/-! ### Attempts to connect -/

/-- `ConnectionState`. -/
inductive ConnectionState
  | loading
  | live
  | stale
  | disconnected
  | error
  deriving DecidableEq, Repr

/-- How `loadAndConnect` is called. -/
inductive Mode
  | initial
  | reconnect
  deriving DecidableEq, Repr

/-- What a stream carries to the client: its headers, its events and its end. -/
inductive Message
  | opened
  | updated (payload : ProjectionUpdated)
  | closed
  deriving DecidableEq

/-- How far `handleSSE` has come. -/
inductive Handler
  | requested
  | opened
  | subscribed
  | ended
  deriving DecidableEq, Repr

/-- What one call of `loadAndConnect` waits for. The number of a snapshot is that of the applies
that were committed when its rows were listed, which nobody but the reader of a run sees. -/
inductive Attempt
  | idle
  | requested
  | listed (items : List InventoryItem) (applied : Nat)
  | answered (snapshot : InventorySnapshot) (applied : Nat)
  | refused (code : Bytes)
  | streaming (handler : Handler) (wire : List Message) (closed : Bool) (applied : Nat)
  deriving DecidableEq

/-- The projection and its applies, the hub, and the client of one tenant. -/
structure State where
  applies : List AppliedUpdate
  notified : Nat
  projection : Table ProjectionRow.key
  hub : Hub
  attempts : Nat → Attempt
  generation : Nat
  connection : ConnectionState
  view : ProjectionViewState
  errorMessage : Option Bytes
  timer : Bool

/-- A client that has just been created. -/
def State.start (projection : Table ProjectionRow.key) : State where
  applies := []
  notified := 0
  projection := projection
  hub := .empty
  attempts _ := .idle
  generation := 0
  connection := .loading
  view := emptyProjectionView
  errorMessage := none
  timer := false

/-- The row that an applied update leaves in the projection. -/
def appliedRow (update : AppliedUpdate) : ProjectionRow :=
  ⟨update.tenantID, update.itemID, update.quantityOnHand, update.aggregateVersion⟩

def State.setAttempt (state : State) (number : Nat) (attempt : Attempt) : State :=
  { state with attempts := Function.update state.attempts number attempt }

/-- `closeStream` on the stream of an attempt. -/
def Attempt.close : Attempt → Attempt
  | .streaming handler wire _ applied => .streaming handler wire true applied
  | attempt => attempt

/-- `loadAndConnect`, up to its fetch. -/
def State.load (state : State) (mode : Mode) : State :=
  { state with
    attempts := Function.update
      (Function.update state.attempts state.generation
        (state.attempts state.generation).close)
      (state.generation + 1) .requested
    generation := state.generation + 1
    connection := match mode with
      | .initial => .loading
      | .reconnect => .stale
    errorMessage := none
    timer := false }

/-- `onDisconnected`. -/
def State.disconnect (state : State) (number : Nat) : State :=
  if number = state.generation then { state with connection := .disconnected, timer := true }
  else state

/-- What the client does with a message. -/
def State.handle (orders : TextOrders) (state : State) (number : Nat) : Message → State
  | .opened => if number = state.generation then { state with connection := .live } else state
  | .updated payload =>
      if number = state.generation then
        { state with view := applySseUpdate orders state.view payload, connection := .live }
      else state
  | .closed => state.disconnect number

/-! ### Steps -/

/-- What can happen next. Every action but the first three is about one attempt. -/
inductive Action
  /-- An inventory apply commits. -/
  | commit (update : AppliedUpdate)
  /-- `NotifyApplied` is called for the next apply. -/
  | notify
  /-- `loadAndConnect` is called: by the effect, or by the reconnect timer. -/
  | load (mode : Mode)
  /-- The server lists the rows of a snapshot. -/
  | list (number : Nat)
  /-- The server answers with the snapshot and its checksum. -/
  | answer (number : Nat) (observedAt : Bytes)
  /-- The fetch fails, on the way or in the server. -/
  | refuse (number : Nat) (code : Bytes)
  /-- The server writes the headers of the stream. -/
  | openStream (number : Nat)
  /-- The server subscribes. -/
  | subscribe (number : Nat)
  /-- The server forwards the next buffered update. -/
  | forward (number : Nat)
  /-- The handler of the stream returns, and with it goes its channel. -/
  | finish (number : Nat)
  /-- The client receives what comes next: the answer to its fetch, or a message. -/
  | receive (number : Nat)
  /-- The client's connection breaks. -/
  | breakOff (number : Nat)

/-- One step. An action that is not possible changes nothing. -/
def step (orders : TextOrders) (tenantID : Bytes) (state : State) : Action → State
  | .commit update =>
      { state with
        applies := state.applies ++ [update]
        projection := state.projection.store (appliedRow update) }
  | .notify =>
      match state.applies[state.notified]? with
      | none => state
      | some update =>
          { state with
            notified := state.notified + 1
            hub := state.hub.notifyApplied update }
  | .load mode => if mode = .reconnect ∧ state.timer = false then state else state.load mode
  | .list number =>
      match state.attempts number with
      | .requested =>
          state.setAttempt number
            (if validTenantID tenantID then
              .listed (listTenantProjection orders state.projection tenantID) state.applies.length
            else .refused (ascii "invalid_tenant_id"))
      | _ => state
  | .answer number observedAt =>
      match state.attempts number with
      | .listed items applied =>
          state.setAttempt number (.answered
            ⟨tenantID, items, checksumTenant ⟨.empty, state.projection, .empty, .empty⟩ tenantID,
              observedAt⟩ applied)
      | _ => state
  | .refuse number code =>
      match state.attempts number with
      | .requested | .listed _ _ | .answered _ _ => state.setAttempt number (.refused code)
      | _ => state
  | .openStream number =>
      match state.attempts number with
      | .streaming .requested wire closed applied =>
          state.setAttempt number (.streaming .opened (wire ++ [.opened]) closed applied)
      | _ => state
  | .subscribe number =>
      match state.attempts number with
      | .streaming .opened wire closed applied =>
          { state.setAttempt number (.streaming .subscribed wire closed applied) with
            hub := state.hub.subscribe number tenantID }
      | _ => state
  | .forward number =>
      match state.attempts number, state.hub number with
      | .streaming .subscribed wire closed applied, some ⟨channel, update :: rest⟩ =>
          { state.setAttempt number (.streaming .subscribed
              (wire ++ [.updated (projectionUpdatedPayload state.projection update)]) closed
              applied) with
            hub := Function.update state.hub number (some ⟨channel, rest⟩) }
      | _, _ => state
  | .finish number =>
      match state.attempts number with
      | .streaming .ended _ _ _ => state
      | .streaming _ wire closed applied =>
          { state.setAttempt number (.streaming .ended (wire ++ [.closed]) closed applied) with
            hub := state.hub.cancel number }
      | _ => state
  | .receive number =>
      match state.attempts number with
      | .answered snapshot applied =>
          if number = state.generation then
            { state.setAttempt number (.streaming .requested [] false applied) with
              view := applySnapshot state.view snapshot
              errorMessage := none }
          else state.setAttempt number .idle
      | .refused code =>
          if number = state.generation then
            { state.setAttempt number .idle with
              errorMessage := some code
              connection := .error }
          else state.setAttempt number .idle
      | .streaming handler (message :: wire) false applied =>
          (state.setAttempt number (.streaming handler wire (message == .closed) applied)).handle
            orders number message
      | _ => state
  | .breakOff number =>
      match state.attempts number with
      | .streaming handler wire false applied =>
          (state.setAttempt number (.streaming handler wire true applied)).disconnect number
      | _ => state

def run (orders : TextOrders) (tenantID : Bytes) (actions : List Action) (state : State) : State :=
  actions.foldl (step orders tenantID) state

/-! ### The applies of the record processor -/

/-- A projection after the applies that were announced. -/
def afterApplies (projection : Table ProjectionRow.key) (sent : List AppliedUpdate) :
    Table ProjectionRow.key :=
  sent.foldl (fun projection update => projection.store (appliedRow update)) projection

section Processor

variable {mayFail : Bool} {fuel : Nat} {platform final : Platform} {env : Envelope}
  {payload : Payload} {hash canonical : Bytes} {disposition : Disposition}

/-- A decision moves the projection by what it announces. -/
theorem writes_projection
    (writes : Writes platform env hash canonical payload disposition final) :
    final.projection = afterApplies platform.projection (appliedNotes env payload disposition) := by
  cases writes with
  | unchanged _ existing found same unsettled | quarantined _ row of unsettled =>
    rw [appliedNotes_of_ne (ne_applied_of_unsettled unsettled)]
    rfl
  | retained | repeated | joined =>
    rw [appliedNotes_of_ne (by decide)]
    rfl
  | advanced quantity => rfl
  | linked _ undecided hop described =>
    cases payload with
    | quantityDecremented quantity => cases described
    | _ => rfl

theorem redrives_projection {tenantID aggregateType aggregateID : Bytes} {ended : Bool}
    {sent : List AppliedUpdate}
    (redrives : Redrives mayFail tenantID aggregateType aggregateID fuel platform ended sent
      final) : final.projection = afterApplies platform.projection sent := by
  induction redrives with
  | unfinished | failed | drained => rfl
  | requarantined fuel platform gap eligible env payload canonical retained differs ended sent
      final rest hypothesis => exact hypothesis
  | stopped fuel platform gap eligible env payload canonical retained same disposition final decides
      other =>
    have moved := writes_projection decides.writes
    rwa [appliedNotes_of_ne other] at moved
  | advanced fuel platform gap eligible env payload canonical retained same next decides ended sent
      final rest hypothesis =>
    rw [hypothesis, writes_projection decides.writes]
    exact List.foldl_append.symm

theorem processes_projection {key value : Bytes} {pos : SourcePosition} {outcome : Outcome}
    {sent : List AppliedUpdate}
    (processes : Processes mayFail fuel key value pos platform outcome sent final) :
    final.projection = afterApplies platform.projection sent := by
  cases processes with
  | failed | unparsed | misdelivered => rfl
  | quarantined env payload canonical carries ownKey disposition final decides unsettled =>
    have moved := writes_projection decides.writes
    rwa [appliedNotes_of_ne (ne_applied_of_unsettled unsettled)] at moved
  | redriven _ _ _ _ _ _ _ decides _ _ _ redrives
  | interrupted _ _ _ _ _ _ _ decides _ _ _ redrives =>
    rw [redrives_projection redrives, writes_projection decides.writes]
    exact List.foldl_append.symm

/-- The commits of this model are those of the record processor: what a call of `ProcessRecord`
announces, committed one after the other, is what it does to the projection. -/
theorem call_commits (orders : TextOrders) (tenantID : Bytes) (call : Call) (db : Database)
    (state : State) :
    (run orders tenantID ((call.sent db).map .commit)
      { state with projection := db.platform.projection }).projection =
        (call.after db).platform.projection := by
  obtain ⟨processes, -⟩ := call.processes db true (by simp)
  have commits : ∀ (sent : List AppliedUpdate) (state : State),
      (run orders tenantID (sent.map .commit) state).projection =
        afterApplies state.projection sent := by
    intro sent
    induction sent with
    | nil => exact fun _ => rfl
    | cons update rest hypothesis => exact fun _ => hypothesis _
  rw [processes_projection processes]
  exact commits _ _

end Processor

/-! ### Items as a function -/

/-- The quantity and the version of an item, as far as they are known. -/
abbrev Shown := Bytes → Option (Int × Int)

/-- An item with its new quantity and version. -/
abbrev Change := Bytes × Int × Int

/-- Changes applied one after the other. -/
def replay (shown : Shown) (changes : List Change) : Shown :=
  changes.foldl (fun shown change => Function.update shown change.1 (some change.2)) shown

section Replay

variable (shown : Shown) (changes more : List Change)

@[simp] theorem replay_nil : replay shown [] = shown := rfl

theorem replay_append : replay shown (changes ++ more) = replay (replay shown changes) more :=
  List.foldl_append

/-- An item is what its last change left, or what it was. -/
theorem replay_apply (itemID : Bytes) :
    replay shown changes itemID =
      ((changes.reverse.find? fun change => change.1 = itemID).map Prod.snd).or
        (shown itemID) := by
  induction changes using List.reverseRecOn with
  | nil => rfl
  | append_singleton front change hypothesis =>
    rw [replay_append, List.reverse_append, List.reverse_singleton, List.singleton_append]
    by_cases same : change.1 = itemID
    · simp [replay, same]
    · have other : itemID ≠ change.1 := fun equal => same equal.symm
      simpa [replay, same, other] using hypothesis

/-- Changes that were the last ones can be repeated. -/
theorem replay_again :
    replay (replay shown (changes ++ more)) more = replay shown (changes ++ more) := by
  funext itemID
  rw [replay_apply (replay shown (changes ++ more)) more, replay_apply shown (changes ++ more),
    List.reverse_append, List.find?_append]
  cases more.reverse.find? fun change => change.1 = itemID <;> simp

end Replay

/-- The items of a list, by identifier. -/
def lookup {Item : Type} (itemID : Item → Bytes) (values : Item → Int × Int) (items : List Item) :
    Shown :=
  fun wanted => (items.find? fun item => itemID item = wanted).map values

section Lookup

variable {Item Other : Type} {itemID : Item → Bytes} {values : Item → Int × Int}
  {items others : List Item}

theorem lookup_eq_some_iff (distinct : (items.map itemID).Nodup) (wanted : Bytes)
    (value : Int × Int) :
    lookup itemID values items wanted = some value ↔
      ∃ item ∈ items, itemID item = wanted ∧ values item = value := by
  rw [lookup, Option.map_eq_some_iff]
  constructor
  · rintro ⟨item, found, rfl⟩
    exact ⟨item, List.mem_of_find?_eq_some found, by simpa using List.find?_some found, rfl⟩
  · rintro ⟨item, member, named, rfl⟩
    refine ⟨item, ?_, rfl⟩
    cases found : items.find? fun item => itemID item = wanted with
    | none =>
      rw [List.find?_eq_none] at found
      exact absurd named (by simpa using found item member)
    | some first =>
      have firstNamed : itemID first = wanted := by simpa using List.find?_some found
      rw [List.inj_on_of_nodup_map distinct (List.mem_of_find?_eq_some found) member
        (firstNamed.trans named.symm)]

/-- Two lists that show the same have the same items. -/
theorem perm_of_lookup_eq {otherID : Other → Bytes} {otherValues : Other → Int × Int}
    {rows : List Other} (distinct : (items.map itemID).Nodup)
    (otherDistinct : (rows.map otherID).Nodup)
    (same : lookup itemID values items = lookup otherID otherValues rows) :
    (items.map fun item => (itemID item, values item)).Perm
      (rows.map fun row => (otherID row, otherValues row)) := by
  have nodup : ∀ {Item : Type} {itemID : Item → Bytes} {values : Item → Int × Int}
      {items : List Item}, (items.map itemID).Nodup →
      (items.map fun item => (itemID item, values item)).Nodup := by
    intro Item itemID values items distinct
    refine List.Nodup.of_map Prod.fst ?_
    rwa [List.map_map]
  rw [List.perm_ext_iff_of_nodup (nodup distinct) (nodup otherDistinct)]
  rintro ⟨wanted, value⟩
  have iff := (lookup_eq_some_iff distinct wanted value).symm.trans
    ((iff_of_eq (by rw [same])).trans (lookup_eq_some_iff otherDistinct wanted value))
  simpa [and_comm, and_left_comm] using iff

/-- The order of the items does not matter. -/
theorem lookup_perm (distinct : (items.map itemID).Nodup) (perm : items.Perm others) :
    lookup itemID values items = lookup itemID values others := by
  funext wanted
  refine Option.ext fun value => ?_
  rw [lookup_eq_some_iff distinct, lookup_eq_some_iff ((perm.map itemID).nodup_iff.mp distinct)]
  simp only [perm.mem_iff]

/-- Putting an item in the place of the one with its identifier is one change. -/
theorem lookup_replace (values : Item → Int × Int) (item : Item)
    (distinct : (items.map itemID).Nodup) :
    (((items.filter fun other => itemID other ≠ itemID item) ++ [item]).map itemID).Nodup ∧
      lookup itemID values ((items.filter fun other => itemID other ≠ itemID item) ++ [item]) =
        Function.update (lookup itemID values items) (itemID item) (some (values item)) := by
  refine ⟨?_, ?_⟩
  · rw [List.map_append, List.map_singleton, List.nodup_append]
    refine ⟨(List.filter_sublist.map _).nodup distinct, List.nodup_singleton _, ?_⟩
    rintro first firstMember second secondMember rfl
    obtain ⟨other, member, rfl⟩ := List.mem_map.mp firstMember
    have different : itemID other ≠ itemID item := by simpa using (List.mem_filter.mp member).2
    exact different (List.mem_singleton.mp secondMember)
  · funext wanted
    rw [lookup, List.find?_append, List.find?_filter]
    by_cases isIt : wanted = itemID item
    · have absent : (items.find? fun _ => false) = none := List.find?_eq_none.mpr (by simp)
      simp [isIt, absent]
    · have other : ¬ itemID item = wanted := fun equal => isIt equal.symm
      have same : (fun entry : Item => decide (decide (itemID entry ≠ itemID item) = true ∧
          decide (itemID entry = wanted) = true)) =
            fun entry => decide (itemID entry = wanted) := by
        funext entry
        by_cases hit : itemID entry = wanted
        · simp [hit, isIt]
        · simp [hit]
      rw [same, Function.update_of_ne isIt]
      simp [lookup, other]

end Lookup

/-! ### What the client and the projection show -/

def DisplayItem.values (item : DisplayItem) : Int × Int :=
  (item.quantityOnHand, item.aggregateVersion)

def InventoryItem.values (item : InventoryItem) : Int × Int :=
  (item.quantityOnHand, item.aggregateVersion)

def rowValues (row : ProjectionRow) : Int × Int := (row.quantityOnHand, row.aggregateVersion)

def viewShown (view : ProjectionViewState) : Shown :=
  lookup DisplayItem.itemID DisplayItem.values view.items

/-- The rows of a tenant. -/
def tenantRows (projection : Table ProjectionRow.key) (tenantID : Bytes) : List ProjectionRow :=
  projection.rows.filter fun row => row.tenantID = tenantID

def projectionShown (projection : Table ProjectionRow.key) (tenantID : Bytes) : Shown :=
  lookup ProjectionRow.itemID rowValues (tenantRows projection tenantID)

/-- The change that an update announces. -/
def updateChange (update : AppliedUpdate) : Change :=
  (update.itemID, update.quantityOnHand, update.aggregateVersion)

def payloadChange (payload : ProjectionUpdated) : Change :=
  (payload.itemID, payload.quantityOnHand, payload.aggregateVersion)

/-- The changes of a tenant among updates. -/
def tenantChanges (tenantID : Bytes) (updates : List AppliedUpdate) : List Change :=
  (updates.filter fun update => update.tenantID = tenantID).map updateChange

/-- The changes on a wire. -/
def wireChanges (wire : List Message) : List Change :=
  wire.filterMap fun
    | .updated payload => some (payloadChange payload)
    | _ => none

section Views

variable {orders : TextOrders} {tenantID : Bytes} {projection : Table ProjectionRow.key}
  {view : ProjectionViewState}

theorem tenantRows_distinct :
    ((tenantRows projection tenantID).map ProjectionRow.itemID).Nodup := by
  have keys : ((tenantRows projection tenantID).map ProjectionRow.key).Nodup :=
    (List.filter_sublist.map ProjectionRow.key).nodup projection.unique
  refine List.Nodup.of_map (fun itemID => (tenantID, itemID)) ?_
  rw [List.map_map]
  refine (List.map_congr_left fun row member => ?_).symm ▸ keys
  have owner : row.tenantID = tenantID := by
    simpa using (List.mem_filter.mp member).2
  simp [ProjectionRow.key, owner]

/-- What is shown of an item is its row. -/
theorem projectionShown_apply (itemID : Bytes) :
    projectionShown projection tenantID itemID =
      (projection.find? (tenantID, itemID)).map rowValues := by
  refine Option.ext fun value => ?_
  rw [projectionShown, lookup_eq_some_iff tenantRows_distinct, Option.map_eq_some_iff]
  simp only [Table.find?_eq_some_iff, tenantRows, List.mem_filter, decide_eq_true_eq,
    ProjectionRow.key, Prod.mk.injEq]
  constructor
  · rintro ⟨row, ⟨member, owner⟩, named, same⟩
    exact ⟨row, ⟨member, owner, named⟩, same⟩
  · rintro ⟨row, ⟨member, owner, named⟩, same⟩
    exact ⟨row, ⟨member, owner⟩, named, same⟩

/-- An apply is one change of its tenant. -/
theorem projectionShown_store (update : AppliedUpdate) :
    projectionShown (projection.store (appliedRow update)) tenantID =
      replay (projectionShown projection tenantID) (tenantChanges tenantID [update]) := by
  funext itemID
  rw [projectionShown_apply]
  by_cases owner : update.tenantID = tenantID
  · have changes : tenantChanges tenantID [update] = [updateChange update] := by
      simp [tenantChanges, owner]
    rw [changes]
    by_cases same : itemID = update.itemID
    · have found := Table.find?_store_self projection (appliedRow update)
      have key : (appliedRow update).key = (tenantID, itemID) := by
        rw [same, ← owner]
        rfl
      rw [key] at found
      rw [found, same]
      simp [replay, updateChange, appliedRow, rowValues]
    · rw [Table.find?_store_of_ne _ fun equal => same (congrArg Prod.snd equal),
        ← projectionShown_apply]
      simp [replay, updateChange, same]
  · have changes : tenantChanges tenantID [update] = [] := by simp [tenantChanges, owner]
    rw [changes, replay_nil, projectionShown_apply,
      Table.find?_store_of_ne _ fun equal => owner (congrArg Prod.fst equal).symm]

/-- The listed items are those of the projection. -/
theorem listed_shown (orders : TextOrders) (projection : Table ProjectionRow.key)
    (lower : Strings.toLower tenantID = tenantID) :
    ((listTenantProjection orders projection tenantID).map InventoryItem.itemID).Nodup ∧
      lookup InventoryItem.itemID InventoryItem.values
        (listTenantProjection orders projection tenantID) =
        projectionShown projection tenantID := by
  have sorted := List.perm_insertionSort
    (fun first second : ProjectionRow => orders.collation first.itemID second.itemID = true)
    (tenantRows projection tenantID)
  have distinct := (sorted.map ProjectionRow.itemID).nodup_iff.mpr tenantRows_distinct
  rw [listTenantProjection, lower]
  refine ⟨?_, ?_⟩
  · rw [List.map_map]
    exact distinct
  · rw [projectionShown, ← lookup_perm distinct sorted]
    funext wanted
    simp only [lookup, List.find?_map, Option.map_map]
    rfl

theorem toDisplayItem_itemID (row : InventoryItem) (prior : Option DisplayItem) :
    (toDisplayItem row prior).itemID = row.itemID := by
  unfold toDisplayItem
  split
  · rfl
  · split_ifs <;> rfl

theorem toDisplayItem_values (row : InventoryItem) (prior : Option DisplayItem) :
    (toDisplayItem row prior).values = row.values := by
  unfold toDisplayItem
  split
  · rfl
  · split_ifs <;> rfl

/-- After a snapshot the client shows the snapshot. -/
theorem applySnapshot_shown (view : ProjectionViewState) (snapshot : InventorySnapshot)
    (distinct : (snapshot.items.map InventoryItem.itemID).Nodup) :
    ((applySnapshot view snapshot).items.map DisplayItem.itemID).Nodup ∧
      viewShown (applySnapshot view snapshot) =
        lookup InventoryItem.itemID InventoryItem.values snapshot.items := by
  refine ⟨?_, ?_⟩
  · simp only [applySnapshot, List.map_map, Function.comp_def, toDisplayItem_itemID]
    exact distinct
  · funext wanted
    simp only [viewShown, applySnapshot, lookup, List.find?_map, Option.map_map,
      Function.comp_def, toDisplayItem_itemID, toDisplayItem_values]

/-- A merged update is one change of what the client shows. -/
theorem applySseUpdate_shown (orders : TextOrders) (payload : ProjectionUpdated)
    (distinct : (view.items.map DisplayItem.itemID).Nodup) :
    ((applySseUpdate orders view payload).items.map DisplayItem.itemID).Nodup ∧
      viewShown (applySseUpdate orders view payload) =
        Function.update (viewShown view) (payloadChange payload).1
          (some (payloadChange payload).2) := by
  rw [viewShown]
  by_cases same : (view.items.find? fun item => item.itemID = payload.itemID).any (fun item =>
      item.quantityOnHand == payload.quantityOnHand &&
        item.aggregateVersion == payload.aggregateVersion) = true
  · have kept : (applySseUpdate orders view payload).items = view.items := by
      simp only [applySseUpdate, if_pos same]
    rw [kept]
    refine ⟨distinct, ?_⟩
    cases found : view.items.find? fun item => item.itemID = payload.itemID with
    | none => simp [found] at same
    | some item =>
      simp only [found, Option.any_some, Bool.and_eq_true, beq_iff_eq] at same
      have shown : lookup DisplayItem.itemID DisplayItem.values view.items payload.itemID =
          some (payload.quantityOnHand, payload.aggregateVersion) := by
        rw [lookup, found, Option.map_some, DisplayItem.values, same.1, same.2]
      exact (Function.update_eq_self_iff.mpr shown.symm).symm
  · set display := toDisplayItem
      ⟨payload.itemID, payload.quantityOnHand, payload.aggregateVersion⟩
      (view.items.find? fun item => item.itemID = payload.itemID) with isDisplay
    have named : display.itemID = payload.itemID := toDisplayItem_itemID _ _
    have values : display.values = (payload.quantityOnHand, payload.aggregateVersion) :=
      toDisplayItem_values _ _
    have merged : (applySseUpdate orders view payload).items =
        ((view.items.filter fun item => item.itemID ≠ display.itemID) ++ [display]).insertionSort
          fun first second => orders.localeCompare first.itemID second.itemID = true := by
      rw [named]
      simp only [applySseUpdate, if_neg same, isDisplay]
    have sorted := List.perm_insertionSort
      (fun first second : DisplayItem => orders.localeCompare first.itemID second.itemID = true)
      ((view.items.filter fun item => item.itemID ≠ display.itemID) ++ [display])
    obtain ⟨distinctMerged, replaced⟩ :=
      lookup_replace DisplayItem.values display distinct
    have distinctSorted := (sorted.map DisplayItem.itemID).nodup_iff.mpr distinctMerged
    rw [merged]
    refine ⟨distinctSorted, ?_⟩
    rw [lookup_perm distinctSorted sorted, replaced, named, values]
    rfl

end Views

/-! ### The invariant -/

/-- What is shown is the projection of the applies that were committed at some time, and becomes
the projection of now through the applies that are not notified yet. -/
structure Covers (tenantID : Bytes) (base : Shown) (state : State) (shown : Shown)
    (applied : Nat) : Prop where
  bound : applied ≤ state.applies.length
  origin : shown = replay base (tenantChanges tenantID (state.applies.take applied))
  catchesUp : replay shown (tenantChanges tenantID (state.applies.drop state.notified)) =
    projectionShown state.projection tenantID

/-- How an attempt that the client has not given up stands to the projection. -/
def Stands (tenantID : Bytes) (base : Shown) (state : State) : Attempt → Prop
  | .idle | .requested | .refused _ =>
      state.hub state.generation = none ∧ state.connection ≠ .live
  | .listed items applied =>
      state.hub state.generation = none ∧ state.connection ≠ .live ∧
        (items.map InventoryItem.itemID).Nodup ∧
        Covers tenantID base state (lookup InventoryItem.itemID InventoryItem.values items) applied
  | .answered snapshot applied =>
      state.hub state.generation = none ∧ state.connection ≠ .live ∧
        (snapshot.items.map InventoryItem.itemID).Nodup ∧
        Covers tenantID base state
          (lookup InventoryItem.itemID InventoryItem.values snapshot.items) applied
  | .streaming _ _ true _ => state.connection ≠ .live
  | .streaming .ended wire false _ => Message.closed ∈ wire
  | .streaming .subscribed wire false _ =>
      (state.view.items.map DisplayItem.itemID).Nodup ∧ ∃ buffer : List AppliedUpdate,
        state.hub state.generation = some ⟨tenantID, buffer⟩ ∧
        replay (viewShown state.view) (wireChanges wire ++ (buffer.map updateChange ++
          tenantChanges tenantID (state.applies.drop state.notified))) =
          projectionShown state.projection tenantID
  | .streaming _ wire false applied =>
      (state.view.items.map DisplayItem.itemID).Nodup ∧ state.hub state.generation = none ∧
        wireChanges wire = [] ∧ Covers tenantID base state (viewShown state.view) applied

/-- The state between any two steps, where no update got lost. -/
structure Consistent (tenantID : Bytes) (base : Shown) (state : State) : Prop where
  bound : state.notified ≤ state.applies.length
  projection : projectionShown state.projection tenantID =
    replay base (tenantChanges tenantID state.applies)
  later : ∀ number, state.generation < number →
    state.attempts number = .idle ∧ state.hub number = none
  stands : Stands tenantID base state (state.attempts state.generation)

/-- The next notification would reach the client, or its snapshot has it already. -/
def Attempt.hears (notified : Nat) (channel : Option Channel) : Attempt → Prop
  | .listed _ applied | .answered _ applied => notified < applied
  | .streaming .subscribed _ false _ =>
      ∀ subscriber ∈ channel, subscriber.buffer.length < subscriberBuf
  | .streaming .requested _ false applied | .streaming .opened _ false applied =>
      notified < applied
  | _ => True

/-- A notification that does not get lost. -/
def Heard (tenantID : Bytes) (state : State) : Prop :=
  ∀ update, state.applies[state.notified]? = some update → update.tenantID = tenantID →
    (state.attempts state.generation).hears state.notified (state.hub state.generation)

/-- The client is live, everything is notified, and nothing is on its way. -/
structure Quiet (state : State) : Prop where
  live : state.connection = .live
  notified : state.notified = state.applies.length
  buffered : ∀ channel, state.hub state.generation = some channel → channel.buffer = []
  merged : ∀ handler wire closed applied,
    state.attempts state.generation = .streaming handler wire closed applied → wire = []

/-- The client shows exactly the rows of the tenant. -/
def ShowsTenant (tenantID : Bytes) (state : State) : Prop :=
  (state.view.items.map fun item => (item.itemID, item.quantityOnHand, item.aggregateVersion)).Perm
    ((tenantRows state.projection tenantID).map fun row =>
      (row.itemID, row.quantityOnHand, row.aggregateVersion))

section Steps

variable {orders : TextOrders} {tenantID : Bytes} {base : Shown} {state next : State}
  {shown : Shown} {applied : Nat}

theorem tenantChanges_append (first second : List AppliedUpdate) :
    tenantChanges tenantID (first ++ second) =
      tenantChanges tenantID first ++ tenantChanges tenantID second := by
  simp [tenantChanges]

theorem Consistent.start (projection : Table ProjectionRow.key) :
    Consistent tenantID (projectionShown projection tenantID) (State.start projection) :=
  ⟨le_refl _, rfl, fun _ _ => ⟨rfl, rfl⟩, rfl, by simp [State.start]⟩

/-- In a quiet state nothing is missing. -/
theorem Consistent.shows (consistent : Consistent tenantID base state) (quiet : Quiet state) :
    ShowsTenant tenantID state := by
  have stands := consistent.stands
  have rest : state.applies.drop state.notified = [] := by rw [quiet.notified, List.drop_length]
  suffices same : (state.view.items.map DisplayItem.itemID).Nodup ∧
      viewShown state.view = projectionShown state.projection tenantID by
    exact perm_of_lookup_eq same.1 tenantRows_distinct same.2
  cases attempt : state.attempts state.generation with
  | idle | requested | refused =>
    rw [attempt] at stands
    exact absurd quiet.live stands.2
  | listed | answered =>
    rw [attempt] at stands
    exact absurd quiet.live stands.2.1
  | streaming handler wire closed applied =>
    have empty := quiet.merged _ _ _ _ attempt
    rw [attempt] at stands
    subst empty
    cases closed with
    | true => exact absurd quiet.live stands
    | false =>
      cases handler with
      | requested | opened =>
        obtain ⟨distinct, -, -, covers⟩ := stands
        have catchesUp := covers.catchesUp
        rw [rest] at catchesUp
        exact ⟨distinct, catchesUp⟩
      | subscribed =>
        obtain ⟨distinct, buffer, found, catchesUp⟩ := stands
        have drained : buffer = [] := quiet.buffered _ found
        rw [rest, drained] at catchesUp
        exact ⟨distinct, catchesUp⟩
      | ended => cases stands

/-- A commit is one more change, on both sides. -/
theorem Covers.commit (update : AppliedUpdate) (covers : Covers tenantID base state shown applied)
    (bound : state.notified ≤ state.applies.length) :
    Covers tenantID base (step orders tenantID state (.commit update)) shown applied := by
  have fewer := covers.bound
  refine ⟨?_, ?_, ?_⟩
  · simp only [step, List.length_append]
    omega
  · rw [covers.origin]
    simp only [step, List.take_append_of_le_length fewer]
  · simp only [step, List.drop_append_of_le_length bound, tenantChanges_append, replay_append,
      covers.catchesUp, projectionShown_store]

/-- A notification that is lost on the client was in its snapshot. -/
theorem Covers.notify {update : AppliedUpdate} (covers : Covers tenantID base state shown applied)
    (projection : projectionShown state.projection tenantID =
      replay base (tenantChanges tenantID state.applies))
    (found : state.applies[state.notified]? = some update)
    (known : update.tenantID = tenantID → state.notified < applied) :
    replay shown (tenantChanges tenantID (state.applies.drop (state.notified + 1))) =
      projectionShown state.projection tenantID := by
  obtain ⟨inside, isIt⟩ := List.getElem?_eq_some_iff.mp found
  by_cases own : update.tenantID = tenantID
  · have seen := known own
    have parts : state.applies.take (state.notified + 1) ++
        (state.applies.take applied).drop (state.notified + 1) = state.applies.take applied := by
      have whole := List.take_append_drop (state.notified + 1) (state.applies.take applied)
      rwa [List.take_take, min_eq_left seen] at whole
    have rest : state.applies.drop (state.notified + 1) =
        (state.applies.take applied).drop (state.notified + 1) ++ state.applies.drop applied := by
      conv_lhs => rw [← List.take_append_drop applied state.applies]
      rw [List.drop_append_of_le_length]
      rw [List.length_take, min_eq_left covers.bound]
      exact seen
    have again := replay_again base
      (tenantChanges tenantID (state.applies.take (state.notified + 1)))
      (tenantChanges tenantID ((state.applies.take applied).drop (state.notified + 1)))
    rw [← tenantChanges_append, parts] at again
    rw [rest, tenantChanges_append, replay_append, covers.origin, again, ← replay_append,
      ← tenantChanges_append, List.take_append_drop, projection]
  · have dropped := List.drop_eq_getElem_cons inside
    have catchesUp := covers.catchesUp
    rw [dropped, isIt] at catchesUp
    simpa [tenantChanges, own] using catchesUp

/-- What an attempt stands on. -/
theorem Stands.congr (hub : next.hub next.generation = state.hub state.generation)
    (connection : next.connection = state.connection) (view : next.view = state.view)
    (applies : next.applies = state.applies) (notified : next.notified = state.notified)
    (projection : next.projection = state.projection) {attempt : Attempt}
    (stands : Stands tenantID base state attempt) : Stands tenantID base next attempt := by
  have covers : ∀ {shown : Shown} {applied : Nat}, Covers tenantID base state shown applied →
      Covers tenantID base next shown applied := by
    intro shown applied before
    refine ⟨?_, ?_, ?_⟩
    · rw [applies]
      exact before.bound
    · rw [applies]
      exact before.origin
    · rw [applies, notified, projection]
      exact before.catchesUp
  cases attempt with
  | idle | requested | refused =>
    simp only [Stands, hub, connection]
    exact stands
  | listed | answered =>
    simp only [Stands, hub, connection]
    exact ⟨stands.1, stands.2.1, stands.2.2.1, covers stands.2.2.2⟩
  | streaming handler wire closed applied =>
    cases closed with
    | true =>
      simp only [Stands, connection]
      cases handler <;> exact stands
    | false =>
      cases handler with
      | requested | opened =>
        simp only [Stands, hub, view]
        exact ⟨stands.1, stands.2.1, stands.2.2.1, covers stands.2.2.2⟩
      | subscribed =>
        simp only [Stands, hub, view, applies, notified, projection]
        exact stands
      | ended => exact stands

/-- A step that touches one attempt and its channel only. -/
structure Touches (number : Nat) (state next : State) : Prop where
  applies : next.applies = state.applies
  notified : next.notified = state.notified
  projection : next.projection = state.projection
  generation : next.generation = state.generation
  attempts : ∀ other, other ≠ number → next.attempts other = state.attempts other
  hub : ∀ other, other ≠ number → next.hub other = state.hub other

/-- The attempt that an action is about. -/
def Action.attempt : Action → Option Nat
  | .commit _ | .notify | .load _ => none
  | .list number | .answer number _ | .refuse number _ | .openStream number | .subscribe number
  | .forward number | .finish number | .receive number | .breakOff number => some number

theorem Touches.refl (number : Nat) (state : State) : Touches number state state :=
  ⟨rfl, rfl, rfl, rfl, fun _ _ => rfl, fun _ _ => rfl⟩

theorem Touches.trans {number : Nat} {last : State} (early : Touches number state next)
    (late : Touches number next last) : Touches number state last where
  applies := late.applies.trans early.applies
  notified := late.notified.trans early.notified
  projection := late.projection.trans early.projection
  generation := late.generation.trans early.generation
  attempts other different := (late.attempts other different).trans (early.attempts other different)
  hub other different := (late.hub other different).trans (early.hub other different)

theorem touches_setAttempt (number : Nat) (attempt : Attempt) :
    Touches number state (state.setAttempt number attempt) :=
  ⟨rfl, rfl, rfl, rfl, fun _ different => Function.update_of_ne different _ _, fun _ _ => rfl⟩

theorem touches_hub (number : Nat) (attempt : Attempt) (channel : Option Channel) :
    Touches number state { state.setAttempt number attempt with
      hub := Function.update state.hub number channel } :=
  ⟨rfl, rfl, rfl, rfl, fun _ different => Function.update_of_ne different _ _,
    fun _ different => Function.update_of_ne different _ _⟩

theorem touches_disconnect (number : Nat) : Touches number state (state.disconnect number) := by
  unfold State.disconnect
  split_ifs
  · exact ⟨rfl, rfl, rfl, rfl, fun _ _ => rfl, fun _ _ => rfl⟩
  · exact .refl number state

theorem touches_handle (number : Nat) (message : Message) :
    Touches number state (state.handle orders number message) := by
  cases message with
  | opened | updated =>
    unfold State.handle
    split_ifs
    · exact ⟨rfl, rfl, rfl, rfl, fun _ _ => rfl, fun _ _ => rfl⟩
    · exact .refl number state
  | closed => exact touches_disconnect number

/-- An action about an attempt touches only that attempt and its channel. -/
theorem step_touches {number : Nat} {action : Action} (about : action.attempt = some number) :
    Touches number state (step orders tenantID state action) := by
  cases action with
  | commit | notify | load => cases about
  | list | answer | refuse | openStream =>
    cases about
    simp only [step]
    split
    all_goals first
      | exact touches_setAttempt number _
      | exact .refl number state
  | subscribe | forward | finish =>
    cases about
    simp only [step]
    split
    all_goals first
      | exact touches_hub number _ _
      | exact .refl number state
  | receive =>
    cases about
    simp only [step]
    split
    · split_ifs
      · exact ⟨rfl, rfl, rfl, rfl, fun _ different => Function.update_of_ne different _ _,
          fun _ _ => rfl⟩
      · exact touches_setAttempt number _
    · split_ifs
      · exact ⟨rfl, rfl, rfl, rfl, fun _ different => Function.update_of_ne different _ _,
          fun _ _ => rfl⟩
      · exact touches_setAttempt number _
    · exact (touches_setAttempt number _).trans (touches_handle number _)
    · exact .refl number state
  | breakOff =>
    cases about
    simp only [step]
    split
    · exact (touches_setAttempt number _).trans (touches_disconnect number)
    · exact .refl number state

/-- Nothing happens to an attempt that has not begun. -/
theorem step_idle {number : Nat} {action : Action} (about : action.attempt = some number)
    (idle : state.attempts number = .idle) : step orders tenantID state action = state := by
  cases action with
  | commit | notify | load => cases about
  | list | answer | refuse | openStream | subscribe | forward | finish | receive | breakOff =>
    cases about
    simp only [step, idle]

theorem handle_ignored {number : Nat} (past : number ≠ state.generation) (message : Message) :
    state.handle orders number message = state := by
  cases message with
  | opened | updated => rw [State.handle, if_neg past]
  | closed => rw [State.handle, State.disconnect, if_neg past]

/-- The client ignores the attempts it has given up. -/
theorem step_ignored {number : Nat} {action : Action} (about : action.attempt = some number)
    (past : number ≠ state.generation) :
    (step orders tenantID state action).connection = state.connection ∧
      (step orders tenantID state action).view = state.view := by
  cases action with
  | commit | notify | load => cases about
  | list | answer | refuse | openStream | subscribe | forward | finish =>
    cases about
    simp only [step]
    split <;> exact ⟨rfl, rfl⟩
  | receive =>
    cases about
    simp only [step, if_neg past]
    split
    · exact ⟨rfl, rfl⟩
    · exact ⟨rfl, rfl⟩
    · rw [handle_ignored (by exact past)]
      exact ⟨rfl, rfl⟩
    · exact ⟨rfl, rfl⟩
  | breakOff =>
    cases about
    simp only [step]
    split
    · simp [State.disconnect, State.setAttempt, past]
    · exact ⟨rfl, rfl⟩

theorem wireChanges_append (first second : List Message) :
    wireChanges (first ++ second) = wireChanges first ++ wireChanges second :=
  List.filterMap_append

theorem step_notify {update : AppliedUpdate}
    (found : state.applies[state.notified]? = some update) :
    step orders tenantID state .notify =
      { state with
        notified := state.notified + 1
        hub := state.hub.notifyApplied update } := by
  simp only [step, found]

/-- What a subscriber has yet to forward, after a notification that finds room. -/
theorem notifyApplied_changes {update : AppliedUpdate} {number : Nat}
    {buffer : List AppliedUpdate} (subscribed : state.hub number = some ⟨tenantID, buffer⟩)
    (room : update.tenantID = tenantID → buffer.length < subscriberBuf) :
    ∃ later : List AppliedUpdate,
      state.hub.notifyApplied update number = some ⟨tenantID, later⟩ ∧
        later.map updateChange = buffer.map updateChange ++ tenantChanges tenantID [update] := by
  by_cases own : update.tenantID = tenantID
  · refine ⟨buffer ++ [update], ?_, by simp [tenantChanges, own]⟩
    simp [Hub.notifyApplied, subscribed, Channel.send, own, room own]
  · refine ⟨buffer, ?_, by simp [tenantChanges, own]⟩
    have foreign : ¬ tenantID = update.tenantID := fun same => own same.symm
    simp [Hub.notifyApplied, subscribed, Channel.send, foreign]

section Keeping

variable (consistent : Consistent tenantID base state)

include consistent

/-- The rows that are listed now. -/
theorem Consistent.covers_now :
    Covers tenantID base state (projectionShown state.projection tenantID)
      state.applies.length := by
  refine ⟨le_refl _, ?_, ?_⟩
  · rw [List.take_length]
    exact consistent.projection
  · have again := replay_again base (tenantChanges tenantID (state.applies.take state.notified))
      (tenantChanges tenantID (state.applies.drop state.notified))
    rw [← tenantChanges_append, List.take_append_drop] at again
    rw [consistent.projection]
    exact again

/-- A step that touches the client's attempt, or one that it has given up, has to say what the
client's attempt then stands on. -/
theorem Consistent.touched {number : Nat} (reached : number ≤ state.generation)
    (touches : Touches number state next)
    (stands : Stands tenantID base next (next.attempts state.generation)) :
    Consistent tenantID base next where
  bound := by
    rw [touches.notified, touches.applies]
    exact consistent.bound
  projection := by
    rw [touches.projection, touches.applies]
    exact consistent.projection
  later other ahead := by
    rw [touches.generation] at ahead
    rw [touches.attempts other (by omega), touches.hub other (by omega)]
    exact consistent.later other ahead
  stands := by
    rw [touches.generation]
    exact stands

/-- A step about an attempt that the client has given up changes nothing it stands on. -/
theorem Consistent.elsewhere {number : Nat} (past : number < state.generation)
    (touches : Touches number state next) (connection : next.connection = state.connection)
    (view : next.view = state.view) : Consistent tenantID base next := by
  refine consistent.touched past.le touches ?_
  rw [touches.attempts state.generation (by omega)]
  refine consistent.stands.congr ?_ connection view touches.applies touches.notified
    touches.projection
  rw [touches.generation]
  exact touches.hub state.generation (by omega)

theorem Consistent.here {action : Action} {attempt : Attempt}
    (about : action.attempt = some state.generation)
    (is : state.attempts state.generation = attempt)
    (keeps : Stands tenantID base state attempt → Stands tenantID base
      (step orders tenantID state action)
      ((step orders tenantID state action).attempts state.generation)) :
    Consistent tenantID base (step orders tenantID state action) :=
  consistent.touched le_rfl (step_touches about) (keeps (is ▸ consistent.stands))

theorem Consistent.list :
    Consistent tenantID base (step orders tenantID state (.list state.generation)) := by
  cases attempt : state.attempts state.generation with
  | requested =>
    refine consistent.here rfl attempt fun stands => ?_
    simp only [step, attempt, State.setAttempt, Function.update_self]
    split_ifs with valid
    · have lower : Strings.toLower tenantID = tenantID := by
        simp only [validTenantID, Bool.and_eq_true, beq_iff_eq] at valid
        exact valid.1.1.2.symm
      obtain ⟨distinct, same⟩ := listed_shown orders state.projection lower
      refine ⟨stands.1, stands.2, distinct, ?_⟩
      rw [same]
      have now := consistent.covers_now
      exact ⟨now.bound, now.origin, now.catchesUp⟩
    · exact stands
  | idle | refused | listed | answered | streaming =>
    simp only [step, attempt]
    exact consistent

theorem Consistent.answer (observedAt : Bytes) :
    Consistent tenantID base
      (step orders tenantID state (.answer state.generation observedAt)) := by
  cases attempt : state.attempts state.generation with
  | listed items applied =>
    refine consistent.here rfl attempt ?_
    rintro ⟨free, offline, distinct, covers⟩
    simp only [step, attempt, State.setAttempt, Function.update_self]
    exact ⟨free, offline, distinct, covers.bound, covers.origin, covers.catchesUp⟩
  | idle | requested | refused | answered | streaming =>
    simp only [step, attempt]
    exact consistent

theorem Consistent.refuse (code : Bytes) :
    Consistent tenantID base (step orders tenantID state (.refuse state.generation code)) := by
  cases attempt : state.attempts state.generation with
  | requested =>
    refine consistent.here rfl attempt fun stands => ?_
    simp only [step, attempt, State.setAttempt, Function.update_self]
    exact stands
  | listed | answered =>
    refine consistent.here rfl attempt ?_
    rintro ⟨free, offline, -⟩
    simp only [step, attempt, State.setAttempt, Function.update_self]
    exact ⟨free, offline⟩
  | idle | refused | streaming =>
    simp only [step, attempt]
    exact consistent

theorem Consistent.openStream :
    Consistent tenantID base (step orders tenantID state (.openStream state.generation)) := by
  rcases attempt : state.attempts state.generation with _ | _ | _ | _ | _ | ⟨_ | _ | _ | _, wire,
    closed, applied⟩
  case streaming.requested =>
    refine consistent.here rfl attempt fun stands => ?_
    simp only [step, attempt, State.setAttempt, Function.update_self]
    cases closed with
    | true => exact stands
    | false =>
      obtain ⟨distinct, free, quiet, covers⟩ := stands
      refine ⟨distinct, free, ?_, covers.bound, covers.origin, covers.catchesUp⟩
      rw [wireChanges_append, quiet]
      rfl
  all_goals
    simp only [step, attempt]
    exact consistent

/-- The subscription comes after the snapshot, and misses nothing that the snapshot lacks. -/
theorem Consistent.subscribe :
    Consistent tenantID base (step orders tenantID state (.subscribe state.generation)) := by
  rcases attempt : state.attempts state.generation with _ | _ | _ | _ | _ | ⟨_ | _ | _ | _, wire,
    closed, applied⟩
  case streaming.opened =>
    refine consistent.here rfl attempt fun stands => ?_
    simp only [step, attempt, State.setAttempt, Function.update_self]
    cases closed with
    | true => exact stands
    | false =>
      obtain ⟨distinct, free, quiet, covers⟩ := stands
      refine ⟨distinct, [], Function.update_self _ _ _, ?_⟩
      rw [quiet]
      exact covers.catchesUp
  all_goals
    simp only [step, attempt]
    exact consistent

/-- A forwarded update goes from the channel to the wire. -/
theorem Consistent.forward :
    Consistent tenantID base (step orders tenantID state (.forward state.generation)) := by
  rcases attempt : state.attempts state.generation with _ | _ | _ | _ | _ | ⟨_ | _ | _ | _, wire,
    closed, applied⟩
  case streaming.subscribed =>
    rcases channel : state.hub state.generation with _ | ⟨owner, _ | ⟨update, rest⟩⟩
    case some.cons =>
      refine consistent.here rfl attempt fun stands => ?_
      simp only [step, attempt, channel, State.setAttempt, Function.update_self]
      cases closed with
      | true => exact stands
      | false =>
        obtain ⟨distinct, buffer, found, catchesUp⟩ := stands
        rw [channel] at found
        cases found
        refine ⟨distinct, rest, Function.update_self _ _ _, ?_⟩
        rw [wireChanges_append, List.append_assoc]
        exact catchesUp
    all_goals
      simp only [step, attempt, channel]
      exact consistent
  all_goals
    simp only [step, attempt]
    exact consistent

theorem Consistent.finish :
    Consistent tenantID base (step orders tenantID state (.finish state.generation)) := by
  rcases attempt : state.attempts state.generation with _ | _ | _ | _ | _ | ⟨_ | _ | _ | _, wire,
    closed, applied⟩
  case streaming.requested | streaming.opened | streaming.subscribed =>
    refine consistent.here rfl attempt fun stands => ?_
    simp only [step, attempt, State.setAttempt, Function.update_self]
    cases closed with
    | true => exact stands
    | false => exact List.mem_append_right _ (List.mem_singleton_self _)
  all_goals
    simp only [step, attempt]
    exact consistent

/-- The client takes the next message of its stream. -/
theorem Consistent.receiveMessage
    {handler : Handler} {message : Message} {wire : List Message} {applied : Nat}
    (attempt : state.attempts state.generation =
      .streaming handler (message :: wire) false applied) :
    Consistent tenantID base (step orders tenantID state (.receive state.generation)) := by
  refine consistent.here rfl attempt fun stands => ?_
  simp only [step, attempt]
  cases message with
  | closed =>
    have isClosed : (Message.closed == Message.closed) = true := rfl
    rw [State.handle, isClosed, State.disconnect, if_pos (by rfl)]
    simp only [State.setAttempt, Function.update_self]
    intro live
    cases live
  | opened =>
    have stays : (Message.opened == Message.closed) = false := rfl
    rw [State.handle, stays, if_pos (by rfl)]
    simp only [State.setAttempt, Function.update_self]
    cases handler with
    | requested | opened =>
      obtain ⟨distinct, free, quiet, covers⟩ := stands
      exact ⟨distinct, free, quiet, covers.bound, covers.origin, covers.catchesUp⟩
    | subscribed => exact stands
    | ended => simpa [Stands] using stands
  | updated payload =>
    have stays : (Message.updated payload == Message.closed) = false := rfl
    rw [State.handle, stays, if_pos (by rfl)]
    simp only [State.setAttempt, Function.update_self]
    cases handler with
    | requested | opened =>
      obtain ⟨-, -, quiet, -⟩ := stands
      cases quiet
    | subscribed =>
      obtain ⟨distinct, buffer, found, catchesUp⟩ := stands
      obtain ⟨still, merged⟩ := applySseUpdate_shown orders payload distinct
      refine ⟨still, buffer, found, ?_⟩
      rw [merged]
      exact catchesUp
    | ended => simpa [Stands] using stands

theorem Consistent.receive :
    Consistent tenantID base (step orders tenantID state (.receive state.generation)) := by
  cases attempt : state.attempts state.generation with
  | answered snapshot applied =>
    refine consistent.here rfl attempt ?_
    rintro ⟨free, offline, distinct, covers⟩
    obtain ⟨still, same⟩ := applySnapshot_shown state.view snapshot distinct
    simp only [step, attempt, if_true, State.setAttempt, Function.update_self]
    rw [← same] at covers
    exact ⟨still, free, rfl, covers.bound, covers.origin, covers.catchesUp⟩
  | refused code =>
    refine consistent.here rfl attempt fun stands => ?_
    simp only [step, attempt, if_true, State.setAttempt, Function.update_self]
    exact ⟨stands.1, by simp⟩
  | streaming handler wire closed applied =>
    cases closed with
    | true =>
      simp only [step, attempt]
      exact consistent
    | false =>
      cases wire with
      | nil =>
        simp only [step, attempt]
        exact consistent
      | cons message rest => exact consistent.receiveMessage attempt
  | idle | requested | listed =>
    simp only [step, attempt]
    exact consistent

theorem Consistent.breakOff :
    Consistent tenantID base (step orders tenantID state (.breakOff state.generation)) := by
  rcases attempt : state.attempts state.generation with _ | _ | _ | _ | _ | ⟨handler, wire,
    _ | _, applied⟩
  case streaming.false =>
    refine consistent.here rfl attempt fun _ => ?_
    simp only [step, attempt]
    rw [State.disconnect, if_pos (by rfl)]
    simp only [State.setAttempt, Function.update_self]
    cases handler <;> exact fun live => by cases live
  all_goals
    simp only [step, attempt]
    exact consistent

/-- Whatever happens to one attempt, the state stays consistent. -/
theorem Consistent.about {number : Nat} {action : Action}
    (about : action.attempt = some number) :
    Consistent tenantID base (step orders tenantID state action) := by
  rcases lt_trichotomy number state.generation with past | rfl | ahead
  · obtain ⟨connection, view⟩ := step_ignored about (ne_of_lt past)
    exact consistent.elsewhere past (step_touches about) connection view
  · cases action with
    | commit | notify | load => cases about
    | list => cases about; exact consistent.list
    | answer _ observedAt => cases about; exact consistent.answer observedAt
    | refuse _ code => cases about; exact consistent.refuse code
    | openStream => cases about; exact consistent.openStream
    | subscribe => cases about; exact consistent.subscribe
    | forward => cases about; exact consistent.forward
    | finish => cases about; exact consistent.finish
    | receive => cases about; exact consistent.receive
    | breakOff => cases about; exact consistent.breakOff
  · rw [step_idle about (consistent.later number ahead).1]
    exact consistent

theorem Consistent.commit (update : AppliedUpdate) :
    Consistent tenantID base (step orders tenantID state (.commit update)) := by
  have bound := consistent.bound
  have covers : ∀ {shown : Shown} {applied : Nat}, Covers tenantID base state shown applied →
      Covers tenantID base (step orders tenantID state (.commit update)) shown applied :=
    fun before => before.commit update bound
  refine ⟨?_, ?_, consistent.later, ?_⟩
  · simp only [step, List.length_append]
    omega
  · simp only [step, projectionShown_store, consistent.projection, tenantChanges_append,
      replay_append]
  · show Stands tenantID base (step orders tenantID state (.commit update))
      (state.attempts state.generation)
    have stands := consistent.stands
    rcases attempt : state.attempts state.generation with _ | _ | ⟨items, applied⟩ |
      ⟨snapshot, applied⟩ | _ | ⟨handler, wire, _ | _, applied⟩
    all_goals rw [attempt] at stands
    · exact stands
    · exact stands
    · exact ⟨stands.1, stands.2.1, stands.2.2.1, covers stands.2.2.2⟩
    · exact ⟨stands.1, stands.2.1, stands.2.2.1, covers stands.2.2.2⟩
    · exact stands
    · cases handler with
      | requested | opened => exact ⟨stands.1, stands.2.1, stands.2.2.1, covers stands.2.2.2⟩
      | subscribed =>
        obtain ⟨distinct, buffer, found, catchesUp⟩ := stands
        refine ⟨distinct, buffer, found, ?_⟩
        simp only [step, List.drop_append_of_le_length bound, tenantChanges_append,
          ← List.append_assoc, replay_append, projectionShown_store]
        simp only [← List.append_assoc, replay_append] at catchesUp
        rw [catchesUp]
      | ended => exact stands
    · cases handler <;> exact stands

/-- A notification that is heard is in the channel or in the snapshot. -/
theorem Consistent.notify
    (heard : Heard tenantID state) :
    Consistent tenantID base (step orders tenantID state .notify) := by
  cases found : state.applies[state.notified]? with
  | none =>
    simp only [step, found]
    exact consistent
  | some update =>
    obtain ⟨inside, isIt⟩ := List.getElem?_eq_some_iff.mp found
    have stands := consistent.stands
    have reaches := heard update found
    have unchanged : ∀ number, state.hub number = none →
        state.hub.notifyApplied update number = none := by
      intro number free
      rw [Hub.notifyApplied, free, Option.map_none]
    rw [step_notify found]
    refine ⟨inside, consistent.projection, fun number ahead => ?_, ?_⟩
    · obtain ⟨idle, free⟩ := consistent.later number ahead
      exact ⟨idle, unchanged number free⟩
    · show Stands tenantID base _ (state.attempts state.generation)
      rcases attempt : state.attempts state.generation with _ | _ | ⟨items, applied⟩ |
        ⟨snapshot, applied⟩ | _ | ⟨handler, wire, _ | _, applied⟩
      all_goals rw [attempt] at stands reaches
      · exact ⟨unchanged _ stands.1, stands.2⟩
      · exact ⟨unchanged _ stands.1, stands.2⟩
      · obtain ⟨free, offline, distinct, covers⟩ := stands
        exact ⟨unchanged _ free, offline, distinct, covers.bound, covers.origin,
          covers.notify consistent.projection found reaches⟩
      · obtain ⟨free, offline, distinct, covers⟩ := stands
        exact ⟨unchanged _ free, offline, distinct, covers.bound, covers.origin,
          covers.notify consistent.projection found reaches⟩
      · exact ⟨unchanged _ stands.1, stands.2⟩
      · cases handler with
        | requested | opened =>
          obtain ⟨distinct, free, quiet, covers⟩ := stands
          exact ⟨distinct, unchanged _ free, quiet, covers.bound, covers.origin,
            covers.notify consistent.projection found reaches⟩
        | subscribed =>
          obtain ⟨distinct, buffer, subscribed, catchesUp⟩ := stands
          obtain ⟨later, sent, changes⟩ := notifyApplied_changes subscribed
            fun own => reaches own _ subscribed
          refine ⟨distinct, later, sent, ?_⟩
          have dropped := List.drop_eq_getElem_cons inside
          rw [isIt, ← List.singleton_append] at dropped
          rw [dropped, tenantChanges_append, ← List.append_assoc (buffer.map _)] at catchesUp
          rw [changes]
          exact catchesUp
        | ended => exact stands
      · cases handler <;> exact stands

/-- A new attempt stands on nothing yet. -/
theorem Consistent.load (mode : Mode) :
    Consistent tenantID base (step orders tenantID state (.load mode)) := by
  simp only [step]
  split_ifs
  · exact consistent
  · refine ⟨consistent.bound, consistent.projection, fun number ahead => ?_, ?_⟩
    · have beyond : state.generation + 1 < number := ahead
      obtain ⟨idle, free⟩ := consistent.later number (by omega)
      refine ⟨?_, free⟩
      simp only [State.load]
      rw [Function.update_of_ne (by omega), Function.update_of_ne (by omega)]
      exact idle
    · simp only [State.load, Function.update_self]
      refine ⟨(consistent.later _ (Nat.lt_succ_self _)).2, ?_⟩
      cases mode <;> simp

/-- Every step but an unheard notification keeps the state consistent. -/
theorem Consistent.step (action : Action)
    (heard : action = .notify → Heard tenantID state) :
    Consistent tenantID base (Live.step orders tenantID state action) := by
  cases action with
  | commit update => exact consistent.commit update
  | notify => exact consistent.notify (heard rfl)
  | load mode => exact consistent.load mode
  | list | answer | refuse | openStream | subscribe | forward | finish | receive | breakOff =>
    exact consistent.about rfl

end Keeping

end Steps

/-! ### Runs -/

/-- Every notification of a run is heard. -/
def AllHeard (orders : TextOrders) (tenantID : Bytes) : List Action → State → Prop
  | [], _ => True
  | action :: rest, state =>
      (action = .notify → Heard tenantID state) ∧
        AllHeard orders tenantID rest (step orders tenantID state action)

/-- When every notification is heard, a client that is live and has nothing on its way shows
exactly the rows of its tenant. -/
theorem live_view_converges (orders : TextOrders) (tenantID : Bytes)
    (projection : Table ProjectionRow.key) (actions : List Action)
    (heard : AllHeard orders tenantID actions (.start projection))
    (quiet : Quiet (run orders tenantID actions (.start projection))) :
    ShowsTenant tenantID (run orders tenantID actions (.start projection)) := by
  have keeps : ∀ (actions : List Action) (base : Shown) (state : State),
      Consistent tenantID base state → AllHeard orders tenantID actions state →
      Consistent tenantID base (run orders tenantID actions state) := by
    intro actions
    induction actions with
    | nil => exact fun _ _ consistent _ => consistent
    | cons action rest inductionHypothesis =>
      rintro base state consistent ⟨first, others⟩
      exact inductionHypothesis base _ (consistent.step action first) others
  exact (keeps actions _ _ (.start projection) heard).shows quiet

/-- The orders that keep texts as they come. -/
def plainOrders : TextOrders := ⟨fun _ _ => true, fun _ _ => true⟩

def sampleUpdate : AppliedUpdate := ⟨sampleTenant, ascii "flour", 9, 1, sampleEvent⟩

/-- An apply that commits after the client has subscribed. -/
def sampleActions : List Action :=
  [.load .initial, .list 1, .answer 1 [], .receive 1, .openStream 1, .subscribe 1,
    .commit sampleUpdate, .notify, .forward 1, .receive 1, .receive 1]

set_option maxRecDepth 20000 in
theorem live_view_converges_sample :
    ShowsTenant sampleTenant (run plainOrders sampleTenant sampleActions (.start .empty)) := by
  obtain ⟨attempt, channel⟩ :
      (run plainOrders sampleTenant (sampleActions.take 7) (.start .empty)).attempts 1 =
        .streaming .subscribed [.opened] false 0 ∧
      (run plainOrders sampleTenant (sampleActions.take 7) (.start .empty)).hub 1 =
        some ⟨sampleTenant, []⟩ := by decide +kernel
  obtain ⟨live, notified, drained, merged⟩ :
      (run plainOrders sampleTenant sampleActions (.start .empty)).connection = .live ∧
      (run plainOrders sampleTenant sampleActions (.start .empty)).notified = 1 ∧
      (run plainOrders sampleTenant sampleActions (.start .empty)).hub 1 =
        some ⟨sampleTenant, []⟩ ∧
      (run plainOrders sampleTenant sampleActions (.start .empty)).attempts 1 =
        .streaming .subscribed [] false 0 := by decide +kernel
  refine live_view_converges plainOrders sampleTenant .empty _ ?_ ⟨live, notified, ?_, ?_⟩
  · refine ⟨by simp, by simp, by simp, by simp, by simp, by simp, by simp,
      fun _ update _ _ => ?_, by simp, by simp, by simp, trivial⟩
    have heard : ((run plainOrders sampleTenant (sampleActions.take 7)
        (.start .empty)).attempts 1).hears 0 ((run plainOrders sampleTenant
        (sampleActions.take 7) (.start .empty)).hub 1) := by
      rw [attempt, channel]
      simp [Attempt.hears, subscriberBuf]
    exact heard
  · intro channel found
    cases drained.symm.trans found
    rfl
  · intro handler wire closed applied found
    cases merged.symm.trans found
    rfl

/-- An apply that commits, and is notified, between the snapshot and the subscription. -/
def missedActions : List Action :=
  [.load .initial, .list 1, .commit sampleUpdate, .notify, .answer 1 [], .receive 1,
    .openStream 1, .subscribe 1, .receive 1]

set_option maxRecDepth 20000 in
/-- The client is live and shows nothing, while the projection has a row. -/
theorem update_missed_before_subscribe :
    ¬ ∀ (orders : TextOrders) (tenantID : Bytes) (projection : Table ProjectionRow.key)
      (actions : List Action), Quiet (run orders tenantID actions (.start projection)) →
        ShowsTenant tenantID (run orders tenantID actions (.start projection)) := by
  intro shows
  obtain ⟨live, notified, drained, merged, items, rows⟩ :
      (run plainOrders sampleTenant missedActions (.start .empty)).connection = .live ∧
      (run plainOrders sampleTenant missedActions (.start .empty)).notified = 1 ∧
      (run plainOrders sampleTenant missedActions (.start .empty)).hub 1 =
        some ⟨sampleTenant, []⟩ ∧
      (run plainOrders sampleTenant missedActions (.start .empty)).attempts 1 =
        .streaming .subscribed [] false 0 ∧
      (run plainOrders sampleTenant missedActions (.start .empty)).view.items.length = 0 ∧
      (tenantRows (run plainOrders sampleTenant missedActions (.start .empty)).projection
        sampleTenant).length = 1 := by decide +kernel
  have perm := shows plainOrders sampleTenant .empty missedActions ⟨live, notified, ?_, ?_⟩
  · have length := perm.length_eq
    simp only [List.length_map, items, rows] at length
    omega
  · intro channel found
    cases drained.symm.trans found
    rfl
  · intro handler wire closed applied found
    cases merged.symm.trans found
    rfl

end Live

end SeshatOps
