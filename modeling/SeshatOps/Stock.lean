/-
This file proves that the source conserves stock: whatever orders are accepted at the
same time, an inventory row, its accepted orders and its outbox events tell one story.

`Stock` lists the decrements of an item in the order in which they were committed. The
events carry them, the orders asked for them, and the quantity on hand is what they
leave. Each commit of a command keeps this for every item: an order adds one decrement to
its own item, and everything else adds none.
-/

import SeshatOps.History
import SeshatOps.SourceSteps

namespace SeshatOps

open Relational Event

namespace Source

/-! ### The history of an item -/

/-- The outbox rows of an inventory item. -/
def itemEvents (erp : Erp) (key : Bytes × Bytes) : List OutboxRow :=
  erp.outbox.rows.filter fun row => row.tenantID == key.1 &&
    row.aggregateType == aggregateTypeInventoryItem && row.aggregateID == key.2

/-- The accepted orders of an inventory item. -/
def itemOrders (erp : Erp) (key : Bytes × Bytes) : List Order :=
  erp.orders.rows.filter fun row => row.tenantID == key.1 && row.itemID == key.2

/-- The decrement that an outbox row's bytes carry. -/
def decrementOf (row : OutboxRow) : Option QuantityDecremented :=
  (parse row.eventBytes).toOption.bind asQuantityDecremented

/-- The quantity that decrements take. -/
def taken (decrements : List QuantityDecremented) : Int :=
  (decrements.map QuantityDecremented.quantityDecremented).sum

/-- An inventory row with the decrements that were made to it, the first one first. -/
structure Stock (initial : Int) (key : Bytes × Bytes) (erp : Erp) (item : InventoryItem)
    (decrements : List QuantityDecremented) : Prop where
  found : erp.inventoryItems.find? key = some item
  version : item.aggregateVersion = decrements.length
  onHand : item.quantityOnHand = initial - taken decrements
  nonnegative : 0 ≤ item.quantityOnHand
  versions : (itemEvents erp key).map OutboxRow.aggregateVersion =
    (List.range decrements.length).map fun index : Nat => (index : Int) + 1
  carried : (itemEvents erp key).map decrementOf = decrements.map some
  ordered : (itemOrders erp key).map (fun order => (order.orderID, order.quantity)) =
    decrements.map fun decrement => (decrement.orderID, decrement.quantityDecremented)
  before : ∀ (index : Nat) decrement, decrements[index]? = some decrement →
    decrement.quantityBefore = initial - taken (decrements.take index)
  after : ∀ decrement ∈ decrements,
    decrement.quantityAfter = decrement.quantityBefore - decrement.quantityDecremented

section Steps

variable {initial : Int} {key : Bytes × Bytes} {before after : Erp} {item : InventoryItem}
  {decrements : List QuantityDecremented}

theorem itemEvents_storeOutbox {row : OutboxRow} (absent : before.outbox.find? row.eventID = none) :
    itemEvents (storeOutbox row before) key = itemEvents before key ++
      if row.tenantID = key.1 ∧ row.aggregateType = aggregateTypeInventoryItem ∧
        row.aggregateID = key.2 then [row] else [] := by
  rw [itemEvents, storeOutbox, Table.rows_store_of_absent _ absent, List.filter_append]
  congr 1
  simp [List.filter_singleton, and_assoc]

theorem itemOrders_storeOrder {row : Order} (absent : before.orders.find? row.orderID = none) :
    itemOrders (storeOrder row before) key = itemOrders before key ++
      if row.tenantID = key.1 ∧ row.itemID = key.2 then [row] else [] := by
  rw [itemOrders, storeOrder, Table.rows_store_of_absent _ absent, List.filter_append]
  congr 1
  simp [List.filter_singleton]

/-- The bytes of a new row carry the decrement of its event. -/
theorem decrementOf_pendingRow {env : Envelope} {canonical : Bytes}
    (written : canonicalBytes env = .ok canonical) (hash : Bytes) (recordedAt now : Int) :
    decrementOf (pendingRow env hash canonical recordedAt now) = asQuantityDecremented env := by
  rw [decrementOf, pendingRow, parse_canonicalBytes env canonical written]
  rfl

theorem taken_append (decrements : List QuantityDecremented) (decrement : QuantityDecremented) :
    taken (decrements ++ [decrement]) = taken decrements + decrement.quantityDecremented := by
  simp [taken]

/-- An order of the item adds its decrement. -/
theorem Stock.accept {cmd : OrderCommand} {occurredAt recordedAt now : Int} {canonical : Bytes}
    (stock : Stock initial (cmd.tenantID, cmd.itemID) before item decrements)
    (accepts : Accepts cmd item occurredAt recordedAt now canonical before after) :
    Stock initial (cmd.tenantID, cmd.itemID) after (decremented cmd item)
      (decrements ++ [orderPayload cmd item.quantityOnHand]) := by
  have events : itemEvents after (cmd.tenantID, cmd.itemID) =
      itemEvents before (cmd.tenantID, cmd.itemID) ++
        [pendingRow (orderEnvelope cmd item) (digest canonical) canonical recordedAt now] := by
    rw [accepts.result, itemEvents_storeOutbox accepts.emits.freshEvent]
    rw [if_pos ⟨rfl, rfl, rfl⟩]
    rfl
  have orders : itemOrders after (cmd.tenantID, cmd.itemID) =
      itemOrders before (cmd.tenantID, cmd.itemID) ++ [orderRow cmd occurredAt] := by
    rw [accepts.result]
    show itemOrders (storeOrder _ (storeItem _ before)) _ = _
    rw [itemOrders_storeOrder accepts.freshOrder, if_pos ⟨rfl, rfl⟩]
    rfl
  refine ⟨?_, ?_, ?_, ?_, ?_, ?_, ?_, ?_, ?_⟩
  · rw [accepts.result]
    exact Table.find?_store_self before.inventoryItems (decremented cmd item)
  · simp [decremented, stock.version]
  · rw [taken_append]
    simp only [decremented, orderPayload, stock.onHand]
    ring
  · exact sub_nonneg.mpr accepts.covered
  · rw [events, List.map_append, stock.versions]
    simp [List.range_succ, pendingRow, orderEnvelope, Context.envelope, stock.version]
  · rw [events, List.map_append, stock.carried, List.map_append, List.map_singleton,
      decrementOf_pendingRow accepts.emits.written]
    rfl
  · rw [orders, List.map_append, stock.ordered, List.map_append]
    rfl
  · intro index decrement selected
    rcases lt_trichotomy index decrements.length with inside | rfl | outside
    · rw [List.getElem?_append_left inside] at selected
      rw [List.take_append_of_le_length inside.le]
      exact stock.before index decrement selected
    · rw [List.getElem?_concat_length, Option.some.injEq] at selected
      rw [List.take_left, ← selected, ← stock.onHand]
      rfl
    · rw [List.getElem?_eq_none (by simp; omega)] at selected
      cases selected
  · intro decrement member
    rcases List.mem_append.mp member with old | new
    · exact stock.after decrement old
    · rw [List.mem_singleton.mp new]
      rfl

/-- What leaves the rows of an item alone leaves its history alone. -/
theorem Stock.frame (stock : Stock initial key before item decrements)
    (sameItem : after.inventoryItems.find? key = before.inventoryItems.find? key)
    (sameEvents : itemEvents after key = itemEvents before key)
    (sameOrders : itemOrders after key = itemOrders before key) :
    Stock initial key after item decrements where
  found := sameItem.trans stock.found
  version := stock.version
  onHand := stock.onHand
  nonnegative := stock.nonnegative
  versions := sameEvents ▸ stock.versions
  carried := sameEvents ▸ stock.carried
  ordered := sameOrders ▸ stock.ordered
  before := stock.before
  after := stock.after

/-- A hop's event is not an inventory event. -/
theorem aggregateType_of_hop {tenantID : Bytes} {payload : Payload} {hop : Hop}
    (described : payloadHop tenantID payload = some hop) :
    payload.aggregateType ≠ aggregateTypeInventoryItem := by
  cases payload <;> cases described <;> simp only [Payload.aggregateType] <;> decide

/-- An order leaves the rows of every other item alone. -/
theorem Accepts.sparesItem {cmd : OrderCommand} {occurredAt recordedAt now : Int}
    {canonical : Bytes}
    (accepts : Accepts cmd item occurredAt recordedAt now canonical before after)
    (other : key ≠ (cmd.tenantID, cmd.itemID)) :
    after.inventoryItems.find? key = before.inventoryItems.find? key ∧
      itemEvents after key = itemEvents before key ∧
      itemOrders after key = itemOrders before key := by
  have foreign : ¬ (cmd.tenantID = key.1 ∧ cmd.itemID = key.2) :=
    fun same => other (Prod.ext same.1.symm same.2.symm)
  rw [accepts.result]
  refine ⟨Table.find?_store_of_ne _ other, ?_, ?_⟩
  · rw [itemEvents_storeOutbox accepts.emits.freshEvent,
      if_neg fun same => foreign ⟨same.1, same.2.2⟩, List.append_nil]
    rfl
  · show itemOrders (storeOrder _ (storeItem _ before)) _ = _
    rw [itemOrders_storeOrder accepts.freshOrder,
      if_neg fun same => foreign ⟨same.1, same.2⟩, List.append_nil]
    rfl

/-- A hop leaves the rows of every item alone. -/
theorem Links.sparesItem (key : Bytes × Bytes) {context : Context} {hop : Hop}
    {causationID : Option Bytes}
    {payload : Payload} {occurredAt recordedAt now : Int} {canonical : Bytes}
    (links : Links context hop causationID payload occurredAt recordedAt now canonical before
      after) :
    after.inventoryItems.find? key = before.inventoryItems.find? key ∧
      itemEvents after key = itemEvents before key ∧
      itemOrders after key = itemOrders before key := by
  rw [links.result]
  refine ⟨rfl, ?_, rfl⟩
  rw [itemEvents_storeOutbox links.emits.freshEvent, if_neg fun same =>
    aggregateType_of_hop links.described same.2.1, List.append_nil]
  rfl

/-- Every commit keeps the history of every item. -/
theorem Stock.step (stock : Stock initial key before item decrements)
    (steps : Steps before after) : ∃ item decrements, Stock initial key after item decrements := by
  cases steps with
  | accepted cmd accepted occurredAt recordedAt now canonical accepts =>
    by_cases own : key = (cmd.tenantID, cmd.itemID)
    · subst own
      obtain rfl : accepted = item := Option.some.inj (accepts.found.symm.trans stock.found)
      exact ⟨_, _, stock.accept accepts⟩
    · obtain ⟨sameItem, sameEvents, sameOrders⟩ := accepts.sparesItem own
      exact ⟨item, decrements, stock.frame sameItem sameEvents sameOrders⟩
  | linked context hop causationID payload occurredAt recordedAt now canonical links =>
    obtain ⟨sameItem, sameEvents, sameOrders⟩ := links.sparesItem key
    exact ⟨item, decrements, stock.frame sameItem sameEvents sameOrders⟩

end Steps

/-! ### Orders at the same time -/

/-- Clients that each accept one order, on one database. -/
def ordering {Index : Type} (start : Database) (commands : Index → OrderCommand) :
    Program.System Index Database Lock Empty SourceError AcceptResult where
  committed := start
  clients index := { program := acceptOrder (commands index) }

/-- A freshly seeded inventory row. -/
structure Seeded (initial : Int) (key : Bytes × Bytes) (erp : Erp) : Prop where
  found : erp.inventoryItems.find? key = some ⟨key.1, key.2, initial, 0⟩
  nonnegative : 0 ≤ initial
  noEvents : itemEvents erp key = []
  noOrders : itemOrders erp key = []

theorem Seeded.stock {initial : Int} {key : Bytes × Bytes} {erp : Erp}
    (seeded : Seeded initial key erp) :
    Stock initial key erp ⟨key.1, key.2, initial, 0⟩ [] := by
  refine ⟨seeded.found, rfl, by simp [taken], seeded.nonnegative, ?_, ?_, ?_, by simp, by simp⟩
  · rw [seeded.noEvents]
    rfl
  · rw [seeded.noEvents]
    rfl
  · rw [seeded.noOrders]
    rfl

section Schedules

variable {Index : Type} [Fintype Index] [DecidableEq Index] {start : Database}
  {commands : Index → OrderCommand}

/-- Along every schedule the clients keep to their guarantees. -/
theorem ordering_orderly (schedule : List (Index × Reply)) :
    ((ordering start commands).run schedule).Orderly sourceContract fun _ => StepsOnly := by
  have first : (ordering start commands).Orderly sourceContract fun _ => StepsOnly :=
    ⟨by simp [ordering], fun index => acceptOrder_guarantees (commands index) start⟩
  induction schedule using List.reverseRecOn with
  | nil => exact first
  | append_singleton early turn hypothesis =>
    rw [Program.System.run_append]
    exact hypothesis.step (fun _ _ _ steps => steps.1.keepsEvents) turn.1 turn.2

/-- Along every schedule the history of an item is kept. -/
theorem ordering_stock {initial : Int} {key : Bytes × Bytes}
    (seeded : Seeded initial key start.erp) (schedule : List (Index × Reply)) :
    ∃ item decrements,
      Stock initial key ((ordering start commands).run schedule).committed.erp item
        decrements := by
  induction schedule using List.reverseRecOn with
  | nil => exact ⟨_, _, seeded.stock⟩
  | append_singleton early turn hypothesis =>
    obtain ⟨item, decrements, stock⟩ := hypothesis
    rw [Program.System.run_append]
    rcases (ordering_orderly early).step_guarantee turn.1 turn.2 with same | steps
    · refine ⟨item, decrements, ?_⟩
      show Stock _ _ (((ordering start commands).run early).step turn.1 turn.2).committed.erp _ _
      rw [same]
      exact stock
    · exact stock.step steps.1

end Schedules

/-! ### What the history says -/

/-- The identifier of the order that an outbox row's bytes name. -/
def orderOf (row : OutboxRow) : Option Bytes :=
  (decrementOf row).map QuantityDecremented.orderID

/-- Conservation, read off the tables: the events of an item are numbered and chained, they meet
its orders one to one, and the row shows where they end. -/
structure Conserved (initial : Int) (key : Bytes × Bytes) (erp : Erp) (item : InventoryItem) :
    Prop where
  found : erp.inventoryItems.find? key = some item
  versions : ∀ version, (∃ row ∈ itemEvents erp key, row.aggregateVersion = version) ↔
    1 ≤ version ∧ version ≤ item.aggregateVersion
  distinct : ∀ first ∈ itemEvents erp key, ∀ second ∈ itemEvents erp key,
    first.aggregateVersion = second.aggregateVersion → first = second
  starts : ∀ row ∈ itemEvents erp key, row.aggregateVersion = 1 →
    ∃ decrement, decrementOf row = some decrement ∧ decrement.quantityBefore = initial
  chains : ∀ first ∈ itemEvents erp key, ∀ second ∈ itemEvents erp key,
    second.aggregateVersion = first.aggregateVersion + 1 →
    ∃ early late, decrementOf first = some early ∧ decrementOf second = some late ∧
      late.quantityBefore = early.quantityAfter
  ends : ∀ row ∈ itemEvents erp key, row.aggregateVersion = item.aggregateVersion →
    ∃ decrement, decrementOf row = some decrement ∧ decrement.quantityAfter = item.quantityOnHand
  total : item.quantityOnHand = initial - ((itemOrders erp key).map Order.quantity).sum
  nonnegative : 0 ≤ item.quantityOnHand
  orderOfEvent : ∀ row ∈ itemEvents erp key,
    ∃! order, order ∈ itemOrders erp key ∧ orderOf row = some order.orderID
  eventOfOrder : ∀ order ∈ itemOrders erp key,
    ∃! row, row ∈ itemEvents erp key ∧ orderOf row = some order.orderID

section Reading

variable {initial : Int} {key : Bytes × Bytes} {erp : Erp} {item : InventoryItem}
  {decrements : List QuantityDecremented}

/-- The event, the decrement and the order of one place in the history. -/
structure Entry (erp : Erp) (key : Bytes × Bytes) (decrements : List QuantityDecremented)
    (index : Nat) (row : OutboxRow) (decrement : QuantityDecremented) (order : Order) : Prop where
  event : (itemEvents erp key)[index]? = some row
  listed : decrements[index]? = some decrement
  accepted : (itemOrders erp key)[index]? = some order
  version : row.aggregateVersion = (index : Int) + 1
  carries : decrementOf row = some decrement
  orderID : decrement.orderID = order.orderID

theorem Stock.entry (stock : Stock initial key erp item decrements) (index : Nat)
    (inside : index < decrements.length) :
    ∃ row decrement order, Entry erp key decrements index row decrement order := by
  have events : (itemEvents erp key).length = decrements.length := by
    simpa using congrArg List.length stock.carried
  have orders : (itemOrders erp key).length = decrements.length := by
    simpa using congrArg List.length stock.ordered
  have version := congrArg (·[index]?) stock.versions
  have carried := congrArg (·[index]?) stock.carried
  have ordered := congrArg (·[index]?) stock.ordered
  simp only [List.getElem?_map, List.getElem?_eq_getElem inside,
    List.getElem?_eq_getElem (events.symm ▸ inside),
    List.getElem?_eq_getElem (orders.symm ▸ inside), List.getElem?_range inside, Option.map_some,
    Option.some.injEq, Prod.mk.injEq] at version carried ordered
  exact ⟨_, _, _, List.getElem?_eq_getElem (events.symm ▸ inside), List.getElem?_eq_getElem inside,
    List.getElem?_eq_getElem (orders.symm ▸ inside), version, carried, ordered.1.symm⟩

/-- Every event of the item has a place. -/
theorem Stock.entry_of_event (stock : Stock initial key erp item decrements) {row : OutboxRow}
    (member : row ∈ itemEvents erp key) :
    ∃ index decrement order, Entry erp key decrements index row decrement order := by
  obtain ⟨index, inside, rfl⟩ := List.mem_iff_getElem.mp member
  have events : (itemEvents erp key).length = decrements.length := by
    simpa using congrArg List.length stock.carried
  obtain ⟨row, decrement, order, entry⟩ := stock.entry index (events ▸ inside)
  have same := entry.event
  rw [List.getElem?_eq_getElem inside, Option.some.injEq] at same
  exact ⟨index, decrement, order, same ▸ entry⟩

theorem Stock.entry_of_order (stock : Stock initial key erp item decrements) {order : Order}
    (member : order ∈ itemOrders erp key) :
    ∃ index row decrement, Entry erp key decrements index row decrement order := by
  obtain ⟨index, inside, rfl⟩ := List.mem_iff_getElem.mp member
  have orders : (itemOrders erp key).length = decrements.length := by
    simpa using congrArg List.length stock.ordered
  obtain ⟨row, decrement, order, entry⟩ := stock.entry index (orders ▸ inside)
  have same := entry.accepted
  rw [List.getElem?_eq_getElem inside, Option.some.injEq] at same
  exact ⟨index, row, decrement, same ▸ entry⟩

/-- What a decrement leaves is what the history up to it leaves. -/
theorem Stock.after_eq (stock : Stock initial key erp item decrements) {index : Nat}
    {decrement : QuantityDecremented} (listed : decrements[index]? = some decrement) :
    decrement.quantityAfter = initial - taken (decrements.take (index + 1)) := by
  rw [stock.after decrement (List.mem_of_getElem? listed), stock.before index decrement listed,
    List.take_add_one, listed, Option.toList_some, taken_append]
  ring

theorem Stock.total (stock : Stock initial key erp item decrements) :
    taken decrements = ((itemOrders erp key).map Order.quantity).sum := by
  have quantities := congrArg (List.map Prod.snd) stock.ordered
  simp only [List.map_map] at quantities
  exact congrArg List.sum quantities.symm

theorem itemOrders_nodup : (itemOrders erp key).Nodup :=
  (List.Nodup.of_map _ erp.orders.unique).filter _

theorem Stock.conserved (stock : Stock initial key erp item decrements) :
    Conserved initial key erp item where
  found := stock.found
  versions version := by
    constructor
    · rintro ⟨row, member, rfl⟩
      obtain ⟨index, decrement, order, entry⟩ := stock.entry_of_event member
      have inside := (List.getElem?_eq_some_iff.mp entry.listed).1
      rw [entry.version, stock.version]
      omega
    · rintro ⟨low, high⟩
      rw [stock.version] at high
      obtain ⟨row, decrement, order, entry⟩ := stock.entry (version - 1).toNat (by omega)
      exact ⟨row, List.mem_of_getElem? entry.event, by rw [entry.version]; omega⟩
  distinct first firstMember second secondMember same := by
    obtain ⟨index, decrement, order, entry⟩ := stock.entry_of_event firstMember
    obtain ⟨other, decrement', order', entry'⟩ := stock.entry_of_event secondMember
    rw [entry.version, entry'.version] at same
    obtain rfl : index = other := by omega
    exact Option.some.inj (entry.event.symm.trans entry'.event)
  starts row member first := by
    obtain ⟨index, decrement, order, entry⟩ := stock.entry_of_event member
    rw [entry.version] at first
    obtain rfl : index = 0 := by omega
    refine ⟨decrement, entry.carries, ?_⟩
    simpa [taken] using stock.before 0 decrement entry.listed
  chains first firstMember second secondMember next := by
    obtain ⟨index, early, order, entry⟩ := stock.entry_of_event firstMember
    obtain ⟨other, late, order', entry'⟩ := stock.entry_of_event secondMember
    rw [entry.version, entry'.version] at next
    obtain rfl : other = index + 1 := by omega
    refine ⟨early, late, entry.carries, entry'.carries, ?_⟩
    rw [stock.before _ late entry'.listed, stock.after_eq entry.listed]
  ends row member last := by
    obtain ⟨index, decrement, order, entry⟩ := stock.entry_of_event member
    rw [entry.version, stock.version] at last
    refine ⟨decrement, entry.carries, ?_⟩
    rw [stock.after_eq entry.listed, stock.onHand, List.take_of_length_le (by omega)]
  total := by rw [stock.onHand, stock.total]
  nonnegative := stock.nonnegative
  orderOfEvent row member := by
    obtain ⟨index, decrement, order, entry⟩ := stock.entry_of_event member
    have named : orderOf row = some order.orderID := by
      rw [orderOf, entry.carries, Option.map_some, entry.orderID]
    refine ⟨order, ⟨List.mem_of_getElem? entry.accepted, named⟩, ?_⟩
    rintro other ⟨otherMember, otherNamed⟩
    refine erp.orders.eq_of_key (List.mem_of_mem_filter otherMember)
      (List.mem_of_mem_filter (List.mem_of_getElem? entry.accepted)) ?_
    exact Option.some.inj (otherNamed.symm.trans named)
  eventOfOrder order member := by
    obtain ⟨index, row, decrement, entry⟩ := stock.entry_of_order member
    have named : orderOf row = some order.orderID := by
      rw [orderOf, entry.carries, Option.map_some, entry.orderID]
    refine ⟨row, ⟨List.mem_of_getElem? entry.event, named⟩, ?_⟩
    rintro other ⟨otherMember, otherNamed⟩
    obtain ⟨place, decrement', order', entry'⟩ := stock.entry_of_event otherMember
    rw [orderOf, entry'.carries, Option.map_some, entry'.orderID, Option.some.injEq] at otherNamed
    -- The two events name one order, so they have one place in the list of orders.
    obtain rfl : order' = order := erp.orders.eq_of_key
      (List.mem_of_mem_filter (List.mem_of_getElem? entry'.accepted))
      (List.mem_of_mem_filter member) otherNamed
    obtain rfl : place = index := by
      obtain ⟨early, atEarly⟩ := List.getElem?_eq_some_iff.mp entry.accepted
      obtain ⟨late, atLate⟩ := List.getElem?_eq_some_iff.mp entry'.accepted
      exact (itemOrders_nodup.getElem_inj_iff).mp (atLate.trans atEarly.symm)
    exact Option.some.inj (entry'.event.symm.trans entry.event)

end Reading

/-! ### Rejected orders -/

theorem orderCausation_commitsLast {Value : Type} {cmd : OrderCommand}
    (continuation : Unit → SourceAction Value)
    (rest : Program.CommitsLast true (continuation ())) :
    Program.CommitsLast true (requireOrderShipmentCausation cmd >>= continuation) := by
  rw [requireOrderShipmentCausation, bind_assoc]
  refine Program.commitsLast_exec _ _ _ fun found => ?_
  cases found with
  | none =>
    dsimp only
    split_ifs
    · trivial
    · exact rest
  | some shipment =>
    dsimp only
    rw [bind_assoc, parentOutboxEventID, bind_assoc]
    refine Program.commitsLast_exec _ _ _ fun parent => ?_
    cases parent with
    | none => trivial
    | some eventID =>
      dsimp only
      rw [pure_bind, requireCausation]
      split_ifs
      · exact rest
      · trivial

theorem instant_commitsLast {Value : Type} (value : Bytes) (continuation : Int → SourceAction Value)
    (rest : ∀ microseconds, Program.CommitsLast true (continuation microseconds)) :
    Program.CommitsLast true (instant value >>= continuation) := by
  rw [instant]
  cases Time.parseTimeZ value with
  | none => trivial
  | some microseconds => exact rest microseconds

/-- `AcceptOrder` writes in one transaction, and returns its result once that is committed. -/
theorem acceptOrder_commitsLast (cmd : OrderCommand) :
    Program.CommitsLast false (acceptOrder cmd) := by
  rw [acceptOrder, passes]
  refine Program.commitsLast_settled _ _ fun _ => Program.commitsLast_inTransaction _ _ ?_
  refine Program.commitsLast_exec _ _ _ fun found => ?_
  cases found with
  | none => trivial
  | some item =>
    dsimp only
    split_ifs
    · trivial
    · trivial
    · trivial
    rw [acceptLocked]
    refine orderCausation_commitsLast _ (Program.commitsLast_exec _ _ _ fun _ => ?_)
    refine instant_commitsLast _ _ fun occurredAt => instant_commitsLast _ _ fun recordedAt => ?_
    refine Program.commitsLast_exec _ _ _ fun _ => ?_
    simp only [insertPendingOutbox, bind_assoc]
    cases validate (orderEnvelope cmd item) with
    | error error => trivial
    | ok _ =>
      cases canonicalBytes (orderEnvelope cmd item) with
      | error error => trivial
      | ok bytes =>
        cases contentHash (orderEnvelope cmd item) with
        | error error => trivial
        | ok hash =>
          refine Program.commitsLast_exec _ _ _ fun _ => ?_
          exact Program.commitsLast_commitOr _ _ trivial

/-! ### The main result -/

/-- In every state that concurrent orders reach, the history of a seeded item is whole, and a
rejected order has changed nothing. -/
theorem stock_conserved {Index : Type} [Fintype Index] [DecidableEq Index] (start : Database)
    (initial : Int) (key : Bytes × Bytes) (seeded : Seeded initial key start.erp)
    (commands : Index → OrderCommand) (schedule : List (Index × Reply)) :
    (∃ item, Conserved initial key ((ordering start commands).run schedule).committed.erp item) ∧
    ∀ index error,
      (((ordering start commands).run schedule).clients index).program = .done (.error error) →
      ∀ early reply late, schedule = early ++ (index, reply) :: late →
        ((ordering start commands).run (early ++ [(index, reply)])).committed.erp =
          ((ordering start commands).run early).committed.erp := by
  refine ⟨?_, fun index error rejected early reply late split => ?_⟩
  · obtain ⟨item, decrements, stock⟩ := ordering_stock seeded schedule
    exact ⟨item, stock.conserved⟩
  · exact congrArg Database.erp (Program.System.failed_changes_nothing
      (acceptOrder_commitsLast (commands index)) rfl rejected early late reply split)

/-! ### Sample orders -/

def sampleItem : Bytes := ascii "flour"

def sampleOrder (orderID eventID : Bytes) (quantity : Int) : OrderCommand where
  eventID := eventID
  tenantID := sampleTenant
  occurredAt := ascii "2026-01-02T03:04:05Z"
  recordedAt := ascii "2026-01-02T03:04:05Z"
  correlationID := ascii "11111111-1111-4111-8111-111111111111"
  causationID := none
  traceID := ascii "trace"
  orderID := orderID
  itemID := sampleItem
  quantity := quantity

/-- A database with ten of the sample item in stock. -/
def seededDatabase : Database :=
  Database.empty.onErp (storeItem ⟨sampleTenant, sampleItem, 10, 0⟩)

/-- Two orders that the stock does not cover together. -/
def sampleOrders : Fin 2 → OrderCommand
  | 0 => sampleOrder sampleEvent secondEvent 7
  | 1 => sampleOrder thirdEvent thirdEvent 4

/-- The second order begins while the first holds the row, and goes on when that is committed. -/
def sampleSchedule : List (Fin 2 × Reply) :=
  ([0, 1, 0, 1] ++ List.replicate 6 0 ++ List.replicate 8 1 : List (Fin 2)).map
    fun index => (index, .served 0)

/-- The first order is accepted, and the second is not. -/
theorem sampleSchedule_run :
    ((ordering seededDatabase sampleOrders).run
      sampleSchedule).committed.erp.inventoryItems.rows = [⟨sampleTenant, sampleItem, 3, 1⟩] := by
  have start : ordering seededDatabase sampleOrders =
      ⟨seededDatabase, fun index => { program := (hashedOrder (sampleOrders index)).val }, []⟩ := by
    rw [ordering]
    simp only [(hashedOrder _).property]
  rw [start]
  decide +kernel

theorem stock_conserved_sample :
    Seeded 10 (sampleTenant, sampleItem) seededDatabase.erp ∧
    ((ordering seededDatabase sampleOrders).run sampleSchedule).committed.erp.inventoryItems.rows =
      [⟨sampleTenant, sampleItem, 3, 1⟩] ∧
    ∃ item, Conserved 10 (sampleTenant, sampleItem)
      ((ordering seededDatabase sampleOrders).run sampleSchedule).committed.erp item := by
  have seeded : Seeded 10 (sampleTenant, sampleItem) seededDatabase.erp :=
    ⟨by decide +kernel, by decide, rfl, rfl⟩
  exact ⟨seeded, sampleSchedule_run,
    (stock_conserved seededDatabase 10 _ seeded sampleOrders sampleSchedule).1⟩

end Source

end SeshatOps
