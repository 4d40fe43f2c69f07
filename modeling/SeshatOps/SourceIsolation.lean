/-
This file is about what the rows of other tenants have to do with a command of the source.

Two states that agree on the rows of a tenant answer a command of that tenant the same:
every lookup and every constraint of the schema names the tenant, with two exceptions. An
event identifier is a key by itself, and so is an order identifier. An order of another
tenant under the same identifier therefore decides whether an order is accepted, and it
is the only thing that can.
-/

import SeshatOps.Lockstep
import SeshatOps.Stock

namespace SeshatOps

open Relational Event

namespace Source

/-! ### States that agree on a tenant -/

/-- Two states of the source schema have the same rows of a tenant. -/
structure Alike (tenantID : Bytes) (first second : Erp) : Prop where
  items : ∀ row : InventoryItem, row.tenantID = tenantID →
    (row ∈ first.inventoryItems.rows ↔ row ∈ second.inventoryItems.rows)
  orders : ∀ row : Order, row.tenantID = tenantID →
    (row ∈ first.orders.rows ↔ row ∈ second.orders.rows)
  hops : ∀ row : SourceHop, row.hop.tenantID = tenantID →
    (row ∈ first.hops.rows ↔ row ∈ second.hops.rows)
  outbox : ∀ row : OutboxRow, row.tenantID = tenantID →
    (row ∈ first.outbox.rows ↔ row ∈ second.outbox.rows)

/-- The unique constraints of the schema that its primary keys do not say: one event for each
version of an aggregate, and one shipment for each order of a tenant. -/
structure Constrained (erp : Erp) : Prop where
  places : ∀ first ∈ erp.outbox.rows, ∀ second ∈ erp.outbox.rows,
    first.place = second.place → first = second
  shipments : ∀ first ∈ erp.hops.rows, ∀ second ∈ erp.hops.rows,
    first.hop.kind = .shipment → second.hop.kind = .shipment →
    first.hop.tenantID = second.hop.tenantID → first.hop.orderID = second.hop.orderID →
    first = second

/-- What two runs of a command have in common: the rows of the tenant, and whether the event
identifier and the given order identifier are taken. -/
structure Common (tenantID eventID : Bytes) (orderID : Option Bytes) (first second : Database) :
    Prop where
  alike : Alike tenantID first.erp second.erp
  constrained : Constrained first.erp
  otherConstrained : Constrained second.erp
  event : (first.erp.outbox.find? eventID).isSome = (second.erp.outbox.find? eventID).isSome
  order : ∀ wanted ∈ orderID,
    (first.erp.orders.find? wanted).isSome = (second.erp.orders.find? wanted).isSome

section Lookups

variable {tenantID : Bytes} {first second : Erp}

theorem Alike.findItem (alike : Alike tenantID first second) (itemID : Bytes) :
    first.inventoryItems.find? (tenantID, itemID) =
      second.inventoryItems.find? (tenantID, itemID) :=
  Table.find?_congr fun row sameKey => alike.items row (congrArg Prod.fst sameKey)

theorem Alike.findHop (alike : Alike tenantID first second) (kind : HopKind) (hopID : Bytes) :
    first.hops.find? (kind, tenantID, hopID) = second.hops.find? (kind, tenantID, hopID) :=
  Table.find?_congr fun row sameKey =>
    alike.hops row (congrArg (fun key => key.2.1) sameKey)

/-- A search that at most one row answers finds the same in lists with the same answers. -/
theorem find?_eq_of_unique {Row : Type} {wanted : Row → Bool} {rows others : List Row}
    (same : ∀ row, wanted row = true → (row ∈ rows ↔ row ∈ others))
    (unique : ∀ row ∈ rows, ∀ other ∈ rows, wanted row = true → wanted other = true →
      row = other) : rows.find? wanted = others.find? wanted := by
  cases found : rows.find? wanted with
  | none =>
    symm
    rw [List.find?_eq_none] at found ⊢
    exact fun row member yes => found row ((same row yes).mpr member) yes
  | some row =>
    have member := List.mem_of_find?_eq_some found
    have yes := List.find?_some found
    cases again : others.find? wanted with
    | none =>
      rw [List.find?_eq_none] at again
      exact absurd yes (again row ((same row yes).mp member))
    | some other =>
      have otherYes := List.find?_some again
      have otherMember := (same other otherYes).mpr (List.mem_of_find?_eq_some again)
      rw [unique row member other otherMember yes otherYes]

theorem Alike.shipmentOf_eq (alike : Alike tenantID first second)
    (constrained : Constrained first) (orderID : Bytes) :
    shipmentOf first tenantID orderID = shipmentOf second tenantID orderID := by
  have meaning : ∀ row : SourceHop, (row.hop.kind == .shipment && row.hop.tenantID == tenantID &&
      row.hop.orderID == orderID) = true →
      row.hop.kind = .shipment ∧ row.hop.tenantID = tenantID ∧ row.hop.orderID = orderID := by
    intro row wanted
    simp only [Bool.and_eq_true, beq_iff_eq] at wanted
    exact ⟨wanted.1.1, wanted.1.2, wanted.2⟩
  refine find?_eq_of_unique (fun row wanted => alike.hops row (meaning row wanted).2.1) ?_
  intro row member other otherMember wanted otherWanted
  obtain ⟨kind, tenant, order⟩ := meaning row wanted
  obtain ⟨otherKind, otherTenant, otherOrder⟩ := meaning other otherWanted
  exact constrained.shipments row member other otherMember kind otherKind
    (tenant.trans otherTenant.symm) (order.trans otherOrder.symm)

/-- A least row that no other row equals is the same in lists with the same rows. -/
theorem argmin_eq_of_unique {Row Rank : Type} [LinearOrder Rank] {measure : Row → Rank}
    {rows others : List Row}
    (same : ∀ row, row ∈ rows ↔ row ∈ others)
    (unique : ∀ row ∈ rows, ∀ other ∈ rows, measure row = measure other → row = other) :
    rows.argmin measure = others.argmin measure := by
  cases least : rows.argmin measure with
  | none =>
    have empty : others = [] := by
      rw [List.argmin_eq_none] at least
      refine List.eq_nil_iff_forall_not_mem.mpr fun row member => ?_
      rw [least] at same
      exact absurd ((same row).mpr member) List.not_mem_nil
    rw [empty, List.argmin_nil]
  | some row =>
    have member := List.argmin_mem least
    cases again : others.argmin measure with
    | none =>
      rw [List.argmin_eq_none] at again
      rw [again] at same
      exact absurd ((same row).mp member) List.not_mem_nil
    | some other =>
      have otherMember := (same other).mpr (List.argmin_mem again)
      have below := List.le_of_mem_argmin otherMember least
      have above := List.le_of_mem_argmin ((same row).mp member) again
      rw [unique row member other otherMember (le_antisymm below above)]

theorem Alike.firstEvent_eq (alike : Alike tenantID first second)
    (constrained : Constrained first) (aggregateType aggregateID : Bytes) :
    firstEvent first tenantID aggregateType aggregateID =
      firstEvent second tenantID aggregateType aggregateID := by
  have meaning : ∀ (rows : List OutboxRow) (row : OutboxRow),
      row ∈ rows.filter (fun row => row.tenantID == tenantID &&
        row.aggregateType == aggregateType && row.aggregateID == aggregateID) ↔
      row ∈ rows ∧ row.tenantID = tenantID ∧ row.aggregateType = aggregateType ∧
        row.aggregateID = aggregateID := by
    intro rows row
    simp only [List.mem_filter, Bool.and_eq_true, beq_iff_eq, and_assoc]
  refine argmin_eq_of_unique (fun row => ?_) ?_
  · rw [meaning, meaning]
    exact and_congr_left fun own => alike.outbox row own.1
  · intro row member other otherMember version
    obtain ⟨present, tenant, kind, aggregate⟩ := (meaning _ _).mp member
    obtain ⟨otherPresent, otherTenant, otherKind, otherAggregate⟩ := (meaning _ _).mp otherMember
    refine constrained.places row present other otherPresent ?_
    rw [OutboxRow.place, OutboxRow.place, tenant, kind, aggregate, otherTenant, otherKind,
      otherAggregate, version]

end Lookups

/-! ### Writes -/

section Writes

variable {tenantID eventID : Bytes} {orderID : Option Bytes} {first second : Database}

theorem Common.updateItem (common : Common tenantID eventID orderID first second)
    (row : InventoryItem) (own : row.tenantID = tenantID) :
    Common tenantID eventID orderID (first.onErp (updateItem row))
      (second.onErp (updateItem row)) := by
  have found : first.erp.inventoryItems.find? row.key =
      second.erp.inventoryItems.find? row.key := by
    rw [InventoryItem.key, own]
    exact common.alike.findItem row.itemID
  by_cases present : (first.erp.inventoryItems.find? row.key).isSome = true
  · have left : Source.updateItem row first.erp = storeItem row first.erp := if_pos present
    have right : Source.updateItem row second.erp = storeItem row second.erp :=
      if_pos (found ▸ present)
    refine ⟨⟨fun other mine => ?_, ?_, ?_, ?_⟩, ?_, ?_, ?_, ?_⟩
    all_goals simp only [Database.onErp, left, right, storeItem]
    · rw [Table.mem_store, Table.mem_store, common.alike.items other mine]
    · exact common.alike.orders
    · exact common.alike.hops
    · exact common.alike.outbox
    · exact ⟨common.constrained.places, common.constrained.shipments⟩
    · exact ⟨common.otherConstrained.places, common.otherConstrained.shipments⟩
    · exact common.event
    · exact common.order
  · have left : Source.updateItem row first.erp = first.erp := if_neg present
    have right : Source.updateItem row second.erp = second.erp := if_neg (found ▸ present)
    rw [Database.onErp, Database.onErp, left, right]
    exact common

theorem Common.storeOrder (common : Common tenantID eventID orderID first second) (row : Order) :
    Common tenantID eventID orderID (first.onErp (storeOrder row))
      (second.onErp (storeOrder row)) := by
  refine ⟨⟨common.alike.items, fun other mine => ?_, common.alike.hops, common.alike.outbox⟩,
    ⟨common.constrained.places, common.constrained.shipments⟩,
    ⟨common.otherConstrained.places, common.otherConstrained.shipments⟩, common.event, ?_⟩
  · simp only [Database.onErp, Source.storeOrder]
    rw [Table.mem_store, Table.mem_store, common.alike.orders other mine]
  · intro wanted watched
    simp only [Database.onErp, Source.storeOrder]
    by_cases same : wanted = row.orderID
    · subst same
      rw [Table.find?_store_self, Table.find?_store_self]
    · rw [Table.find?_store_of_ne _ same, Table.find?_store_of_ne _ same]
      exact common.order wanted watched

/-- A property that a new row shares with no old one stays one of at most one row. -/
theorem unique_store {Row Key : Type} [DecidableEq Key] {key : Row → Key} (table : Table key)
    (row : Row) (same : Row → Row → Prop) (symmetric : ∀ first second, same first second →
      same second first)
    (unique : ∀ first ∈ table.rows, ∀ second ∈ table.rows, same first second → first = second)
    (fresh : ∀ other ∈ table.rows, ¬ same other row) :
    ∀ first ∈ (table.store row).rows, ∀ second ∈ (table.store row).rows, same first second →
      first = second := by
  intro first firstMember second secondMember alike
  rw [Table.mem_store] at firstMember secondMember
  rcases firstMember with ⟨firstOld, -⟩ | rfl
  · rcases secondMember with ⟨secondOld, -⟩ | rfl
    · exact unique first firstOld second secondOld alike
    · exact absurd alike (fresh first firstOld)
  · rcases secondMember with ⟨secondOld, -⟩ | rfl
    · exact absurd (symmetric _ _ alike) (fresh second secondOld)
    · rfl

theorem Constrained.storeHop {erp : Erp} (constrained : Constrained erp) {row : SourceHop}
    (free : hasClash erp row.hop = false) : Constrained (storeHop row erp) := by
  obtain ⟨-, -, order⟩ := (hasClash_eq_false_iff erp row.hop).mp free
  refine ⟨constrained.places, ?_⟩
  have unique := unique_store erp.hops row
    (fun first second => first.hop.kind = .shipment ∧ second.hop.kind = .shipment ∧
      first.hop.tenantID = second.hop.tenantID ∧ first.hop.orderID = second.hop.orderID)
    (fun first second alike => ⟨alike.2.1, alike.1, alike.2.2.1.symm, alike.2.2.2.symm⟩)
    (fun first firstMember second secondMember alike => constrained.shipments first firstMember
      second secondMember alike.1 alike.2.1 alike.2.2.1 alike.2.2.2)
    (fun other member alike => order alike.2.1
      ⟨other, member, alike.1, Prod.ext alike.2.2.1 alike.2.2.2⟩)
  intro first firstMember second secondMember kind otherKind tenant order
  exact unique first firstMember second secondMember ⟨kind, otherKind, tenant, order⟩

theorem Constrained.storeOutbox {erp : Erp} (constrained : Constrained erp) {row : OutboxRow}
    (free : ∀ other ∈ erp.outbox.rows, other.place ≠ row.place) :
    Constrained (storeOutbox row erp) :=
  ⟨unique_store erp.outbox row (fun first second => first.place = second.place)
    (fun _ _ alike => alike.symm) constrained.places free,
    constrained.shipments⟩

theorem Common.storeHop (common : Common tenantID eventID orderID first second) {row : SourceHop}
    (free : hasClash first.erp row.hop = false) (otherFree : hasClash second.erp row.hop = false) :
    Common tenantID eventID orderID (first.onErp (storeHop row)) (second.onErp (storeHop row)) := by
  refine ⟨⟨common.alike.items, common.alike.orders, fun other mine => ?_, common.alike.outbox⟩,
    common.constrained.storeHop free, common.otherConstrained.storeHop otherFree, common.event,
    common.order⟩
  simp only [Database.onErp, Source.storeHop]
  rw [Table.mem_store, Table.mem_store, common.alike.hops other mine]

theorem Common.storeOutbox (common : Common tenantID eventID orderID first second)
    {row : OutboxRow} (free : ∀ other ∈ first.erp.outbox.rows, other.place ≠ row.place)
    (otherFree : ∀ other ∈ second.erp.outbox.rows, other.place ≠ row.place) :
    Common tenantID eventID orderID (first.onErp (storeOutbox row))
      (second.onErp (storeOutbox row)) := by
  refine ⟨⟨common.alike.items, common.alike.orders, common.alike.hops, fun other mine => ?_⟩,
    common.constrained.storeOutbox free, common.otherConstrained.storeOutbox otherFree, ?_,
    common.order⟩
  · simp only [Database.onErp, Source.storeOutbox]
    rw [Table.mem_store, Table.mem_store, common.alike.outbox other mine]
  · simp only [Database.onErp, Source.storeOutbox]
    by_cases same : eventID = row.eventID
    · subst same
      rw [Table.find?_store_self, Table.find?_store_self]
    · rw [Table.find?_store_of_ne _ same, Table.find?_store_of_ne _ same]
      exact common.event

end Writes

/-! ### Statements -/

section Statements

variable {Answer : Type} {tenantID eventID : Bytes} {orderID : Option Bytes}

theorem query_respects {related : Database → Database → Prop} (texts : List Bytes)
    (locks : Database → List Lock) (answer : Nat → Database → Answer)
    (same : ∀ choice first second, related first second →
      answer choice first = answer choice second) :
    (query texts locks answer).Respects related := by
  intro choice first second common
  simp only [query, statement]
  split_ifs
  · rw [same choice first second common]
    exact .answered _ id id common
  · exact .refused _

theorem sourceCommand_respects {related : Database → Database → Prop} (texts : List Bytes)
    (locks : Erp → List Lock) (refusal : Erp → Option SqlError) (change : Nat → Erp → Erp)
    (same : ∀ first second, related first second → refusal first.erp = refusal second.erp)
    (left : ∀ choice first second, related first second → refusal first.erp = none →
      refusal second.erp = none →
      related (first.onErp (change choice)) (second.onErp (change choice))) :
    (sourceCommand texts locks refusal change).Respects related := by
  intro choice first second common
  simp only [sourceCommand, statement]
  split_ifs
  · have both := same first second common
    cases refused : refusal first.erp with
    | some error =>
      rw [← both, refused]
      exact .refused error
    | none =>
      rw [← both, refused]
      exact .answered () _ _ (left choice first second common refused (both ▸ refused))
  · exact .refused _

theorem lockItem_respects (itemID : Bytes) :
    (lockItemStatement tenantID itemID).Respects (Common tenantID eventID orderID) :=
  query_respects _ _ _ fun _ _ _ common => common.alike.findItem itemID

theorem lockSource_respects (kind : HopKind) (hopID : Bytes) :
    (lockSourceStatement (kind, tenantID, hopID)).Respects (Common tenantID eventID orderID) :=
  query_respects _ _ _ fun _ _ _ common => common.alike.findHop kind hopID

theorem lockShipment_respects (wanted : Bytes) :
    (lockShipmentStatement tenantID wanted).Respects (Common tenantID eventID orderID) :=
  query_respects _ _ _ fun _ _ _ common => common.alike.shipmentOf_eq common.constrained wanted

theorem parentOutbox_respects (aggregateType aggregateID : Bytes) :
    (parentOutboxStatement tenantID aggregateType aggregateID).Respects
      (Common tenantID eventID orderID) :=
  query_respects _ _ _ fun _ _ _ common => by
    rw [common.alike.firstEvent_eq common.constrained]

theorem updateItem_respects (row : InventoryItem) (own : row.tenantID = tenantID) :
    (updateItemStatement row).Respects (Common tenantID eventID orderID) := by
  refine sourceCommand_respects _ _ _ _ (fun first second common => ?_)
    fun _ _ _ common _ _ => common.updateItem row own
  rw [InventoryItem.key, own, common.alike.findItem]

theorem insertOrder_respects (row : Order) (watched : orderID = some row.orderID) :
    (insertOrderStatement row).Respects (Common tenantID eventID orderID) := by
  refine sourceCommand_respects _ _ _ _ (fun first second common => ?_)
    fun _ _ _ common _ _ => common.storeOrder row
  rw [common.order row.orderID (by simp [watched])]

theorem Alike.hasClash_eq {first second : Erp} (alike : Alike tenantID first second) {hop : Hop}
    (own : hop.tenantID = tenantID) : hasClash first hop = hasClash second hop := by
  have tenant : ∀ other : Hop, hop.clashes other = true → other.tenantID = tenantID := by
    intro other clashes
    simp only [Hop.clashes, Bool.and_eq_true, beq_iff_eq] at clashes
    rw [← clashes.1.2, own]
  rw [hasClash, hasClash, Bool.eq_iff_iff, List.any_eq_true, List.any_eq_true]
  refine exists_congr fun row => and_congr_left fun clashes => ?_
  exact alike.hops row (tenant row.hop clashes)

theorem Alike.refersTo_eq {first second : Erp} (alike : Alike tenantID first second) {hop : Hop}
    (own : hop.tenantID = tenantID) : refersTo first hop = refersTo second hop := by
  rw [refersTo, refersTo, own, alike.findItem]
  cases parentKind hop.kind with
  | none => rfl
  | some kind => simp only [alike.findHop]

theorem insertSource_respects (row : SourceHop) (own : row.hop.tenantID = tenantID) :
    (insertSourceStatement row).Respects (Common tenantID eventID orderID) := by
  refine sourceCommand_respects _ _ _ _ (fun first second common => ?_) ?_
  · rw [common.alike.hasClash_eq own, common.alike.refersTo_eq own]
  · intro choice first second common free _
    split_ifs at free with _ taken
    have clear := Bool.eq_false_of_not_eq_true taken
    exact common.storeHop clear ((common.alike.hasClash_eq own).symm.trans clear)

theorem insertOutbox_respects (env : Envelope) (hash bytes : Bytes) (recordedAt : Int)
    (own : env.tenantID = tenantID) (event : env.eventID = eventID) :
    (insertOutboxStatement env hash bytes recordedAt).Respects
      (Common tenantID eventID orderID) := by
  have free : ∀ erp : Erp, outboxTaken erp env.eventID (env.tenantID, env.aggregateType,
      env.aggregateID, env.aggregateVersion) = false → ∀ other ∈ erp.outbox.rows,
      other.place ≠ (env.tenantID, env.aggregateType, env.aggregateID, env.aggregateVersion) := by
    intro erp fresh other member
    rw [outboxTaken, Bool.or_eq_false_iff, List.any_eq_false] at fresh
    simpa using fresh.2 other member
  unfold insertOutboxStatement
  refine sourceCommand_respects _ _ _ _ (fun first second common => ?_) ?_
  · have places : first.erp.outbox.rows.any (fun other => other.place ==
        (env.tenantID, env.aggregateType, env.aggregateID, env.aggregateVersion)) =
        second.erp.outbox.rows.any (fun other => other.place ==
          (env.tenantID, env.aggregateType, env.aggregateID, env.aggregateVersion)) := by
      rw [Bool.eq_iff_iff, List.any_eq_true, List.any_eq_true]
      refine exists_congr fun row => and_congr_left fun there => ?_
      rw [beq_iff_eq] at there
      exact common.alike.outbox row ((congrArg Prod.fst there).trans own)
    rw [outboxTaken, outboxTaken, event, common.event, places]
  · intro now first second common fresh otherFresh
    split_ifs at fresh otherFresh with _ taken otherTaken
    exact common.storeOutbox (free first.erp (Bool.eq_false_of_not_eq_true taken))
      (free second.erp (Bool.eq_false_of_not_eq_true otherTaken))

end Statements

/-! ### Commands -/

section Commands

variable {tenantID eventID : Bytes} {orderID : Option Bytes}

theorem instant_respects {related : Database → Database → Prop} (value : Bytes) :
    Program.Respects related (instant value) := by
  rw [instant]
  split
  · exact .done _
  · exact .done _

theorem insertPendingOutbox_respects (env : Envelope) (recordedAt : Int)
    (own : env.tenantID = tenantID) (event : env.eventID = eventID) :
    Program.Respects (Common tenantID eventID orderID) (insertPendingOutbox env recordedAt) := by
  have checks : ∀ {Value : Type} (failure : EventError → SourceError) (result : Checked Value),
      Program.Respects (Common tenantID eventID orderID) (checked failure result) := by
    intro Value failure result
    cases result with
    | ok value => exact .done _
    | error error => exact .done _
  refine (checks _ _).bind fun _ => (checks _ _).bind fun bytes => (checks _ _).bind fun hash => ?_
  exact (Program.Respects.exec _ (insertOutbox_respects env hash bytes recordedAt own event)).bind
    fun _ => .done _

theorem parentOutboxEventID_respects (aggregateType aggregateID : Bytes) :
    Program.Respects (Common tenantID eventID orderID)
      (parentOutboxEventID tenantID aggregateType aggregateID) := by
  refine (Program.Respects.exec _ (parentOutbox_respects aggregateType aggregateID)).bind
    fun found => ?_
  cases found with
  | none => exact .done _
  | some eventID => exact .done _

theorem requireCausation_respects {related : Database → Database → Prop} (got : Option Bytes)
    (want : Bytes) : Program.Respects related (requireCausation got want) := by
  rw [requireCausation]
  split_ifs
  · exact .done _
  · exact .done _

theorem lockTenantRow_respects {Row : Type} {related : Database → Database → Prop}
    {locking : Statement Database Lock (Option Row)} (respects : locking.Respects related)
    (rowTenant : Row → Bytes) (missing : SourceError) (step : Step) :
    Program.Respects related (lockTenantRow locking rowTenant tenantID missing step) := by
  refine (Program.Respects.exec _ respects).bind fun found => ?_
  cases found with
  | none => exact .done _
  | some row =>
    dsimp only
    split_ifs
    · exact .done _
    · exact .done _

theorem insertHop_respects (context : Context) (own : context.tenantID = tenantID)
    (event : context.eventID = eventID) (hop : Hop) (mine : hop.tenantID = tenantID)
    (causationID : Option Bytes) (payload : Payload) :
    Program.Respects (Common tenantID eventID orderID)
      (insertHop context hop causationID payload) := by
  refine (instant_respects _).bind fun occurredAt => (instant_respects _).bind fun recordedAt =>
    (Program.Respects.exec _ (insertSource_respects _ mine)).bind fun _ => ?_
  exact (insertPendingOutbox_respects _ _ own event).bind fun _ =>
    (Program.Respects.commitOr _).bind fun _ => .done _

/-! ### Orders -/

/-- What `AcceptOrder` does before it inserts the order. -/
def orderChecks (cmd : OrderCommand) : SourceAction (InventoryItem × Int × Int) := do
  match ← .exec (lockItemStatement cmd.tenantID cmd.itemID) (.failed .lockInventory) with
  | none => .fail .unknownItem
  | some item =>
      if item.tenantID ≠ cmd.tenantID then .fail .tenantMismatch
      else if item.quantityOnHand < cmd.quantity then .fail .invalidTransition
      else if item.aggregateVersion + 1 < 1 ∨ item.aggregateVersion + 1 > maxSafeInt then
        .fail .invalidTransition
      else do
        requireOrderShipmentCausation cmd
        .exec (updateItemStatement (decremented cmd item)) (.failed .updateInventory)
        let occurredAt ← instant cmd.occurredAt
        let recordedAt ← instant cmd.recordedAt
        return (item, occurredAt, recordedAt)

/-- The insert of the order and what follows it. -/
def orderInsert (cmd : OrderCommand) : InventoryItem × Int × Int → SourceAction AcceptResult
  | (item, occurredAt, recordedAt) => do
      .exec (insertOrderStatement (orderRow cmd occurredAt))
        (orDuplicate .duplicateOrder .insertOrder)
      let (bytes, hash) ← insertPendingOutbox (orderEnvelope cmd item) recordedAt
      commitSource
      return {
        orderID := cmd.orderID
        tenantID := cmd.tenantID
        itemID := cmd.itemID
        quantityBefore := item.quantityOnHand
        quantityAfter := item.quantityOnHand - cmd.quantity
        aggregateVersion := item.aggregateVersion + 1
        eventID := cmd.eventID
        contentHash := hash
        eventBytes := bytes
        outboxStatus := .pending }

theorem acceptOrder_eq (cmd : OrderCommand) :
    acceptOrder cmd = (do
      passes (validateCommand cmd)
      .inTransaction (.failed .begin) (orderChecks cmd >>= orderInsert cmd)) := by
  rw [acceptOrder, orderChecks, bind_assoc]
  refine congrArg _ (funext fun _ => congrArg _ (congrArg _ (funext fun found => ?_)))
  cases found with
  | none => rfl
  | some item =>
    dsimp only
    split_ifs
    · rfl
    · rfl
    · rfl
    · simp only [bind_assoc, acceptLocked, pure_bind, orderInsert]

/-- The checks of an order respect whatever its lookups and its update respect. -/
theorem orderChecks_respects {related : Database → Database → Prop} (cmd : OrderCommand)
    (item : (lockItemStatement cmd.tenantID cmd.itemID).Respects related)
    (shipment : (lockShipmentStatement cmd.tenantID cmd.orderID).Respects related)
    (parent : ∀ hopID, Program.Respects related
      (parentOutboxEventID cmd.tenantID aggregateTypeShipment hopID))
    (update : ∀ row : InventoryItem, row.tenantID = cmd.tenantID →
      (updateItemStatement row).Respects related) :
    Program.Respects related (orderChecks cmd) := by
  have causation : Program.Respects related (requireOrderShipmentCausation cmd) := by
    refine (Program.Respects.exec _ shipment).bind fun found => ?_
    cases found with
    | none =>
      dsimp only
      split_ifs
      · exact .done _
      · exact .done _
    | some shipment => exact (parent _).bind fun _ => requireCausation_respects _ _
  refine (Program.Respects.exec _ item).bind fun found => ?_
  cases found with
  | none => exact .done _
  | some row =>
    dsimp only
    split_ifs
    · exact .done _
    · exact .done _
    · exact .done _
    · refine causation.bind fun _ => (Program.Respects.exec _ (update _ rfl)).bind fun _ => ?_
      exact (instant_respects _).bind fun _ => (instant_respects _).bind fun _ => .done _

theorem orderChecks_common (cmd : OrderCommand) :
    Program.Respects (Common cmd.tenantID eventID orderID) (orderChecks cmd) :=
  orderChecks_respects cmd (lockItem_respects _) (lockShipment_respects _)
    (fun _ => parentOutboxEventID_respects _ _) fun row own => updateItem_respects row own

/-- The insert respects what two states have in common, once the order does. -/
theorem orderInsert_respects (cmd : OrderCommand)
    (order : ∀ occurredAt, (insertOrderStatement (orderRow cmd occurredAt)).Respects
      (Common cmd.tenantID cmd.eventID orderID)) (found : InventoryItem × Int × Int) :
    Program.Respects (Common cmd.tenantID cmd.eventID orderID) (orderInsert cmd found) := by
  refine (Program.Respects.exec _ (order _)).bind fun _ => ?_
  exact (insertPendingOutbox_respects (orderEnvelope cmd found.1) _ rfl rfl).bind fun _ =>
    (Program.Respects.commitOr _).bind fun _ => .done _

theorem acceptOrder_respects (cmd : OrderCommand)
    (order : ∀ occurredAt, (insertOrderStatement (orderRow cmd occurredAt)).Respects
      (Common cmd.tenantID cmd.eventID orderID)) :
    Program.Respects (Common cmd.tenantID cmd.eventID orderID) (acceptOrder cmd) := by
  rw [acceptOrder_eq]
  refine (Program.Respects.done _).bind fun _ => Program.Respects.inTransaction _ ?_
  exact (orderChecks_common cmd).bind fun found => orderInsert_respects cmd order found

theorem requireParentCausation_respects (context : Context) (own : context.tenantID = tenantID)
    (kind : HopKind) (parentID : Bytes) :
    Program.Respects (Common tenantID eventID orderID)
      (requireParentCausation context kind parentID) := by
  subst own
  exact (parentOutboxEventID_respects _ _).bind fun _ => requireCausation_respects _ _

theorem lockParent_respects (kind : HopKind) (parentID : Bytes) :
    Program.Respects (Common tenantID eventID orderID) (lockParent kind tenantID parentID) :=
  lockTenantRow_respects (lockSource_respects kind parentID) _ _ _

theorem registerSupplier_respects (cmd : SupplierCommand) :
    Program.Respects (Common cmd.tenantID cmd.eventID orderID) (registerSupplier cmd) :=
  (Program.Respects.done _).bind fun _ =>
    Program.Respects.inTransaction _ (insertHop_respects _ rfl rfl _ rfl _ _)

theorem receiveIngredientLot_respects (cmd : IngredientLotCommand) :
    Program.Respects (Common cmd.tenantID cmd.eventID orderID) (receiveIngredientLot cmd) := by
  refine (Program.Respects.done _).bind fun _ => Program.Respects.inTransaction _ ?_
  refine (lockParent_respects _ _).bind fun _ =>
    (lockTenantRow_respects (lockItem_respects _) _ _ _).bind fun _ => ?_
  exact (requireParentCausation_respects _ rfl _ _).bind fun _ =>
    insertHop_respects _ rfl rfl _ rfl _ _

theorem produceProductionBatch_respects (cmd : ProductionBatchCommand) :
    Program.Respects (Common cmd.tenantID cmd.eventID orderID) (produceProductionBatch cmd) := by
  refine (Program.Respects.done _).bind fun _ => Program.Respects.inTransaction _ ?_
  exact (lockParent_respects _ _).bind fun _ =>
    (requireParentCausation_respects _ rfl _ _).bind fun _ =>
      insertHop_respects _ rfl rfl _ rfl _ _

theorem dispatchShipment_respects (cmd : ShipmentCommand) :
    Program.Respects (Common cmd.tenantID cmd.eventID orderID) (dispatchShipment cmd) := by
  refine (Program.Respects.done _).bind fun _ => Program.Respects.inTransaction _ ?_
  exact (lockParent_respects _ _).bind fun _ =>
    (requireParentCausation_respects _ rfl _ _).bind fun _ =>
      insertHop_respects _ rfl rfl _ rfl _ _

end Commands

/-! ### The insert of an order -/

/-- Whether an order of any tenant has the identifier. -/
def OrderCommand.taken (cmd : OrderCommand) (db : Database) : Bool :=
  (db.erp.orders.find? cmd.orderID).isSome

/-- The order passes every check, and the server can store its texts, so that only the insert
of its row is left to refuse it. -/
def OrderCommand.Reaches (cmd : OrderCommand) (replies : List Reply) (db : Database) : Prop :=
  validateCommand cmd = .ok () ∧
    [cmd.orderID, cmd.tenantID, cmd.itemID, cmd.correlationID, cmd.traceID].all storable = true ∧
    ∃ found, ((orderChecks cmd).run (Program.nextReply replies).2 ⟨db, some id, []⟩).1 = .ok found

section Insert

variable {cmd : OrderCommand}

theorem insertOrder_execute (row : Order)
    (fit : [row.orderID, row.tenantID, row.itemID, row.correlationID, row.traceID].all storable)
    (positive : 1 ≤ row.quantity) (choice : Nat) (db : Database) :
    (insertOrderStatement row).execute choice db =
      if (db.erp.orders.find? row.orderID).isSome then .error .unique
      else .ok ((), Database.onErp (storeOrder row)) := by
  simp only [insertOrderStatement, sourceCommand, statement]
  rw [if_pos fit, if_neg (not_lt.mpr positive)]
  split_ifs
  · rfl
  · rfl

/-- An insert that the server cannot store is refused whatever the state. -/
theorem insertOrder_unfit {related : Database → Database → Prop} (occurredAt : Int)
    (unfit : ¬ [cmd.orderID, cmd.tenantID, cmd.itemID, cmd.correlationID, cmd.traceID].all
      storable) :
    (insertOrderStatement (orderRow cmd occurredAt)).Respects related := by
  have refused : ∀ choice db,
      (insertOrderStatement (orderRow cmd occurredAt)).execute choice db = .error .domain :=
    fun _ _ => if_neg unfit
  intro choice first second _
  rw [refused, refused]
  exact .refused _

/-- What follows the insert never reports the order as a duplicate. -/
theorem finish_not_duplicate {Value : Type} (env : Envelope) (recordedAt : Int)
    (finish : Bytes × Bytes → Value) (session : Program.Session Database Empty) :
    Program.Ensures false
      (insertPendingOutbox env recordedAt >>= fun pair =>
        commitSource >>= fun _ => (pure (finish pair) : SourceAction Value)) session
      fun result _ => result ≠ .error .duplicateOrder := by
  simp only [insertPendingOutbox, bind_assoc]
  cases validate env with
  | error error => exact Program.ensures_done _ (by simp)
  | ok passed =>
    cases canonicalBytes env with
    | error error => exact Program.ensures_done _ (by simp)
    | ok bytes =>
      cases contentHash env with
      | error error => exact Program.ensures_done _ (by simp)
      | ok hash =>
        refine Program.ensures_exec _ _ _ (by simp) (fun _ _ _ _ => ?_) fun _ error _ => ?_
        · exact Program.ensures_commitOr _ _ (by simp) (Program.ensures_done _ (by simp))
        · cases error <;> simp [orDuplicate]

theorem orderInsert_duplicate
    (fit : [cmd.orderID, cmd.tenantID, cmd.itemID, cmd.correlationID, cmd.traceID].all storable)
    (positive : 1 ≤ cmd.quantity) (found : InventoryItem × Int × Int)
    (session : Program.Session Database Empty) :
    Program.Ensures false (orderInsert cmd found) session fun result _ =>
      (result = .error .duplicateOrder ↔ cmd.taken session.view = true) := by
  refine Program.ensures_exec _ _ _ nofun (fun choice _ _ executed => ?_)
    fun choice error executed => ?_
  · rw [insertOrder_execute (orderRow cmd found.2.1) fit positive] at executed
    split_ifs at executed with taken
    exact (finish_not_duplicate _ _ _ _).mono fun _ _ differs =>
      ⟨fun same => absurd same differs, fun yes => absurd yes taken⟩
  · rw [insertOrder_execute (orderRow cmd found.2.1) fit positive] at executed
    split_ifs at executed with taken
    cases executed
    exact ⟨fun _ => taken, fun _ => rfl⟩

/-- The checks of an order write no order. -/
theorem orderChecks_orders (cmd : OrderCommand) (replies : List Reply) (db : Database) :
    ((orderChecks cmd).run replies ⟨db, some id, []⟩).2.2.view.erp.orders = db.erp.orders := by
  have looks : ∀ {Answer : Type} (texts : List Bytes) (locks : Database → List Lock)
      (answer : Nat → Database → Answer), (query texts locks answer).Respects
        fun first second => first = second ∧ first.erp.orders = db.erp.orders :=
    fun texts locks answer => query_respects _ _ _ fun choice _ _ same => by rw [same.1]
  have kept : ∀ row erp, (updateItem row erp).orders = erp.orders := by
    intro row erp
    rw [updateItem]
    split_ifs
    · rfl
    · rfl
  have respects : Program.Respects
      (fun first second => first = second ∧ first.erp.orders = db.erp.orders)
      (orderChecks cmd) := by
    refine orderChecks_respects cmd (looks _ _ _) (looks _ _ _) (fun hopID => ?_) fun row _ => ?_
    · refine (Program.Respects.exec _ (looks _ _ _)).bind fun found => ?_
      cases found with
      | none => exact .done _
      | some eventID => exact .done _
    · refine sourceCommand_respects _ _ _ _ (fun _ _ same => by rw [same.1]) ?_
      rintro choice first second ⟨rfl, orders⟩ - -
      exact ⟨rfl, (kept row first.erp).trans orders⟩
  exact (respects.run replies ⟨⟨rfl, rfl⟩, ⟨rfl, rfl⟩, rfl, rfl⟩).2.2.view.2

theorem acceptOrder_run (valid : validateCommand cmd = .ok ()) {replies : List Reply}
    (served : Reply.lost ∉ replies) (db : Database) :
    (acceptOrder cmd).run replies ⟨db, none, []⟩ =
      (let ran := (orderChecks cmd >>= orderInsert cmd).run (Program.nextReply replies).2
        ⟨db, some id, []⟩
      (ran.1, ran.2.1, ran.2.2.rollback)) := by
  rw [acceptOrder_eq, passes, valid, Program.done_ok_bind, Program.run_inTransaction served]

/-- An order that reaches the insert is a duplicate exactly when the identifier is taken. -/
theorem acceptOrder_duplicate {replies : List Reply} (served : Reply.lost ∉ replies)
    {db : Database} (reaches : cmd.Reaches replies db) :
    ((acceptOrder cmd).run replies ⟨db, none, []⟩).1 = .error .duplicateOrder ↔
      cmd.taken db = true := by
  obtain ⟨valid, fit, found, ended⟩ := reaches
  have orders := orderChecks_orders cmd (Program.nextReply replies).2 db
  have rest := Program.run_suffix (orderChecks cmd) (Program.nextReply replies).2 ⟨db, some id, []⟩
  rw [acceptOrder_run valid served, Program.run_bind]
  generalize (orderChecks cmd).run (Program.nextReply replies).2 ⟨db, some id, []⟩ = ran
    at ended orders rest ⊢
  obtain ⟨result, left, session⟩ := ran
  subst ended
  have duplicate := orderInsert_duplicate fit (quantity_positive valid) found session left
    fun _ member => Program.nextReply_notMem served (rest.subset member)
  rw [OrderCommand.taken, orders] at duplicate
  exact duplicate

end Insert

/-! ### Isolation -/

/-- The fields that a command shares with all commands. -/
def Command.context : Command → Context
  | .acceptOrder cmd => cmd.toContext
  | .registerSupplier cmd => cmd.toContext
  | .receiveIngredientLot cmd => cmd.toContext
  | .produceProductionBatch cmd => cmd.toContext
  | .dispatchShipment cmd => cmd.toContext

/-- On two databases a program returns the same and leaves the same rows of a tenant. -/
structure SameRun {Value : Type} (tenantID : Bytes) (program : SourceAction Value)
    (replies : List Reply) (first second : Database) : Prop where
  result : (program.run replies ⟨first, none, []⟩).1 = (program.run replies ⟨second, none, []⟩).1
  rows : Alike tenantID (program.run replies ⟨first, none, []⟩).2.2.committed.erp
    (program.run replies ⟨second, none, []⟩).2.2.committed.erp

section Isolation

variable {Value Result : Type} {tenantID eventID : Bytes} {orderID : Option Bytes}
  {first second : Database} {replies : List Reply}

theorem Common.sameRun (common : Common tenantID eventID orderID first second)
    {program : SourceAction Value}
    (respects : Program.Respects (Common tenantID eventID orderID) program) :
    SameRun tenantID program replies first second := by
  obtain ⟨result, _, left⟩ := respects.run replies (.closed common)
  exact ⟨result, left.committed.alike⟩

theorem SameRun.map {program : SourceAction Value}
    (same : SameRun tenantID program replies first second) (wrap : Value → Result) :
    SameRun tenantID (program >>= fun value => pure (wrap value)) replies first second := by
  obtain ⟨result, rows⟩ := same
  constructor
  · rw [Program.run_bind, Program.run_bind]
    rcases here : program.run replies ⟨first, none, []⟩ with ⟨failure | value, rest, final⟩
    all_goals
      rcases there : program.run replies ⟨second, none, []⟩ with ⟨other, otherRest, otherFinal⟩
      rw [here, there] at result
      subst result
      rfl
  · rw [Program.run_bind, Program.run_bind]
    rcases here : program.run replies ⟨first, none, []⟩ with ⟨failure | value, rest, final⟩
    all_goals
      rcases there : program.run replies ⟨second, none, []⟩ with
        ⟨otherFailure | otherValue, otherRest, otherFinal⟩
      all_goals
        rw [here, there] at rows
        exact rows

/-- The checks of an order run in lockstep. -/
theorem Common.orderChecks {cmd : OrderCommand}
    (common : Common cmd.tenantID eventID orderID first second) (replies : List Reply) :
    ((orderChecks cmd).run replies ⟨first, some id, []⟩).1 =
        ((orderChecks cmd).run replies ⟨second, some id, []⟩).1 ∧
      Common cmd.tenantID eventID orderID
        ((Source.orderChecks cmd).run replies ⟨first, some id, []⟩).2.2.committed
        ((Source.orderChecks cmd).run replies ⟨second, some id, []⟩).2.2.committed := by
  have begun : Program.Session.Related (Common cmd.tenantID eventID orderID)
      (⟨first, some id, []⟩ : Program.Session Database Empty) ⟨second, some id, []⟩ :=
    ⟨common, common, rfl, rfl⟩
  obtain ⟨result, _, left⟩ := (orderChecks_common cmd).run replies begun
  exact ⟨result, left.committed⟩

/-- Whether an order reaches the insert of its row is the same in both states. -/
theorem OrderCommand.Reaches.of_common {cmd : OrderCommand}
    (reaches : cmd.Reaches replies first)
    (common : Common cmd.tenantID eventID orderID first second) : cmd.Reaches replies second := by
  obtain ⟨valid, fit, found, ended⟩ := reaches
  exact ⟨valid, fit, found, (common.orderChecks _).1.symm.trans ended⟩

/-- An order that a check refuses is refused in both states. -/
theorem sameRun_of_not_reaches {cmd : OrderCommand} (served : Reply.lost ∉ replies)
    (common : Common cmd.tenantID cmd.eventID none first second)
    (refused : ¬ cmd.Reaches replies first) :
    SameRun cmd.tenantID (acceptOrder cmd) replies first second := by
  cases valid : validateCommand cmd with
  | error error =>
    rw [acceptOrder, passes, valid]
    exact common.sameRun (.done _)
  | ok passed =>
    by_cases fit : [cmd.orderID, cmd.tenantID, cmd.itemID, cmd.correlationID, cmd.traceID].all
      storable
    · obtain ⟨same, left⟩ := common.orderChecks (Program.nextReply replies).2
      cases ended :
          ((orderChecks cmd).run (Program.nextReply replies).2 ⟨first, some id, []⟩).1 with
      | ok found => exact absurd ⟨valid, fit, found, ended⟩ refused
      | error error =>
        constructor
        · rw [acceptOrder_run valid served, acceptOrder_run valid served,
            Program.run_bind_error ended, Program.run_bind_error (same.symm.trans ended)]
        · rw [acceptOrder_run valid served, acceptOrder_run valid served,
            Program.run_bind_error ended, Program.run_bind_error (same.symm.trans ended)]
          exact left.alike
    · exact common.sameRun (acceptOrder_respects cmd fun occurredAt =>
        insertOrder_unfit occurredAt fit)

theorem action_duplicate (cmd : OrderCommand) (db : Database) :
    ((Command.acceptOrder cmd).action.run replies ⟨db, none, []⟩).1 = .error .duplicateOrder ↔
      ((acceptOrder cmd).run replies ⟨db, none, []⟩).1 = .error .duplicateOrder := by
  show ((acceptOrder cmd >>= fun value => pure (Sum.inl value)).run replies _).1 = _ ↔ _
  rw [Program.run_bind]
  rcases (acceptOrder cmd).run replies ⟨db, none, []⟩ with ⟨failure | value, rest, final⟩
  · simp [Program.proceed]
  · simp [Program.proceed, pure, Program.run]

end Isolation

/-- On two states that agree on the rows of a tenant, a command of the tenant with a new event
identifier returns the same and leaves the same rows of the tenant, unless it is an order that
passes every check and whose identifier some order has in one of the states only. -/
theorem tenant_isolation_iff (tenantID : Bytes) (first second : Database)
    (alike : Alike tenantID first.erp second.erp) (constrained : Constrained first.erp)
    (otherConstrained : Constrained second.erp) (command : Command)
    (own : command.context.tenantID = tenantID)
    (fresh : first.erp.outbox.find? command.context.eventID = none)
    (otherFresh : second.erp.outbox.find? command.context.eventID = none)
    (replies : List Reply) (served : Reply.lost ∉ replies) :
    SameRun tenantID command.action replies first second ↔
      ∀ cmd, command = .acceptOrder cmd → cmd.Reaches replies first →
        cmd.taken first = cmd.taken second := by
  subst own
  have common : ∀ orderID : Option Bytes, (∀ wanted ∈ orderID,
      (first.erp.orders.find? wanted).isSome = (second.erp.orders.find? wanted).isSome) →
      Common command.context.tenantID command.context.eventID orderID first second :=
    fun orderID order => ⟨alike, constrained, otherConstrained, by rw [fresh, otherFresh], order⟩
  constructor
  · rintro same cmd rfl reaches
    have otherReaches := reaches.of_common (common none nofun)
    rw [Bool.eq_iff_iff, ← acceptOrder_duplicate served reaches,
      ← acceptOrder_duplicate served otherReaches, ← action_duplicate, ← action_duplicate,
      same.result]
  · intro agree
    cases command with
    | acceptOrder cmd =>
      by_cases reaches : cmd.Reaches replies first
      · have both := common (some cmd.orderID) (by rintro wanted ⟨⟩; exact agree cmd rfl reaches)
        exact (both.sameRun (acceptOrder_respects cmd fun _ => insertOrder_respects _ rfl)).map _
      · exact (sameRun_of_not_reaches served (common none nofun) reaches).map _
    | registerSupplier cmd =>
      exact ((common none nofun).sameRun (registerSupplier_respects cmd)).map _
    | receiveIngredientLot cmd =>
      exact ((common none nofun).sameRun (receiveIngredientLot_respects cmd)).map _
    | produceProductionBatch cmd =>
      exact ((common none nofun).sameRun (produceProductionBatch_respects cmd)).map _
    | dispatchShipment cmd =>
      exact ((common none nofun).sameRun (dispatchShipment_respects cmd)).map _

/-! ### Sample states -/

/-- Both tenants have ten of the sample item. -/
def sharedDatabase : Database :=
  seededDatabase.onErp (storeItem ⟨otherTenant, sampleItem, 10, 0⟩)

/-- The shared database after an order of the other tenant. -/
def afterOther (orderID : Bytes) : Database :=
  ((acceptOrder { sampleOrder orderID thirdEvent 2 with tenantID := otherTenant }).run []
    ⟨sharedDatabase, none, []⟩).2.2.committed

/-- The rows of a tenant are listed alike. -/
def sameTables (tenantID : Bytes) (first second : Erp) : Bool :=
  (first.inventoryItems.rows.filter fun row => row.tenantID = tenantID) =
      (second.inventoryItems.rows.filter fun row => row.tenantID = tenantID) ∧
    (first.orders.rows.filter fun row => row.tenantID = tenantID) =
      (second.orders.rows.filter fun row => row.tenantID = tenantID) ∧
    (first.hops.rows.filter fun row => row.hop.tenantID = tenantID) =
      (second.hops.rows.filter fun row => row.hop.tenantID = tenantID) ∧
    (first.outbox.rows.filter fun row => row.tenantID = tenantID) =
      (second.outbox.rows.filter fun row => row.tenantID = tenantID)

theorem alike_of_sameTables {tenantID : Bytes} {first second : Erp}
    (tables : sameTables tenantID first second = true) : Alike tenantID first second := by
  have same : ∀ {Row : Type} (owner : Row → Bytes) {rows others : List Row},
      rows.filter (fun row => owner row = tenantID) =
        others.filter (fun row => owner row = tenantID) →
      ∀ row, owner row = tenantID → (row ∈ rows ↔ row ∈ others) := by
    intro Row owner rows others equal row own
    have member := congrArg (row ∈ ·) equal
    simpa [own] using member
  obtain ⟨items, orders, hops, outbox⟩ := of_decide_eq_true tables
  exact ⟨same _ items, same _ orders, same _ hops, same _ outbox⟩

/-- What the other tenant's order leaves: one row in each of three tables. -/
theorem afterOther_eq (orderID : Bytes) : afterOther orderID =
    ((hashedOrder { sampleOrder orderID thirdEvent 2 with tenantID := otherTenant }).val.run []
      ⟨sharedDatabase, none, []⟩).2.2.committed :=
  congrArg (fun program : SourceAction AcceptResult =>
    (program.run [] ⟨sharedDatabase, none, []⟩).2.2.committed) (hashedOrder _).property

theorem afterOther_fits :
    sameTables sampleTenant sharedDatabase.erp (afterOther thirdEvent).erp = true ∧
    (afterOther thirdEvent).erp.outbox.rows.length = 1 ∧
    (afterOther thirdEvent).erp.hops.rows = [] ∧
    (afterOther thirdEvent).erp.outbox.find? secondEvent = none ∧
    (sampleOrder sampleEvent secondEvent 7).taken (afterOther thirdEvent) = false := by
  rw [afterOther_eq]
  decide +kernel

theorem constrained_of_one {erp : Erp} (event : erp.outbox.rows.length ≤ 1)
    (hops : erp.hops.rows = []) : Constrained erp := by
  constructor
  · intro first member second otherMember _
    obtain ⟨place, inside, rfl⟩ := List.getElem_of_mem member
    obtain ⟨otherPlace, otherInside, rfl⟩ := List.getElem_of_mem otherMember
    congr 1
    omega
  · intro first member
    rw [hops] at member
    exact absurd member List.not_mem_nil

/-- An order that the other tenant has under another identifier changes nothing. -/
theorem tenant_isolation_iff_sample :
    Alike sampleTenant sharedDatabase.erp (afterOther thirdEvent).erp ∧
    SameRun sampleTenant (Command.acceptOrder (sampleOrder sampleEvent secondEvent 7)).action []
      sharedDatabase (afterOther thirdEvent) := by
  obtain ⟨tables, event, hops, fresh, free⟩ := afterOther_fits
  have alike := alike_of_sameTables tables
  refine ⟨alike, (tenant_isolation_iff sampleTenant sharedDatabase (afterOther thirdEvent) alike
    (constrained_of_one (by decide) rfl) (constrained_of_one event.le hops)
    (.acceptOrder (sampleOrder sampleEvent secondEvent 7)) rfl rfl fresh [] (by simp)).mpr ?_⟩
  rintro cmd ⟨⟩ -
  exact free.symm

/-- What the order returns after the other tenant's order under its identifier, and without it. -/
theorem blocked_run :
    sameTables sampleTenant sharedDatabase.erp (afterOther sampleEvent).erp = true ∧
    (afterOther sampleEvent).erp.outbox.find? secondEvent = none ∧
    ((Command.acceptOrder (sampleOrder sampleEvent secondEvent 7)).action.run []
      ⟨afterOther sampleEvent, none, []⟩).1 = .error .duplicateOrder ∧
    ((Command.acceptOrder (sampleOrder sampleEvent secondEvent 7)).action.run []
      ⟨sharedDatabase, none, []⟩).1.isOk = true := by
  rw [afterOther_eq, (Command.hashed _).property]
  decide +kernel

/-- An order of the other tenant under the same identifier keeps the order out. -/
theorem other_tenant_blocks_order :
    Alike sampleTenant sharedDatabase.erp (afterOther sampleEvent).erp ∧
    (afterOther sampleEvent).erp.outbox.find? secondEvent = none ∧
    ((Command.acceptOrder (sampleOrder sampleEvent secondEvent 7)).action.run []
      ⟨afterOther sampleEvent, none, []⟩).1 = .error .duplicateOrder ∧
    ((Command.acceptOrder (sampleOrder sampleEvent secondEvent 7)).action.run []
      ⟨sharedDatabase, none, []⟩).1.isOk = true :=
  ⟨alike_of_sameTables blocked_run.1, blocked_run.2⟩

end Source

end SeshatOps
