/-
This file says what a command of the source does to the `erp` schema when it commits,
whatever other commands are under way meanwhile.

`Accepts` and `Links` list what the one commit of an order or of a hop changes, and what
holds of the tables right before it. Both are read off the programs by the rules of
`SeshatOps/RelyGuarantee.lean`: what a command has read under a lock, and a key that its
insert has reserved, is as it was when the commit comes. `Source.Steps` is all that later
modules know of the commands.
-/

import SeshatOps.RelyGuarantee
import SeshatOps.Source
import SeshatOps.Decide

namespace SeshatOps

open Relational Event

namespace Source

/-! ### What the commands count on -/

/-- A source table has a row under a key of one of its further indexes. -/
def parentTaken (erp : Erp) (key : HopKind × Bytes × Bytes) : Prop :=
  ∃ row ∈ erp.hops.rows,
    row.hop.kind ≠ .supplier ∧ (row.hop.kind, row.hop.tenantID, row.hop.parentID) = key

def orderTaken (erp : Erp) (key : Bytes × Bytes) : Prop :=
  ∃ row ∈ erp.hops.rows, row.hop.kind = .shipment ∧ (row.hop.tenantID, row.hop.orderID) = key

def placeTaken (erp : Erp) (place : Bytes × Bytes × Bytes × Int) : Prop :=
  ∃ row ∈ erp.outbox.rows, row.place = place

/-- What a lock on the source schema protects: the row under its key, or that there is one. -/
def Protected : Lock → Erp → Erp → Prop
  | .item key, before, after => after.inventoryItems.find? key = before.inventoryItems.find? key
  | .order orderID, before, after => after.orders.find? orderID = before.orders.find? orderID
  | .sourceHop key, before, after => after.hops.find? key = before.hops.find? key
  | .sourceParent key, before, after => parentTaken after key ↔ parentTaken before key
  | .sourceOrder key, before, after => orderTaken after key ↔ orderTaken before key
  | .outbox eventID, before, after => after.outbox.find? eventID = before.outbox.find? eventID
  | .outboxPlace place, before, after => placeTaken after place ↔ placeTaken before place
  | _, _, _ => True

attribute [local simp] Protected

theorem Protected.refl (lock : Lock) (erp : Erp) : Protected lock erp erp := by
  cases lock <;> simp [Protected]

theorem Protected.trans {lock : Lock} {first second third : Erp}
    (early : Protected lock first second) (late : Protected lock second third) :
    Protected lock first third := by
  cases lock <;> first | exact Eq.trans late early | exact Iff.trans late early | trivial

/-- The events of the source are not taken back. -/
def KeepsEvents (before after : Erp) : Prop :=
  ∀ row ∈ before.outbox.rows, row ∈ after.outbox.rows

/-- Clients of the source count on their locks, and on events to stay. -/
def sourceContract : Contract Database Lock where
  same lock before after := Protected lock before.erp after.erp
  rely before after := KeepsEvents before.erp after.erp
  same_refl lock db := Protected.refl lock db.erp
  same_trans _ _ _ _ early late := early.trans late
  rely_refl _ _ member := member
  rely_trans _ _ _ early late row member := late row (early row member)

/-! ### What a store changes -/

section Stores

variable {lock : Lock} {erp : Erp}

theorem protected_storeItem (row : InventoryItem) (other : lock ≠ .item row.key) :
    Protected lock erp (storeItem row erp) := by
  cases lock with
  | item key =>
    refine Table.find?_store_of_ne _ ?_
    rintro rfl
    exact other rfl
  | _ => simp [Protected, storeItem, parentTaken, orderTaken, placeTaken]

theorem protected_storeOrder (row : Order) (other : lock ≠ .order row.orderID) :
    Protected lock erp (storeOrder row erp) := by
  cases lock with
  | order orderID =>
    refine Table.find?_store_of_ne _ ?_
    rintro rfl
    exact other rfl
  | _ => simp [Protected, storeOrder, parentTaken, orderTaken, placeTaken]

/-- A new outbox row touches its event and its place. -/
theorem protected_storeOutbox (row : OutboxRow)
    (fresh : erp.outbox.find? row.eventID = none) (otherEvent : lock ≠ .outbox row.eventID)
    (otherPlace : lock ≠ .outboxPlace row.place) :
    Protected lock erp (storeOutbox row erp) := by
  cases lock with
  | outbox eventID =>
    refine Table.find?_store_of_ne _ ?_
    rintro rfl
    exact otherEvent rfl
  | outboxPlace place =>
    constructor
    · rintro ⟨found, member, rfl⟩
      rcases Table.mem_store.mp member with ⟨old, -⟩ | rfl
      · exact ⟨found, old, rfl⟩
      · exact absurd rfl otherPlace
    · rintro ⟨found, member, rfl⟩
      exact ⟨found, Table.mem_store_of_ne _ member
        (Table.find?_eq_none_iff.mp fresh found member), rfl⟩
  | _ => simp [Protected, storeOutbox, parentTaken, orderTaken]

/-- A new source row touches the keys that its insert reserves. -/
theorem protected_storeHop (row : SourceHop) (fresh : erp.hops.find? row.key = none)
    (free : lock ∉ sourceLocks row.hop) : Protected lock erp (storeHop row erp) := by
  have kept : ∀ other ∈ erp.hops.rows, other ∈ (erp.hops.store row).rows := fun other member =>
    Table.mem_store_of_ne _ member (Table.find?_eq_none_iff.mp fresh other member)
  cases lock with
  | sourceHop key =>
    refine Table.find?_store_of_ne _ ?_
    rintro rfl
    exact free (by simp [sourceLocks, SourceHop.key])
  | sourceParent key =>
    constructor
    · rintro ⟨found, member, below, rfl⟩
      rcases Table.mem_store.mp member with ⟨old, -⟩ | rfl
      · exact ⟨found, old, below, rfl⟩
      · exact absurd (by simp [sourceLocks, below]) free
    · rintro ⟨found, member, below, rfl⟩
      exact ⟨found, kept found member, below, rfl⟩
  | sourceOrder key =>
    constructor
    · rintro ⟨found, member, shipment, rfl⟩
      rcases Table.mem_store.mp member with ⟨old, -⟩ | rfl
      · exact ⟨found, old, shipment, rfl⟩
      · exact absurd (by simp [sourceLocks, shipment]) free
    · rintro ⟨found, member, shipment, rfl⟩
      exact ⟨found, kept found member, shipment, rfl⟩
  | _ => simp [Protected, storeHop, placeTaken]

end Stores

/-! ### What a commit changes -/

/-- An event that the outbox takes. -/
structure Emits (before : Erp) (env : Envelope) (payload : Payload) (canonical : Bytes)
    (recordedAt : Int) : Prop where
  valid : Valid env payload
  written : canonicalBytes env = .ok canonical
  stored : env.Storable payload
  recorded : Time.parseTimeZ env.recordedAt = some recordedAt
  freshEvent : before.outbox.find? env.eventID = none
  freshPlace : ¬ placeTaken before
    (env.tenantID, env.aggregateType, env.aggregateID, env.aggregateVersion)

/-- The commit of an order. -/
structure Accepts (cmd : OrderCommand) (item : InventoryItem) (occurredAt recordedAt now : Int)
    (canonical : Bytes) (before after : Erp) : Prop where
  found : before.inventoryItems.find? (cmd.tenantID, cmd.itemID) = some item
  positive : 1 ≤ cmd.quantity
  covered : cmd.quantity ≤ item.quantityOnHand
  freshOrder : before.orders.find? cmd.orderID = none
  emits : Emits before (orderEnvelope cmd item)
    (.quantityDecremented (orderPayload cmd item.quantityOnHand)) canonical recordedAt
  result : after = storeOutbox
    (pendingRow (orderEnvelope cmd item) (digest canonical) canonical recordedAt now)
    (storeOrder (orderRow cmd occurredAt) (storeItem (decremented cmd item) before))

/-- The cause of a hop: nothing for a supplier, an event of the row it comes from for another. -/
def Caused (before : Erp) (hop : Hop) (causationID : Option Bytes) : Prop :=
  match parentKind hop.kind with
  | none => causationID = none
  | some kind => ∃ row ∈ before.outbox.rows, row.tenantID = hop.tenantID ∧
      row.aggregateType = kind.aggregateType ∧ row.aggregateID = hop.parentID ∧
      causationID = some row.eventID

/-- The commit of a hop. -/
structure Links (context : Context) (hop : Hop) (causationID : Option Bytes) (payload : Payload)
    (occurredAt recordedAt now : Int) (canonical : Bytes) (before after : Erp) : Prop where
  described : payloadHop context.tenantID payload = some hop
  free : hasClash before hop = false
  refers : refersTo before hop = true
  caused : Caused before hop causationID
  emits : Emits before (context.envelope hop.hopID firstAggregateVersion causationID payload)
    payload canonical recordedAt
  result : after = storeOutbox
    (pendingRow (context.envelope hop.hopID firstAggregateVersion causationID payload)
      (digest canonical) canonical recordedAt now)
    (storeHop ⟨hop, firstAggregateVersion, occurredAt, context.correlationID, context.traceID⟩
      before)

/-- What a command may do to the source schema in one commit. -/
inductive Steps (before after : Erp) : Prop
  | accepted (cmd : OrderCommand) (item : InventoryItem) (occurredAt recordedAt now : Int)
      (canonical : Bytes)
      (accepts : Accepts cmd item occurredAt recordedAt now canonical before after)
  | linked (context : Context) (hop : Hop) (causationID : Option Bytes) (payload : Payload)
      (occurredAt recordedAt now : Int) (canonical : Bytes)
      (links : Links context hop causationID payload occurredAt recordedAt now canonical before
        after)

/-- A commit of a command, on the whole database. -/
def StepsOnly (before after : Database) : Prop :=
  Steps before.erp after.erp ∧ after.platform = before.platform

/-- Any end will do. -/
def anyEnd {Value : Type} : Except SourceError Value → Option (Database → Database) → List Lock →
    Database → Prop := fun _ _ _ _ => True

/-- Every commit of what is left of a command is one that the guarantee allows. -/
abbrev Commits {Value : Type} (guarantee : Database → Database → Prop) :
    SourceAction Value → Option (Database → Database) → List Lock → Database → Prop :=
  Program.Guarantees sourceContract guarantee anyEnd

/-! ### Rules for the statements of a command -/

section Rules

variable {Value Answer : Type} {guarantee : Database → Database → Prop}
  {write : Database → Database} {held more : List Lock} {db later : Database}

theorem undisturbed_of_append (undisturbed : sourceContract.Undisturbed (held ++ more) db later) :
    sourceContract.Undisturbed held db later :=
  ⟨undisturbed.1, fun lock member => undisturbed.2 lock (List.mem_append_left more member)⟩

theorem guarantees_ended (result : Except SourceError Value)
    (pending : Option (Database → Database)) :
    Commits guarantee (.done result : SourceAction Value) pending held db := fun _ _ => trivial

/-- A check or computation that may end the command. -/
theorem guarantees_settled (result : Except SourceError Answer)
    (continuation : Answer → SourceAction Value) {pending : Option (Database → Database)}
    (passed : ∀ value, result = .ok value → Commits guarantee
      (continuation value) pending held db) :
    Commits guarantee ((.done result : SourceAction Answer) >>= continuation) pending held db := by
  cases result with
  | ok value => exact passed value rfl
  | error error => exact guarantees_ended _ _

/-- A query of an open transaction, and what follows it. -/
theorem guarantees_query (texts : List Bytes) (locks : Database → List Lock)
    (answer : Nat → Database → Answer) (failure : SqlError → SourceError)
    (continuation : Answer → SourceAction Value)
    (answered : ∀ later choice, sourceContract.Undisturbed held db later →
      Commits guarantee (continuation (answer choice (write later))) (some write)
        (held ++ locks (write later)) later) :
    Commits guarantee
      (Program.exec (query texts locks answer) failure >>= continuation) (some write) held db := by
  refine Program.guarantees_exec_within _ _ _ (fun _ _ _ => trivial) ?_
  intro later choice found change undisturbed executed
  obtain ⟨-, rfl, rfl⟩ := query_executed executed
  exact answered later choice undisturbed

/-- A write of an open transaction, and what follows it. -/
theorem guarantees_command (texts : List Bytes) (locks : Erp → List Lock)
    (refusal : Erp → Option SqlError) (change : Nat → Erp → Erp)
    (failure : SqlError → SourceError) (continuation : Unit → SourceAction Value)
    (written : ∀ later choice, sourceContract.Undisturbed held db later →
      (∀ text ∈ texts, storable text = true) → refusal (write later).erp = none →
      Commits guarantee (continuation ()) (some fun db => (write db).onErp (change choice))
        (held ++ locks (write later).erp) later) :
    Commits guarantee
      (Program.exec (sourceCommand texts locks refusal change) failure >>= continuation)
      (some write) held db := by
  refine Program.guarantees_exec_within _ _ _ (fun _ _ _ => trivial) ?_
  intro later choice found change' undisturbed executed
  simp only [sourceCommand, statement] at executed
  split_ifs at executed with fit
  cases refused : refusal (write later).erp with
  | some error => simp [refused] at executed
  | none =>
    simp only [refused, Except.ok.injEq, Prod.mk.injEq] at executed
    obtain ⟨-, rfl⟩ := executed
    exact written later choice undisturbed (List.all_eq_true.mp fit) refused

/-- A command in its transaction. -/
theorem guarantees_transaction (failure : SqlError → SourceError) (body : SourceAction Value)
    (inside : ∀ later, KeepsEvents db.erp later.erp →
      Commits guarantee body (some id) [] later) :
    Commits guarantee (Program.inTransaction failure body) none [] db := by
  refine Program.guarantees_inTransaction _ _ (fun _ _ _ => trivial) fun later undisturbed => ?_
  exact (inside later undisturbed.1).mono fun _ _ _ _ _ _ _ _ _ => trivial

theorem guarantees_instant (value : Bytes) (continuation : Int → SourceAction Value)
    {pending : Option (Database → Database)}
    (read : ∀ microseconds, Time.parseTimeZ value = some microseconds →
      Commits guarantee (continuation microseconds) pending held db) :
    Commits guarantee (instant value >>= continuation) pending held db := by
  rw [instant]
  cases parsed : Time.parseTimeZ value with
  | none => exact guarantees_ended _ _
  | some microseconds => exact read microseconds parsed

/-- Reading the first event of an aggregate. It is an event of the aggregate, and stays one. -/
theorem guarantees_parentOutboxEventID (tenantID aggregateType aggregateID : Bytes)
    (continuation : Bytes → SourceAction Value)
    (known : ∀ later row, sourceContract.Undisturbed held db later →
      row ∈ (write later).erp.outbox.rows → row.tenantID = tenantID →
      row.aggregateType = aggregateType → row.aggregateID = aggregateID →
      Commits guarantee (continuation row.eventID) (some write) held later) :
    Commits guarantee
      (parentOutboxEventID tenantID aggregateType aggregateID >>= continuation) (some write) held
      db := by
  rw [parentOutboxEventID, bind_assoc]
  refine guarantees_query _ _ _ _ _ fun later choice undisturbed => ?_
  simp only [List.append_nil]
  cases first : firstEvent (write later).erp tenantID aggregateType aggregateID with
  | none => exact guarantees_ended _ _
  | some row =>
    have member := List.argmin_mem first
    simp only [List.mem_filter, Bool.and_eq_true, beq_iff_eq] at member
    obtain ⟨listed, ⟨tenant, type⟩, aggregate⟩ := member
    exact known later row undisturbed listed tenant type aggregate

theorem guarantees_requireCausation (got : Option Bytes) (want : Bytes)
    (continuation : Unit → SourceAction Value) {pending : Option (Database → Database)}
    (agreed : got = some want → Commits guarantee (continuation ()) pending held db) :
    Commits guarantee (requireCausation got want >>= continuation) pending held db := by
  rw [requireCausation]
  split_ifs with same
  · exact agreed same
  · exact guarantees_ended _ _

theorem not_outboxTaken {erp : Erp} {eventID : Bytes} {place : Bytes × Bytes × Bytes × Int}
    (free : outboxTaken erp eventID place = false) :
    erp.outbox.find? eventID = none ∧ ∀ row ∈ erp.outbox.rows, row.place ≠ place := by
  simpa [outboxTaken] using free

/-- The end of every command: the outbox row, and the commit. At the commit the event and its
place are still free, since the insert has reserved them. -/
theorem guarantees_finish (env : Envelope) (recordedAt : Int) (finish : Bytes × Bytes → Value)
    (sameOutbox : ∀ db, (write db).erp.outbox = db.erp.outbox)
    (permits : ∀ later now payload canonical, sourceContract.Undisturbed held db later →
      Valid env payload → canonicalBytes env = .ok canonical → storable env.aggregateID = true →
      later.erp.outbox.find? env.eventID = none →
      ¬ placeTaken later.erp
        (env.tenantID, env.aggregateType, env.aggregateID, env.aggregateVersion) →
      sourceContract.Permits guarantee
        (held ++ [.outbox env.eventID, .outboxPlace
          (env.tenantID, env.aggregateType, env.aggregateID, env.aggregateVersion)])
        later ((write later).onErp (storeOutbox
          (pendingRow env (digest canonical) canonical recordedAt now)))) :
    Commits guarantee (insertPendingOutbox env recordedAt >>= fun pair =>
        commitSource >>= fun _ => pure (finish pair)) (some write) held db := by
  simp only [insertPendingOutbox, bind_assoc]
  cases passed : validate env with
  | error error => exact guarantees_ended _ _
  | ok _ =>
    obtain ⟨payload, valid⟩ := validate_ok env passed
    obtain ⟨canonical, written⟩ := canonicalBytes_total env passed
    rw [written, contentHash_of_canonical written]
    simp only [checked, Program.done_ok_bind, insertOutboxStatement]
    refine guarantees_command _ _ _ _ _ _ fun first now early texts allowed => ?_
    split_ifs at allowed with below taken
    have fresh := not_outboxTaken (Bool.eq_false_of_not_eq_true taken)
    rw [sameOutbox] at fresh
    refine Program.guarantees_commitOr _ _ (fun _ _ _ => trivial) fun last late => ?_
    refine ⟨permits last now payload canonical (early.trans (undisturbed_of_append late)) valid
      written (texts _ (by simp)) ?_ ?_, guarantees_ended _ _⟩
    · have same : last.erp.outbox.find? env.eventID = first.erp.outbox.find? env.eventID :=
        late.2 (.outbox env.eventID) (by simp)
      exact same.trans fresh.1
    · intro placed
      have reserved : placeTaken first.erp _ := (late.2 (.outboxPlace _) (by simp)).mp placed
      obtain ⟨row, member, same⟩ := reserved
      exact fresh.2 row member same

end Rules

/-! ### Orders -/

theorem require_ok (condition : Bool) (error : SourceError) :
    require condition error = .ok () ↔ condition = true := by
  cases condition <;> simp [require]

/-- A sequence of checks passes when each of them does. -/
theorem require_then_ok (check : Except SourceError Unit)
    (next : Unit → Except SourceError Unit) :
    (check >>= next) = .ok () ↔ check = .ok () ∧ next () = .ok () := by
  cases check with
  | error | ok => simp [bind, Except.bind]

theorem quantity_positive {cmd : OrderCommand} (passed : validateCommand cmd = .ok ()) :
    1 ≤ cmd.quantity := by
  rw [validateCommand, require_then_ok, require_ok] at passed
  simp only [Bool.and_eq_true, decide_eq_true_eq] at passed
  exact passed.1.1

section Orders

variable {Value : Type} {guarantee : Database → Database → Prop}
  {write : Database → Database} {held : List Lock} {db : Database} {cmd : OrderCommand}
  {item : InventoryItem}

theorem updateItem_orders (row : InventoryItem) (erp : Erp) :
    (updateItem row erp).orders = erp.orders := by
  unfold updateItem
  split_ifs <;> rfl

theorem updateItem_outbox (row : InventoryItem) (erp : Erp) :
    (updateItem row erp).outbox = erp.outbox := by
  unfold updateItem
  split_ifs <;> rfl

theorem updateItem_of_found {row old : InventoryItem} {erp : Erp}
    (found : erp.inventoryItems.find? row.key = some old) :
    updateItem row erp = storeItem row erp := by
  rw [updateItem, found]
  rfl

/-- An accepted order touches its inventory row, itself, and its event. -/
theorem Accepts.protected {occurredAt recordedAt now : Int} {canonical : Bytes} {before after : Erp}
    {lock : Lock} (accepts : Accepts cmd item occurredAt recordedAt now canonical before after)
    (otherItem : lock ≠ .item (cmd.tenantID, cmd.itemID)) (otherOrder : lock ≠ .order cmd.orderID)
    (otherEvent : lock ≠ .outbox (orderEnvelope cmd item).eventID)
    (otherPlace : lock ≠ .outboxPlace ((orderEnvelope cmd item).tenantID,
      (orderEnvelope cmd item).aggregateType, (orderEnvelope cmd item).aggregateID,
      (orderEnvelope cmd item).aggregateVersion)) :
    Protected lock before after := by
  rw [accepts.result]
  have first : Protected lock before (storeItem (decremented cmd item) before) :=
    protected_storeItem _ otherItem
  have second := first.trans (protected_storeOrder (orderRow cmd occurredAt) otherOrder)
  exact second.trans (protected_storeOutbox _ accepts.emits.freshEvent otherEvent otherPlace)

/-- The look at the order's shipment writes nothing. -/
theorem guarantees_orderCausation (continuation : Unit → SourceAction Value)
    (agreed : ∀ later more, sourceContract.Undisturbed held db later →
      Commits guarantee (continuation ()) (some write) (held ++ more) later) :
    Commits guarantee
      (requireOrderShipmentCausation cmd >>= continuation) (some write) held db := by
  rw [requireOrderShipmentCausation, bind_assoc]
  refine guarantees_query _ _ _ _ _ fun first choice early => ?_
  cases shipmentOf (write first).erp cmd.tenantID cmd.orderID with
  | none =>
    dsimp only
    split_ifs
    · exact guarantees_ended _ _
    · exact agreed first _ early
  | some shipment =>
    dsimp only
    rw [bind_assoc]
    refine guarantees_parentOutboxEventID _ _ _ _ fun second row late _ _ _ _ => ?_
    refine guarantees_requireCausation _ _ _ fun _ => ?_
    exact agreed second _ (early.trans (undisturbed_of_append late))

/-- The three writes of an order, with its inventory row locked. -/
theorem acceptLocked_guarantees (positive : 1 ≤ cmd.quantity)
    (covered : cmd.quantity ≤ item.quantityOnHand)
    (locked : Lock.item (cmd.tenantID, cmd.itemID) ∈ held)
    (found : db.erp.inventoryItems.find? (cmd.tenantID, cmd.itemID) = some item) :
    Commits StepsOnly (acceptLocked cmd item) (some id) held db := by
  rw [acceptLocked]
  refine guarantees_orderCausation _ fun first more early => ?_
  rw [updateItemStatement]
  refine guarantees_command _ _ _ _ _ _ fun second _ toSecond _ _ => ?_
  refine guarantees_instant _ _ fun occurredAt _ => ?_
  refine guarantees_instant _ _ fun recordedAt recorded => ?_
  rw [insertOrderStatement]
  refine guarantees_command _ _ _ _ _ _ fun third _ toThird texts allowed => ?_
  have absent : third.erp.orders.find? cmd.orderID = none := by
    split_ifs at allowed with below taken
    rw [Database.onErp_erp, updateItem_orders] at taken
    exact Option.not_isSome_iff_eq_none.mp taken
  refine guarantees_finish _ _ _ ?_ ?_
  · intro db
    exact updateItem_outbox _ _
  · intro last now payload canonical toLast valid written stored freshEvent freshPlace
    have afterLock : sourceContract.Undisturbed held db last :=
      early.trans ((undisturbed_of_append toSecond).trans ((undisturbed_of_append
        (undisturbed_of_append toThird)).trans (undisturbed_of_append (undisturbed_of_append
          (undisturbed_of_append toLast)))))
    have present : last.erp.inventoryItems.find? (cmd.tenantID, cmd.itemID) = some item :=
      Eq.trans (afterLock.2 _ locked) found
    have freshOrder : last.erp.orders.find? cmd.orderID = none :=
      Eq.trans (toLast.2 (.order cmd.orderID) (by simp [orderRow])) absent
    obtain rfl : Payload.quantityDecremented (orderPayload cmd item.quantityOnHand) = payload :=
      Option.some.inj valid.carried
    have accepts : Accepts cmd item occurredAt recordedAt now canonical last.erp
        (storeOutbox (pendingRow (orderEnvelope cmd item) (digest canonical) canonical recordedAt
          now) (storeOrder (orderRow cmd occurredAt) (updateItem (decremented cmd item)
            last.erp))) := by
      refine ⟨present, positive, covered, freshOrder, ⟨valid, written, ⟨stored, ?_, ?_⟩, recorded,
        freshEvent, freshPlace⟩, by rw [updateItem_of_found present]⟩
      · exact texts cmd.traceID (by simp [orderRow])
      · simp only [Payload.texts, orderPayload, List.forall_mem_cons, List.not_mem_nil,
          false_imp_iff, implies_true, and_true]
        exact ⟨texts cmd.orderID (by simp [orderRow]), texts cmd.itemID (by simp [orderRow])⟩
    refine ⟨⟨.accepted _ _ _ _ _ _ accepts, rfl⟩, fun lock free => accepts.protected ?_ ?_ ?_ ?_⟩
    · rintro rfl
      exact free (by simp [locked])
    · rintro rfl
      exact free (by simp [orderRow])
    · rintro rfl
      exact free (by simp)
    · rintro rfl
      exact free (by simp)

/-- Every commit of `AcceptOrder` accepts an order. -/
theorem acceptOrder_guarantees (cmd : OrderCommand) (db : Database) :
    Commits StepsOnly (acceptOrder cmd) none [] db := by
  rw [acceptOrder, passes]
  refine guarantees_settled _ _ fun _ passed => ?_
  refine guarantees_transaction _ _ fun first _ => ?_
  rw [lockItemStatement]
  refine guarantees_query _ _ _ _ _ fun second choice undisturbed => ?_
  cases found : second.erp.inventoryItems.find? (cmd.tenantID, cmd.itemID) with
  | none =>
    simp only [id_eq, found]
    exact guarantees_ended _ _
  | some item =>
    simp only [id_eq, found, Option.isSome_some, if_true]
    split_ifs with foreign short range
    · exact guarantees_ended _ _
    · exact guarantees_ended _ _
    · exact guarantees_ended _ _
    · exact acceptLocked_guarantees (quantity_positive passed) (not_lt.mp short) (by simp) found

end Orders

/-! ### Hops -/

/-- The constraints of a source table, index by index. -/
theorem hasClash_eq_false_iff (erp : Erp) (hop : Hop) :
    hasClash erp hop = false ↔ erp.hops.find? hop.key = none ∧
      ¬ parentTaken erp (hop.kind, hop.tenantID, hop.parentID) ∧
      (hop.kind = .shipment → ¬ orderTaken erp (hop.tenantID, hop.orderID)) := by
  simp only [hasClash, List.any_eq_false, Hop.clashes_iff, Table.find?_eq_none_iff, not_or]
  constructor
  · intro free
    refine ⟨fun row member => (free row member).1, ?_, ?_⟩
    · rintro ⟨row, member, taken⟩
      exact (free row member).2.1 taken
    · rintro shipment ⟨row, member, late, taken⟩
      exact (free row member).2.2 ⟨late, shipment, taken⟩
  · rintro ⟨key, parent, order⟩ row member
    refine ⟨key row member, fun taken => parent ⟨row, member, taken⟩, ?_⟩
    rintro ⟨late, shipment, taken⟩
    exact order shipment ⟨row, member, late, taken⟩

section Hops

variable {guarantee : Database → Database → Prop} {held : List Lock} {db later : Database}
  {context : Context} {hop : Hop} {causationID : Option Bytes} {payload : Payload}

theorem payloadHop_texts {tenantID : Bytes} (described : payloadHop tenantID payload = some hop) :
    hop.tenantID = tenantID ∧ ∀ text ∈ payload.texts,
      text = hop.hopID ∨ text = hop.parentID ∨ text = hop.itemID ∨ text = hop.orderID := by
  cases payload <;> cases described <;> simp [Payload.texts]

/-- A cause stays one. -/
theorem Caused.mono {before after : Erp} (caused : Caused before hop causationID)
    (keeps : KeepsEvents before after) : Caused after hop causationID := by
  unfold Caused at caused ⊢
  cases parent : parentKind hop.kind with
  | none => simpa [parent] using caused
  | some kind =>
    simp only [parent] at caused ⊢
    obtain ⟨row, member, rest⟩ := caused
    exact ⟨row, keeps row member, rest⟩

/-- Locked rows can be referred to until the commit. -/
theorem refersTo_of_undisturbed (refers : refersTo db.erp hop = true)
    (parentLocked : ∀ kind, parentKind hop.kind = some kind →
      Lock.sourceHop (kind, hop.tenantID, hop.parentID) ∈ held)
    (itemLocked : hop.kind = .ingredientLot → Lock.item (hop.tenantID, hop.itemID) ∈ held)
    (undisturbed : sourceContract.Undisturbed held db later) : refersTo later.erp hop = true := by
  have sameItem : hop.kind = .ingredientLot →
      later.erp.inventoryItems.find? (hop.tenantID, hop.itemID) =
        db.erp.inventoryItems.find? (hop.tenantID, hop.itemID) :=
    fun isLot => undisturbed.2 _ (itemLocked isLot)
  have sameParent : ∀ kind, parentKind hop.kind = some kind →
      later.erp.hops.find? (kind, hop.tenantID, hop.parentID) =
        db.erp.hops.find? (kind, hop.tenantID, hop.parentID) :=
    fun kind isParent => undisturbed.2 _ (parentLocked kind isParent)
  unfold refersTo at refers ⊢
  cases kind : hop.kind <;> simp_all [parentKind]

/-- Reserved keys stay free until the commit. -/
theorem hasClash_of_undisturbed (free : hasClash db.erp hop = false)
    (reserved : ∀ lock ∈ sourceLocks hop, lock ∈ held)
    (undisturbed : sourceContract.Undisturbed held db later) : hasClash later.erp hop = false := by
  obtain ⟨key, parent, order⟩ := (hasClash_eq_false_iff _ _).mp free
  refine (hasClash_eq_false_iff _ _).mpr ⟨?_, ?_, ?_⟩
  · exact Eq.trans (undisturbed.2 (.sourceHop hop.key) (reserved _ (by simp [sourceLocks]))) key
  · rintro ⟨row, member, below, same⟩
    have kind : hop.kind ≠ .supplier := (Prod.mk.inj same).1 ▸ below
    have kept : parentTaken later.erp _ ↔ parentTaken db.erp _ := undisturbed.2 (.sourceParent _)
      (reserved (.sourceParent (hop.kind, hop.tenantID, hop.parentID))
        (by simp [sourceLocks, kind]))
    exact parent (kept.mp ⟨row, member, below, same⟩)
  · intro shipment taken
    have kept : orderTaken later.erp _ ↔ orderTaken db.erp _ := undisturbed.2 (.sourceOrder _)
      (reserved (.sourceOrder (hop.tenantID, hop.orderID)) (by simp [sourceLocks, shipment]))
    exact order shipment (kept.mp taken)

theorem Links.protected {occurredAt recordedAt now : Int} {canonical : Bytes} {before after : Erp}
    {lock : Lock}
    (links : Links context hop causationID payload occurredAt recordedAt now canonical before
      after) (free : lock ∉ sourceLocks hop) (otherEvent : lock ≠ .outbox context.eventID)
    (otherPlace : lock ≠ .outboxPlace
      (context.tenantID, payload.aggregateType, hop.hopID, firstAggregateVersion)) :
    Protected lock before after := by
  rw [links.result]
  have fresh := ((hasClash_eq_false_iff _ _).mp links.free).1
  have first : Protected lock before (storeHop ⟨hop, firstAggregateVersion, occurredAt,
      context.correlationID, context.traceID⟩ before) := protected_storeHop _ fresh free
  exact first.trans (protected_storeOutbox _ links.emits.freshEvent otherEvent otherPlace)

/-- The two writes of a hop, with the rows it refers to locked. -/
theorem insertHop_guarantees (described : payloadHop context.tenantID payload = some hop)
    (parentLocked : ∀ kind, parentKind hop.kind = some kind →
      Lock.sourceHop (kind, hop.tenantID, hop.parentID) ∈ held)
    (itemLocked : hop.kind = .ingredientLot → Lock.item (hop.tenantID, hop.itemID) ∈ held)
    (caused : Caused db.erp hop causationID) :
    Commits StepsOnly (insertHop context hop causationID payload) (some id) held db := by
  obtain ⟨tenant, ids⟩ := payloadHop_texts described
  rw [insertHop]
  refine guarantees_instant _ _ fun occurredAt _ => ?_
  refine guarantees_instant _ _ fun recordedAt recorded => ?_
  rw [insertSourceStatement]
  refine guarantees_command _ _ _ _ _ _ fun first _ early texts allowed => ?_
  rw [finishSourceHop]
  refine guarantees_finish _ _ _ (fun _ => rfl) ?_
  intro last now payload' canonical late valid written stored freshEvent freshPlace
  obtain rfl : payload = payload' := Option.some.inj valid.carried
  split_ifs at allowed with below clash refers
  have links : Links context hop causationID payload occurredAt recordedAt now canonical last.erp
      (storeOutbox (pendingRow (context.envelope hop.hopID firstAggregateVersion causationID
        payload) (digest canonical) canonical recordedAt now)
        (storeHop ⟨hop, firstAggregateVersion, occurredAt, context.correlationID,
          context.traceID⟩ last.erp)) := by
    refine ⟨described, ?_, ?_, ?_, ⟨valid, written, ⟨stored, ?_, ?_⟩, recorded, freshEvent,
      freshPlace⟩, rfl⟩
    · exact hasClash_of_undisturbed (Bool.eq_false_of_not_eq_true clash)
        (fun lock member => List.mem_append_right held member) late
    · exact refersTo_of_undisturbed refers parentLocked itemLocked (undisturbed_of_append late)
    · exact caused.mono fun row member => late.1 row (early.1 row member)
    · exact texts context.traceID (by simp)
    · intro text member
      rcases ids text member with rfl | rfl | rfl | rfl <;> exact texts _ (by simp)
  refine ⟨⟨.linked _ _ _ _ _ _ _ _ links, rfl⟩, fun lock free => links.protected ?_ ?_ ?_⟩
  · exact fun member => free (by simp [member])
  · rintro rfl
    exact free (by simp [Context.envelope])
  · rintro rfl
    exact free (by simp [Context.envelope])

variable {Value : Type} {write : Database → Database}

theorem guarantees_lockTenantRow {Row : Type} (texts : List Bytes) (find : Database → Option Row)
    (lock : Lock) (rowTenant : Row → Bytes) (tenantID : Bytes) (missing : SourceError) (step : Step)
    (continuation : Unit → SourceAction Value)
    (locked : ∀ later, sourceContract.Undisturbed held db later →
      Commits guarantee (continuation ()) (some write) (held ++ [lock]) later) :
    Commits guarantee
      (lockTenantRow (query texts (fun db => if (find db).isSome then [lock] else [])
        fun _ db => find db) rowTenant tenantID missing step >>= continuation)
      (some write) held db := by
  rw [lockTenantRow, bind_assoc]
  refine guarantees_query _ _ _ _ _ fun later choice undisturbed => ?_
  cases found : find (write later) with
  | none => exact guarantees_ended _ _
  | some row =>
    simp only [Option.isSome_some, if_true]
    split_ifs
    · exact guarantees_ended _ _
    · exact locked later undisturbed

theorem guarantees_lockParent (kind : HopKind) (tenantID parentID : Bytes)
    (continuation : Unit → SourceAction Value)
    (locked : ∀ later, sourceContract.Undisturbed held db later →
      Commits guarantee (continuation ()) (some write)
        (held ++ [.sourceHop (kind, tenantID, parentID)]) later) :
    Commits guarantee (lockParent kind tenantID parentID >>= continuation) (some write) held db :=
  guarantees_lockTenantRow _ (fun db => db.erp.hops.find? (kind, tenantID, parentID)) _ _ _ _ _ _
    locked

/-- The look at the parent's event, which is the cause from then on. -/
theorem guarantees_parentCausation (hop : Hop) (kind : HopKind)
    (continuation : Unit → SourceAction Value) (isParent : parentKind hop.kind = some kind)
    (tenant : hop.tenantID = context.tenantID)
    (agreed : ∀ later, Caused later.erp hop context.causationID →
      Commits guarantee (continuation ()) (some id) held later) :
    Commits guarantee
      (requireParentCausation context kind hop.parentID >>= continuation) (some id) held db := by
  rw [requireParentCausation, bind_assoc]
  refine guarantees_parentOutboxEventID _ _ _ _ fun later row undisturbed member sameTenant type
    aggregate => ?_
  refine guarantees_requireCausation _ _ _ fun cause => agreed later ?_
  simp only [Caused, isParent]
  exact ⟨row, member, sameTenant.trans tenant.symm, type, aggregate, cause⟩

theorem registerSupplier_guarantees (cmd : SupplierCommand) (db : Database) :
    Commits StepsOnly (registerSupplier cmd) none [] db := by
  rw [registerSupplier, passes]
  refine guarantees_settled _ _ fun _ _ => guarantees_transaction _ _ fun first _ => ?_
  exact insertHop_guarantees rfl (by simp [parentKind]) (by simp) rfl

theorem receiveIngredientLot_guarantees (cmd : IngredientLotCommand) (db : Database) :
    Commits StepsOnly (receiveIngredientLot cmd) none [] db := by
  rw [receiveIngredientLot, passes]
  refine guarantees_settled _ _ fun _ _ => guarantees_transaction _ _ fun first _ => ?_
  refine guarantees_lockParent _ _ _ _ fun second _ => ?_
  refine guarantees_lockTenantRow _
    (fun db => db.erp.inventoryItems.find? (cmd.tenantID, cmd.itemID)) _ _ _ _ _ _
    fun third _ => ?_
  refine guarantees_parentCausation ⟨.ingredientLot, cmd.tenantID, cmd.lotID, cmd.supplierID,
    cmd.itemID, []⟩ _ _ rfl rfl fun later caused => ?_
  exact insertHop_guarantees rfl (by simp [parentKind]) (by simp) caused

theorem produceProductionBatch_guarantees (cmd : ProductionBatchCommand) (db : Database) :
    Commits StepsOnly (produceProductionBatch cmd) none [] db := by
  rw [produceProductionBatch, passes]
  refine guarantees_settled _ _ fun _ _ => guarantees_transaction _ _ fun first _ => ?_
  refine guarantees_lockParent _ _ _ _ fun second _ => ?_
  refine guarantees_parentCausation ⟨.productionBatch, cmd.tenantID, cmd.batchID, cmd.lotID, [],
    []⟩ _ _ rfl rfl fun later caused => ?_
  exact insertHop_guarantees rfl (by simp [parentKind]) (by simp) caused

theorem dispatchShipment_guarantees (cmd : ShipmentCommand) (db : Database) :
    Commits StepsOnly (dispatchShipment cmd) none [] db := by
  rw [dispatchShipment, passes]
  refine guarantees_settled _ _ fun _ _ => guarantees_transaction _ _ fun first _ => ?_
  refine guarantees_lockParent _ _ _ _ fun second _ => ?_
  refine guarantees_parentCausation ⟨.shipment, cmd.tenantID, cmd.shipmentID, cmd.batchID, [],
    cmd.orderID⟩ _ _ rfl rfl fun later caused => ?_
  exact insertHop_guarantees rfl (by simp [parentKind]) (by simp) caused

end Hops

/-! ### The hash of a new event -/

/-- The insert of a pending row without the check on its hash. -/
def insertHashedStatement (env : Envelope) (hash bytes : Bytes) (recordedAt : Int) :
    Statement Database Lock Unit :=
  let place := (env.tenantID, env.aggregateType, env.aggregateID, env.aggregateVersion)
  sourceCommand [env.eventID, env.tenantID, env.aggregateType, env.aggregateID]
    (fun _ => [.outbox env.eventID, .outboxPlace place])
    (fun erp => if env.aggregateVersion < 1 then some .constraint
      else if outboxTaken erp env.eventID place then some .unique else none)
    fun now => storeOutbox (pendingRow env hash bytes recordedAt now)

/-- A digest is plain text, so the check on it changes nothing. -/
theorem insertOutboxStatement_digest (env : Envelope) (message bytes : Bytes) (recordedAt : Int) :
    insertOutboxStatement env (digest message) bytes recordedAt =
      insertHashedStatement env (digest message) bytes recordedAt := by
  simp only [insertOutboxStatement, insertHashedStatement, sourceCommand, statement, List.all_cons,
    List.all_nil, storable_digest, Bool.and_true]

/-- `insertPendingOutbox` that only stores the digest. A run with it computes none. -/
def insertHashed (env : Envelope) (recordedAt : Int) : SourceAction (Bytes × Bytes) := do
  checked .event (validate env)
  let bytes ← checked .canonicalBytes (canonicalBytes env)
  .exec (insertHashedStatement env (digest bytes) bytes recordedAt)
    (orDuplicate .duplicateEvent .insertOutbox)
  return (bytes, digest bytes)

theorem insertPendingOutbox_eq (env : Envelope) (recordedAt : Int) :
    insertPendingOutbox env recordedAt = insertHashed env recordedAt := by
  rw [insertPendingOutbox, insertHashed]
  refine congrArg _ (funext fun _ => ?_)
  cases written : canonicalBytes env with
  | error error => rfl
  | ok bytes =>
    rw [contentHash_of_canonical written]
    show (Program.exec (insertOutboxStatement env (digest bytes) bytes recordedAt) _ >>= _) =
      (Program.exec (insertHashedStatement env (digest bytes) bytes recordedAt) _ >>= _)
    rw [insertOutboxStatement_digest]

/-! ### Commands -/

/-- A call of one of the five commands. -/
inductive Command
  | acceptOrder (cmd : OrderCommand)
  | registerSupplier (cmd : SupplierCommand)
  | receiveIngredientLot (cmd : IngredientLotCommand)
  | produceProductionBatch (cmd : ProductionBatchCommand)
  | dispatchShipment (cmd : ShipmentCommand)

def Command.action : Command → SourceAction (AcceptResult ⊕ SourceAcceptResult)
  | .acceptOrder cmd => do return .inl (← Source.acceptOrder cmd)
  | .registerSupplier cmd => do return .inr (← Source.registerSupplier cmd)
  | .receiveIngredientLot cmd => do return .inr (← Source.receiveIngredientLot cmd)
  | .produceProductionBatch cmd => do return .inr (← Source.produceProductionBatch cmd)
  | .dispatchShipment cmd => do return .inr (← Source.dispatchShipment cmd)

/-- An order without the check on the digest it stores: a run of it computes no digest. -/
def hashedOrder (cmd : OrderCommand) :
    { program : SourceAction AcceptResult // acceptOrder cmd = program } :=
  ⟨_, by
    simp only [acceptOrder, acceptLocked, insertPendingOutbox_eq]
    rfl⟩

/-- A hop without the check on the digest it stores. -/
def hashedHop (context : Context) (hop : Hop) (causationID : Option Bytes) (payload : Payload) :
    { program : SourceAction SourceAcceptResult //
      insertHop context hop causationID payload = program } :=
  ⟨_, by
    simp only [insertHop, finishSourceHop, insertPendingOutbox_eq]
    rfl⟩

/-- A command without the check on the digest it stores. -/
def Command.hashed : (command : Command) →
    { program : SourceAction (AcceptResult ⊕ SourceAcceptResult) // command.action = program }
  | .acceptOrder cmd => ⟨_, by
      rw [Command.action, (hashedOrder cmd).property]⟩
  | .registerSupplier cmd => ⟨_, by
      rw [Command.action, Source.registerSupplier, (hashedHop ..).property]⟩
  | .receiveIngredientLot cmd => ⟨_, by
      rw [Command.action, Source.receiveIngredientLot, (hashedHop ..).property]⟩
  | .produceProductionBatch cmd => ⟨_, by
      rw [Command.action, Source.produceProductionBatch, (hashedHop ..).property]⟩
  | .dispatchShipment cmd => ⟨_, by
      rw [Command.action, Source.dispatchShipment, (hashedHop ..).property]⟩

theorem guarantees_return {Value Result : Type} {guarantee : Database → Database → Prop}
    {db : Database} (program : SourceAction Value) (result : Value → Result)
    (guarantees : Commits guarantee program none [] db) :
    Commits guarantee (program >>= fun value => pure (result value)) none [] db := by
  refine Program.guarantees_bind _ _ (guarantees.mono ?_)
  rintro (error | value) pending held later -
  · trivial
  · exact fun _ _ => trivial

/-- Every commit of a command is one of the listed steps. -/
theorem Command.guarantees (command : Command) (db : Database) :
    Commits StepsOnly command.action none [] db := by
  cases command with
  | acceptOrder cmd => exact guarantees_return _ _ (acceptOrder_guarantees cmd db)
  | registerSupplier cmd => exact guarantees_return _ _ (registerSupplier_guarantees cmd db)
  | receiveIngredientLot cmd => exact guarantees_return _ _ (receiveIngredientLot_guarantees cmd db)
  | produceProductionBatch cmd =>
    exact guarantees_return _ _ (produceProductionBatch_guarantees cmd db)
  | dispatchShipment cmd => exact guarantees_return _ _ (dispatchShipment_guarantees cmd db)

theorem keepsEvents_storeOutbox {erp between : Erp} {row : OutboxRow}
    (same : between.outbox = erp.outbox) (fresh : erp.outbox.find? row.eventID = none) :
    KeepsEvents erp (storeOutbox row between) := by
  intro other member
  rw [← same] at member fresh
  exact Table.mem_store_of_ne _ member (Table.find?_eq_none_iff.mp fresh other member)

theorem Steps.keepsEvents {before after : Erp} (steps : Steps before after) :
    KeepsEvents before after := by
  cases steps with
  | accepted cmd item occurredAt recordedAt now canonical accepts =>
    rw [accepts.result]
    exact keepsEvents_storeOutbox rfl accepts.emits.freshEvent
  | linked context hop causationID payload occurredAt recordedAt now canonical links =>
    rw [links.result]
    exact keepsEvents_storeOutbox rfl links.emits.freshEvent

end Source

end SeshatOps
