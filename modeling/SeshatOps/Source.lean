/-
This file models the synthetic ERP source: the five commands that write the `erp` schema,
with their field checks, their statements and their transactions.

Every command ends the same way, with one pending outbox row and a commit, so that a
source row and its event are written together or not at all. The three hops below a
supplier differ only in the rows they lock and the identifiers they carry. The checks of
this package are not those of the event contract: `requireUUID` lower-cases before it
reads, and `parseTimeZ` takes times that `requireTimeZ` refuses. What they let through is
checked again by `Validate` before the outbox row is written.
-/

import Mathlib.Data.List.MinMax
import SeshatOps.Statements

namespace SeshatOps

open Relational Event

namespace Source

/-! ### Errors -/

/-- The step of a source transaction that an error names, as in `erp: lock inventory`. -/
inductive Step
  | begin
  | lockInventory
  | lockSource (kind : HopKind)
  | parentOutbox
  | updateInventory
  | insertOrder
  | insertSource (kind : HopKind)
  | insertOutbox
  | commit
  deriving DecidableEq, Repr

/-- The errors of the source package. -/
inductive SourceError
  | invalidQuantity
  | unknownItem
  | unknownSource
  | tenantMismatch
  | invalidTransition
  | duplicateOrder
  | duplicateSource
  | duplicateEvent
  /-- `erp: <step>: <cause>` -/
  | failed (step : Step) (cause : SqlError)
  /-- An error of `event.Validate`, passed on. -/
  | event (cause : EventError)
  /-- `erp: canonical bytes: <cause>` -/
  | canonicalBytes (cause : EventError)
  /-- `erp: content hash: <cause>` -/
  | contentHash (cause : EventError)
  deriving DecidableEq

/-- A function of the source. It announces nothing. -/
abbrev SourceAction := Program Database Lock Empty SourceError

/-- The error of an insert: `isUniqueViolation` tells a taken key from other causes. -/
def orDuplicate (duplicate : SourceError) (step : Step) : SqlError → SourceError
  | .unique => duplicate
  | cause => .failed step cause

/-! ### Field checks -/

/-- A lower-case hexadecimal digit. -/
def isHex (rune : Nat) : Bool := (0x30 ≤ rune && rune ≤ 0x39) || (0x61 ≤ rune && rune ≤ 0x66)

/-- The loop of `requireUUID` over the runes of a string, with the byte where each begins. -/
def uuidRunes : Nat → List Nat → Bool
  | _, [] => true
  | place, rune :: rest =>
      (if place = 8 ∨ place = 13 ∨ place = 18 ∨ place = 23 then rune == 0x2D else isHex rune) &&
        uuidRunes (place + (Utf8.encodeRune rune).length) rest

def requireUUID (value : Bytes) : Bool :=
  let lower := Strings.toLower value
  Utf8.validString value && value.length == 36 && uuidRunes 0 (Utf8.runes lower) &&
    lower[14]? == some 0x34 &&
    (lower[19]? == some 0x38 || lower[19]? == some 0x39 || lower[19]? == some 0x61 ||
      lower[19]? == some 0x62)

def requireLowerUUID (value : Bytes) : Bool :=
  requireUUID value && value == Strings.toLower value

def requireCanonicalID (value : Bytes) : Bool :=
  !value.isEmpty && Utf8.validString value && value == Strings.toLower value &&
    !(Utf8.runes value).any Unicode.isSpace

def requireOptionalUUID : Option Bytes → Bool
  | none => true
  | some value => requireUUID value

/-- Fail with an error unless a condition holds. -/
def require (condition : Bool) (error : SourceError) : Except SourceError Unit :=
  if condition then .ok () else .error error

/-- A check before the transaction. -/
def passes (check : Except SourceError Unit) : SourceAction Unit := .done check

/-- `parseTimeZ` inside a transaction. -/
def instant (value : Bytes) : SourceAction Int :=
  match Time.parseTimeZ value with
  | some microseconds => .done (.ok microseconds)
  | none => .fail .tenantMismatch

/-! ### Commands -/

/-- The fields that all commands share. -/
structure Context where
  eventID : Bytes
  tenantID : Bytes
  occurredAt : Bytes
  recordedAt : Bytes
  correlationID : Bytes
  causationID : Option Bytes
  traceID : Bytes
  deriving DecidableEq

structure OrderCommand extends Context where
  orderID : Bytes
  itemID : Bytes
  quantity : Int
  deriving DecidableEq

structure SupplierCommand extends Context where
  supplierID : Bytes
  deriving DecidableEq

structure IngredientLotCommand extends Context where
  lotID : Bytes
  supplierID : Bytes
  itemID : Bytes
  deriving DecidableEq

structure ProductionBatchCommand extends Context where
  batchID : Bytes
  lotID : Bytes
  deriving DecidableEq

structure ShipmentCommand extends Context where
  shipmentID : Bytes
  batchID : Bytes
  orderID : Bytes
  deriving DecidableEq

def validTrace (traceID : Bytes) : Bool := !Strings.isBlank traceID && Utf8.validString traceID

def validTime (value : Bytes) : Bool := (Time.parseTimeZ value).isSome

def validateCommand (cmd : OrderCommand) : Except SourceError Unit := do
  require (1 ≤ cmd.quantity && cmd.quantity ≤ maxSafeInt) .invalidQuantity
  require (requireLowerUUID cmd.tenantID) .tenantMismatch
  require (requireUUID cmd.orderID) .tenantMismatch
  require (requireUUID cmd.eventID) .tenantMismatch
  require (requireUUID cmd.correlationID) .tenantMismatch
  require (requireCanonicalID cmd.itemID) .tenantMismatch
  require (validTrace cmd.traceID) .tenantMismatch
  require (validTime cmd.occurredAt) .tenantMismatch
  require (validTime cmd.recordedAt) .tenantMismatch
  require (requireOptionalUUID cmd.causationID) .tenantMismatch

def validateHopIdentity (context : Context) : Except SourceError Unit := do
  require (requireLowerUUID context.tenantID) .tenantMismatch
  require (requireUUID context.eventID) .tenantMismatch
  require (requireUUID context.correlationID) .tenantMismatch
  require (validTrace context.traceID) .tenantMismatch
  require (validTime context.occurredAt) .tenantMismatch
  require (validTime context.recordedAt) .tenantMismatch

def requireRequiredCausation : Option Bytes → Except SourceError Unit
  | none => .error .invalidTransition
  | some value => require (requireUUID value) .tenantMismatch

/-- A supplier has no cause: a command that names one is refused either way. -/
def validateSupplierCommand (cmd : SupplierCommand) : Except SourceError Unit := do
  validateHopIdentity cmd.toContext
  require (requireCanonicalID cmd.supplierID) .tenantMismatch
  match cmd.causationID with
  | none => .ok ()
  | some value => do
      require (requireUUID value) .tenantMismatch
      .error .invalidTransition

def validateIngredientLotCommand (cmd : IngredientLotCommand) : Except SourceError Unit := do
  validateHopIdentity cmd.toContext
  require (requireCanonicalID cmd.lotID) .tenantMismatch
  require (requireCanonicalID cmd.supplierID) .tenantMismatch
  require (requireCanonicalID cmd.itemID) .tenantMismatch
  requireRequiredCausation cmd.causationID

def validateProductionBatchCommand (cmd : ProductionBatchCommand) : Except SourceError Unit := do
  validateHopIdentity cmd.toContext
  require (requireCanonicalID cmd.batchID) .tenantMismatch
  require (requireCanonicalID cmd.lotID) .tenantMismatch
  requireRequiredCausation cmd.causationID

def validateShipmentCommand (cmd : ShipmentCommand) : Except SourceError Unit := do
  validateHopIdentity cmd.toContext
  require (requireCanonicalID cmd.shipmentID) .tenantMismatch
  require (requireCanonicalID cmd.batchID) .tenantMismatch
  require (requireUUID cmd.orderID) .tenantMismatch
  requireRequiredCausation cmd.causationID

/-! ### Statements -/

/-- A write to the source schema that a check on it may refuse. -/
def sourceCommand (texts : List Bytes) (locks : Erp → List Lock)
    (refusal : Erp → Option SqlError) (change : Nat → Erp → Erp) :
    Statement Database Lock Unit :=
  statement texts (fun db => locks db.erp) fun choice db =>
    match refusal db.erp with
    | some error => .error error
    | none => .ok ((), Database.onErp (change choice))

/-- `SELECT .. FROM erp.inventory_items .. FOR UPDATE`. -/
def lockItemStatement (tenantID itemID : Bytes) : Statement Database Lock (Option InventoryItem) :=
  query [tenantID, itemID]
    (fun db => if (db.erp.inventoryItems.find? (tenantID, itemID)).isSome then
      [.item (tenantID, itemID)] else [])
    fun _ db => db.erp.inventoryItems.find? (tenantID, itemID)

/-- `SELECT .. FROM` a source table by its key `.. FOR UPDATE`. -/
def lockSourceStatement (key : HopKind × Bytes × Bytes) :
    Statement Database Lock (Option SourceHop) :=
  query [key.2.1, key.2.2]
    (fun db => if (db.erp.hops.find? key).isSome then [.sourceHop key] else [])
    fun _ db => db.erp.hops.find? key

/-- The shipment of an order. The table has one at most. -/
def shipmentOf (erp : Erp) (tenantID orderID : Bytes) : Option SourceHop :=
  erp.hops.rows.find? fun row =>
    row.hop.kind == .shipment && row.hop.tenantID == tenantID && row.hop.orderID == orderID

def lockShipmentStatement (tenantID orderID : Bytes) : Statement Database Lock (Option SourceHop) :=
  query [tenantID, orderID]
    (fun db => ((shipmentOf db.erp tenantID orderID).map fun row => Lock.sourceHop row.key).toList)
    fun _ db => shipmentOf db.erp tenantID orderID

-- The order of `Int` that runs. Mathlib as a whole also offers one that does not.
local instance intPreorder : Preorder Int := Int.instLinearOrder.toPreorder

/-- The first event of an aggregate, `ORDER BY aggregate_version LIMIT 1`. -/
def firstEvent (erp : Erp) (tenantID aggregateType aggregateID : Bytes) : Option OutboxRow :=
  (erp.outbox.rows.filter fun row => row.tenantID == tenantID &&
    row.aggregateType == aggregateType && row.aggregateID == aggregateID).argmin
      OutboxRow.aggregateVersion

def parentOutboxStatement (tenantID aggregateType aggregateID : Bytes) :
    Statement Database Lock (Option Bytes) :=
  query [tenantID, aggregateType, aggregateID] (fun _ => []) fun _ db =>
    (firstEvent db.erp tenantID aggregateType aggregateID).map OutboxRow.eventID

/-- The check constraints of an inventory row. -/
def allowedItem (row : InventoryItem) : Bool := 0 ≤ row.quantityOnHand && 0 ≤ row.aggregateVersion

def storeItem (row : InventoryItem) (erp : Erp) : Erp :=
  { erp with inventoryItems := erp.inventoryItems.store row }

/-- An update changes nothing where there is no row. -/
def updateItem (row : InventoryItem) (erp : Erp) : Erp :=
  if (erp.inventoryItems.find? row.key).isSome then storeItem row erp else erp

/-- `UPDATE erp.inventory_items`. -/
def updateItemStatement (row : InventoryItem) : Statement Database Lock Unit :=
  sourceCommand [row.tenantID, row.itemID]
    (fun erp => if (erp.inventoryItems.find? row.key).isSome then [.item row.key] else [])
    (fun erp => if !allowedItem row && (erp.inventoryItems.find? row.key).isSome then
      some .constraint else none)
    fun _ => updateItem row

def storeOrder (row : Order) (erp : Erp) : Erp := { erp with orders := erp.orders.store row }

def insertOrderStatement (row : Order) : Statement Database Lock Unit :=
  sourceCommand [row.orderID, row.tenantID, row.itemID, row.correlationID, row.traceID]
    (fun _ => [.order row.orderID])
    (fun erp => if row.quantity < 1 then some .constraint
      else if (erp.orders.find? row.orderID).isSome then some .unique else none)
    fun _ => storeOrder row

/-- The table that a lot, a batch or a shipment refers to. -/
def parentKind : HopKind → Option HopKind
  | .supplier => none
  | .ingredientLot => some .supplier
  | .productionBatch => some .ingredientLot
  | .shipment => some .productionBatch

/-- The foreign keys of a source row. -/
def refersTo (erp : Erp) (hop : Hop) : Bool :=
  (match parentKind hop.kind with
    | none => true
    | some kind => (erp.hops.find? (kind, hop.tenantID, hop.parentID)).isSome) &&
    (hop.kind != .ingredientLot ||
      (erp.inventoryItems.find? (hop.tenantID, hop.itemID)).isSome)

/-- A row that the primary key or a unique constraint keeps out. -/
def hasClash (erp : Erp) (hop : Hop) : Bool :=
  erp.hops.rows.any fun other => hop.clashes other.hop

/-- The keys an inserted row reserves in the indexes of its table. -/
def sourceLocks (hop : Hop) : List Lock :=
  [.sourceHop hop.key] ++
    (if hop.kind = .supplier then [] else [.sourceParent (hop.kind, hop.tenantID, hop.parentID)]) ++
    (if hop.kind = .shipment then [.sourceOrder (hop.tenantID, hop.orderID)] else [])

def storeHop (row : SourceHop) (erp : Erp) : Erp := { erp with hops := erp.hops.store row }

def insertSourceStatement (row : SourceHop) : Statement Database Lock Unit :=
  sourceCommand [row.hop.tenantID, row.hop.hopID, row.hop.parentID, row.hop.itemID,
      row.hop.orderID, row.correlationID, row.traceID]
    (fun _ => sourceLocks row.hop)
    (fun erp => if row.aggregateVersion < 1 then some .constraint
      else if hasClash erp row.hop then some .unique
      else if refersTo erp row.hop then none else some .constraint)
    fun _ => storeHop row

/-! ### The outbox -/

/-- The row of a new event. `created_at` is the server's time. -/
def pendingRow (env : Envelope) (hash bytes : Bytes) (recordedAt createdAt : Int) : OutboxRow where
  eventID := env.eventID
  tenantID := env.tenantID
  aggregateType := env.aggregateType
  aggregateID := env.aggregateID
  aggregateVersion := env.aggregateVersion
  contentHash := hash
  eventBytes := bytes
  status := .pending
  recordedAt := recordedAt
  publishLeaseOwner := none
  publishLeaseExpiresAt := none
  publishAttempts := 0
  lastErrorCode := none
  createdAt := createdAt

def storeOutbox (row : OutboxRow) (erp : Erp) : Erp := { erp with outbox := erp.outbox.store row }

/-- An event identifier or a place in an aggregate's history that is taken. -/
def outboxTaken (erp : Erp) (eventID : Bytes) (place : Bytes × Bytes × Bytes × Int) : Bool :=
  (erp.outbox.find? eventID).isSome || erp.outbox.rows.any fun other => other.place == place

def insertOutboxStatement (env : Envelope) (hash bytes : Bytes) (recordedAt : Int) :
    Statement Database Lock Unit :=
  let place := (env.tenantID, env.aggregateType, env.aggregateID, env.aggregateVersion)
  sourceCommand [env.eventID, env.tenantID, env.aggregateType, env.aggregateID, hash]
    (fun _ => [.outbox env.eventID, .outboxPlace place])
    (fun erp => if env.aggregateVersion < 1 then some .constraint
      else if outboxTaken erp env.eventID place then some .unique else none)
    fun now => storeOutbox (pendingRow env hash bytes recordedAt now)

/-- A computation of the event contract inside a command. -/
def checked {Value : Type} (failure : EventError → SourceError) : Checked Value → SourceAction Value
  | .ok value => .done (.ok value)
  | .error error => .done (.error (failure error))

/-- The canonical bytes of an event and their hash, stored as a pending row. -/
def insertPendingOutbox (env : Envelope) (recordedAt : Int) : SourceAction (Bytes × Bytes) := do
  checked .event (validate env)
  let bytes ← checked .canonicalBytes (canonicalBytes env)
  let hash ← checked .contentHash (contentHash env)
  .exec (insertOutboxStatement env hash bytes recordedAt)
    (orDuplicate .duplicateEvent .insertOutbox)
  return (bytes, hash)

def commitSource : SourceAction Unit := .commitOr (.failed .commit)

def parentOutboxEventID (tenantID aggregateType aggregateID : Bytes) : SourceAction Bytes := do
  match ← .exec (parentOutboxStatement tenantID aggregateType aggregateID)
      (.failed .parentOutbox) with
  | none => .fail .unknownSource
  | some eventID => return eventID

def requireCausation (got : Option Bytes) (want : Bytes) : SourceAction Unit :=
  if got = some want then .done (.ok ()) else .fail .invalidTransition

/-! ### AcceptOrder -/

structure AcceptResult where
  orderID : Bytes
  tenantID : Bytes
  itemID : Bytes
  quantityBefore : Int
  quantityAfter : Int
  aggregateVersion : Int
  eventID : Bytes
  contentHash : Bytes
  eventBytes : Bytes
  outboxStatus : OutboxStatus
  deriving DecidableEq

/-- An order for something shipped before names the shipment's event as its cause. -/
def requireOrderShipmentCausation (cmd : OrderCommand) : SourceAction Unit := do
  match ← .exec (lockShipmentStatement cmd.tenantID cmd.orderID)
      (.failed (.lockSource .shipment)) with
  | none => if cmd.causationID.isSome then .fail .invalidTransition else .done (.ok ())
  | some shipment =>
      let parentID ← parentOutboxEventID cmd.tenantID aggregateTypeShipment shipment.hop.hopID
      requireCausation cmd.causationID parentID

def orderRow (cmd : OrderCommand) (occurredAt : Int) : Order where
  orderID := cmd.orderID
  tenantID := cmd.tenantID
  itemID := cmd.itemID
  quantity := cmd.quantity
  occurredAt := occurredAt
  correlationID := cmd.correlationID
  traceID := cmd.traceID

/-- An envelope with the fields of a command. -/
def Context.envelope (context : Context) (aggregateID : Bytes) (version : Int)
    (causationID : Option Bytes) (payload : Payload) : Envelope where
  eventID := context.eventID
  tenantID := context.tenantID
  eventType := payload.eventType
  eventSchemaVersion := schemaVersionV1
  aggregateType := payload.aggregateType
  aggregateID := aggregateID
  aggregateVersion := version
  occurredAt := context.occurredAt
  recordedAt := context.recordedAt
  producer := producerSyntheticERP
  correlationID := context.correlationID
  causationID := causationID
  traceID := context.traceID
  payload := some payload

/-- The payload of an order accepted at a quantity on hand. -/
def orderPayload (cmd : OrderCommand) (quantityOnHand : Int) : QuantityDecremented where
  orderID := cmd.orderID
  itemID := cmd.itemID
  quantityDecremented := cmd.quantity
  quantityBefore := quantityOnHand
  quantityAfter := quantityOnHand - cmd.quantity

/-- The event of an order accepted from an inventory row. -/
def orderEnvelope (cmd : OrderCommand) (item : InventoryItem) : Envelope :=
  cmd.toContext.envelope cmd.itemID (item.aggregateVersion + 1) cmd.causationID
    (.quantityDecremented (orderPayload cmd item.quantityOnHand))

/-- The inventory row that an order leaves. -/
def decremented (cmd : OrderCommand) (item : InventoryItem) : InventoryItem :=
  ⟨cmd.tenantID, cmd.itemID, item.quantityOnHand - cmd.quantity, item.aggregateVersion + 1⟩

/-- The writes of an order, once its inventory row is locked. -/
def acceptLocked (cmd : OrderCommand) (item : InventoryItem) : SourceAction AcceptResult := do
  requireOrderShipmentCausation cmd
  .exec (updateItemStatement (decremented cmd item)) (.failed .updateInventory)
  let occurredAt ← instant cmd.occurredAt
  let recordedAt ← instant cmd.recordedAt
  .exec (insertOrderStatement (orderRow cmd occurredAt)) (orDuplicate .duplicateOrder .insertOrder)
  let (bytes, hash) ← insertPendingOutbox (orderEnvelope cmd item) recordedAt
  commitSource
  return {
    orderID := cmd.orderID
    tenantID := cmd.tenantID
    itemID := cmd.itemID
    quantityBefore := item.quantityOnHand
    quantityAfter := item.quantityOnHand - cmd.quantity
    aggregateVersion := item.aggregateVersion + 1
    eventID := cmd.eventID
    contentHash := hash
    eventBytes := bytes
    outboxStatus := .pending }

def acceptOrder (cmd : OrderCommand) : SourceAction AcceptResult := do
  passes (validateCommand cmd)
  .inTransaction (.failed .begin) do
    match ← .exec (lockItemStatement cmd.tenantID cmd.itemID) (.failed .lockInventory) with
    | none => .fail .unknownItem
    | some item =>
        if item.tenantID ≠ cmd.tenantID then .fail .tenantMismatch
        else if item.quantityOnHand < cmd.quantity then .fail .invalidTransition
        else if item.aggregateVersion + 1 < 1 ∨ item.aggregateVersion + 1 > maxSafeInt then
          .fail .invalidTransition
        else acceptLocked cmd item

/-! ### The lineage hops -/

structure SourceAcceptResult where
  aggregateID : Bytes
  aggregateType : Bytes
  aggregateVersion : Int
  eventID : Bytes
  contentHash : Bytes
  eventBytes : Bytes
  outboxStatus : OutboxStatus
  deriving DecidableEq

def firstAggregateVersion : Int := 1

def finishSourceHop (env : Envelope) (recordedAt : Int) : SourceAction SourceAcceptResult := do
  let (bytes, hash) ← insertPendingOutbox env recordedAt
  commitSource
  return {
    aggregateID := env.aggregateID
    aggregateType := env.aggregateType
    aggregateVersion := env.aggregateVersion
    eventID := env.eventID
    contentHash := hash
    eventBytes := bytes
    outboxStatus := .pending }

/-- Lock a row that a command refers to. -/
def lockTenantRow {Row : Type} (locking : Statement Database Lock (Option Row))
    (rowTenant : Row → Bytes) (tenantID : Bytes) (missing : SourceError) (step : Step) :
    SourceAction Unit := do
  match ← .exec locking (.failed step) with
  | none => .fail missing
  | some row => if rowTenant row ≠ tenantID then .fail .tenantMismatch else .done (.ok ())

/-- Lock the source row that a hop comes from. -/
def lockParent (kind : HopKind) (tenantID parentID : Bytes) : SourceAction Unit :=
  lockTenantRow (lockSourceStatement (kind, tenantID, parentID)) (fun row => row.hop.tenantID)
    tenantID .unknownSource (.lockSource kind)

/-- The cause of a hop is the first event of the row it comes from. -/
def requireParentCausation (context : Context) (kind : HopKind) (parentID : Bytes) :
    SourceAction Unit := do
  let eventID ← parentOutboxEventID context.tenantID kind.aggregateType parentID
  requireCausation context.causationID eventID

/-- The writes of a hop, once the rows it refers to are locked. -/
def insertHop (context : Context) (hop : Hop) (causationID : Option Bytes) (payload : Payload) :
    SourceAction SourceAcceptResult := do
  let occurredAt ← instant context.occurredAt
  let recordedAt ← instant context.recordedAt
  .exec (insertSourceStatement
      ⟨hop, firstAggregateVersion, occurredAt, context.correlationID, context.traceID⟩)
    (orDuplicate .duplicateSource (.insertSource hop.kind))
  finishSourceHop (context.envelope hop.hopID firstAggregateVersion causationID payload) recordedAt

def registerSupplier (cmd : SupplierCommand) : SourceAction SourceAcceptResult := do
  passes (validateSupplierCommand cmd)
  .inTransaction (.failed .begin)
    (insertHop cmd.toContext ⟨.supplier, cmd.tenantID, cmd.supplierID, [], [], []⟩ none
      (.supplierRegistered ⟨cmd.supplierID⟩))

def receiveIngredientLot (cmd : IngredientLotCommand) : SourceAction SourceAcceptResult := do
  passes (validateIngredientLotCommand cmd)
  .inTransaction (.failed .begin) do
    lockParent .supplier cmd.tenantID cmd.supplierID
    lockTenantRow (lockItemStatement cmd.tenantID cmd.itemID) InventoryItem.tenantID cmd.tenantID
      .unknownItem .lockInventory
    requireParentCausation cmd.toContext .supplier cmd.supplierID
    insertHop cmd.toContext
      ⟨.ingredientLot, cmd.tenantID, cmd.lotID, cmd.supplierID, cmd.itemID, []⟩ cmd.causationID
      (.ingredientLotReceived ⟨cmd.lotID, cmd.supplierID, cmd.itemID⟩)

def produceProductionBatch (cmd : ProductionBatchCommand) : SourceAction SourceAcceptResult := do
  passes (validateProductionBatchCommand cmd)
  .inTransaction (.failed .begin) do
    lockParent .ingredientLot cmd.tenantID cmd.lotID
    requireParentCausation cmd.toContext .ingredientLot cmd.lotID
    insertHop cmd.toContext ⟨.productionBatch, cmd.tenantID, cmd.batchID, cmd.lotID, [], []⟩
      cmd.causationID (.productionBatchProduced ⟨cmd.batchID, cmd.lotID⟩)

def dispatchShipment (cmd : ShipmentCommand) : SourceAction SourceAcceptResult := do
  passes (validateShipmentCommand cmd)
  .inTransaction (.failed .begin) do
    lockParent .productionBatch cmd.tenantID cmd.batchID
    requireParentCausation cmd.toContext .productionBatch cmd.batchID
    insertHop cmd.toContext
      ⟨.shipment, cmd.tenantID, cmd.shipmentID, cmd.batchID, [], cmd.orderID⟩ cmd.causationID
      (.shipmentDispatched ⟨cmd.shipmentID, cmd.batchID, cmd.orderID⟩)

/-! ### Seeding -/

/-- `SeedNorthstarInventory` and `SeedLineageInventory`: a new inventory row at version 0. -/
def seedItemStatement (tenantID itemID : Bytes) (quantity : Int) : Statement Database Lock Unit :=
  let row : InventoryItem := ⟨tenantID, itemID, quantity, 0⟩
  sourceCommand [tenantID, itemID] (fun _ => [.item row.key])
    (fun erp => if !allowedItem row then some .constraint
      else if (erp.inventoryItems.find? row.key).isSome then some .unique else none)
    fun _ => storeItem row

end Source

end SeshatOps
