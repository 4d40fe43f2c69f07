/-
This file models the tables of the two schemas: `erp`, which the synthetic source owns,
and `platform`, which the consumer derives from the source's events.

A table is a keyed row set, so its primary key is part of its type. Columns that no
modelled function reads are left out: surrogate keys, update times, and the consumer
name, which is one constant. The four lineage tables of each schema have the same
shape, and are one table here whose rows say which of the four they belong to; an
identifier column that a kind does not have is the empty text.
-/

import SeshatOps.RoundTrip
import SeshatOps.Table

namespace SeshatOps

open Relational

/-! ### Column types -/

/-- A value that a `TEXT` column can hold: UTF-8 without U+0000. -/
def storable (text : Bytes) : Bool := Utf8.validString text && !text.contains 0

/-- The texts of an event that become column values are such values. -/
def Event.Envelope.Storable (env : Event.Envelope) (payload : Event.Payload) : Prop :=
  storable env.aggregateID = true ∧ storable env.traceID = true ∧
    ∀ text ∈ payload.texts, storable text = true

/-- The largest value of an `INTEGER` column. -/
def maxInteger : Int := 2147483647

/-- `platform.inbox.disposition`. -/
inductive Disposition
  | applied
  | duplicateNoop
  | quarantinedConflict
  | quarantinedGap
  | quarantinedStale
  | quarantinedInvalid
  | quarantinedMismatch
  | quarantinedTransition
  deriving DecidableEq, Repr

/-- The dispositions of an event whose effect is in the projection. -/
def Disposition.settled : Disposition → Bool
  | .applied | .duplicateNoop => true
  | _ => false

/-- Which lineage table a row belongs to. -/
inductive HopKind
  | supplier
  | ingredientLot
  | productionBatch
  | shipment
  deriving DecidableEq, Repr

def HopKind.aggregateType : HopKind → Bytes
  | .supplier => Event.aggregateTypeSupplier
  | .ingredientLot => Event.aggregateTypeIngredientLot
  | .productionBatch => Event.aggregateTypeProductionBatch
  | .shipment => Event.aggregateTypeShipment

/-- The identifiers of a lineage row. The parent of a lot is its supplier, of a batch its lot,
of a shipment its batch. -/
structure Hop where
  kind : HopKind
  tenantID : Bytes
  hopID : Bytes
  parentID : Bytes
  itemID : Bytes
  orderID : Bytes
  deriving DecidableEq

/-- The primary key of a lineage table. -/
def Hop.key (hop : Hop) : HopKind × Bytes × Bytes := (hop.kind, hop.tenantID, hop.hopID)

/-- Two rows that the primary key or a unique constraint of their table keeps apart: a parent
has one lot, one batch or one shipment, and an order one shipment. -/
def Hop.clashes (first second : Hop) : Bool :=
  first.kind == second.kind && first.tenantID == second.tenantID &&
    (first.hopID == second.hopID ||
      (first.kind != .supplier && first.parentID == second.parentID) ||
      (first.kind == .shipment && first.orderID == second.orderID))

/-- Two rows clash in the primary key or in one of the further indexes. -/
theorem Hop.clashes_iff (first second : Hop) :
    first.clashes second = true ↔ second.key = first.key ∨
      (second.kind ≠ .supplier ∧ (second.kind, second.tenantID, second.parentID) =
        (first.kind, first.tenantID, first.parentID)) ∨
      (second.kind = .shipment ∧ first.kind = .shipment ∧
        (second.tenantID, second.orderID) = (first.tenantID, first.orderID)) := by
  simp only [Hop.clashes, Hop.key, Bool.and_eq_true, Bool.or_eq_true, beq_iff_eq, bne_iff_ne,
    Prod.mk.injEq]
  constructor
  · rintro ⟨⟨kind, tenant⟩, (same | ⟨below, parent⟩) | ⟨shipment, order⟩⟩
    · exact Or.inl ⟨kind.symm, tenant.symm, same.symm⟩
    · exact Or.inr (Or.inl ⟨kind ▸ below, kind.symm, tenant.symm, parent.symm⟩)
    · exact Or.inr (Or.inr ⟨kind ▸ shipment, shipment, tenant.symm, order.symm⟩)
  · rintro (⟨kind, tenant, same⟩ | ⟨below, kind, tenant, parent⟩ | ⟨late, early, tenant, order⟩)
    · exact ⟨⟨kind.symm, tenant.symm⟩, Or.inl (Or.inl same.symm)⟩
    · exact ⟨⟨kind.symm, tenant.symm⟩, Or.inl (Or.inr ⟨kind ▸ below, parent.symm⟩)⟩
    · exact ⟨⟨early.trans late.symm, tenant.symm⟩, Or.inr ⟨early, order.symm⟩⟩

theorem Hop.clashes_comm (first second : Hop) : first.clashes second = second.clashes first := by
  have flip (first second : Hop) : first.clashes second = true → second.clashes first = true := by
    rw [Hop.clashes_iff, Hop.clashes_iff]
    rintro (same | ⟨below, same⟩ | ⟨late, early, same⟩)
    · exact Or.inl same.symm
    · exact Or.inr (Or.inl ⟨(Prod.mk.inj same).1 ▸ below, same.symm⟩)
    · exact Or.inr (Or.inr ⟨early, late, same.symm⟩)
  exact Bool.eq_iff_iff.mpr ⟨flip first second, flip second first⟩

/-! ### The erp schema -/

structure InventoryItem where
  tenantID : Bytes
  itemID : Bytes
  quantityOnHand : Int
  aggregateVersion : Int
  deriving DecidableEq

def InventoryItem.key (row : InventoryItem) : Bytes × Bytes := (row.tenantID, row.itemID)

structure Order where
  orderID : Bytes
  tenantID : Bytes
  itemID : Bytes
  quantity : Int
  occurredAt : Int
  correlationID : Bytes
  traceID : Bytes
  deriving DecidableEq

/-- A row of `erp.suppliers`, `erp.ingredient_lots`, `erp.production_batches` or
`erp.shipments`. -/
structure SourceHop where
  hop : Hop
  aggregateVersion : Int
  occurredAt : Int
  correlationID : Bytes
  traceID : Bytes
  deriving DecidableEq

def SourceHop.key (row : SourceHop) : HopKind × Bytes × Bytes := row.hop.key

/-- `erp.outbox.status`. -/
inductive OutboxStatus
  | pending
  | publishing
  | published
  | quarantined
  deriving DecidableEq, Repr

structure OutboxRow where
  eventID : Bytes
  tenantID : Bytes
  aggregateType : Bytes
  aggregateID : Bytes
  aggregateVersion : Int
  contentHash : Bytes
  eventBytes : Bytes
  status : OutboxStatus
  recordedAt : Int
  publishLeaseOwner : Option Bytes
  publishLeaseExpiresAt : Option Int
  publishAttempts : Int
  lastErrorCode : Option Bytes
  createdAt : Int
  deriving DecidableEq

/-- The columns of the unique constraint of `erp.outbox`. -/
def OutboxRow.place (row : OutboxRow) : Bytes × Bytes × Bytes × Int :=
  (row.tenantID, row.aggregateType, row.aggregateID, row.aggregateVersion)

structure Erp where
  inventoryItems : Table InventoryItem.key
  orders : Table Order.orderID
  hops : Table SourceHop.key
  outbox : Table OutboxRow.eventID

/-! ### The platform schema -/

structure InboxRow where
  eventID : Bytes
  tenantID : Bytes
  contentHash : Bytes
  aggregateType : Bytes
  aggregateID : Bytes
  aggregateVersion : Int
  disposition : Disposition
  expectedVersion : Option Int := none
  receivedVersion : Option Int := none
  eventBytes : Option Bytes := none
  deriving DecidableEq

structure ProjectionRow where
  tenantID : Bytes
  itemID : Bytes
  quantityOnHand : Int
  aggregateVersion : Int
  deriving DecidableEq

def ProjectionRow.key (row : ProjectionRow) : Bytes × Bytes := (row.tenantID, row.itemID)

theorem ProjectionRow.key_mk (tenantID itemID : Bytes) (quantity version : Int) :
    ProjectionRow.key ⟨tenantID, itemID, quantity, version⟩ = (tenantID, itemID) := rfl

/-- A row of one of the four `platform.lineage_` tables. -/
structure LineageRow where
  hop : Hop
  aggregateVersion : Int
  sourceEventID : Bytes
  eventSchemaVersion : Int
  occurredAt : Bytes
  recordedAt : Bytes
  correlationID : Bytes
  causationID : Option Bytes
  traceID : Bytes
  deriving DecidableEq

def LineageRow.key (row : LineageRow) : HopKind × Bytes × Bytes := row.hop.key

/-- `failure_category` and `diagnostic_code` of the failures a record can cause. -/
inductive FailureCategory
  | malformedEnvelope
  | unsupportedContract
  deriving DecidableEq, Repr

/-- `processing_failures.quarantine_status`. -/
inductive QuarantineStatus
  | retrying
  | quarantined
  deriving DecidableEq, Repr

/-- The place of a record in the broker's log. -/
structure SourcePosition where
  topic : Bytes
  partition : Int
  offset : Int
  deriving DecidableEq

structure FailureRow where
  eventID : Option Bytes
  tenantID : Option Bytes
  aggregateType : Option Bytes
  aggregateID : Option Bytes
  aggregateVersion : Option Int
  eventSchemaVersion : Option Int
  eventType : Option Bytes
  failureCategory : FailureCategory
  contentHash : Option Bytes
  receivedBytesHash : Bytes
  source : SourcePosition
  attemptCount : Int
  diagnosticCode : FailureCategory
  quarantineStatus : QuarantineStatus
  deriving DecidableEq

structure Platform where
  inbox : Table InboxRow.eventID
  projection : Table ProjectionRow.key
  lineage : Table LineageRow.key
  failures : Table FailureRow.source

/-! ### The database -/

structure Database where
  erp : Erp
  platform : Platform

/-- A write that touches only the platform schema. -/
def Database.onPlatform (change : Platform → Platform) (db : Database) : Database :=
  { db with platform := change db.platform }

/-- A write that touches only the erp schema. -/
def Database.onErp (change : Erp → Erp) (db : Database) : Database :=
  { db with erp := change db.erp }

@[simp] theorem Database.onPlatform_platform (change : Platform → Platform) (db : Database) :
    (db.onPlatform change).platform = change db.platform := rfl

@[simp] theorem Database.onPlatform_erp (change : Platform → Platform) (db : Database) :
    (db.onPlatform change).erp = db.erp := rfl

@[simp] theorem Database.onErp_erp (change : Erp → Erp) (db : Database) :
    (db.onErp change).erp = change db.erp := rfl

/-- The tables as the migration leaves them. -/
def Platform.empty : Platform := ⟨.empty, .empty, .empty, .empty⟩

def Erp.empty : Erp := ⟨.empty, .empty, .empty, .empty⟩

def Database.empty : Database := ⟨.empty, .empty⟩

/-- The rows a transaction can hold locked, or the keys it can hold reserved. -/
inductive Lock
  | item (key : Bytes × Bytes)
  | order (orderID : Bytes)
  | sourceHop (key : HopKind × Bytes × Bytes)
  | sourceParent (key : HopKind × Bytes × Bytes)
  | sourceOrder (key : Bytes × Bytes)
  | outbox (eventID : Bytes)
  | outboxPlace (place : Bytes × Bytes × Bytes × Int)
  | inbox (eventID : Bytes)
  | projection (key : Bytes × Bytes)
  | lineage (key : HopKind × Bytes × Bytes)
  | lineageParent (key : HopKind × Bytes × Bytes)
  | lineageOrder (key : Bytes × Bytes)
  | failure (source : SourcePosition)
  deriving DecidableEq

/-- `relay.AggregateKey`: the partition key of an aggregate. -/
def aggregateKey (tenantID aggregateType aggregateID : Bytes) : Bytes :=
  tenantID ++ [0x2F] ++ aggregateType ++ [0x2F] ++ aggregateID

/-- `relay.Topic`. -/
def relayTopic : Bytes := ascii "seshatops.m1.events"

end SeshatOps
