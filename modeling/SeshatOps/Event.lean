/-
This file models the event contract: the envelope, the five payload families, and
`Validate`, which every envelope passes before it is written or read.

Field names follow the Go structs. The checks return the errors of the source, each
with the field it names. `Valid` states what an envelope that passed them satisfies, so
that later proofs never unfold the sequence of checks again.
-/

import SeshatOps.Time

namespace SeshatOps

namespace Event

/-! ### Envelopes and payloads -/

structure QuantityDecremented where
  orderID : Bytes
  itemID : Bytes
  quantityDecremented : Int
  quantityBefore : Int
  quantityAfter : Int
  deriving DecidableEq

structure SupplierRegistered where
  supplierID : Bytes
  deriving DecidableEq

structure IngredientLotReceived where
  lotID : Bytes
  supplierID : Bytes
  itemID : Bytes
  deriving DecidableEq

structure ProductionBatchProduced where
  batchID : Bytes
  lotID : Bytes
  deriving DecidableEq

structure ShipmentDispatched where
  shipmentID : Bytes
  batchID : Bytes
  orderID : Bytes
  deriving DecidableEq

/-- The sealed payload interface. -/
inductive Payload
  | quantityDecremented (payload : QuantityDecremented)
  | supplierRegistered (payload : SupplierRegistered)
  | ingredientLotReceived (payload : IngredientLotReceived)
  | productionBatchProduced (payload : ProductionBatchProduced)
  | shipmentDispatched (payload : ShipmentDispatched)
  deriving DecidableEq

/-- The event envelope. Timestamps keep their source strings; a payload that was never set is
`none`. -/
structure Envelope where
  eventID : Bytes
  tenantID : Bytes
  eventType : Bytes
  eventSchemaVersion : Int
  aggregateType : Bytes
  aggregateID : Bytes
  aggregateVersion : Int
  occurredAt : Bytes
  recordedAt : Bytes
  producer : Bytes
  correlationID : Bytes
  causationID : Option Bytes
  traceID : Bytes
  payload : Option Payload
  deriving DecidableEq

def eventTypeQuantityDecremented : Bytes := ascii "inventory.quantity_decremented"
def eventTypeSupplierRegistered : Bytes := ascii "supplier.registered"
def eventTypeIngredientLotReceived : Bytes := ascii "ingredient_lot.received"
def eventTypeProductionBatchProduced : Bytes := ascii "production_batch.produced"
def eventTypeShipmentDispatched : Bytes := ascii "shipment.dispatched"

def aggregateTypeInventoryItem : Bytes := ascii "inventory_item"
def aggregateTypeSupplier : Bytes := ascii "supplier"
def aggregateTypeIngredientLot : Bytes := ascii "ingredient_lot"
def aggregateTypeProductionBatch : Bytes := ascii "production_batch"
def aggregateTypeShipment : Bytes := ascii "shipment"

def producerSyntheticERP : Bytes := ascii "synthetic-erp"
def schemaVersionV1 : Int := 1

/-- The largest integer that JSON readers agree on, 2^53 - 1. -/
def maxSafeInt : Int := 9007199254740991

/-! ### Errors -/

/-- What an error says after its sentinel. Fields are named as the source names them. -/
inductive Reason
  /-- `<field> is not valid UTF-8` -/
  | notUTF8 (field : String)
  /-- `invalid <field>` -/
  | invalid (field : String)
  /-- `<field> must be lowercase` -/
  | notLowercase (field : String)
  /-- `missing <field>` -/
  | missing (field : String)
  /-- `<field> contains whitespace` -/
  | whitespace (field : String)
  /-- `<field> <text>` -/
  | text (field : String) (found : Bytes)
  /-- `<field> <number>` -/
  | number (field : String) (found : Int)
  /-- `payload type mismatch` -/
  | payloadTypeMismatch
  /-- `<field> must equal aggregate_id` -/
  | notAggregateID (field : String)
  /-- `quantity arithmetic invariant failed` -/
  | quantityArithmetic
  /-- `unknown field <name>` -/
  | unknownField (name : Bytes)
  /-- `unknown payload field <name>` -/
  | unknownPayloadField (name : Bytes)
  /-- `<field> must be a string` -/
  | notString (field : String)
  /-- `<field> must be a string or null` -/
  | notNullableString (field : String)
  /-- `<field> must be an integer` -/
  | notInteger (field : String)
  /-- `<field> must be an object` -/
  | notObject (field : String)
  /-- `incomplete JSON string escape` -/
  | incompleteStringEscape
  /-- `incomplete JSON unicode escape` -/
  | incompleteUnicodeEscape
  /-- `invalid JSON unicode escape` -/
  | invalidUnicodeEscape
  /-- `unpaired UTF-16 surrogate escape` -/
  | unpairedSurrogate
  /-- The token reader's syntax error. -/
  | json
  /-- `arrays are not permitted in the Event Spine event contract` -/
  | array
  /-- `booleans are not permitted in the Event Spine event contract` -/
  | boolean
  /-- `duplicate object member <name>` -/
  | duplicateMember (name : Bytes)
  /-- `non-integer number <text>` -/
  | nonInteger (found : Bytes)
  /-- `leading zeros are not permitted in <text>` -/
  | leadingZeros (found : Bytes)
  /-- `integer out of range <text>` -/
  | integerRange (found : Bytes)
  /-- `integer out of allowed range <number>` -/
  | integerAllowedRange (found : Int)
  /-- `trailing JSON content` -/
  | trailing
  deriving DecidableEq

/-- The sentinels `ErrMalformed` and `ErrUnsupported`, with the rest of the message. -/
inductive EventError
  | malformed (reason : Reason)
  | unsupported (reason : Reason)
  deriving DecidableEq

/-- The monad of the checks. -/
abbrev Checked := Except EventError

/-! ### The field checks -/

/-- Fail with a malformed error unless a condition holds. -/
def demand (condition : Bool) (reason : Reason) : Checked Unit :=
  if condition then .ok () else .error (.malformed reason)

def requireUTF8 (value : Bytes) (field : String) : Checked Unit :=
  demand (Utf8.validString value) (.notUTF8 field)

/-- A hexadecimal digit of either case. -/
def isHex (byte : UInt8) : Bool := (Json.hexDigit byte).isSome

/-- One byte of the version-4 pattern, by its place. -/
def uuidPlace (byte : UInt8) (place : Nat) : Bool :=
  if place = 8 ∨ place = 13 ∨ place = 18 ∨ place = 23 then byte == 0x2D
  else if place = 14 then byte == 0x34
  else if place = 19 then
    byte == 0x38 || byte == 0x39 || byte == 0x61 || byte == 0x62 || byte == 0x41 || byte == 0x42
  else isHex byte

/-- `uuidV4Regexp`, which reads both letter cases. -/
def matchesUUID (value : Bytes) : Bool :=
  value.length == 36 && value.zipIdx.all fun (byte, place) => uuidPlace byte place

def requireUUID (value : Bytes) (field : String) : Checked Unit :=
  demand (matchesUUID value) (.invalid field)

def requireLowerUUID (value : Bytes) (field : String) : Checked Unit := do
  requireUUID value field
  demand (value == Strings.toLower value) (.notLowercase field)

def requireCanonicalID (value : Bytes) (field : String) : Checked Unit := do
  demand (!value.isEmpty) (.missing field)
  demand (value == Strings.toLower value) (.notLowercase field)
  demand (!(Utf8.runes value).any Unicode.isSpace) (.whitespace field)

def requireTimeZ (value : Bytes) (field : String) : Checked Unit :=
  demand (Time.matchesTimeZ value) (.invalid field)

/-- An integer within the bounds of its field. -/
def requireRange (low value : Int) (field : String) : Checked Unit :=
  demand (low ≤ value && value ≤ maxSafeInt) (.number field value)

/-! ### Families -/

/-- The aggregate type of an event type that the contract knows. -/
def familyAggregateType (eventType : Bytes) (schema : Int) : Checked Bytes :=
  let found : Option Bytes :=
    if eventType = eventTypeQuantityDecremented then some aggregateTypeInventoryItem
    else if eventType = eventTypeSupplierRegistered then some aggregateTypeSupplier
    else if eventType = eventTypeIngredientLotReceived then some aggregateTypeIngredientLot
    else if eventType = eventTypeProductionBatchProduced then some aggregateTypeProductionBatch
    else if eventType = eventTypeShipmentDispatched then some aggregateTypeShipment
    else none
  match found with
  | none => .error (.unsupported (.text "event_type" eventType))
  | some aggregateType =>
      if schema = schemaVersionV1 then .ok aggregateType
      else .error (.unsupported (.number "event_schema_version" schema))

def QuantityDecremented.validateAgainst (payload : QuantityDecremented) (env : Envelope) :
    Checked Unit := do
  demand (env.eventType == eventTypeQuantityDecremented) .payloadTypeMismatch
  requireUTF8 payload.orderID "payload.order_id"
  requireUTF8 payload.itemID "payload.item_id"
  requireUUID payload.orderID "payload.order_id"
  requireCanonicalID payload.itemID "payload.item_id"
  demand (payload.itemID == env.aggregateID) (.notAggregateID "payload.item_id")
  requireRange 1 payload.quantityDecremented "quantity_decremented"
  requireRange 0 payload.quantityBefore "quantity_before"
  requireRange 0 payload.quantityAfter "quantity_after"
  demand (payload.quantityBefore - payload.quantityDecremented == payload.quantityAfter)
    .quantityArithmetic

def SupplierRegistered.validateAgainst (payload : SupplierRegistered) (env : Envelope) :
    Checked Unit := do
  demand (env.eventType == eventTypeSupplierRegistered) .payloadTypeMismatch
  requireUTF8 payload.supplierID "payload.supplier_id"
  requireCanonicalID payload.supplierID "payload.supplier_id"
  demand (payload.supplierID == env.aggregateID) (.notAggregateID "payload.supplier_id")

def IngredientLotReceived.validateAgainst (payload : IngredientLotReceived) (env : Envelope) :
    Checked Unit := do
  demand (env.eventType == eventTypeIngredientLotReceived) .payloadTypeMismatch
  requireUTF8 payload.lotID "payload.lot_id"
  requireUTF8 payload.supplierID "payload.supplier_id"
  requireUTF8 payload.itemID "payload.item_id"
  requireCanonicalID payload.lotID "payload.lot_id"
  requireCanonicalID payload.supplierID "payload.supplier_id"
  requireCanonicalID payload.itemID "payload.item_id"
  demand (payload.lotID == env.aggregateID) (.notAggregateID "payload.lot_id")

def ProductionBatchProduced.validateAgainst (payload : ProductionBatchProduced)
    (env : Envelope) : Checked Unit := do
  demand (env.eventType == eventTypeProductionBatchProduced) .payloadTypeMismatch
  requireUTF8 payload.batchID "payload.batch_id"
  requireUTF8 payload.lotID "payload.lot_id"
  requireCanonicalID payload.batchID "payload.batch_id"
  requireCanonicalID payload.lotID "payload.lot_id"
  demand (payload.batchID == env.aggregateID) (.notAggregateID "payload.batch_id")

def ShipmentDispatched.validateAgainst (payload : ShipmentDispatched) (env : Envelope) :
    Checked Unit := do
  demand (env.eventType == eventTypeShipmentDispatched) .payloadTypeMismatch
  requireUTF8 payload.shipmentID "payload.shipment_id"
  requireUTF8 payload.batchID "payload.batch_id"
  requireUTF8 payload.orderID "payload.order_id"
  requireCanonicalID payload.shipmentID "payload.shipment_id"
  requireCanonicalID payload.batchID "payload.batch_id"
  requireUUID payload.orderID "payload.order_id"
  demand (payload.shipmentID == env.aggregateID) (.notAggregateID "payload.shipment_id")

def Payload.validateAgainst (payload : Payload) (env : Envelope) : Checked Unit :=
  match payload with
  | .quantityDecremented payload => payload.validateAgainst env
  | .supplierRegistered payload => payload.validateAgainst env
  | .ingredientLotReceived payload => payload.validateAgainst env
  | .productionBatchProduced payload => payload.validateAgainst env
  | .shipmentDispatched payload => payload.validateAgainst env

/-! ### Validate -/

def validatePayload (env : Envelope) : Checked Unit :=
  match env.payload with
  | none => .error (.malformed (.missing "payload"))
  | some payload => payload.validateAgainst env

/-- A check on an optional field. -/
def optionally (check : Bytes → Checked Unit) : Option Bytes → Checked Unit
  | none => .ok ()
  | some value => check value

def validate (env : Envelope) : Checked Unit := do
  requireUTF8 env.eventID "event_id"
  requireUTF8 env.tenantID "tenant_id"
  requireUTF8 env.eventType "event_type"
  requireUTF8 env.aggregateType "aggregate_type"
  requireUTF8 env.aggregateID "aggregate_id"
  requireUTF8 env.occurredAt "occurred_at"
  requireUTF8 env.recordedAt "recorded_at"
  requireUTF8 env.producer "producer"
  requireUTF8 env.correlationID "correlation_id"
  optionally (requireUTF8 · "causation_id") env.causationID
  requireUTF8 env.traceID "trace_id"
  requireUUID env.eventID "event_id"
  requireLowerUUID env.tenantID "tenant_id"
  let wantAggregate ← familyAggregateType env.eventType env.eventSchemaVersion
  demand (env.aggregateType == wantAggregate) (.text "aggregate_type" env.aggregateType)
  requireCanonicalID env.aggregateID "aggregate_id"
  requireRange 1 env.aggregateVersion "aggregate_version"
  requireTimeZ env.occurredAt "occurred_at"
  requireTimeZ env.recordedAt "recorded_at"
  demand (env.producer == producerSyntheticERP) (.text "producer" env.producer)
  requireUUID env.correlationID "correlation_id"
  optionally (requireUUID · "causation_id") env.causationID
  demand (!Strings.isBlank env.traceID) (.missing "trace_id")
  validatePayload env

/-! ### What the checks establish -/

theorem demand_ok (condition : Bool) (reason : Reason) :
    demand condition reason = .ok () ↔ condition = true := by
  cases condition <;> simp [demand]

/-- A sequence of checks passes when each of them does. -/
theorem check_then_ok {Result : Type} (check : Checked Unit) (next : Unit → Checked Result)
    (result : Result) :
    (check >>= next) = .ok result ↔ check = .ok () ∧ next () = .ok result := by
  cases check with
  | error | ok => simp [bind, Except.bind]

/-- A check that computes a text passes when the text and the rest do. -/
theorem compute_then_ok {Result : Type} (compute : Checked Bytes)
    (next : Bytes → Checked Result) (result : Result) :
    (compute >>= next) = .ok result ↔
      ∃ middle, compute = .ok middle ∧ next middle = .ok result := by
  cases compute with
  | error | ok => simp [bind, Except.bind]

theorem optionally_ok (check : Bytes → Checked Unit) (value : Option Bytes) :
    optionally check value = .ok () ↔ ∀ text, value = some text → check text = .ok () := by
  cases value with
  | none | some => simp [optionally]

/-- An identifier that passed `requireCanonicalID`. -/
structure CanonicalID (value : Bytes) : Prop where
  nonempty : value ≠ []
  lowercase : value = Strings.toLower value
  spaceless : (Utf8.runes value).any Unicode.isSpace = false

theorem requireCanonicalID_ok (value : Bytes) (field : String) :
    requireCanonicalID value field = .ok () ↔ CanonicalID value := by
  simp only [requireCanonicalID, check_then_ok, demand_ok, Bool.not_eq_true',
    List.isEmpty_eq_false_iff, beq_iff_eq]
  exact ⟨fun ⟨first, second, third⟩ => ⟨first, second, third⟩,
    fun ⟨first, second, third⟩ => ⟨first, second, third⟩⟩

theorem requireRange_ok (low value : Int) (field : String) :
    requireRange low value field = .ok () ↔ low ≤ value ∧ value ≤ maxSafeInt := by
  simp [requireRange, demand_ok]

/-- The event type of a payload's family. -/
def Payload.eventType : Payload → Bytes
  | .quantityDecremented _ => eventTypeQuantityDecremented
  | .supplierRegistered _ => eventTypeSupplierRegistered
  | .ingredientLotReceived _ => eventTypeIngredientLotReceived
  | .productionBatchProduced _ => eventTypeProductionBatchProduced
  | .shipmentDispatched _ => eventTypeShipmentDispatched

/-- The aggregate type of a payload's family. -/
def Payload.aggregateType : Payload → Bytes
  | .quantityDecremented _ => aggregateTypeInventoryItem
  | .supplierRegistered _ => aggregateTypeSupplier
  | .ingredientLotReceived _ => aggregateTypeIngredientLot
  | .productionBatchProduced _ => aggregateTypeProductionBatch
  | .shipmentDispatched _ => aggregateTypeShipment

/-- The identifier by which a payload names its own aggregate. -/
def Payload.selfID : Payload → Bytes
  | .quantityDecremented payload => payload.itemID
  | .supplierRegistered payload => payload.supplierID
  | .ingredientLotReceived payload => payload.lotID
  | .productionBatchProduced payload => payload.batchID
  | .shipmentDispatched payload => payload.shipmentID

/-- The texts of a payload. -/
def Payload.texts : Payload → List Bytes
  | .quantityDecremented payload => [payload.orderID, payload.itemID]
  | .supplierRegistered payload => [payload.supplierID]
  | .ingredientLotReceived payload => [payload.lotID, payload.supplierID, payload.itemID]
  | .productionBatchProduced payload => [payload.batchID, payload.lotID]
  | .shipmentDispatched payload => [payload.shipmentID, payload.batchID, payload.orderID]

/-- The integers of a payload. -/
def Payload.numbers : Payload → List Int
  | .quantityDecremented payload =>
      [payload.quantityDecremented, payload.quantityBefore, payload.quantityAfter]
  | _ => []

/-- What a payload that passed its checks satisfies. -/
structure Payload.Fits (payload : Payload) (env : Envelope) : Prop where
  eventType : env.eventType = payload.eventType
  selfID : payload.selfID = env.aggregateID
  texts : ∀ text ∈ payload.texts, Utf8.validString text = true
  numbers : ∀ number ∈ payload.numbers, 0 ≤ number ∧ number ≤ maxSafeInt
  arithmetic : ∀ quantity, payload = .quantityDecremented quantity →
    quantity.quantityBefore - quantity.quantityDecremented = quantity.quantityAfter

theorem Payload.fits (payload : Payload) (env : Envelope)
    (passed : payload.validateAgainst env = .ok ()) : payload.Fits env := by
  cases payload with
  | quantityDecremented quantity =>
    simp only [Payload.validateAgainst, QuantityDecremented.validateAgainst, requireUTF8,
      requireUUID, check_then_ok, demand_ok, requireCanonicalID_ok, requireRange_ok,
      beq_iff_eq] at passed
    obtain ⟨type, order, item, -, -, self, decremented, before, after, arithmetic⟩ := passed
    refine ⟨type, self, ?_, ?_, ?_⟩
    · simp [Payload.texts, order, item]
    · simp only [Payload.numbers, List.forall_mem_cons]
      exact ⟨⟨by omega, decremented.2⟩, before, after, by simp⟩
    · rintro _ ⟨⟩
      exact arithmetic
  | supplierRegistered supplier =>
    simp only [Payload.validateAgainst, SupplierRegistered.validateAgainst, requireUTF8,
      check_then_ok, demand_ok, requireCanonicalID_ok, beq_iff_eq] at passed
    obtain ⟨type, text, -, self⟩ := passed
    exact ⟨type, self, by simp [Payload.texts, text], by simp [Payload.numbers], by simp⟩
  | ingredientLotReceived lot =>
    simp only [Payload.validateAgainst, IngredientLotReceived.validateAgainst, requireUTF8,
      check_then_ok, demand_ok, requireCanonicalID_ok, beq_iff_eq] at passed
    obtain ⟨type, lotText, supplierText, itemText, -, -, -, self⟩ := passed
    exact ⟨type, self, by simp [Payload.texts, lotText, supplierText, itemText],
      by simp [Payload.numbers], by simp⟩
  | productionBatchProduced batch =>
    simp only [Payload.validateAgainst, ProductionBatchProduced.validateAgainst, requireUTF8,
      check_then_ok, demand_ok, requireCanonicalID_ok, beq_iff_eq] at passed
    obtain ⟨type, batchText, lotText, -, -, self⟩ := passed
    exact ⟨type, self, by simp [Payload.texts, batchText, lotText], by simp [Payload.numbers],
      by simp⟩
  | shipmentDispatched shipment =>
    simp only [Payload.validateAgainst, ShipmentDispatched.validateAgainst, requireUTF8,
      requireUUID, check_then_ok, demand_ok, requireCanonicalID_ok, beq_iff_eq] at passed
    obtain ⟨type, shipmentText, batchText, orderText, -, -, -, self⟩ := passed
    exact ⟨type, self, by simp [Payload.texts, shipmentText, batchText, orderText],
      by simp [Payload.numbers], by simp⟩

/-- The texts of an envelope outside its payload. -/
def Envelope.texts (env : Envelope) : List Bytes :=
  [env.eventID, env.tenantID, env.eventType, env.aggregateType, env.aggregateID,
    env.occurredAt, env.recordedAt, env.producer, env.correlationID, env.traceID] ++
    env.causationID.toList

/-- What an envelope that passed `validate` satisfies. -/
structure Valid (env : Envelope) (payload : Payload) : Prop where
  texts : ∀ text ∈ env.texts, Utf8.validString text = true
  eventID : matchesUUID env.eventID = true
  tenantID : matchesUUID env.tenantID = true
  schema : env.eventSchemaVersion = schemaVersionV1
  aggregateType : env.aggregateType = payload.aggregateType
  version : 1 ≤ env.aggregateVersion ∧ env.aggregateVersion ≤ maxSafeInt
  occurredAt : Time.matchesTimeZ env.occurredAt = true
  recordedAt : Time.matchesTimeZ env.recordedAt = true
  correlationID : matchesUUID env.correlationID = true
  causationID : ∀ text, env.causationID = some text → matchesUUID text = true
  carried : env.payload = some payload
  fits : payload.Fits env

theorem familyAggregateType_payload (payload : Payload) (schema : Int) :
    familyAggregateType payload.eventType schema =
      if schema = schemaVersionV1 then .ok payload.aggregateType
      else .error (.unsupported (.number "event_schema_version" schema)) := by
  cases payload <;> rfl

theorem validate_ok (env : Envelope) (passed : validate env = .ok ()) :
    ∃ payload, Valid env payload := by
  simp only [validate, requireUTF8, requireUUID, requireLowerUUID, requireTimeZ, check_then_ok,
    compute_then_ok, demand_ok, requireCanonicalID_ok, requireRange_ok, optionally_ok,
    beq_iff_eq] at passed
  obtain ⟨eventText, tenantText, typeText, aggregateTypeText, aggregateText, occurredText,
    recordedText, producerText, correlationText, causationText, traceText, eventID, ⟨tenantID, -⟩,
    wanted, family, aggregateType, -, version, occurredAt, recordedAt, -, correlationID,
    causationID, -, payloadPassed⟩ := passed
  unfold validatePayload at payloadPassed
  cases present : env.payload with
  | none => simp [present] at payloadPassed
  | some payload =>
    simp only [present] at payloadPassed
    have fits := payload.fits env payloadPassed
    rw [fits.eventType, familyAggregateType_payload] at family
    have schema : env.eventSchemaVersion = schemaVersionV1 := by
      by_contra other
      rw [if_neg other] at family
      cases family
    rw [if_pos schema] at family
    cases family
    refine ⟨payload, ⟨?_, eventID, tenantID, schema, aggregateType, version, occurredAt,
      recordedAt, correlationID, causationID, present, fits⟩⟩
    simp only [Envelope.texts, List.mem_append, List.mem_cons, List.not_mem_nil, or_false,
      Option.mem_toList]
    rintro text ((rfl | rfl | rfl | rfl | rfl | rfl | rfl | rfl | rfl | rfl) | causation)
    all_goals first | assumption | exact causationText text causation

/-- What the checks establish beyond `Valid`. -/
theorem validate_checks (env : Envelope) (passed : validate env = .ok ()) :
    env.tenantID = Strings.toLower env.tenantID ∧ CanonicalID env.aggregateID ∧
      ∀ payload, env.payload = some payload → payload.validateAgainst env = .ok () := by
  simp only [validate, requireUTF8, requireUUID, requireLowerUUID, requireTimeZ, check_then_ok,
    compute_then_ok, demand_ok, requireCanonicalID_ok, requireRange_ok, optionally_ok,
    beq_iff_eq] at passed
  obtain ⟨-, -, -, -, -, -, -, -, -, -, -, -, ⟨-, lowercase⟩, wanted, -, -, canonical, -, -, -, -,
    -, -, -, fits⟩ := passed
  refine ⟨lowercase, canonical, fun payload carried => ?_⟩
  rwa [validatePayload, carried] at fits

theorem validate_canonicalID (env : Envelope) (passed : validate env = .ok ()) :
    CanonicalID env.aggregateID :=
  (validate_checks env passed).2.1

theorem validate_tenantID (env : Envelope) (passed : validate env = .ok ()) :
    env.tenantID = Strings.toLower env.tenantID :=
  (validate_checks env passed).1

/-- A decrement takes something. -/
theorem validate_decremented (env : Envelope) (passed : validate env = .ok ())
    {quantity : QuantityDecremented}
    (carried : env.payload = some (.quantityDecremented quantity)) :
    1 ≤ quantity.quantityDecremented := by
  have fits := (validate_checks env passed).2.2 _ carried
  simp only [Payload.validateAgainst, QuantityDecremented.validateAgainst, requireUTF8,
    requireUUID, check_then_ok, demand_ok, requireCanonicalID_ok, requireRange_ok,
    beq_iff_eq] at fits
  exact fits.2.2.2.2.2.2.1.1

/-- The bytes of a UUID are visible characters. -/
theorem visible_of_uuid {text : Bytes} (matched : matchesUUID text = true) :
    ∀ byte ∈ text, byte ≠ 0 ∧ byte < 0x80 ∧ Unicode.isSpace byte.toNat = false := by
  have digits : ∀ value < 256, isHex (UInt8.ofNat value) = true → UInt8.ofNat value ≠ 0 ∧
      UInt8.ofNat value < 0x80 ∧ Unicode.isSpace value = false := by decide +kernel
  simp only [matchesUUID, Bool.and_eq_true, List.all_eq_true] at matched
  intro byte member
  obtain ⟨place, found⟩ := List.getElem?_of_mem member
  have own := matched.2 (byte, place) (List.mk_mem_zipIdx_iff_getElem?.mpr found)
  simp only [uuidPlace] at own
  split_ifs at own
  · obtain rfl := beq_iff_eq.mp own
    decide
  · obtain rfl := beq_iff_eq.mp own
    decide
  · simp only [Bool.or_eq_true, beq_iff_eq] at own
    rcases own with ((((rfl | rfl) | rfl) | rfl) | rfl) | rfl <;> decide
  · have read := digits byte.toNat byte.toNat_lt
    rw [UInt8.ofNat_toNat] at read
    exact read own

end Event

end SeshatOps
