/-
This file models the canonical form of an envelope: the RFC 8785 serialisation of
`CanonicalBytes` and the digest of `ContentHash` over it.

A value of the contract is null, a string, an integer or an object. An object is
written with its members sorted by the UTF-16 units of their names. The writer's
escapes are all of ASCII characters, so it works byte by byte and the bytes of longer
characters pass through unchanged.
-/

import Mathlib.Data.List.Sort
import SeshatOps.Digest
import SeshatOps.Event

namespace SeshatOps

namespace Event

/-! ### Values and their canonical text -/

/-- The values the contract permits: `nil`, `string`, `int64` and `map[string]any`. -/
inductive JValue
  | null
  | string (content : Bytes)
  | integer (value : Int)
  | object (members : List (Bytes × JValue))

/-- The UTF-16 units of a string. -/
def utf16 (bytes : Bytes) : List Nat :=
  (Utf8.runes bytes).flatMap fun rune =>
    if rune < 0x10000 then [rune]
    else [0xD800 + (rune - 0x10000) / 0x400, 0xDC00 + (rune - 0x10000) % 0x400]

def lessUTF16 (first second : Bytes) : Bool := decide (utf16 first < utf16 second)

/-- One byte of a string's content. -/
def jcsByte (byte : UInt8) : Bytes :=
  if byte = 0x22 ∨ byte = 0x5C then [0x5C, byte]
  else if byte = 0x08 then [0x5C, 0x62]
  else if byte = 0x0C then [0x5C, 0x66]
  else if byte = 0x0A then [0x5C, 0x6E]
  else if byte = 0x0D then [0x5C, 0x72]
  else if byte = 0x09 then [0x5C, 0x74]
  else if byte < 0x20 then
    [0x5C, 0x75, 0x30, 0x30, Hex.digit (byte.toNat / 16), Hex.digit (byte.toNat % 16)]
  else [byte]

def jcsString (content : Bytes) : Checked Bytes := do
  demand (Utf8.validString content) (.notUTF8 "string")
  return [Json.quote] ++ content.flatMap jcsByte ++ [Json.quote]

/-- The members of an object in the order they are written. -/
def sortMembers {Member : Type} (members : List (Bytes × Member)) : List (Bytes × Member) :=
  members.insertionSort fun first second => lessUTF16 second.1 first.1 = false

/-- An object of members that are written already. -/
def jcsObject (members : List (Bytes × Bytes)) : Bytes :=
  [Json.openBrace] ++ [Json.comma].intercalate ((sortMembers members).map Prod.snd) ++
    [Json.closeBrace]

mutual

def jcsValue : JValue → Checked Bytes
  | .null => .ok (ascii "null")
  | .string content => jcsString content
  | .integer value => .ok (Json.formatInt value)
  | .object members => do
      let written ← jcsMembers members
      return jcsObject written

/-- Each member as `"name":value`, under its name. -/
def jcsMembers : List (Bytes × JValue) → Checked (List (Bytes × Bytes))
  | [] => .ok []
  | (name, value) :: rest => do
      let writtenName ← jcsString name
      let writtenValue ← jcsValue value
      let writtenRest ← jcsMembers rest
      return (name, writtenName ++ [Json.colon] ++ writtenValue) :: writtenRest

end

/-! ### Envelopes as values -/

def Payload.payloadMap : Payload → List (Bytes × JValue)
  | .quantityDecremented payload =>
      [(ascii "order_id", .string payload.orderID), (ascii "item_id", .string payload.itemID),
        (ascii "quantity_decremented", .integer payload.quantityDecremented),
        (ascii "quantity_before", .integer payload.quantityBefore),
        (ascii "quantity_after", .integer payload.quantityAfter)]
  | .supplierRegistered payload => [(ascii "supplier_id", .string payload.supplierID)]
  | .ingredientLotReceived payload =>
      [(ascii "lot_id", .string payload.lotID), (ascii "supplier_id", .string payload.supplierID),
        (ascii "item_id", .string payload.itemID)]
  | .productionBatchProduced payload =>
      [(ascii "batch_id", .string payload.batchID), (ascii "lot_id", .string payload.lotID)]
  | .shipmentDispatched payload =>
      [(ascii "shipment_id", .string payload.shipmentID),
        (ascii "batch_id", .string payload.batchID), (ascii "order_id", .string payload.orderID)]

def nullable : Option Bytes → JValue
  | none => .null
  | some text => .string text

/-- The envelope as a map. A missing payload never gets here: `validate` comes first. -/
def envelopeMap (env : Envelope) : List (Bytes × JValue) :=
  [(ascii "event_id", .string env.eventID), (ascii "tenant_id", .string env.tenantID),
    (ascii "event_type", .string env.eventType),
    (ascii "event_schema_version", .integer env.eventSchemaVersion),
    (ascii "aggregate_type", .string env.aggregateType),
    (ascii "aggregate_id", .string env.aggregateID),
    (ascii "aggregate_version", .integer env.aggregateVersion),
    (ascii "occurred_at", .string env.occurredAt), (ascii "recorded_at", .string env.recordedAt),
    (ascii "producer", .string env.producer),
    (ascii "correlation_id", .string env.correlationID),
    (ascii "causation_id", nullable env.causationID), (ascii "trace_id", .string env.traceID),
    (ascii "payload", .object ((env.payload.map Payload.payloadMap).getD []))]

/-! ### The canonical bytes and their digest -/

def canonicalBytes (env : Envelope) : Checked Bytes := do
  validate env
  jcsValue (.object (envelopeMap env))

def contentHash (env : Envelope) : Checked Bytes := do
  let bytes ← canonicalBytes env
  return digest bytes

theorem contentHash_eq (env : Envelope) : contentHash env = (canonicalBytes env).map digest := by
  unfold contentHash
  cases canonicalBytes env <;> rfl

end Event

end SeshatOps
