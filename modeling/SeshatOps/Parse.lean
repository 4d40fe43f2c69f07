/-
This file models `Parse`: the strict decoder of the event contract.

`decodeStrict` first refuses bytes that are not UTF-8 or that hold a lone surrogate
escape, then reads one value token by token, with no arrays, no booleans, no number
that is not a safe integer and no object with two members of one name.
`envelopeFromObject` wants exactly the members of an envelope, and `validate` has the
last word. The token readers take a fuel that the length of the input covers.
-/

import SeshatOps.Canonical

namespace SeshatOps

namespace Event

/-! ### Refusing what other readers would rewrite -/

/-- The unit of a `\u` escape, given the bytes after the `u`. -/
def parseJSONUnicodeEscape (bytes : Bytes) : Checked (Nat × Bytes) :=
  if bytes.length < 4 then .error (.malformed .incompleteUnicodeEscape)
  else
    match Json.hexUnit bytes with
    | some found => .ok found
    | none => .error (.malformed .invalidUnicodeEscape)

/-- Scan for lone surrogates; `inString` says whether the position is inside a literal. -/
def rejectUnpairedSurrogateEscapes : Nat → Bool → Bytes → Checked Unit
  | 0, _, _ => .ok ()
  | _ + 1, _, [] => .ok ()
  | fuel + 1, false, byte :: rest =>
      rejectUnpairedSurrogateEscapes fuel (byte == Json.quote) rest
  | fuel + 1, true, byte :: rest =>
      if byte = Json.backslash then
        match rest with
        | [] => .error (.malformed .incompleteStringEscape)
        | escape :: after =>
            if escape = 0x75 ∨ escape = 0x55 then do
              let (unit, next) ← parseJSONUnicodeEscape after
              if Json.isHighSurrogate unit then
                match next with
                | 0x5C :: mark :: lowDigits =>
                    if mark = 0x75 ∨ mark = 0x55 then do
                      let (low, afterLow) ← parseJSONUnicodeEscape lowDigits
                      if Json.isLowSurrogate low then
                        rejectUnpairedSurrogateEscapes fuel true afterLow
                      else .error (.malformed .unpairedSurrogate)
                    else .error (.malformed .unpairedSurrogate)
                | _ => .error (.malformed .unpairedSurrogate)
              else if Json.isLowSurrogate unit then .error (.malformed .unpairedSurrogate)
              else rejectUnpairedSurrogateEscapes fuel true next
            else rejectUnpairedSurrogateEscapes fuel true after
      else rejectUnpairedSurrogateEscapes fuel (byte != Json.quote) rest

def ensureJCSCompatibleJSON (raw : Bytes) : Checked Unit := do
  demand (Utf8.validString raw) (.notUTF8 "input")
  rejectUnpairedSurrogateEscapes (raw.length + 1) false raw

/-! ### The strict decoder -/

def parseIntegerNumber (text : Bytes) : Checked Int :=
  if text.any fun byte => byte == 0x2E || byte == 0x65 || byte == 0x45 then
    .error (.malformed (.nonInteger text))
  else if text.length > 1 ∧
      (text.head? = some 0x30 ∨
        (text.head? = some 0x2D ∧ text.length > 2 ∧ (text.drop 1).head? = some 0x30)) then
    .error (.malformed (.leadingZeros text))
  else
    match Json.parseInt64 text with
    | none => .error (.malformed (.integerRange text))
    | some value =>
        if value < 0 ∨ value > maxSafeInt then .error (.malformed (.integerAllowedRange value))
        else .ok value

/-- What a reader found, or the token reader's syntax error. -/
def orSyntaxError {Found : Type} : Option Found → Checked Found
  | some found => .ok found
  | none => .error (.malformed .json)

mutual

def decodeValue : Nat → Bytes → Checked (JValue × Bytes)
  | 0, _ => .error (.malformed .json)
  | fuel + 1, bytes =>
      match Json.skipSpace bytes with
      | [] => .error (.malformed .json)
      | byte :: rest =>
          if byte = Json.openBrace then decodeObject fuel true [] rest
          else if byte = Json.openBracket then .error (.malformed .array)
          else if byte = Json.quote then do
            let (content, tail) ← orSyntaxError (Json.readString rest)
            return (.string content, tail)
          else if byte = 0x74 then do
            let _ ← orSyntaxError (Json.readLiteral (ascii "rue") rest)
            .error (.malformed .boolean)
          else if byte = 0x66 then do
            let _ ← orSyntaxError (Json.readLiteral (ascii "alse") rest)
            .error (.malformed .boolean)
          else if byte = 0x6E then do
            let tail ← orSyntaxError (Json.readLiteral (ascii "ull") rest)
            return (.null, tail)
          else do
            let (text, tail) ← orSyntaxError (Json.readNumber (byte :: rest))
            let value ← parseIntegerNumber text
            return (.integer value, tail)

/-- The members of an object after its brace, or after the members in `out`. -/
def decodeObject : Nat → Bool → List (Bytes × JValue) → Bytes → Checked (JValue × Bytes)
  | 0, _, _, _ => .error (.malformed .json)
  | fuel + 1, first, out, bytes =>
      match Json.skipSpace bytes with
      | [] => .error (.malformed .json)
      | byte :: rest =>
          if byte = Json.closeBrace then .ok (.object out, rest)
          else do
            let opened ←
              if first then orSyntaxError (if byte = Json.quote then some rest else none)
              else if byte = Json.comma then
                match Json.skipSpace rest with
                | 0x22 :: opened => .ok opened
                | _ => .error (.malformed .json)
              else .error (.malformed .json)
            let (name, afterName) ← orSyntaxError (Json.readString opened)
            demand (out.lookup name).isNone (.duplicateMember name)
            match Json.skipSpace afterName with
            | 0x3A :: afterColon => do
                let (value, tail) ← decodeValue fuel afterColon
                decodeObject fuel false (out ++ [(name, value)]) tail
            | _ => .error (.malformed .json)

end

def decodeStrict (raw : Bytes) : Checked JValue := do
  ensureJCSCompatibleJSON raw
  let (value, rest) ← decodeValue (raw.length + 1) raw
  demand (Json.skipSpace rest).isEmpty .trailing
  return value

/-! ### Envelopes from objects -/

def asString (value : Option JValue) (field : String) : Checked Bytes :=
  match value with
  | some (.string content) => .ok content
  | _ => .error (.malformed (.notString field))

def asNullableString (value : Option JValue) (field : String) : Checked (Option Bytes) :=
  match value with
  | some .null | none => .ok none
  | some (.string content) => .ok (some content)
  | _ => .error (.malformed (.notNullableString field))

def asInt (value : Option JValue) (field : String) : Checked Int :=
  match value with
  | some (.integer number) => .ok number
  | _ => .error (.malformed (.notInteger field))

/-- Exactly the given members, each under its name. -/
def requireKeys (object : List (Bytes × JValue)) (keys : List String)
    (missing : String → Reason) (unknown : Bytes → Reason) : Checked Unit :=
  match keys.find? fun key => (object.lookup (ascii key)).isNone with
  | some key => .error (.malformed (missing key))
  | none =>
      match object.find? fun member => !(keys.map ascii).contains member.1 with
      | some member => .error (.malformed (unknown member.1))
      | none => .ok ()

def requirePayloadKeys (object : List (Bytes × JValue)) (keys : List String) : Checked Unit :=
  requireKeys object keys (fun key => .missing ("payload." ++ key)) .unknownPayloadField

def quantityDecrementedFromObject (object : List (Bytes × JValue)) :
    Checked QuantityDecremented := do
  requirePayloadKeys object
    ["order_id", "item_id", "quantity_decremented", "quantity_before", "quantity_after"]
  let orderID ← asString (object.lookup (ascii "order_id")) "payload.order_id"
  let itemID ← asString (object.lookup (ascii "item_id")) "payload.item_id"
  let quantityDecremented ←
    asInt (object.lookup (ascii "quantity_decremented")) "payload.quantity_decremented"
  let quantityBefore ← asInt (object.lookup (ascii "quantity_before")) "payload.quantity_before"
  let quantityAfter ← asInt (object.lookup (ascii "quantity_after")) "payload.quantity_after"
  return ⟨orderID, itemID, quantityDecremented, quantityBefore, quantityAfter⟩

def supplierRegisteredFromObject (object : List (Bytes × JValue)) :
    Checked SupplierRegistered := do
  requirePayloadKeys object ["supplier_id"]
  let supplierID ← asString (object.lookup (ascii "supplier_id")) "payload.supplier_id"
  return ⟨supplierID⟩

def ingredientLotReceivedFromObject (object : List (Bytes × JValue)) :
    Checked IngredientLotReceived := do
  requirePayloadKeys object ["lot_id", "supplier_id", "item_id"]
  let lotID ← asString (object.lookup (ascii "lot_id")) "payload.lot_id"
  let supplierID ← asString (object.lookup (ascii "supplier_id")) "payload.supplier_id"
  let itemID ← asString (object.lookup (ascii "item_id")) "payload.item_id"
  return ⟨lotID, supplierID, itemID⟩

def productionBatchProducedFromObject (object : List (Bytes × JValue)) :
    Checked ProductionBatchProduced := do
  requirePayloadKeys object ["batch_id", "lot_id"]
  let batchID ← asString (object.lookup (ascii "batch_id")) "payload.batch_id"
  let lotID ← asString (object.lookup (ascii "lot_id")) "payload.lot_id"
  return ⟨batchID, lotID⟩

def shipmentDispatchedFromObject (object : List (Bytes × JValue)) :
    Checked ShipmentDispatched := do
  requirePayloadKeys object ["shipment_id", "batch_id", "order_id"]
  let shipmentID ← asString (object.lookup (ascii "shipment_id")) "payload.shipment_id"
  let batchID ← asString (object.lookup (ascii "batch_id")) "payload.batch_id"
  let orderID ← asString (object.lookup (ascii "order_id")) "payload.order_id"
  return ⟨shipmentID, batchID, orderID⟩

def payloadFromObject (eventType : Bytes) (schema : Int) (object : List (Bytes × JValue)) :
    Checked Payload := do
  let _ ← familyAggregateType eventType schema
  if eventType = eventTypeQuantityDecremented then
    return .quantityDecremented (← quantityDecrementedFromObject object)
  else if eventType = eventTypeSupplierRegistered then
    return .supplierRegistered (← supplierRegisteredFromObject object)
  else if eventType = eventTypeIngredientLotReceived then
    return .ingredientLotReceived (← ingredientLotReceivedFromObject object)
  else if eventType = eventTypeProductionBatchProduced then
    return .productionBatchProduced (← productionBatchProducedFromObject object)
  else if eventType = eventTypeShipmentDispatched then
    return .shipmentDispatched (← shipmentDispatchedFromObject object)
  else .error (.unsupported (.text "event_type" eventType))

/-- The members of an envelope. -/
def envelopeKeys : List String :=
  ["event_id", "tenant_id", "event_type", "event_schema_version", "aggregate_type",
    "aggregate_id", "aggregate_version", "occurred_at", "recorded_at", "producer",
    "correlation_id", "causation_id", "trace_id", "payload"]

def envelopeFromObject (object : List (Bytes × JValue)) : Checked Envelope := do
  requireKeys object envelopeKeys .missing .unknownField
  let eventID ← asString (object.lookup (ascii "event_id")) "event_id"
  let tenantID ← asString (object.lookup (ascii "tenant_id")) "tenant_id"
  let eventType ← asString (object.lookup (ascii "event_type")) "event_type"
  let eventSchemaVersion ←
    asInt (object.lookup (ascii "event_schema_version")) "event_schema_version"
  let aggregateType ← asString (object.lookup (ascii "aggregate_type")) "aggregate_type"
  let aggregateID ← asString (object.lookup (ascii "aggregate_id")) "aggregate_id"
  let aggregateVersion ← asInt (object.lookup (ascii "aggregate_version")) "aggregate_version"
  let occurredAt ← asString (object.lookup (ascii "occurred_at")) "occurred_at"
  let recordedAt ← asString (object.lookup (ascii "recorded_at")) "recorded_at"
  let producer ← asString (object.lookup (ascii "producer")) "producer"
  let correlationID ← asString (object.lookup (ascii "correlation_id")) "correlation_id"
  let causationID ← asNullableString (object.lookup (ascii "causation_id")) "causation_id"
  let traceID ← asString (object.lookup (ascii "trace_id")) "trace_id"
  let payload ←
    match object.lookup (ascii "payload") with
    | some (.object members) => payloadFromObject eventType eventSchemaVersion members
    | _ => .error (.malformed (.notObject "payload"))
  return {
    eventID, tenantID, eventType, eventSchemaVersion, aggregateType, aggregateID,
    aggregateVersion, occurredAt, recordedAt, producer, correlationID, causationID, traceID,
    payload := some payload }

def parse (raw : Bytes) : Checked Envelope := do
  let root ← decodeStrict raw
  match root with
  | .object members => do
      let env ← envelopeFromObject members
      validate env
      return env
  | _ => .error (.malformed (.notObject "root"))

/-- What `parse` returns has passed `validate`. -/
theorem parse_valid (raw : Bytes) (env : Envelope) (parsed : parse raw = .ok env) :
    validate env = .ok () := by
  unfold parse at parsed
  cases decoded : decodeStrict raw with
  | error error => simp [decoded, bind, Except.bind] at parsed
  | ok root =>
    simp only [decoded, bind, Except.bind] at parsed
    cases root with
    | object members =>
      cases read : envelopeFromObject members with
      | error error => simp [read] at parsed
      | ok found =>
        simp only [read] at parsed
        cases passed : validate found with
        | error error => simp [passed] at parsed
        | ok done =>
          simp only [passed, pure, Except.pure, Except.ok.injEq] at parsed
          rw [← parsed]
          exact passed
    | null => cases parsed
    | string content => cases parsed
    | integer value => cases parsed

end Event

end SeshatOps
