/-
This file models the record processor of the platform: `ProcessRecord` with everything it
calls, from the raw key and value of a delivered record to the transactions it commits.

The functions are programs over the statements of `SeshatOps/Statements.lean`, in the
order the source issues them. A rollback that the source defers is deferred here.
The re-drive loop takes a fuel, and stops with an error of its own when that runs out;
`SeshatOps/Redrive.lean` shows how much is enough. The hooks that tests set, and the
poison budget that only they can spend, are left out.
-/

import SeshatOps.Statements

namespace SeshatOps

open Relational Event

/-! ### The lenient recovery of an identity -/

/-- The letter case that `encoding/json` ignores when it matches a member with a field. -/
def foldRune (rune : Nat) : Nat :=
  if 0x41 ≤ rune ∧ rune ≤ 0x5A then rune + 0x20
  else if rune = 0x17F then 0x73
  else if rune = 0x212A then 0x6B
  else rune

/-- A member name that decodes into the field of the given name. -/
def matchesField (name : Bytes) (field : String) : Bool :=
  (Utf8.runes name).map foldRune == Utf8.runes (ascii field)

/-- The struct that a value which failed `Parse` is decoded into. -/
structure Probe where
  eventID : Bytes := []
  tenantID : Bytes := []
  eventType : Bytes := []
  eventSchemaVersion : Option Int := none
  aggregateType : Bytes := []
  aggregateID : Bytes := []
  aggregateVersion : Option Int := none

/-- Decode into a `string` field. A null leaves it alone. -/
def intoString (current : Bytes) : Json.Value → Option Bytes
  | .string content => some content
  | .null => some current
  | _ => none

/-- Decode into an `*int64` field. A null clears it. -/
def intoInt : Json.Value → Option (Option Int)
  | .number text => (Json.parseInt64 text).map some
  | .null => some none
  | _ => none

/-- Decode one member. `none` is a type error, which fails the whole decoding. -/
def Probe.assign (probe : Probe) (name : Bytes) (value : Json.Value) : Option Probe :=
  if matchesField name "event_id" then
    (intoString probe.eventID value).map fun text => { probe with eventID := text }
  else if matchesField name "tenant_id" then
    (intoString probe.tenantID value).map fun text => { probe with tenantID := text }
  else if matchesField name "event_type" then
    (intoString probe.eventType value).map fun text => { probe with eventType := text }
  else if matchesField name "event_schema_version" then
    (intoInt value).map fun number => { probe with eventSchemaVersion := number }
  else if matchesField name "aggregate_type" then
    (intoString probe.aggregateType value).map fun text => { probe with aggregateType := text }
  else if matchesField name "aggregate_id" then
    (intoString probe.aggregateID value).map fun text => { probe with aggregateID := text }
  else if matchesField name "aggregate_version" then
    (intoInt value).map fun number => { probe with aggregateVersion := number }
  else some probe

/-- `json.Unmarshal(value, &probe)`. -/
def unmarshalProbe (value : Bytes) : Option Probe :=
  match Json.Value.read value with
  | some (.object members) =>
      members.foldlM (fun probe member => probe.assign member.1 member.2) {}
  | some .null => some {}
  | _ => none

def nonEmptyPtr (text : Bytes) : Option Bytes := if text.isEmpty then none else some text

/-- The identity columns of a failure row. -/
structure Identity where
  eventID : Option Bytes := none
  tenantID : Option Bytes := none
  aggregateType : Option Bytes := none
  aggregateID : Option Bytes := none
  aggregateVersion : Option Int := none
  eventSchemaVersion : Option Int := none
  eventType : Option Bytes := none

def recoveredParseIdentity (value : Bytes) : Identity :=
  match unmarshalProbe value with
  | none => {}
  | some probe =>
      { eventID := nonEmptyPtr probe.eventID
        tenantID := nonEmptyPtr probe.tenantID
        eventType := nonEmptyPtr probe.eventType
        aggregateType := nonEmptyPtr probe.aggregateType
        aggregateID := nonEmptyPtr probe.aggregateID
        aggregateVersion := probe.aggregateVersion.filter (0 < ·)
        eventSchemaVersion := probe.eventSchemaVersion.filter (0 < ·) }

/-! ### Results -/

/-- The durable decision for one record. -/
structure Result where
  disposition : Option Disposition := none
  eventID : Bytes := []
  shouldAck : Bool := false
  deriving DecidableEq

/-- The result and the error that `ProcessRecord` returns together. -/
structure Outcome where
  result : Result
  error : Option ProcessError
  deriving DecidableEq

def receivedBytesHash (value : Bytes) : Bytes := digest value

/-- The failure row of a value that did not parse. -/
def parseFailureRow (value : Bytes) (pos : SourcePosition) (error : EventError) : FailureRow :=
  let category : FailureCategory :=
    match error with
    | .unsupported _ => .unsupportedContract
    | .malformed _ => .malformedEnvelope
  let identity := recoveredParseIdentity value
  { eventID := identity.eventID
    tenantID := identity.tenantID
    aggregateType := identity.aggregateType
    aggregateID := identity.aggregateID
    aggregateVersion := identity.aggregateVersion
    eventSchemaVersion := identity.eventSchemaVersion
    eventType := identity.eventType
    failureCategory := category
    contentHash := none
    receivedBytesHash := receivedBytesHash value
    source := pos
    attemptCount := 1
    diagnosticCode := category
    quarantineStatus := .quarantined }

def persistParseFailure (value : Bytes) (pos : SourcePosition) (error : EventError) :
    Action Result :=
  .inTransaction (.transient .begin) do
    upsertFailure (parseFailureRow value pos error)
    commitWithHook
    return { disposition := some .quarantinedInvalid, shouldAck := true }

/-- `persistConsumerUnsupported`, for a family that this consumer does not project. -/
def persistConsumerUnsupported (env : Envelope) (value : Bytes) (pos : SourcePosition) :
    Action Result :=
  .inTransaction (.transient .begin) do
    upsertFailure {
      eventID := some env.eventID
      tenantID := some env.tenantID
      aggregateType := some env.aggregateType
      aggregateID := some env.aggregateID
      aggregateVersion := some env.aggregateVersion
      eventSchemaVersion := some env.eventSchemaVersion
      eventType := some env.eventType
      failureCategory := .unsupportedContract
      contentHash := (contentHash env).toOption
      receivedBytesHash := receivedBytesHash value
      source := pos
      attemptCount := 1
      diagnosticCode := .unsupportedContract
      quarantineStatus := .quarantined }
    commitWithHook
    return { disposition := some .quarantinedInvalid, shouldAck := true }

/-! ### Families -/

def asQuantityDecremented (env : Envelope) : Option QuantityDecremented :=
  match env.payload with
  | some (.quantityDecremented payload) => some payload
  | _ => none

def isProjectionFamily (eventType : Bytes) : Bool :=
  eventType == eventTypeQuantityDecremented || eventType == eventTypeSupplierRegistered ||
    eventType == eventTypeIngredientLotReceived || eventType == eventTypeProductionBatchProduced ||
    eventType == eventTypeShipmentDispatched

/-- The identifier by which the payload names its aggregate, where the payload is of the family
that the event type says. -/
def projectionSelfID (env : Envelope) : Option Bytes :=
  match env.payload with
  | some payload => if env.eventType = payload.eventType then some payload.selfID else none
  | none => none

/-- The lineage table of an event type, `lineageLockQuery` and its siblings. -/
def hopKind (eventType : Bytes) : Option HopKind :=
  if eventType = eventTypeSupplierRegistered then some .supplier
  else if eventType = eventTypeIngredientLotReceived then some .ingredientLot
  else if eventType = eventTypeProductionBatchProduced then some .productionBatch
  else if eventType = eventTypeShipmentDispatched then some .shipment
  else none

/-- The identifiers of the hop that a lineage payload describes. -/
def payloadHop (tenantID : Bytes) : Payload → Option Hop
  | .quantityDecremented _ => none
  | .supplierRegistered payload => some ⟨.supplier, tenantID, payload.supplierID, [], [], []⟩
  | .ingredientLotReceived payload =>
      some ⟨.ingredientLot, tenantID, payload.lotID, payload.supplierID, payload.itemID, []⟩
  | .productionBatchProduced payload =>
      some ⟨.productionBatch, tenantID, payload.batchID, payload.lotID, [], []⟩
  | .shipmentDispatched payload =>
      some ⟨.shipment, tenantID, payload.shipmentID, payload.batchID, [], payload.orderID⟩

theorem payloadHop_tenantID {tenantID : Bytes} {payload : Payload} {hop : Hop}
    (described : payloadHop tenantID payload = some hop) : hop.tenantID = tenantID := by
  cases payload <;> cases described <;> rfl

/-- The row that `insertLineageHop` inserts for an envelope. -/
def lineageRow (env : Envelope) (hop : Hop) : LineageRow where
  hop := hop
  aggregateVersion := env.aggregateVersion
  sourceEventID := env.eventID
  eventSchemaVersion := env.eventSchemaVersion
  occurredAt := env.occurredAt
  recordedAt := env.recordedAt
  correlationID := env.correlationID
  causationID := env.causationID
  traceID := env.traceID

/-! ### Applying an event -/

/-- The inbox row of an envelope under a disposition. -/
def inboxRow (env : Envelope) (hash : Bytes) (disposition : Disposition) : InboxRow where
  eventID := env.eventID
  tenantID := env.tenantID
  contentHash := hash
  aggregateType := env.aggregateType
  aggregateID := env.aggregateID
  aggregateVersion := env.aggregateVersion
  disposition := disposition

/-- The inbox row of an envelope that came at an unexpected version. -/
def versionedRow (env : Envelope) (hash : Bytes) (disposition : Disposition) (expected : Int)
    (bytes : Bytes) : InboxRow :=
  { inboxRow env hash disposition with
    expectedVersion := some expected
    receivedVersion := some env.aggregateVersion
    eventBytes := nullBytes bytes }

/-- Write the inbox row and return its disposition. -/
def record (row : InboxRow) : Action Disposition := do
  upsertInbox row
  return row.disposition

def applyProjection (env : Envelope) (hash canonical : Bytes) : Action Disposition :=
  match asQuantityDecremented env with
  | none => .fail (.event (.malformed .payloadTypeMismatch))
  | some payload => do
      match ← lockProjection env.tenantID env.aggregateID with
      | none =>
          if env.aggregateVersion ≠ 1 then
            record (versionedRow env hash .quarantinedGap 1 canonical)
          else do
            insertProjection ⟨env.tenantID, env.aggregateID, payload.quantityAfter, 1⟩
            record (inboxRow env hash .applied)
      | some current =>
          if env.aggregateVersion ≤ current.aggregateVersion then
            record (versionedRow env hash .quarantinedStale (current.aggregateVersion + 1) [])
          else if env.aggregateVersion > current.aggregateVersion + 1 then
            record (versionedRow env hash .quarantinedGap (current.aggregateVersion + 1) canonical)
          else if payload.quantityBefore ≠ current.quantityOnHand then
            record (inboxRow env hash .quarantinedTransition)
          else if payload.quantityBefore - payload.quantityDecremented ≠ payload.quantityAfter then
            record (inboxRow env hash .quarantinedInvalid)
          else do
            updateProjection
              ⟨env.tenantID, env.aggregateID, payload.quantityAfter, env.aggregateVersion⟩
            record (inboxRow env hash .applied)

def lineageExistingDisposition (current incoming : Int) : Disposition :=
  if incoming ≤ current then .quarantinedStale
  else if incoming > current + 1 then .quarantinedGap
  else .quarantinedInvalid

def gapBytes (disposition : Disposition) (canonical : Bytes) : Bytes :=
  if disposition = .quarantinedGap then canonical else []

def insertLineageHop (kind : HopKind) (env : Envelope) : Action Bool :=
  match env.payload.bind (payloadHop env.tenantID) with
  | some hop =>
      if hop.kind = kind then
        .exec (insertLineageStatement (lineageRow env hop)) (.transient (.insertLineage kind))
      else .fail (.event (.malformed .payloadTypeMismatch))
  | none => .fail (.event (.malformed .payloadTypeMismatch))

def applyLineage (kind : HopKind) (env : Envelope) (hash canonical : Bytes) :
    Action Disposition := do
  let key := (kind, env.tenantID, env.aggregateID)
  match ← lockLineageVersion key with
  | some current =>
      let disposition := lineageExistingDisposition current env.aggregateVersion
      -- A stale version of the hop's own source event is a concurrent identical delivery.
      let own ← if disposition = .quarantinedStale then lineageSourceEventID key else pure none
      if own = some env.eventID then record (inboxRow env hash .duplicateNoop)
      else record (versionedRow env hash disposition (current + 1) (gapBytes disposition canonical))
  | none =>
      if env.aggregateVersion ≠ 1 then
        record (versionedRow env hash .quarantinedGap 1 canonical)
      else
        let inserted ← insertLineageHop kind env
        if inserted then record (inboxRow env hash .applied)
        else
          let own ← lineageSourceEventID key
          if own = some env.eventID then record (inboxRow env hash .duplicateNoop)
          else record (inboxRow env hash .quarantinedInvalid)

def applyEvent (env : Envelope) (hash canonical : Bytes) : Action Disposition :=
  if env.eventType = eventTypeQuantityDecremented then applyProjection env hash canonical
  else
    match hopKind env.eventType with
    | some kind => applyLineage kind env hash canonical
    | none => .fail (.event (.malformed .payloadTypeMismatch))

/-! ### Processing a validated event -/

/-- A computation of the event contract inside the processor. -/
def checked {Value : Type} (failure : EventError → ProcessError) : Checked Value → Action Value
  | .ok value => .done (.ok value)
  | .error error => .done (.error (failure error))

/-- The result of a decision that is durable. -/
def decided (env : Envelope) (disposition : Disposition) : Result :=
  { disposition := some disposition, eventID := env.eventID, shouldAck := true }

/-- The rest of the transaction for an event that no earlier decision settles. -/
def applyAndCommit (env : Envelope) (hash canonical : Bytes) : Action Result := do
  let disposition ← applyEvent env hash canonical
  commitWithHook
  if disposition = .applied ∧ env.eventType = eventTypeQuantityDecremented then
    match asQuantityDecremented env with
    | none => .fail (.event (.malformed .payloadTypeMismatch))
    | some payload => do
        .notify {
          tenantID := env.tenantID
          itemID := env.aggregateID
          quantityOnHand := payload.quantityAfter
          aggregateVersion := env.aggregateVersion
          eventID := env.eventID }
        return decided env disposition
  else return decided env disposition

/-- Record a disposition, commit and return it. -/
def recordAndCommit (env : Envelope) (row : InboxRow) : Action Result := do
  let disposition ← record row
  commitWithHook
  return decided env disposition

def processValidated (env : Envelope) : Action Result := do
  let hash ← checked .contentHash (contentHash env)
  let canonical ← checked .canonicalBytes (canonicalBytes env)
  .inTransaction (.transient .begin) do
    match ← lockInbox env.eventID with
    | none => applyAndCommit env hash canonical
    | some existing =>
        if existing.contentHash ≠ hash then
          recordAndCommit env (inboxRow env existing.contentHash .quarantinedConflict)
        else if existing.disposition.settled then
          recordAndCommit env (inboxRow env hash .duplicateNoop)
        else if existing.disposition = .quarantinedGap then applyAndCommit env hash canonical
        else do
          commitWithHook
          return decided env existing.disposition

def quarantineInbox (env : Envelope) (disposition : Disposition)
    (expected received : Option Int) : Action Result :=
  let hash := (contentHash env).toOption.getD []
  let canonical := gapBytes disposition ((canonicalBytes env).toOption.getD [])
  .inTransaction (.transient .begin) do
    recordAndCommit env
      { inboxRow env hash disposition with
        expectedVersion := expected
        receivedVersion := received
        eventBytes := nullBytes canonical }

/-! ### The re-drive of gaps -/

def redriveGaps (tenantID aggregateType aggregateID : Bytes) : Nat → Action Unit
  | 0 => .fail .unfinished
  | fuel + 1 => do
      match ← selectGap tenantID aggregateType aggregateID with
      | none => return ()
      | some gap =>
          match parse (gap.eventBytes.getD []) with
          | .error error => .fail (.redriveParse gap.eventID error)
          | .ok env => do
              let hash ← checked .event (contentHash env)
              if hash ≠ gap.contentHash then
                let _ ← quarantineInbox env .quarantinedConflict none none
                redriveGaps tenantID aggregateType aggregateID fuel
              else
                let result ← processValidated env
                if result.disposition ≠ some .applied then return ()
                else redriveGaps tenantID aggregateType aggregateID fuel

/-! ### ProcessRecord -/

/-- Return the result of an action, or its error with the zero result. -/
def settle (action : Action Result) : Action Outcome := do
  match ← action.attempt with
  | .ok result => return ⟨result, none⟩
  | .error error => return ⟨{}, some error⟩

/-- A record whose envelope parsed and whose key is the envelope's own. -/
def processKeyed (fuel : Nat) (env : Envelope) : Action Outcome := do
  match ← (processValidated env).attempt with
  | .error error => return ⟨{}, some error⟩
  | .ok result =>
      if result.disposition = some .applied ∨ result.disposition = some .duplicateNoop then
        match ← (redriveGaps env.tenantID env.aggregateType env.aggregateID fuel).attempt with
        | .error error => return ⟨{ result with shouldAck := false }, some (.gapRedrive error)⟩
        | .ok () => return ⟨result, none⟩
      else return ⟨result, none⟩

def processRecord (fuel : Nat) (key value : Bytes) (pos : SourcePosition) : Action Outcome :=
  let pos := if pos.topic.isEmpty then { pos with topic := relayTopic } else pos
  match parse value with
  | .error error => settle (persistParseFailure value pos error)
  | .ok env =>
      if !isProjectionFamily env.eventType then settle (persistConsumerUnsupported env value pos)
      else
        match projectionSelfID env with
        | none => settle (persistParseFailure value pos (.malformed .payloadTypeMismatch))
        | some selfID =>
            if key ≠ aggregateKey env.tenantID env.aggregateType env.aggregateID ∨
                selfID ≠ env.aggregateID then
              settle (quarantineInbox env .quarantinedMismatch none none)
            else processKeyed fuel env

end SeshatOps
