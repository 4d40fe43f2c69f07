/-
This file models the rebuilds of the derived tables: `ResetDerivedState` and
`RebuildFromHistory`, which replay a list of retained records over the tables of all
tenants, and the controls of one tenant, `ResetDerivedStateForTenant`,
`LoadTenantOutboxHistory`, `ReplayTenantHistory` and `RebuildTenantFromHistory`, which
replay what the outbox still holds.

A reset is one transaction of deletes. A replay puts its records through `ProcessRecord`
one by one, keeps count of the dispositions, and ends with two counts over what is left
in the tables and the two checksums. The functions return a result together with an
error, and may return early with both; `Control` carries such an early return.
-/

import SeshatOps.Checksum
import SeshatOps.Process

namespace SeshatOps

open Relational Event

/-! ### Results -/

/-- `HandlerVersion`. -/
def handlerVersion : Bytes := ascii "m1-inventory-projection-v1"

/-- `OperatorReplayPartition`. -/
def operatorReplayPartition : Int := 1

/-- `northstar.DefaultSeed`. -/
def defaultSeed : Bytes := ascii "northstar-m1-order-line-v1"

/-- What the checksum is said to be computed from. -/
def checksumInputsText : Bytes :=
  ascii "tenant inventory_projection rows: tenant_id, item_id, quantity_on_hand, "
    ++ ascii "aggregate_version (CONTRACTS.md " ++ [0xC2, 0xA7] ++ ascii "8)"

/-- The limitations of a rebuild over all tenants. -/
def localLimitations : Bytes :=
  ascii "Local library rebuild only; not a hosted FC-014 campaign; not Identity & Operations "
    ++ ascii "operator recovery or Traceability & Recovery backup/restore."

/-- The limitations of a control of one tenant. -/
def tenantLimitations : Bytes :=
  ascii "Tenant-scoped operator replay/rebuild; not Traceability & Recovery backup/restore; "
    ++ ascii "not a hosted FC-014 campaign."

/-- The status of a rebuild; the zero value of a result has none. -/
inductive RebuildStatus
  | unset
  | complete
  | incomplete
  deriving DecidableEq, Repr

/-- One retained delivery. -/
structure HistoryRecord where
  key : Bytes
  value : Bytes
  pos : SourcePosition
  deriving DecidableEq

structure ReproductionMetadata where
  seed : Bytes := []
  eventContractVersion : Int := 0
  handlerVersion : Bytes := []
  commit : Bytes := []
  brokerTopic : Bytes := []
  brokerPartitionMin : Int := 0
  brokerPartitionMax : Int := 0
  brokerOffsetMin : Int := 0
  brokerOffsetMax : Int := 0
  checksumInputs : Bytes := []
  checksum : Bytes := []
  rebuildStatus : RebuildStatus := .unset
  limitations : Bytes := []
  deriving DecidableEq

structure RebuildOptions where
  tenantID : Bytes
  resetFirst : Bool
  metadata : ReproductionMetadata := {}

/-- Why a rebuild is incomplete. -/
inductive IncompleteReason
  /-- `empty retained history` -/
  | emptyHistory
  /-- `record[<index>] transient/non-ack failure: <error>` -/
  | nonAck (index : Nat) (error : ProcessError)
  /-- `record[<index>] parse: <error>` -/
  | parse (index : Nat) (error : EventError)
  /-- `record[<index>] disposition <disposition>` -/
  | disposition (index : Nat) (disposition : Disposition)
  /-- `record[<index>] missing disposition (failure path)` -/
  | missingDisposition (index : Nat)
  /-- `<count> residual quarantined_gap row(s)` -/
  | residualGaps (count : Nat)
  /-- `<count> processing_failures row(s)` -/
  | processingFailures (count : Nat)
  /-- `missing tenant_id for checksum` -/
  | missingTenant
  deriving DecidableEq

/-- The outcome of a replay. A record without a disposition is listed as `(none)`. -/
structure RebuildResult where
  status : RebuildStatus := .unset
  checksum : Bytes := []
  lineageChecksum : Bytes := []
  applied : Nat := 0
  duplicateNoop : Nat := 0
  quarantined : Nat := 0
  failures : Nat := 0
  incompleteReasons : List IncompleteReason := []
  metadata : ReproductionMetadata := {}
  dispositions : List (Option Disposition) := []
  deriving DecidableEq

/-- The tables that a reset empties. -/
inductive DerivedTable
  | failures
  | inbox
  | projection
  | lineage (kind : HopKind)
  deriving DecidableEq

/-- The errors of the rebuilds. Where a reset or a count is of one tenant, its text says so. -/
inductive RebuildError
  /-- `platform: tenant_id required` -/
  | tenantRequired
  /-- `platform: begin reset: <cause>`, `platform: begin tenant reset: <cause>` -/
  | beginReset (scope : Option Bytes) (cause : SqlError)
  /-- `platform: reset derived state: <cause>`, `platform: reset tenant <table>: <cause>` -/
  | reset (scope : Option Bytes) (table : DerivedTable) (cause : SqlError)
  /-- `platform: commit reset: <cause>`, `platform: commit tenant reset: <cause>` -/
  | commitReset (scope : Option Bytes) (cause : SqlError)
  /-- `platform: load tenant outbox: <cause>` -/
  | loadOutbox (cause : SqlError)
  /-- `platform: parse retained outbox <event_id>: <cause>` -/
  | parseRetained (eventID : Bytes) (cause : EventError)
  /-- `ErrTenantMismatch` -/
  | tenantMismatch
  /-- `ErrControlNotFound` -/
  | controlNotFound
  /-- An error of `ProcessRecord`, passed on. -/
  | process (cause : ProcessError)
  /-- `platform: count residual gaps: <cause>` -/
  | countGaps (scope : Option Bytes) (cause : SqlError)
  /-- `platform: count processing failures: <cause>` -/
  | countFailures (scope : Option Bytes) (cause : SqlError)
  /-- `platform: checksum query: <cause>` -/
  | checksumQuery (cause : SqlError)
  /-- `platform: checksum lineage: empty tenant_id` -/
  | checksumLineageTenant
  /-- `platform: lineage checksum query <kind>: <cause>` -/
  | checksumLineageQuery (kind : HopKind) (cause : SqlError)
  deriving DecidableEq

/-- The result and the error that a rebuild returns together. -/
structure RebuildOutcome where
  result : RebuildResult
  error : Option RebuildError
  deriving DecidableEq

/-- A function that returns a value or an error. -/
abbrev Recovery := Program Database Lock AppliedUpdate RebuildError

/-- A function body that may return early, with a result and an error. -/
abbrev Control := Program Database Lock AppliedUpdate RebuildOutcome

/-- `if err != nil { return out, err }`. -/
def orReturn {Value : Type} (out : RebuildResult) (action : Recovery Value) : Control Value := do
  match ← action.attempt with
  | .ok value => return value
  | .error error => .fail ⟨out, some error⟩

/-- What a body returns, early or at its end. -/
def returning (body : Control RebuildResult) :
    Program Database Lock AppliedUpdate Empty RebuildOutcome := do
  match ← body.attempt with
  | .ok result => return ⟨result, none⟩
  | .error outcome => return outcome

/-- A function that cannot fail returns an outcome. -/
def returned : Except Empty RebuildOutcome → RebuildOutcome
  | .ok outcome => outcome
  | .error never => never.elim

/-! ### Resets -/

/-- Whether a statement reaches the rows of a tenant: it is about all rows, or has a
`WHERE tenant_id = $1`. -/
def reaches (scope tenantID : Option Bytes) : Bool :=
  match scope with
  | none => true
  | some wanted => tenantID == some wanted

/-- The rows that a delete removes. -/
def Platform.clear (scope : Option Bytes) (table : DerivedTable) (platform : Platform) :
    Platform :=
  match table with
  | .failures =>
      { platform with
        failures := platform.failures.discard fun row => reaches scope row.tenantID }
  | .inbox =>
      { platform with
        inbox := platform.inbox.discard fun row => reaches scope (some row.tenantID) }
  | .projection =>
      { platform with
        projection := platform.projection.discard fun row => reaches scope (some row.tenantID) }
  | .lineage kind =>
      { platform with
        lineage := platform.lineage.discard fun row =>
          row.hop.kind == kind && reaches scope (some row.hop.tenantID) }

/-- The rows that a delete locks. -/
def Platform.clearLocks (scope : Option Bytes) (table : DerivedTable) (platform : Platform) :
    List Lock :=
  match table with
  | .failures =>
      (platform.failures.rows.filter fun row => reaches scope row.tenantID).map fun row =>
        .failure row.source
  | .inbox =>
      (platform.inbox.rows.filter fun row => reaches scope (some row.tenantID)).map fun row =>
        .inbox row.eventID
  | .projection =>
      (platform.projection.rows.filter fun row => reaches scope (some row.tenantID)).map
        fun row => .projection row.key
  | .lineage kind =>
      (platform.lineage.rows.filter fun row =>
        row.hop.kind == kind && reaches scope (some row.hop.tenantID)).map
          fun row => .lineage row.key

def clearStatement (scope : Option Bytes) (table : DerivedTable) : Statement Database Lock Unit :=
  command scope.toList (fun db => db.platform.clearLocks scope table) (fun _ => none)
    (Platform.clear scope table)

/-- The deletes of a reset, in their order. -/
def derivedTables : List DerivedTable :=
  [.failures, .inbox, .projection, .lineage .shipment, .lineage .productionBatch,
    .lineage .ingredientLot, .lineage .supplier]

def clearTables (scope : Option Bytes) : List DerivedTable → Recovery Unit
  | [] => return ()
  | table :: rest => do
      .exec (clearStatement scope table) (.reset scope table)
      clearTables scope rest

/-- A reset of one tenant or of all. -/
def resetScope (scope : Option Bytes) : Recovery Unit :=
  .inTransaction (.beginReset scope) do
    clearTables scope derivedTables
    .commitOr (.commitReset scope)

def resetDerivedState : Recovery Unit := resetScope none

def resetDerivedStateForTenant (tenantID : Bytes) : Recovery Unit :=
  if tenantID.isEmpty then .fail .tenantRequired else resetScope (some tenantID)

/-! ### Checksums -/

/-- `ChecksumTenant`, as the query it makes. -/
def queryChecksumTenant (tenantID : Bytes) : Recovery Bytes := do
  let rows ← .exec (query [Strings.toLower tenantID] (fun _ => []) fun _ db =>
    db.platform.tenantProjection (Strings.toLower tenantID)) .checksumQuery
  return digest (projectionText rows)

def queryLineage (tenantID : Bytes) : List HopKind → Recovery (List LineageRow)
  | [] => return []
  | kind :: rest => do
      let rows ← .exec (query [tenantID] (fun _ => []) fun _ db =>
        db.platform.tenantLineage kind tenantID) (.checksumLineageQuery kind)
      let more ← queryLineage tenantID rest
      return rows ++ more

/-- `ChecksumLineage`, as the queries it makes. -/
def queryChecksumLineage (tenantID : Bytes) : Recovery Bytes :=
  let tenantID := Strings.toLower (Strings.trimSpace tenantID)
  if tenantID.isEmpty then .fail .checksumLineageTenant
  else do
    let rows ← queryLineage tenantID lineageTables
    return digest (lineageText rows)

/-! ### Replaying records -/

namespace RebuildResult

variable (out : RebuildResult)

/-- Note why the rebuild is incomplete. -/
def mark (reason : IncompleteReason) : RebuildResult :=
  { out with
    status := .incomplete
    incompleteReasons := out.incompleteReasons ++ [reason] }

/-- `out.Metadata.RebuildStatus = out.Status`. -/
def close : RebuildResult :=
  { out with metadata := { out.metadata with rebuildStatus := out.status } }

/-- The positions start at the first record. -/
def openAt (pos : SourcePosition) : RebuildResult :=
  { out with
    metadata :=
      { out.metadata with
        brokerPartitionMin := pos.partition
        brokerPartitionMax := pos.partition
        brokerOffsetMin := pos.offset
        brokerOffsetMax := pos.offset } }

/-- The positions include a record. -/
def cover (pos : SourcePosition) : RebuildResult :=
  { out with
    metadata :=
      { out.metadata with
        brokerPartitionMin := min out.metadata.brokerPartitionMin pos.partition
        brokerPartitionMax := max out.metadata.brokerPartitionMax pos.partition
        brokerOffsetMin := min out.metadata.brokerOffsetMin pos.offset
        brokerOffsetMax := max out.metadata.brokerOffsetMax pos.offset } }

/-- Count a record by its disposition. A gap is only counted: the records after it may still
release it. -/
def count (index : Nat) (disposition : Option Disposition) : RebuildResult :=
  let out := { out with dispositions := out.dispositions ++ [disposition] }
  match disposition with
  | some .applied => { out with applied := out.applied + 1 }
  | some .duplicateNoop => { out with duplicateNoop := out.duplicateNoop + 1 }
  | some .quarantinedGap => { out with quarantined := out.quarantined + 1 }
  | some other => { out with quarantined := out.quarantined + 1 }.mark (.disposition index other)
  | none => { out with failures := out.failures + 1 }.mark (.missingDisposition index)

end RebuildResult

/-- What a replay does to a record before it is processed: it completes the position, and may
return early. -/
structure ReplayPolicy where
  position : SourcePosition → SourcePosition
  check : Nat → HistoryRecord → RebuildResult → Option RebuildOutcome

/-- `ProcessRecord`, whose error is part of what it returns. -/
def processed (action : Action Outcome) : Control Outcome := do
  match ← action.attempt with
  | .ok outcome => return outcome
  | .error error => return ⟨{}, some error⟩

def replayRecord (policy : ReplayPolicy) (fuel index : Nat) (record : HistoryRecord)
    (out : RebuildResult) : Control RebuildResult :=
  let pos := policy.position record.pos
  let out := out.cover pos
  match policy.check index record out with
  | some outcome => .fail outcome
  | none => do
      let outcome ← processed (processRecord fuel record.key record.value pos)
      match outcome.error with
      | some error =>
          if outcome.result.shouldAck then return out.count index outcome.result.disposition
          else .fail ⟨(out.mark (.nonAck index error)).close, some (.process error)⟩
      | none => return out.count index outcome.result.disposition

/-- The loop over the records. -/
def replayRecords (policy : ReplayPolicy) (fuel : Nat) :
    Nat → List HistoryRecord → RebuildResult → Control RebuildResult
  | _, [], out => return out
  | index, record :: rest, out => do
      let out ← replayRecord policy fuel index record out
      replayRecords policy fuel (index + 1) rest out

/-- `SELECT COUNT(*) FROM platform.inbox WHERE disposition = 'quarantined_gap' ..`. -/
def Platform.residualGaps (scope : Option Bytes) (platform : Platform) : Nat :=
  platform.inbox.rows.countP fun row =>
    reaches scope (some row.tenantID) && row.disposition == .quarantinedGap

/-- `SELECT COUNT(*) FROM platform.processing_failures ..`. -/
def Platform.residualFailures (scope : Option Bytes) (platform : Platform) : Nat :=
  platform.failures.rows.countP fun row => reaches scope row.tenantID

/-- The rows that a replay has left behind make it incomplete. -/
def countResidual (scope : Option Bytes) (out : RebuildResult) : Control RebuildResult := do
  let gaps ← orReturn out (.exec (query scope.toList (fun _ => []) fun _ db =>
    db.platform.residualGaps scope) (.countGaps scope))
  let out := if 0 < gaps then out.mark (.residualGaps gaps) else out
  let failures ← orReturn out (.exec (query scope.toList (fun _ => []) fun _ db =>
    db.platform.residualFailures scope) (.countFailures scope))
  return if 0 < failures then { out with failures := failures }.mark (.processingFailures failures)
    else out

def assignTenantChecksums (tenantID : Bytes) (out : RebuildResult) : Control RebuildResult := do
  let sum ← orReturn out (queryChecksumTenant tenantID)
  let lineage ← orReturn out (queryChecksumLineage tenantID)
  return { out with
    checksum := sum
    lineageChecksum := lineage
    metadata := { out.metadata with checksum := sum } }

/-! ### RebuildFromHistory -/

/-- The defaults of the caller's metadata. -/
def ReproductionMetadata.withDefaults (metadata : ReproductionMetadata) : ReproductionMetadata :=
  { metadata with
    handlerVersion :=
      if metadata.handlerVersion.isEmpty then SeshatOps.handlerVersion else metadata.handlerVersion
    eventContractVersion :=
      if metadata.eventContractVersion = 0 then schemaVersionV1
      else metadata.eventContractVersion
    seed := if metadata.seed.isEmpty then defaultSeed else metadata.seed
    brokerTopic := if metadata.brokerTopic.isEmpty then relayTopic else metadata.brokerTopic
    checksumInputs :=
      if metadata.checksumInputs.isEmpty then checksumInputsText else metadata.checksumInputs
    limitations :=
      if metadata.limitations.isEmpty then localLimitations else metadata.limitations }

/-- `RebuildFromHistory` completes the topic only. -/
def historyPolicy : ReplayPolicy where
  position pos := if pos.topic.isEmpty then { pos with topic := relayTopic } else pos
  check _ _ _ := none

/-- The end of `RebuildFromHistory`: what is left in the tables, and the checksums. -/
def concludeHistory (options : RebuildOptions) (out : RebuildResult) : Control RebuildResult := do
  let out ← countResidual none out
  let tenantID := Strings.trimSpace options.tenantID
  let out ←
    if tenantID.isEmpty then pure (out.mark .missingTenant)
    else assignTenantChecksums tenantID out
  return out.close

/-- The part of `RebuildFromHistory` after its reset. -/
def replayHistory (fuel : Nat) (records : List HistoryRecord) (options : RebuildOptions) :
    Control RebuildResult :=
  let out : RebuildResult := { status := .complete, metadata := options.metadata.withDefaults }
  match records with
  | [] => return (out.mark .emptyHistory).close
  | first :: _ => do
      let out ← replayRecords historyPolicy fuel 0 records (out.openAt first.pos)
      concludeHistory options out

def rebuildFromHistory (fuel : Nat) (records : List HistoryRecord) (options : RebuildOptions) :
    Program Database Lock AppliedUpdate Empty RebuildOutcome :=
  returning do
    if options.resetFirst then orReturn {} resetDerivedState
    replayHistory fuel records options

/-! ### The controls of one tenant -/

/-- The order of a text column under the collation of the database. -/
structure Collation where
  le : Bytes → Bytes → Bool
  total : ∀ first second, le first second = true ∨ le second first = true
  trans : ∀ first second third, le first second = true → le second third = true →
    le first third = true
  antisymm : ∀ first second, le first second = true → le second first = true → first = second

/-- Texts in the order of their bytes. -/
def byteOrder : Collation where
  le first second := decide (first.map UInt8.toNat ≤ second.map UInt8.toNat)
  total first second := by
    simp only [decide_eq_true_eq]
    exact le_total _ _
  trans first second third := by
    simp only [decide_eq_true_eq]
    exact le_trans
  antisymm first second := by
    simp only [decide_eq_true_eq]
    intro below above
    exact List.map_injective_iff.mpr (fun _ _ => UInt8.toNat_inj.mp) (le_antisymm below above)

/-- `ORDER BY aggregate_id, aggregate_version, recorded_at, event_id`. -/
def Collation.precedes (collation : Collation) (first second : OutboxRow) : Bool :=
  if first.aggregateID ≠ second.aggregateID then
    collation.le first.aggregateID second.aggregateID
  else if first.aggregateVersion ≠ second.aggregateVersion then
    first.aggregateVersion ≤ second.aggregateVersion
  else if first.recordedAt ≠ second.recordedAt then first.recordedAt ≤ second.recordedAt
  else collation.le first.eventID second.eventID

/-- The rows of `erp.outbox` that a load returns; an empty event identifier selects all. -/
def outboxHistory (collation : Collation) (tenantID eventID : Bytes) (erp : Erp) :
    List OutboxRow :=
  (erp.outbox.rows.filter fun row =>
    row.tenantID == tenantID && (eventID.isEmpty || row.eventID == eventID)).insertionSort
      fun first second => collation.precedes first second = true

/-- The loop over the rows that a load returns. -/
def historyRecords (tenantID : Bytes) :
    Int → List OutboxRow → Except RebuildError (List HistoryRecord)
  | _, [] => .ok []
  | offset, row :: rest =>
      if row.tenantID ≠ tenantID then .error .tenantMismatch
      else
        match parse row.eventBytes with
        | .error error => .error (.parseRetained row.eventID error)
        | .ok env =>
            if env.tenantID ≠ tenantID then .error .tenantMismatch
            else
              match historyRecords tenantID (offset + 1) rest with
              | .error error => .error error
              | .ok records =>
                  .ok (⟨aggregateKey env.tenantID env.aggregateType env.aggregateID,
                    row.eventBytes, ⟨relayTopic, operatorReplayPartition, offset⟩⟩ :: records)

def loadTenantOutboxHistory (collation : Collation) (tenantID eventID : Bytes) :
    Recovery (List HistoryRecord) :=
  if tenantID.isEmpty then .fail .tenantRequired
  else do
    let rows ← .exec (query (if eventID.isEmpty then [tenantID] else [tenantID, eventID])
      (fun _ => []) fun _ db => outboxHistory collation tenantID eventID db.erp) .loadOutbox
    .done (historyRecords tenantID 1 rows)

/-- `replayTenantRecords` completes topic and partition, and checks each record once more. -/
def tenantPolicy (tenantID : Bytes) : ReplayPolicy where
  position pos :=
    let pos := if pos.topic.isEmpty then { pos with topic := relayTopic } else pos
    if pos.partition = 0 then { pos with partition := operatorReplayPartition } else pos
  check index record out :=
    match parse record.value with
    | .error error => some ⟨(out.mark (.parse index error)).close, none⟩
    | .ok env => if env.tenantID ≠ tenantID then some ⟨{}, some .tenantMismatch⟩ else none

/-- The metadata of the controls of one tenant. -/
def tenantMetadata : ReproductionMetadata where
  handlerVersion := handlerVersion
  eventContractVersion := schemaVersionV1
  brokerTopic := relayTopic
  checksumInputs := checksumInputsText
  limitations := tenantLimitations

/-- The end of `replayTenantRecords`. -/
def concludeTenant (tenantID : Bytes) (out : RebuildResult) : Control RebuildResult := do
  let out ← countResidual (some tenantID) out
  let out ← assignTenantChecksums tenantID out
  return out.close

def replayTenantRecords (fuel : Nat) (tenantID : Bytes) (records : List HistoryRecord) :
    Control RebuildResult :=
  let out : RebuildResult := { status := .complete, metadata := tenantMetadata }
  match records with
  | [] => return (out.mark .emptyHistory).close
  | first :: _ => do
      let out ← replayRecords (tenantPolicy tenantID) fuel 0 records (out.openAt first.pos)
      concludeTenant tenantID out

def replayTenantHistory (collation : Collation) (fuel : Nat) (tenantID eventID : Bytes) :
    Program Database Lock AppliedUpdate Empty RebuildOutcome :=
  returning do
    let records ← orReturn {} (loadTenantOutboxHistory collation tenantID eventID)
    if !eventID.isEmpty && records.isEmpty then .fail ⟨{}, some .controlNotFound⟩
    else replayTenantRecords fuel tenantID records

def rebuildTenantFromHistory (collation : Collation) (fuel : Nat) (tenantID : Bytes) :
    Program Database Lock AppliedUpdate Empty RebuildOutcome :=
  returning do
    orReturn {} (resetDerivedStateForTenant tenantID)
    let records ← orReturn {} (loadTenantOutboxHistory collation tenantID [])
    replayTenantRecords fuel tenantID records

end SeshatOps
