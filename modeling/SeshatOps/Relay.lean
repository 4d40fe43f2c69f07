/-
This file models the relay, which publishes the rows of `erp.outbox` to the broker:
`ClaimDue`, `MarkPublished`, `ReleaseTransient`, `ReleaseQuarantined`, `Quarantine`,
`publishOne` and `DrainOnce`.

The functions are programs, so that many workers can run them at once, on a world made
of a clock, the outbox and the messages that were sent. Times are microseconds. Inside
a transaction `now()` is the time of its begin; the claim therefore reads the clock
first. `SKIP LOCKED` leaves out whatever rows others hold, so the rows it leaves out are
open in the statement, and the ones it returns are locked.
-/

import SeshatOps.RelyGuarantee
import SeshatOps.Statements

namespace SeshatOps

open Relational Event

/-! ### The world of the relay -/

/-- A message that a worker has handed to the broker for an outbox row, and whether the broker
acknowledged it. -/
structure Produced where
  eventID : Bytes
  key : Bytes
  value : Bytes
  acknowledged : Bool
  deriving DecidableEq

structure RelayWorld where
  clock : Int
  outbox : Table OutboxRow.eventID
  broker : List Produced

/-- Change the outbox row of an event, where there is one. -/
def RelayWorld.updateRow (eventID : Bytes) (change : OutboxRow → OutboxRow) (world : RelayWorld) :
    RelayWorld :=
  match world.outbox.find? eventID with
  | some row => { world with outbox := world.outbox.store (change row) }
  | none => world

/-- The updates of a claimed row by its owner, and that of a quarantined row. -/
inductive RelayOperation
  | markPublished
  | releaseTransient
  | quarantine
  | releaseQuarantined
  deriving DecidableEq, Repr

inductive RelayError
  /-- `relay: claim owner required` -/
  | claimOwnerRequired
  /-- `relay: begin claim: <cause>` -/
  | beginClaim (cause : SqlError)
  /-- `relay: select due outbox: <cause>` -/
  | selectDue (cause : SqlError)
  /-- `relay: claim outbox <event_id>: <cause>`, where no cause is `sql.ErrNoRows` -/
  | claimOutbox (eventID : Bytes) (cause : Option SqlError)
  /-- `relay: commit claim: <cause>` -/
  | commitClaim (cause : SqlError)
  /-- `relay: <operation> <event_id>: <cause>` -/
  | update (operation : RelayOperation) (eventID : Bytes) (cause : SqlError)
  /-- `relay: <operation> <event_id>: expected 1 row, got <count>` -/
  | affected (operation : RelayOperation) (eventID : Bytes) (count : Nat)
  /-- `relay: produce: <cause>` -/
  | produce (cause : SqlError)
  /-- `ErrQuarantineNotFound` -/
  | quarantineNotFound
  deriving DecidableEq

/-- A function of the relay. It sends no notifications. -/
abbrev RelayAction := Program RelayWorld Lock Empty RelayError

/-! ### Claims -/

/-- `DefaultLeaseTTL`, in nanoseconds. -/
def defaultLeaseTTL : Int := 30000000000

/-- The condition of a due row at a time. -/
def OutboxRow.due (row : OutboxRow) (now : Int) : Bool :=
  (row.status == .pending || row.status == .publishing) &&
    row.publishLeaseExpiresAt.all (· ≤ now)

/-- `SKIP LOCKED`: the digits of the number say which rows others hold. -/
def skipLocked : Nat → List OutboxRow → List OutboxRow
  | _, [] => []
  | taken, row :: rest =>
      if taken % 2 = 1 then skipLocked (taken / 2) rest else row :: skipLocked (taken / 2) rest

/-- The rows that the select returns. -/
def dueRows (now : Int) (limit : Nat) (taken : Nat) (world : RelayWorld) : List OutboxRow :=
  (skipLocked taken ((world.outbox.rows.filter (·.due now)).mergeSort
    fun first second => first.createdAt ≤ second.createdAt)).take limit

def selectDueStatement (now : Int) (limit : Nat) :
    Statement RelayWorld Lock (List OutboxRow) where
  locks taken world := (dueRows now limit taken world).map fun row => .outbox row.eventID
  execute taken world := .ok (dueRows now limit taken world, id)

/-- The row that a claim leaves. -/
def OutboxRow.claim (owner : Bytes) (expires : Int) (row : OutboxRow) : OutboxRow :=
  { row with
    status := .publishing
    publishLeaseOwner := some owner
    publishLeaseExpiresAt := some expires
    publishAttempts := row.publishAttempts + 1 }

/-- The rows that an update of one row has to lock. -/
def outboxLock (eventID : Bytes) (world : RelayWorld) : List Lock :=
  if (world.outbox.find? eventID).isSome then [.outbox eventID] else []

/-- `UPDATE .. RETURNING publish_attempts, publish_lease_expires_at`. -/
def claimStatement (owner : Bytes) (expires : Int) (eventID : Bytes) :
    Statement RelayWorld Lock (Option (Int × Int)) where
  locks _ := outboxLock eventID
  execute _ world :=
    if !([eventID, owner].all storable) then .error .domain
    else
      match world.outbox.find? eventID with
      | none => .ok (none, id)
      | some row =>
          if row.publishAttempts + 1 > maxInteger then .error .domain
          else
            .ok (some (row.publishAttempts + 1, expires),
              fun world => world.updateRow eventID (OutboxRow.claim owner expires))

/-- The loop over the selected rows: each is claimed, and returned as it then is. -/
def claimRows (owner : Bytes) (expires : Int) : List OutboxRow → RelayAction (List OutboxRow)
  | [] => return []
  | row :: rest => do
      match ← Program.exec (claimStatement owner expires row.eventID)
          fun cause => .claimOutbox row.eventID (some cause) with
      | none => .fail (.claimOutbox row.eventID none)
      | some (attempts, leaseExpires) =>
          let claimed ← claimRows owner expires rest
          return { row with
            status := .publishing
            publishLeaseOwner := some owner
            publishLeaseExpiresAt := some leaseExpires
            publishAttempts := attempts } :: claimed

/-- `now()`, the time at which the transaction began. -/
def nowStatement : Statement RelayWorld Lock Int where
  locks _ _ := []
  execute _ world := .ok (world.clock, id)

/-- `ClaimDue`. The time to live is in nanoseconds, and cut to milliseconds. -/
def claimDue (owner : Bytes) (leaseTTL : Int) (limit : Int) : RelayAction (List OutboxRow) :=
  if owner.isEmpty then .fail .claimOwnerRequired
  else
    let leaseTTL := if leaseTTL ≤ 0 then defaultLeaseTTL else leaseTTL
    let limit := if limit < 1 then 1 else limit.toNat
    .inTransaction .beginClaim do
      let now ← .exec nowStatement .beginClaim
      let due ← .exec (selectDueStatement now limit) .selectDue
      let claimed ← claimRows owner (now + leaseTTL / 1000000 * 1000) due
      Program.commitOr .commitClaim
      return claimed

/-! ### Updates of a claimed row -/

/-- The row is claimed by the owner. -/
def OutboxRow.claimedBy (row : OutboxRow) (owner : Bytes) : Bool :=
  row.status == .publishing && row.publishLeaseOwner == some owner

/-- `UPDATE erp.outbox SET .. WHERE event_id = $1 AND ..`: the number of changed rows. -/
def updateStatement (texts : List Bytes) (eventID : Bytes) (matching : OutboxRow → Bool)
    (refusal : OutboxRow → Option SqlError) (change : Int → OutboxRow → OutboxRow) :
    Statement RelayWorld Lock Nat where
  locks _ world :=
    if (world.outbox.find? eventID).any matching then [.outbox eventID] else []
  execute _ world :=
    if !(eventID :: texts).all storable then .error .domain
    else
      match (world.outbox.find? eventID).filter matching with
      | none => .ok (0, id)
      | some row =>
          match refusal row with
          | some error => .error error
          | none => .ok (1, fun later => later.updateRow eventID (change world.clock))

/-- An update that has to change one row. -/
def updateOne (operation : RelayOperation) (texts : List Bytes) (eventID : Bytes)
    (matching : OutboxRow → Bool) (refusal : OutboxRow → Option SqlError)
    (change : Int → OutboxRow → OutboxRow) : RelayAction Unit := do
  let count ← .exec (updateStatement texts eventID matching refusal change)
    (.update operation eventID)
  if count ≠ 1 then .fail (.affected operation eventID count) else return ()

/-- The row that `MarkPublished` leaves. -/
def OutboxRow.published (row : OutboxRow) : OutboxRow :=
  { row with
    status := .published
    publishLeaseOwner := none
    publishLeaseExpiresAt := none
    lastErrorCode := none }

def markPublished (eventID owner : Bytes) : RelayAction Unit :=
  updateOne .markPublished [owner] eventID (·.claimedBy owner) (fun _ => none)
    fun _ row => row.published

/-- The exponent of the backoff, `GREATEST(publish_attempts, 1) - 1`. -/
def OutboxRow.backoffExponent (row : OutboxRow) : Nat := (max row.publishAttempts 1 - 1).toNat

/-- The row that `ReleaseTransient` leaves. -/
def OutboxRow.released (errCode : Bytes) (now : Int) (row : OutboxRow) : OutboxRow :=
  { row with
    status := .pending
    publishLeaseOwner := none
    publishLeaseExpiresAt := some (now + min 60 (2 ^ row.backoffExponent) * 1000000)
    lastErrorCode := some errCode }

/-- The power is cast to `bigint` before it is capped, so a large one is out of range. -/
def releaseTransient (eventID owner errCode : Bytes) : RelayAction Unit :=
  updateOne .releaseTransient [owner, errCode] eventID (·.claimedBy owner)
    (fun row => if 63 ≤ row.backoffExponent then some .domain else none)
    fun now row => row.released errCode now

/-- The row that `Quarantine` leaves. -/
def OutboxRow.quarantined (errCode : Bytes) (row : OutboxRow) : OutboxRow :=
  { row with
    status := .quarantined
    publishLeaseOwner := none
    publishLeaseExpiresAt := none
    lastErrorCode := some errCode }

def quarantine (eventID owner errCode : Bytes) : RelayAction Unit :=
  updateOne .quarantine [owner, errCode] eventID (·.claimedBy owner) (fun _ => none)
    fun _ => OutboxRow.quarantined errCode

/-- The row that `ReleaseQuarantined` leaves. -/
def OutboxRow.unquarantined (row : OutboxRow) : OutboxRow :=
  { row with status := .pending, publishLeaseOwner := none, publishLeaseExpiresAt := none }

def releaseQuarantined (tenantID eventID : Bytes) : RelayAction Unit :=
  if tenantID.isEmpty || eventID.isEmpty then .fail .quarantineNotFound
  else do
    let count ← .exec (updateStatement [tenantID] eventID
      (fun row => row.tenantID == tenantID && row.status == .quarantined) (fun _ => none)
      fun _ row => row.unquarantined) (.update .releaseQuarantined eventID)
    if count ≠ 1 then .fail .quarantineNotFound else return ()

/-! ### Publication -/

/-- `Publisher.Publish` for an outbox row. The broker acknowledges the message or does not; a
message without an acknowledgement may still have arrived. -/
def publishStatement (eventID key value : Bytes) : Statement RelayWorld Lock Bool where
  locks _ _ := []
  execute choice _ := .ok (choice % 2 == 0, fun world =>
    { world with broker := world.broker ++ [⟨eventID, key, value, choice % 2 == 0⟩] })

inductive OutcomeKind
  | published
  | transient
  | quarantine
  | ambiguous
  deriving DecidableEq, Repr

/-- The error code of bytes that do not parse. -/
def parseErrorCode : EventError → Bytes
  | .malformed _ => ascii "malformed_envelope"
  | .unsupported _ => ascii "unsupported_contract"

def publishOne (owner : Bytes) (row : OutboxRow) : RelayAction OutcomeKind :=
  match parse row.eventBytes with
  | .error error => do
      quarantine row.eventID owner (parseErrorCode error)
      return .quarantine
  | .ok env =>
      if env.tenantID ≠ row.tenantID ∨ env.aggregateType ≠ row.aggregateType ∨
          env.aggregateID ≠ row.aggregateID then do
        quarantine row.eventID owner (ascii "aggregate_key_mismatch")
        return .quarantine
      else do
        let key := aggregateKey env.tenantID env.aggregateType env.aggregateID
        match ← (Program.exec (publishStatement row.eventID key row.eventBytes)
            RelayError.produce : RelayAction Bool).attempt with
        | .ok true =>
            match ← (markPublished row.eventID owner).attempt with
            | .ok () => return .published
            | .error _ => return .ambiguous
        | _ => do
            releaseTransient row.eventID owner (ascii "broker_publish_failed")
            return .transient

structure DrainResult where
  claimed : Nat := 0
  published : Nat := 0
  transient : Nat := 0
  quarantined : Nat := 0
  ambiguous : Nat := 0
  deriving DecidableEq

def DrainResult.count (out : DrainResult) : OutcomeKind → DrainResult
  | .published => { out with published := out.published + 1 }
  | .transient => { out with transient := out.transient + 1 }
  | .quarantine => { out with quarantined := out.quarantined + 1 }
  | .ambiguous => { out with ambiguous := out.ambiguous + 1 }

/-- The loop over the claimed rows. An error that is no outcome ends it. -/
def publishEach (owner : Bytes) :
    List OutboxRow → DrainResult → RelayAction (DrainResult × Option RelayError)
  | [], out => return (out, none)
  | row :: rest, out => do
      match ← (publishOne owner row).attempt with
      | .ok kind => publishEach owner rest (out.count kind)
      | .error error => return (out, some error)

def drainOnce (owner : Bytes) (leaseTTL limit : Int) :
    RelayAction (DrainResult × Option RelayError) := do
  match ← (claimDue owner leaseTTL limit).attempt with
  | .error error => return ({}, some error)
  | .ok rows => publishEach owner rows { claimed := rows.length }

end SeshatOps
