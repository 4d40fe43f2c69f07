/-
This file models the privileged controls of the HTTP interface, from the session of a
request to the release, replay or rebuild that it asks for, and proves that a control
changes nothing before its permission is on record.

A request is served in three steps: the session and the form of the request are checked
in memory, the decision of the policy is appended to the audit table, and only then does
the control run. The controls themselves were modelled on the schemas they touch, so they
are carried over to a store that also holds the decisions. They cannot reach the
decisions, which is why the permission is still there at each of their commits.
-/

import SeshatOps.Focus
import SeshatOps.Rebuild
import SeshatOps.Relay

namespace SeshatOps

open Relational Event

namespace Controls

/-! ### Sessions -/

/-- A session of the `identity` package. -/
structure Session where
  id : Bytes
  principalID : Bytes
  issuer : Bytes
  subject : Bytes
  expiresAt : Int
  deriving DecidableEq

def Session.fresh (session : Session) (now : Int) : Bool :=
  !session.principalID.isEmpty && !session.subject.isEmpty && !session.issuer.isEmpty &&
    now < session.expiresAt

/-- `Store.Get`: an expired session is dropped. -/
def getSession (sessions : Table Session.id) (now : Int) (id : Bytes) :
    Option Session × Table Session.id :=
  if id.isEmpty then (none, sessions)
  else
    match sessions.find? id with
    | none => (none, sessions)
    | some session =>
        if session.fresh now then (some session, sessions)
        else (none, sessions.discard fun row => row.id == id)

/-- `Authenticator.Session`, from the value of the session cookie. -/
def authenticate (sessions : Table Session.id) (now : Int) :
    Option Bytes → Option Session × Table Session.id
  | none => (none, sessions)
  | some value => getSession sessions now value

/-! ### The policy -/

inductive Resource
  | inventoryProjection
  | opsVisibility
  | quarantine
  | replay
  | rebuild
  | audit
  | forecastFeatures
  | forecastPredictions
  | releaseMetrics
  deriving DecidableEq, Repr

inductive Permission
  | read
  | quarantineRelease
  | replay
  | rebuild
  | auditRead
  deriving DecidableEq, Repr

structure AllowRow where
  tenantID : Bytes
  roleID : Bytes
  resource : Resource
  action : Permission
  deriving DecidableEq

def tenantNS001UUID : Bytes := ascii "11111111-1111-4111-8111-111111111111"

def scopeRuntime : Bytes := ascii "SCOPE-RUNTIME"

def roleOpsReader : Bytes := ascii "ROLE-OPS-READER"

def rolePlatformOperator : Bytes := ascii "ROLE-PLATFORM-OPERATOR"

def roleReleaseObserver : Bytes := ascii "ROLE-RELEASE-OBSERVER"

def frozenAllowList : List AllowRow := [
  ⟨tenantNS001UUID, roleOpsReader, .inventoryProjection, .read⟩,
  ⟨tenantNS001UUID, roleOpsReader, .opsVisibility, .read⟩,
  ⟨tenantNS001UUID, rolePlatformOperator, .opsVisibility, .read⟩,
  ⟨tenantNS001UUID, rolePlatformOperator, .quarantine, .quarantineRelease⟩,
  ⟨tenantNS001UUID, rolePlatformOperator, .replay, .replay⟩,
  ⟨tenantNS001UUID, rolePlatformOperator, .rebuild, .rebuild⟩,
  ⟨tenantNS001UUID, rolePlatformOperator, .audit, .auditRead⟩,
  ⟨tenantNS001UUID, roleOpsReader, .forecastFeatures, .read⟩,
  ⟨tenantNS001UUID, roleOpsReader, .forecastPredictions, .read⟩,
  ⟨scopeRuntime, roleReleaseObserver, .releaseMetrics, .read⟩]

def matrixAllows (tenantID roleID : Bytes) (resource : Resource) (action : Permission) : Bool :=
  !tenantID.isEmpty && !roleID.isEmpty &&
    frozenAllowList.any fun row => row.tenantID == tenantID && row.roleID == roleID &&
      row.resource == resource && row.action == action

structure Assignment where
  principalID : Bytes
  tenantID : Bytes
  roleID : Bytes
  deriving DecidableEq

/-- The assignments of all principals, in the order in which they were made. -/
structure Directory where
  rows : List Assignment

/-- An assignment without a principal is not kept. -/
def Directory.assign (directory : Directory) (assignment : Assignment) : Directory :=
  if assignment.principalID.isEmpty then directory else ⟨directory.rows ++ [assignment]⟩

def Directory.clear (directory : Directory) (principalID : Bytes) : Directory :=
  if principalID.isEmpty then directory
  else ⟨directory.rows.filter fun row => row.principalID ≠ principalID⟩

def Directory.assignments (directory : Directory) (principalID : Bytes) : List Assignment :=
  if principalID.isEmpty then []
  else directory.rows.filter fun row => row.principalID = principalID

/-- The loop of `Allow`: the roles of a principal in a scope, unless a row is incomplete. -/
def scopeRoles (principalID scopeID : Bytes) : List Assignment → Option (List Bytes)
  | [] => some []
  | row :: rest =>
      if row.principalID ≠ principalID then none
      else if row.tenantID.isEmpty then none
      else if row.tenantID ≠ scopeID then scopeRoles principalID scopeID rest
      else if row.roleID.isEmpty then none
      else (scopeRoles principalID scopeID rest).map (row.roleID :: ·)

/-- `Policy.Allow`. A policy may have no directory. -/
def allow (directory : Option Directory) (principalID scopeID : Bytes) (resource : Resource)
    (action : Permission) : Bool :=
  match directory with
  | none => false
  | some directory =>
      !principalID.isEmpty && !scopeID.isEmpty &&
        match scopeRoles principalID scopeID (directory.assignments principalID) with
        | none => false
        | some roles => roles.any fun role => matrixAllows scopeID role resource action

/-! ### The store -/

inductive DecisionOutcome
  | allow
  | deny
  deriving DecidableEq, Repr

/-- A row of `identity.authorization_decisions`. -/
structure DecisionRow where
  decisionID : Bytes
  principalID : Bytes
  tenantID : Bytes
  resource : Resource
  action : Permission
  outcome : DecisionOutcome
  reason : Bytes
  targetID : Option Bytes
  recordedAt : Int
  deriving DecidableEq

/-- All that a control can reach: the schemas `erp` and `platform`, the decisions, and the clock
and the broker of the relay. -/
structure ControlStore where
  db : Database
  decisions : Table DecisionRow.decisionID
  clock : Int
  broker : List Produced

/-- The part that the functions of the platform work on. -/
def databaseFocus : Focus ControlStore Database where
  get store := store.db
  put db store := { store with db := db }
  get_put _ _ := rfl
  put_get _ := rfl

/-- The part that the functions of the relay work on. -/
def relayFocus : Focus ControlStore RelayWorld where
  get store := ⟨store.clock, store.db.erp.outbox, store.broker⟩
  put world store :=
    { store with
      db := store.db.onErp fun erp => { erp with outbox := world.outbox }
      clock := world.clock
      broker := world.broker }
  get_put _ _ := rfl
  put_get _ := rfl

/-! ### The audit table -/

inductive AuditError
  /-- `ErrInvalidDecision` -/
  | invalidDecision
  /-- `identity: decision id: <cause>` -/
  | decisionID
  /-- `identity: append decision: <cause>` -/
  | append (cause : SqlError)
  deriving DecidableEq

/-- `INSERT INTO identity.authorization_decisions`. -/
def insertDecisionStatement (row : DecisionRow) : Statement ControlStore Lock Unit where
  locks _ _ := []
  execute _ store :=
    if !([row.decisionID, row.principalID, row.tenantID, row.reason] ++ row.targetID.toList).all
        storable then .error .domain
    else if (store.decisions.find? row.decisionID).isSome then .error .unique
    else .ok ((), fun store => { store with decisions := store.decisions.store row })

/-- What a request draws from outside: the time of the session check, the time of the decision,
and the random identifier of the decision, which may fail. -/
structure Draws where
  now : Int
  recordedAt : Int
  decisionID : Option Bytes
  deriving DecidableEq

/-- A decision before it has an identifier and a time. -/
structure ControlDecision where
  principalID : Bytes
  tenantID : Bytes
  resource : Resource
  action : Permission
  outcome : DecisionOutcome
  reason : Bytes
  targetID : Bytes
  deriving DecidableEq

def ControlDecision.row (decision : ControlDecision) (decisionID : Bytes) (recordedAt : Int) :
    DecisionRow where
  decisionID := decisionID
  principalID := decision.principalID
  tenantID := decision.tenantID
  resource := decision.resource
  action := decision.action
  outcome := decision.outcome
  reason := decision.reason
  targetID := nonEmptyPtr decision.targetID
  recordedAt := recordedAt

/-- A function that answers a request. It may stop early. -/
abbrev Serving (Failure : Type) := Program ControlStore Lock AppliedUpdate Failure

def appendDecision (draws : Draws) (decision : ControlDecision) : Serving AuditError Unit :=
  if decision.principalID.isEmpty || decision.tenantID.isEmpty || decision.reason.isEmpty then
    .fail .invalidDecision
  else
    match draws.decisionID with
    | none => .fail .decisionID
    | some decisionID =>
        .exec (insertDecisionStatement (decision.row decisionID draws.recordedAt)) .append

/-! ### Releasing a quarantined event -/

inductive ReleaseError
  /-- `ErrControlNotFound` -/
  | controlNotFound
  /-- `ErrNotReleasable` -/
  | notReleasable
  /-- `platform: inbox disposition: <cause>` -/
  | inboxDisposition (cause : SqlError)
  /-- `platform: count quarantined failures: <cause>` -/
  | countFailures (cause : SqlError)
  /-- An error of the relay, passed on. -/
  | relay (cause : RelayError)
  /-- An error of `LoadTenantOutboxHistory`, passed on. -/
  | load (cause : RebuildError)
  /-- An error of `ProcessRecord`, passed on. -/
  | process (cause : ProcessError)
  deriving DecidableEq

def onDatabase {Failure Value : Type}
    (program : Program Database Lock AppliedUpdate Failure Value) :
    Serving Failure Value :=
  program.within databaseFocus id

def onRelay {Value : Type} (program : RelayAction Value) : Serving RelayError Value :=
  program.within relayFocus Empty.elim

/-- Go on with the value of a function, or return its error as one of another function. -/
def orElse {First Second Value : Type} (action : Serving First Value)
    (failure : First → Second) : Serving Second Value := do
  match ← action.attempt with
  | .ok value => return value
  | .error error => .fail (failure error)

def inboxDispositionForTenant (tenantID eventID : Bytes) :
    Program Database Lock AppliedUpdate ReleaseError (Option Disposition) :=
  .exec (query [eventID, tenantID] (fun _ => []) fun _ db =>
    ((db.platform.inbox.find? eventID).filter fun row => row.tenantID == tenantID).map
      InboxRow.disposition) .inboxDisposition

def isTerminalInboxQuarantine : Disposition → Bool
  | .applied | .duplicateNoop => false
  | _ => true

def hasQuarantinedFailure (tenantID eventID : Bytes) :
    Program Database Lock AppliedUpdate ReleaseError Bool :=
  .exec (query [eventID, tenantID] (fun _ => []) fun _ db =>
    db.platform.failures.rows.any fun row => row.eventID == some eventID &&
      row.tenantID == some tenantID && row.quarantineStatus == .quarantined) .countFailures

/-- What follows when the outbox has no quarantined row of the event. -/
def redriveFailure (collation : Collation) (fuel : Nat) (tenantID eventID : Bytes) :
    Serving ReleaseError Unit := do
  if !(← onDatabase (hasQuarantinedFailure tenantID eventID)) then .fail .controlNotFound
  else
    let records ← orElse (onDatabase (loadTenantOutboxHistory collation tenantID eventID)) .load
    match records with
    | [record] =>
        let outcome ← orElse (onDatabase (processRecord fuel record.key record.value record.pos))
          .process
        match outcome.error with
        | some error => .fail (.process error)
        | none => return ()
    | _ => .fail .notReleasable

def releaseTenantQuarantine (collation : Collation) (fuel : Nat) (tenantID eventID : Bytes) :
    Serving ReleaseError Unit :=
  if tenantID.isEmpty || eventID.isEmpty then .fail .controlNotFound
  else do
    let disposition ← onDatabase (inboxDispositionForTenant tenantID eventID)
    if disposition.any isTerminalInboxQuarantine then .fail .notReleasable
    else
      match ← (onRelay (releaseQuarantined tenantID eventID)).attempt with
      | .ok () => return ()
      | .error .quarantineNotFound => redriveFailure collation fuel tenantID eventID
      | .error error => .fail (.relay error)

/-! ### Requests -/

inductive ControlKind
  | quarantineRelease
  | replay
  | rebuild
  deriving DecidableEq, Repr

def ControlKind.resource : ControlKind → Resource
  | .quarantineRelease => .quarantine
  | .replay => .replay
  | .rebuild => .rebuild

def ControlKind.action : ControlKind → Permission
  | .quarantineRelease => .quarantineRelease
  | .replay => .replay
  | .rebuild => .rebuild

/-- A request to one of the three routes. A body that cannot be read is missing. -/
structure Request where
  isPost : Bool
  tenantID : Bytes
  control : ControlKind
  cookie : Option Bytes
  body : Option Bytes
  deriving DecidableEq

/-- The JSON body of a control. -/
structure ControlBody where
  eventID : Bytes := []
  tenantID : Bytes := []
  deriving DecidableEq

/-- The status of a control that was carried out. -/
inductive ControlStatus
  | released
  | replayed (status : RebuildStatus)
  deriving DecidableEq

structure ControlResult where
  tenantID : Bytes
  control : ControlKind
  eventID : Bytes
  status : ControlStatus
  applied : Nat := 0
  duplicateNoop : Nat := 0
  quarantined : Nat := 0
  checksum : Bytes := []
  lineageChecksum : Bytes := []
  incompleteReasons : List IncompleteReason := []
  deriving DecidableEq

/-- The status code with the error or the result in the body. -/
inductive Response
  | error (code : Nat) (text : String)
  | result (value : ControlResult)
  deriving DecidableEq

/-- `validTenantID`, which also checks the identifiers of events. -/
def validTenantID (value : Bytes) : Bool :=
  !value.isEmpty && value == Strings.toLower value && matchesUUID value

def ControlBody.assign (body : ControlBody) (name : Bytes) (value : Json.Value) :
    Option ControlBody :=
  if matchesField name "event_id" then
    (intoString body.eventID value).map fun text => { body with eventID := text }
  else if matchesField name "tenant_id" then
    (intoString body.tenantID value).map fun text => { body with tenantID := text }
  else some body

/-- `json.Unmarshal(body, &req)`. -/
def unmarshalBody (bytes : Bytes) : Option ControlBody :=
  match Json.Value.read bytes with
  | some (.object members) => members.foldlM (fun body member => body.assign member.1 member.2) {}
  | some .null => some {}
  | _ => none

/-- The body is read up to a mebibyte. -/
def bodyLimit : Nat := 2 ^ 20

def decodeControlRequest (body : Option Bytes) (eventIDRequired : Bool) :
    Except Response ControlBody :=
  match body with
  | none => .error (.error 400 "invalid_request")
  | some bytes =>
      let read := bytes.take bodyLimit
      match if read.isEmpty then some {} else unmarshalBody read with
      | none => .error (.error 400 "invalid_request")
      | some request =>
          if (eventIDRequired || !request.eventID.isEmpty) && !validTenantID request.eventID then
            .error (.error 400 "invalid_event_id")
          else .ok request

/-- What the server holds when a request comes in: the policy, which may be missing, and how the
database orders texts. -/
structure Server where
  policy : Option (Option Directory)
  collation : Collation
  fuel : Nat

/-- The decision of the policy. -/
def Server.allows (server : Server) (principalID tenantID : Bytes) (resource : Resource)
    (action : Permission) : Bool :=
  match server.policy with
  | none => false
  | some directory => allow directory principalID tenantID resource action

/-- The decision of a control, with its outcome and its reason. -/
def Server.decision (server : Server) (principalID tenantID : Bytes) (resource : Resource)
    (action : Permission) (targetID : Bytes) : ControlDecision :=
  let allowed := server.allows principalID tenantID resource action
  { principalID := principalID
    tenantID := tenantID
    resource := resource
    action := action
    outcome := if allowed then .allow else .deny
    reason := if allowed then ascii "matrix_allow" else ascii "forbidden"
    targetID := targetID }

def authorizeControl (server : Server) (session : Option Session) (tenantID : Bytes)
    (resource : Resource) (action : Permission) (targetID : Bytes) (draws : Draws) :
    Serving Response Unit :=
  match session with
  | none => .fail (.error 401 "unauthenticated")
  | some session => do
      let decision := server.decision session.principalID tenantID resource action targetID
      orElse (appendDecision draws decision) fun _ => .error 500 "audit_failed"
      if decision.outcome ≠ .allow then .fail (.error 403 "forbidden") else return ()

/-- What all handlers of controls do. -/
def handleControl (server : Server) (session : Option Session) (request : Request) (draws : Draws)
    (eventIDRequired : Bool) (resource : Resource) (action : Permission)
    (control : ControlBody → Serving Response Response) : Serving Response Response := do
  let body ← .done (decodeControlRequest request.body eventIDRequired)
  authorizeControl server session request.tenantID resource action body.eventID draws
  control body

/-- The answer to an error of a release. -/
def ReleaseError.response : ReleaseError → Response
  | .notReleasable => .error 409 "not_releasable"
  | .controlNotFound | .load .controlNotFound | .load .tenantMismatch => .error 404 "not_found"
  | _ => .error 500 "control_failed"

def handleQuarantineRelease (server : Server) (session : Option Session) (request : Request)
    (draws : Draws) : Serving Response Response :=
  handleControl server session request draws true .quarantine .quarantineRelease fun body => do
    orElse (releaseTenantQuarantine server.collation server.fuel request.tenantID body.eventID)
      ReleaseError.response
    return .result {
      tenantID := request.tenantID
      control := .quarantineRelease
      eventID := body.eventID
      status := .released }

def writeReplayResult (tenantID : Bytes) (control : ControlKind) (eventID : Bytes)
    (outcome : RebuildOutcome) : Response :=
  match outcome.error with
  | some .controlNotFound | some .tenantMismatch => .error 404 "not_found"
  | some _ => .error 500 "control_failed"
  | none => .result {
      tenantID := tenantID
      control := control
      eventID := eventID
      status := .replayed
        (if outcome.result.status = .unset then .incomplete else outcome.result.status)
      applied := outcome.result.applied
      duplicateNoop := outcome.result.duplicateNoop
      quarantined := outcome.result.quarantined
      checksum := outcome.result.checksum
      lineageChecksum := outcome.result.lineageChecksum
      incompleteReasons := outcome.result.incompleteReasons }

def handleReplay (server : Server) (session : Option Session) (request : Request)
    (draws : Draws) : Serving Response Response :=
  handleControl server session request draws false .replay .replay fun body => do
    let outcome ← orElse
      (onDatabase (replayTenantHistory server.collation server.fuel request.tenantID body.eventID))
      Empty.elim
    return writeReplayResult request.tenantID .replay body.eventID outcome

def handleRebuild (server : Server) (session : Option Session) (request : Request)
    (draws : Draws) : Serving Response Response :=
  handleControl server session request draws false .rebuild .rebuild fun _ => do
    let outcome ← orElse
      (onDatabase (rebuildTenantFromHistory server.collation server.fuel request.tenantID))
      Empty.elim
    return writeReplayResult request.tenantID .rebuild [] outcome

/-- The route of a request behind `RequireSession`: the tenant of the path, the method, and the
handler. -/
def serveTenant (server : Server) (session : Session) (request : Request) (draws : Draws) :
    Serving Response Response :=
  if !validTenantID request.tenantID then .fail (.error 400 "invalid_tenant_id")
  else if !request.isPost then .fail (.error 405 "method_not_allowed")
  else
    match request.control with
    | .quarantineRelease => handleQuarantineRelease server (some session) request draws
    | .replay => handleReplay server (some session) request draws
    | .rebuild => handleRebuild server (some session) request draws

/-- `RequireSession` and the route. -/
def serve (server : Server) (session : Option Session) (request : Request) (draws : Draws) :
    Serving Response Response :=
  match session with
  | none => .fail (.error 401 "unauthenticated")
  | some session => serveTenant server session request draws

/-! ### What a control can reach -/

section Reach

variable {Failure Other Value : Type} {decisions : Table DecisionRow.decisionID}

/-- The decisions are the given ones. -/
def Keeps (decisions : Table DecisionRow.decisionID) (store : ControlStore) : Prop :=
  store.decisions = decisions

theorem onDatabase_keeps (program : Program Database Lock AppliedUpdate Failure Value) :
    Program.Preserves (Keeps decisions) (onDatabase program) :=
  Program.preserves_within (fun _ _ kept => kept) _ _

theorem onRelay_keeps (program : RelayAction Value) :
    Program.Preserves (Keeps decisions) (onRelay program) :=
  Program.preserves_within (fun _ _ kept => kept) _ _

theorem orElse_preserves {holds : ControlStore → Prop} {action : Serving Failure Value}
    (preserves : Program.Preserves holds action) (failure : Failure → Other) :
    Program.Preserves holds (orElse action failure) := by
  refine preserves.attempt.bind fun result => ?_
  cases result with
  | ok value => exact .done _
  | error error => exact .done _

theorem redriveFailure_keeps (collation : Collation) (fuel : Nat) (tenantID eventID : Bytes) :
    Program.Preserves (Keeps decisions) (redriveFailure collation fuel tenantID eventID) := by
  refine (onDatabase_keeps _).bind fun found => ?_
  split_ifs
  · exact .done _
  · refine (orElse_preserves (onDatabase_keeps _) _).bind fun records => ?_
    split
    · refine (orElse_preserves (onDatabase_keeps _) _).bind fun outcome => ?_
      split
      · exact .done _
      · exact .done _
    · exact .done _

theorem releaseTenantQuarantine_keeps (collation : Collation) (fuel : Nat)
    (tenantID eventID : Bytes) :
    Program.Preserves (Keeps decisions)
      (releaseTenantQuarantine collation fuel tenantID eventID) := by
  rw [releaseTenantQuarantine]
  split_ifs
  · exact .done _
  · refine (onDatabase_keeps _).bind fun disposition => ?_
    split_ifs
    · exact .done _
    · refine (onRelay_keeps _).attempt.bind fun released => ?_
      split
      · exact .done _
      · exact redriveFailure_keeps _ _ _ _
      · exact .done _

/-- A request that is served goes through the permission of its control, and what follows cannot
reach the decisions. -/
theorem serveTenant_cases (server : Server) (session : Session) (request : Request)
    (draws : Draws) :
    (∃ response, serveTenant server session request draws = .done (.error response)) ∨
    ∃ (targetID : Bytes) (control : Serving Response Response),
      serveTenant server session request draws =
        (do
          authorizeControl server (some session) request.tenantID request.control.resource
            request.control.action targetID draws
          control) ∧
      ∀ decisions, Program.Preserves (Keeps decisions) control := by
  have handled : ∀ required resource action control,
      (∀ body decisions, Program.Preserves (Keeps decisions) (control body)) →
      (∃ response, handleControl server (some session) request draws required resource action
        control = .done (.error response)) ∨
      ∃ (targetID : Bytes) (rest : Serving Response Response),
        handleControl server (some session) request draws required resource action control =
          (do
            authorizeControl server (some session) request.tenantID resource action targetID draws
            rest) ∧
        ∀ decisions, Program.Preserves (Keeps decisions) rest := by
    intro required resource action control keeps
    rw [handleControl]
    cases decodeControlRequest request.body required with
    | error response => exact .inl ⟨response, rfl⟩
    | ok body => exact .inr ⟨body.eventID, control body, rfl, keeps body⟩
  rw [serveTenant]
  split_ifs
  · exact .inl ⟨_, rfl⟩
  · exact .inl ⟨_, rfl⟩
  · cases request.control with
    | quarantineRelease =>
      exact handled _ _ _ _ fun body decisions =>
        (orElse_preserves (releaseTenantQuarantine_keeps _ _ _ _) _).bind fun _ => .done _
    | replay | rebuild =>
      exact handled _ _ _ _ fun body decisions =>
        (orElse_preserves (onDatabase_keeps _) _).bind fun _ => .done _

end Reach

/-! ### The permission -/

section Permission

variable {server : Server} {draws : Draws} {replies : List Reply} {store : ControlStore}
  {notes : List AppliedUpdate}

/-- The store with one more decision. -/
def ControlStore.recording (store : ControlStore) (row : DecisionRow) : ControlStore :=
  { store with decisions := store.decisions.store row }

/-- The append of a decision stores one new row, or nothing. -/
theorem appendDecision_run (draws : Draws) (decision : ControlDecision) (replies : List Reply)
    (store : ControlStore) (notes : List AppliedUpdate) :
    (∃ error rest, (appendDecision draws decision).run replies ⟨store, none, notes⟩ =
        (.error error, rest, ⟨store, none, notes⟩) ∧
      (appendDecision draws decision).moments replies ⟨store, none, notes⟩ = []) ∨
    ∃ decisionID rest, store.decisions.find? decisionID = none ∧
      (appendDecision draws decision).run replies ⟨store, none, notes⟩ =
        (.ok (), rest,
          ⟨store.recording (decision.row decisionID draws.recordedAt), none, notes⟩) ∧
      (appendDecision draws decision).moments replies ⟨store, none, notes⟩ =
        [.stored store (store.recording (decision.row decisionID draws.recordedAt))] := by
  rw [appendDecision]
  split_ifs
  · exact .inl ⟨_, _, rfl, rfl⟩
  · cases draws.decisionID with
    | none => exact .inl ⟨_, _, rfl, rfl⟩
    | some decisionID =>
      simp only [Program.exec, Program.run, Program.moments]
      cases (Program.nextReply replies).1 with
      | lost => exact .inl ⟨_, _, rfl, rfl⟩
      | served choice =>
        simp only [insertDecisionStatement, Program.Session.view]
        split_ifs with _ taken
        · exact .inl ⟨_, _, rfl, rfl⟩
        · exact .inl ⟨_, _, rfl, rfl⟩
        · exact .inr ⟨decisionID, _, Option.not_isSome_iff_eq_none.mp taken, rfl, rfl⟩

/-- What a permission leaves: no change of the database, and where it is granted, one new
decision that allows the control. -/
theorem authorizeControl_run (server : Server) (session : Session) (tenantID : Bytes)
    (resource : Resource) (action : Permission) (targetID : Bytes) (draws : Draws)
    (replies : List Reply) (store : ControlStore) (notes : List AppliedUpdate) :
    (∀ before after, Moment.stored before after ∈
        (authorizeControl server (some session) tenantID resource action targetID draws).moments
          replies ⟨store, none, notes⟩ → before.db = after.db) ∧
    ((∃ response rest final,
        (authorizeControl server (some session) tenantID resource action targetID draws).run
          replies ⟨store, none, notes⟩ = (.error response, rest, ⟨final, none, notes⟩) ∧
        final.db = store.db) ∨
      ∃ decisionID rest, store.decisions.find? decisionID = none ∧
        server.allows session.principalID tenantID resource action = true ∧
        (authorizeControl server (some session) tenantID resource action targetID draws).run
          replies ⟨store, none, notes⟩ =
          (.ok (), rest, ⟨store.recording ((server.decision session.principalID tenantID resource
            action targetID).row decisionID draws.recordedAt), none, notes⟩)) := by
  simp only [authorizeControl, orElse]
  rw [bind_assoc, Program.run_bind, Program.run_attempt, Program.moments_bind,
    Program.moments_attempt, Program.run_attempt]
  rcases appendDecision_run draws (server.decision session.principalID tenantID resource action
    targetID) replies store notes with ⟨error, rest, ran, shown⟩ |
      ⟨decisionID, rest, fresh, ran, shown⟩
  · rw [ran, shown]
    exact ⟨fun _ _ member => absurd member List.not_mem_nil, .inl ⟨_, _, _, rfl, rfl⟩⟩
  · rw [ran, shown]
    simp only [Program.proceed, Program.momentsFrom, pure_bind]
    have same : ∀ before after, Moment.stored before after ∈ ([.stored store (store.recording
        ((server.decision session.principalID tenantID resource action targetID).row decisionID
          draws.recordedAt))] ++ [] : List (Moment ControlStore AppliedUpdate)) →
        before.db = after.db := by
      intro before after member
      obtain ⟨rfl, rfl⟩ : before = store ∧ after = _ := by simpa using member
      rfl
    cases allowed : server.allows session.principalID tenantID resource action with
    | false =>
      have denied : (server.decision session.principalID tenantID resource action
          targetID).outcome ≠ .allow := by simp [Server.decision, allowed]
      rw [if_pos denied]
      exact ⟨same, .inl ⟨_, _, _, rfl, rfl⟩⟩
    | true =>
      have granted : ¬ (server.decision session.principalID tenantID resource action
          targetID).outcome ≠ .allow := by simp [Server.decision, allowed]
      rw [if_neg granted]
      exact ⟨same, .inr ⟨decisionID, _, fresh, rfl, rfl⟩⟩

end Permission

/-! ### Sites -/

/-- A server with its store and its sessions. -/
structure Site where
  server : Server
  sessions : Table Session.id
  store : ControlStore

/-- A request, what it draws, and how the server of the database answers it. -/
structure Visit where
  request : Request
  draws : Draws
  replies : List Reply

/-- What happens at a site: assignments are made and cleared, sessions begin and end, other
components change the database, and controls are requested. -/
inductive Happening
  | assign (assignment : Assignment)
  | clear (principalID : Bytes)
  | signIn (session : Session)
  | signOut (id : Bytes)
  | elsewhere (db : Database) (clock : Int) (broker : List Produced)
  | visit (visit : Visit)

namespace Site

variable (site : Site) (visit : Visit)

/-- The session of a request. -/
def session : Option Session :=
  (authenticate site.sessions visit.draws.now visit.request.cookie).1

def program : Serving Response Response :=
  serve site.server (site.session visit) visit.request visit.draws

/-- What a request makes visible. -/
def moments : List (Moment ControlStore AppliedUpdate) :=
  (site.program visit).moments visit.replies ⟨site.store, none, []⟩

/-- The store that a request leaves. -/
def left : ControlStore :=
  ((site.program visit).run visit.replies ⟨site.store, none, []⟩).2.2.committed

/-- Change the assignments, where there are any. -/
def reassign (change : Directory → Directory) : Site :=
  { site with server := { site.server with policy := site.server.policy.map (Option.map change) } }

def step : Happening → Site
  | .assign assignment => site.reassign (·.assign assignment)
  | .clear principalID => site.reassign (·.clear principalID)
  | .signIn session => { site with sessions := site.sessions.store session }
  | .signOut id => { site with sessions := site.sessions.discard fun row => row.id == id }
  | .elsewhere db clock broker =>
      { site with store := { site.store with db := db, clock := clock, broker := broker } }
  | .visit visit =>
      { site with
        sessions := (authenticate site.sessions visit.draws.now visit.request.cookie).2
        store := site.left visit }

def run (happenings : List Happening) : Site := happenings.foldl step site

/-- The policy allows the control to the principal of a session, for the tenant of the path. -/
def Allows (session : Session) : Prop :=
  site.server.allows session.principalID visit.request.tenantID visit.request.control.resource
    visit.request.control.action = true

/-- In the store stands a decision of this request that allows its control. -/
def Granted (store : ControlStore) : Prop :=
  ∃ session row, site.session visit = some session ∧ site.Allows visit session ∧
    row ∈ store.decisions.rows ∧ row ∉ site.store.decisions.rows ∧
    row.principalID = session.principalID ∧ row.tenantID = visit.request.tenantID ∧
    row.resource = visit.request.control.resource ∧ row.action = visit.request.control.action ∧
    row.outcome = .allow

/-- The request has no session, or the policy denies its control, or no decision is stored. -/
def Refused : Prop :=
  (∀ session, site.session visit = some session → ¬ site.Allows visit session) ∨
    (site.left visit).decisions = site.store.decisions

end Site

section Requests

variable (site : Site) (visit : Visit)

/-- A request changes nothing, or it goes through a permission that is granted and recorded. -/
theorem visit_cases :
    ((site.left visit).db = site.store.db ∧
      ∀ before after, Moment.stored before after ∈ site.moments visit → before.db = after.db) ∨
    ∃ session row, site.session visit = some session ∧ site.Allows visit session ∧
      site.store.decisions.find? row.decisionID = none ∧
      row.principalID = session.principalID ∧ row.tenantID = visit.request.tenantID ∧
      row.resource = visit.request.control.resource ∧
      row.action = visit.request.control.action ∧ row.outcome = .allow ∧
      (site.left visit).decisions = site.store.decisions.store row ∧
      ∀ before after, Moment.stored before after ∈ site.moments visit → before.db ≠ after.db →
        before.decisions = site.store.decisions.store row := by
  rw [Site.left, Site.moments, Site.program]
  cases found : site.session visit with
  | none => exact .inl ⟨rfl, nofun⟩
  | some session =>
    rw [serve]
    rcases serveTenant_cases site.server session visit.request visit.draws with
      ⟨response, ended⟩ | ⟨targetID, control, sequenced, keeps⟩
    · rw [ended]
      exact .inl ⟨rfl, nofun⟩
    · rw [sequenced, Program.run_bind, Program.moments_bind]
      obtain ⟨same, ⟨response, rest, final, ran, unchanged⟩ |
        ⟨decisionID, rest, fresh, allowed, ran⟩⟩ := authorizeControl_run site.server session
          visit.request.tenantID visit.request.control.resource visit.request.control.action
          targetID visit.draws visit.replies site.store []
      · rw [ran]
        refine .inl ⟨unchanged, fun before after member => same before after ?_⟩
        simpa [Program.momentsFrom] using member
      · obtain ⟨row, isRow⟩ : ∃ row, row = (site.server.decision session.principalID
            visit.request.tenantID visit.request.control.resource visit.request.control.action
            targetID).row decisionID visit.draws.recordedAt := ⟨_, rfl⟩
        have outcome : row.outcome = .allow := by
          simp [isRow, ControlDecision.row, Server.decision, allowed]
        rw [ran, ← isRow]
        have begun : Program.Session.Holds (Keeps (site.store.decisions.store row))
            (⟨site.store.recording row, none, []⟩ :
              Program.Session ControlStore AppliedUpdate) := ⟨rfl, rfl⟩
        obtain ⟨later, final⟩ := (keeps _).moments rest begun
        refine .inr ⟨session, row, rfl, allowed, by rw [isRow]; exact fresh, by rw [isRow]; rfl,
          by rw [isRow]; rfl, by rw [isRow]; rfl, by rw [isRow]; rfl, outcome, final.1, ?_⟩
        intro before after member changed
        rcases List.mem_append.mp member with early | late
        · exact absurd (same before after early) changed
        · exact (later _ late).1

end Requests

/-- Audit before mutate: whatever has happened at a site, each change that a request makes to
the schemas `erp` and `platform` comes after a decision of this request was stored that allows
its control to the principal of its session, and the policy does allow it. A request without a
session, one that is denied, and one whose decision is not stored change nothing. -/
theorem audit_before_mutate (start : Site) (happenings : List Happening) (visit : Visit) :
    (∀ before after, Moment.stored before after ∈ (start.run happenings).moments visit →
      before.db ≠ after.db → (start.run happenings).Granted visit before) ∧
    ((start.run happenings).Refused visit →
      ((start.run happenings).left visit).db = (start.run happenings).store.db ∧
      ∀ before after, Moment.stored before after ∈ (start.run happenings).moments visit →
        before.db = after.db) := by
  generalize start.run happenings = site
  rcases visit_cases site visit with ⟨unchanged, same⟩ |
    ⟨session, row, found, allowed, fresh, principal, tenant, resource, action, outcome, kept, late⟩
  · exact ⟨fun before after member changed => absurd (same before after member) changed,
      fun _ => ⟨unchanged, same⟩⟩
  · have absent : row ∉ site.store.decisions.rows := fun member =>
      Table.find?_eq_none_iff.mp fresh row member rfl
    refine ⟨fun before after member changed => ?_, fun refused => ?_⟩
    · refine ⟨session, row, found, allowed, ?_, absent, principal, tenant, resource, action,
        outcome⟩
      rw [late before after member changed]
      exact Table.mem_store_self _ _
    · rcases refused with denied | unrecorded
      · exact absurd allowed (denied session found)
      · rw [kept] at unrecorded
        exact absurd (unrecorded ▸ Table.mem_store_self _ _) absent

/-! ### A sample request -/

/-- An event that the relay has given up on. -/
def stuckRow : OutboxRow where
  eventID := ascii "cccccccc-cccc-4ccc-8ccc-cccccccccccc"
  tenantID := tenantNS001UUID
  aggregateType := aggregateTypeInventoryItem
  aggregateID := ascii "flour"
  aggregateVersion := 1
  contentHash := []
  eventBytes := []
  status := .quarantined
  recordedAt := 0
  publishLeaseOwner := none
  publishLeaseExpiresAt := none
  publishAttempts := 1
  lastErrorCode := none
  createdAt := 0

def stuckStore : ControlStore :=
  ⟨⟨{ Erp.empty with outbox := Table.empty.store stuckRow }, .empty⟩, .empty, 0, []⟩

/-- A site with an operator, who is not signed in yet. -/
def sampleSite : Site where
  server := ⟨some (some ⟨[⟨ascii "operator", tenantNS001UUID, rolePlatformOperator⟩]⟩),
    byteOrder, 1⟩
  sessions := .empty
  store := stuckStore

def signedIn : List Happening :=
  [.signIn ⟨ascii "cookie", ascii "operator", ascii "issuer", ascii "subject", 100⟩]

def releaseVisit : Visit where
  request := ⟨true, tenantNS001UUID, .quarantineRelease, some (ascii "cookie"),
    some (ascii "\x7b\"event_id\":\"cccccccc-cccc-4ccc-8ccc-cccccccccccc\"\x7d")⟩
  draws := ⟨10, 10, some (ascii "decision")⟩
  replies := []

/-- The moment takes the row out of quarantine. -/
def unblocks : Moment ControlStore AppliedUpdate → Bool
  | .stored before after =>
      before.db.erp.outbox.rows.map OutboxRow.status = [.quarantined] ∧
        after.db.erp.outbox.rows.map OutboxRow.status = [.pending]
  | .sent _ _ => false

/-- The operator's release changes the outbox, with the permission on record. -/
theorem audit_before_mutate_sample :
    ∃ before after, Moment.stored before after ∈ (sampleSite.run signedIn).moments releaseVisit ∧
      before.db ≠ after.db ∧ (sampleSite.run signedIn).Granted releaseVisit before := by
  have ran : ((sampleSite.run signedIn).moments releaseVisit).any unblocks = true := by
    decide +kernel
  obtain ⟨moment, member, changes⟩ := List.any_eq_true.mp ran
  cases moment with
  | sent note committed => cases changes
  | stored before after =>
    obtain ⟨blocked, free⟩ := of_decide_eq_true changes
    have changed : before.db ≠ after.db := by
      intro same
      rw [same, free] at blocked
      cases blocked
    exact ⟨before, after, member, changed,
      (audit_before_mutate sampleSite signedIn releaseVisit).1 before after member changed⟩

end Controls

end SeshatOps
