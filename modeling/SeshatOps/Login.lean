/-
This file models the login of the `identity` package and proves what its two in-memory maps
guarantee: a login state is good for one session, and a session that is gone stays gone.

`handleCallback` asks the identity provider in its middle, so other requests may be served
between its two halves; each use of the store is one step. The history of a run lists the
steps with their outcomes. What the maps hold is told by the history alone: a pending login
was issued and not taken yet, and a session was created, not logged out since and, unless a
lookup has found it expired and dropped it, is still there.
-/

import SeshatOps.Controls

namespace SeshatOps

open Relational

namespace Identity

open Controls (Session authenticate)

/-! ### The store -/

/-- `time.Hour`, in nanoseconds. -/
def defaultSessionTTL : Int := 3600000000000

/-- `10 * time.Minute`, in nanoseconds. -/
def defaultPendingTTL : Int := 600000000000

/-- A login that has begun: `pendingAuth` with its key. -/
structure Pending where
  state : Bytes
  verifier : Bytes
  nonce : Bytes
  expiresAt : Int
  deriving DecidableEq

structure Store where
  sessions : Table Session.id
  pending : Table Pending.state
  ttl : Int

def newStore (ttl : Int) : Store where
  sessions := .empty
  pending := .empty
  ttl := if ttl ≤ 0 then defaultSessionTTL else ttl

/-- What `rand.Read` gives for an identifier: sixteen bytes, or an error. -/
abbrev Draw := Option { bytes : Bytes // bytes.length = 16 }

def randomID (draw : Draw) : Option Bytes := draw.map fun bytes => Hex.encodeToString bytes.1

namespace Store

def create (store : Store) (principalID issuer subject correlationID : Bytes)
    (idDraw correlationDraw : Draw) (now : Int) : Option (Session × Store) := do
  let id ← randomID idDraw
  let _ ← if correlationID.isEmpty then randomID correlationDraw else some correlationID
  let session : Session := ⟨id, principalID, issuer, subject, now + store.ttl⟩
  return (session, { store with sessions := store.sessions.store session })

def delete (store : Store) (id : Bytes) : Store :=
  if id.isEmpty then store
  else { store with sessions := store.sessions.discard fun row => row.id == id }

def sweepPending (store : Store) (now : Int) : Store :=
  { store with pending := store.pending.discard fun row => !decide (now < row.expiresAt) }

def putPending (store : Store) (state verifier nonce : Bytes) (now : Int) : Store :=
  let swept := store.sweepPending now
  { swept with pending := swept.pending.store ⟨state, verifier, nonce, now + defaultPendingTTL⟩ }

def takePending (store : Store) (state : Bytes) (now : Int) : Option Pending × Store :=
  let swept := store.sweepPending now
  match swept.pending.find? state with
  | none => (none, swept)
  | some pending =>
      (some pending, { swept with pending := swept.pending.discard fun row => row.state == state })

end Store

/-! ### The handlers -/

inductive Method
  | get
  | post
  | other
  deriving DecidableEq, Repr

/-- The parts of a request to `/auth/callback` that are read. -/
structure CallbackRequest where
  method : Method
  error : Bytes
  code : Bytes
  state : Bytes
  loginCookie : Option Bytes
  deriving DecidableEq

/-- A verified ID token. -/
structure IDToken where
  subject : Bytes
  issuer : Bytes
  nonce : Bytes
  deriving DecidableEq

/-- What the exchange of the code and the verification give. -/
inductive Assertion
  | exchangeFailed
  /-- The answer has no `id_token`. -/
  | missing
  | unverified
  | verified (token : IDToken)
  deriving DecidableEq

/-- A callback that has taken its login and asks the provider. -/
structure Waiting where
  request : CallbackRequest
  pending : Pending
  deriving DecidableEq

/-- What a step answers. -/
inductive Outcome
  | failed (status : Nat) (error : String)
  /-- The redirect of a login, with the state as login cookie. -/
  | redirected (state nonce : Bytes)
  /-- A callback goes on to the provider. -/
  | exchanging (waiting : Waiting)
  /-- The redirect of a callback, with the session cookie. -/
  | signedIn (waiting : Waiting) (session : Session)
  | signedOut (cookie : Option Bytes)
  | accepted (session : Session)
  /-- The provider answers to no callback. -/
  | ignored
  deriving DecidableEq

def handleLogin (store : Store) (method : Method) (stateDraw nonceDraw : Draw) (verifier : Bytes)
    (now : Int) : Outcome × Store :=
  if method ≠ .get then (.failed 405 "method_not_allowed", store)
  else
    match randomID stateDraw with
    | none => (.failed 500 "login_failed", store)
    | some state =>
        match randomID nonceDraw with
        | none => (.failed 500 "login_failed", store)
        | some nonce => (.redirected state nonce, store.putPending state verifier nonce now)

/-- `handleCallback` up to the exchange. -/
def handleCallback (store : Store) (request : CallbackRequest) (now : Int) : Outcome × Store :=
  if request.method ≠ .get then (.failed 405 "method_not_allowed", store)
  else if request.error ≠ [] then (.failed 401 "invalid_assertion", store)
  else if request.code = [] ∨ request.state = [] then (.failed 400 "invalid_callback", store)
  else if request.loginCookie ≠ some request.state then (.failed 401 "invalid_callback", store)
  else
    match store.takePending request.state now with
    | (none, swept) => (.failed 401 "invalid_callback", swept)
    | (some pending, taken) => (.exchanging ⟨request, pending⟩, taken)

/-- `handleCallback` from the exchange on. -/
def finishCallback (store : Store) (waiting : Waiting) (assertion : Assertion)
    (idDraw correlationDraw : Draw) (now : Int) : Outcome × Store :=
  match assertion with
  | .exchangeFailed | .missing | .unverified => (.failed 401 "invalid_assertion", store)
  | .verified token =>
      if token.subject = [] then (.failed 401 "invalid_assertion", store)
      else if waiting.pending.nonce ≠ [] ∧ token.nonce ≠ waiting.pending.nonce then
        (.failed 401 "invalid_assertion", store)
      else
        match store.create token.subject token.issuer token.subject [] idDraw correlationDraw
            now with
        | none => (.failed 500 "login_failed", store)
        | some (session, created) => (.signedIn waiting session, created)

def handleLogout (store : Store) (method : Method) (cookie : Option Bytes) : Outcome × Store :=
  if method ≠ .post then (.failed 405 "method_not_allowed", store)
  else (.signedOut cookie, (cookie.map store.delete).getD store)

/-- `Authenticator.Session`, as `/auth/session` and `RequireSession` use it. -/
def lookupSession (store : Store) (cookie : Option Bytes) (now : Int) : Outcome × Store :=
  match authenticate store.sessions now cookie with
  | (none, sessions) => (.failed 401 "unauthenticated", { store with sessions := sessions })
  | (some session, sessions) => (.accepted session, { store with sessions := sessions })

/-! ### Runs -/

/-- The store and the callbacks that wait for the provider. -/
structure Server where
  store : Store
  waiting : List Waiting

inductive Action
  | login (method : Method) (stateDraw nonceDraw : Draw) (verifier : Bytes)
  | callback (request : CallbackRequest)
  /-- The provider's answer to one of the callbacks that wait. -/
  | answer (place : Nat) (assertion : Assertion) (idDraw correlationDraw : Draw)
  | logout (method : Method) (cookie : Option Bytes)
  | lookup (cookie : Option Bytes)
  deriving DecidableEq

structure Step where
  now : Int
  action : Action
  deriving DecidableEq

/-- The identifiers drawn in a step. -/
def Step.drawn (step : Step) : List Bytes :=
  match step.action with
  | .login _ stateDraw nonceDraw _ => [stateDraw, nonceDraw].filterMap randomID
  | .answer _ _ idDraw correlationDraw => [idDraw, correlationDraw].filterMap randomID
  | _ => []

/-- The ID token that is verified in a step. -/
def Step.token? (step : Step) : Option IDToken :=
  match step.action with
  | .answer _ (.verified token) _ _ => some token
  | _ => none

def Server.step (server : Server) (step : Step) : Outcome × Server :=
  match step.action with
  | .login method stateDraw nonceDraw verifier =>
      let (outcome, store) := handleLogin server.store method stateDraw nonceDraw verifier step.now
      (outcome, { server with store := store })
  | .callback request =>
      match handleCallback server.store request step.now with
      | (.exchanging waiting, store) =>
          (.exchanging waiting, ⟨store, server.waiting ++ [waiting]⟩)
      | (outcome, store) => (outcome, { server with store := store })
  | .answer place assertion idDraw correlationDraw =>
      match server.waiting[place]? with
      | none => (.ignored, server)
      | some waiting =>
          let (outcome, store) :=
            finishCallback server.store waiting assertion idDraw correlationDraw step.now
          (outcome, ⟨store, server.waiting.eraseIdx place⟩)
  | .logout method cookie =>
      let (outcome, store) := handleLogout server.store method cookie
      (outcome, { server with store := store })
  | .lookup cookie =>
      let (outcome, store) := lookupSession server.store cookie step.now
      (outcome, { server with store := store })

/-- A step with its outcome. -/
structure Entry where
  step : Step
  outcome : Outcome
  deriving DecidableEq

abbrev History := List Entry

def Server.history : Server → List Step → History
  | _, [] => []
  | server, step :: rest =>
      let (outcome, next) := server.step step
      ⟨step, outcome⟩ :: next.history rest

theorem Server.history_cons (server : Server) (step : Step) (rest : List Step) :
    server.history (step :: rest) =
      ⟨step, (server.step step).1⟩ :: (server.step step).2.history rest := rfl

/-- The history of a server that starts with an empty store. -/
def historyOf (ttl : Int) (steps : List Step) : History :=
  Server.history ⟨newStore ttl, []⟩ steps

/-! ### What a history tells -/

/-- The callbacks that took a login. -/
def taken (history : History) : List Waiting :=
  history.filterMap fun entry =>
    match entry.outcome with
    | .exchanging waiting => some waiting
    | _ => none

/-- The sessions that were created, with their callbacks. -/
def created (history : History) : List (Waiting × Session) :=
  history.filterMap fun entry =>
    match entry.outcome with
    | .signedIn waiting session => some (waiting, session)
    | _ => none

def drawn (history : History) : List Bytes := history.flatMap fun entry => entry.step.drawn

/-- The session was created and not logged out since. -/
def Alive (history : History) (session : Session) : Prop :=
  ∃ past entry after waiting, history = past ++ entry :: after ∧
    entry.outcome = .signedIn waiting session ∧
    ∀ later ∈ after, later.outcome ≠ .signedOut (some session.id)

/-- A login that put the state into the store. -/
structure Issued (entry : Entry) (pending : Pending) : Prop where
  outcome : entry.outcome = .redirected pending.state pending.nonce
  nonce : pending.nonce ≠ []
  expiresAt : pending.expiresAt = entry.step.now + defaultPendingTTL

/-- A callback that took the state out again. -/
structure Took (entry : Entry) (waiting : Waiting) : Prop where
  outcome : entry.outcome = .exchanging waiting
  action : entry.step.action = .callback waiting.request
  cookie : waiting.request.loginCookie = some waiting.pending.state
  early : entry.step.now < waiting.pending.expiresAt

/-- The login and the callback behind a created session. -/
def Origin (history : History) (waiting : Waiting) : Prop :=
  ∃ past entry after, history = past ++ entry :: after ∧ Took entry waiting ∧
    ∃ login ∈ past, Issued login waiting.pending

section Histories

variable {history : History} {entry : Entry} {session : Session} {waiting : Waiting}

theorem taken_append (first second : History) :
    taken (first ++ second) = taken first ++ taken second := List.filterMap_append ..

theorem created_append (first second : History) :
    created (first ++ second) = created first ++ created second := List.filterMap_append ..

theorem drawn_append (first second : History) :
    drawn (first ++ second) = drawn first ++ drawn second := List.flatMap_append ..

theorem mem_created : (waiting, session) ∈ created history ↔
    ∃ entry ∈ history, entry.outcome = .signedIn waiting session := by
  simp only [created, List.mem_filterMap]
  refine exists_congr fun entry => and_congr_right fun _ => ?_
  cases entry.outcome <;> simp

theorem Alive.created (alive : Alive history session) :
    ∃ waiting, (waiting, session) ∈ created history := by
  obtain ⟨past, entry, after, waiting, rfl, outcome, -⟩ := alive
  exact ⟨waiting, mem_created.mpr ⟨entry, by simp, outcome⟩⟩

/-- A session is alive after a step that creates it, or if it was and is not logged out. -/
theorem alive_concat : Alive (history ++ [entry]) session ↔
    (∃ waiting, entry.outcome = .signedIn waiting session) ∨
      Alive history session ∧ entry.outcome ≠ .signedOut (some session.id) := by
  constructor
  · rintro ⟨past, creation, after, waiting, split, outcome, kept⟩
    rcases List.eq_nil_or_concat after with rfl | ⟨front, last, rfl⟩
    · obtain ⟨rfl, same⟩ := List.append_inj' split rfl
      rw [List.cons.inj same |>.1]
      exact Or.inl ⟨waiting, outcome⟩
    · rw [List.concat_eq_append] at split kept
      rw [← List.cons_append, ← List.append_assoc] at split
      obtain ⟨rfl, same⟩ := List.append_inj' split rfl
      obtain rfl := (List.cons.inj same).1
      exact Or.inr ⟨⟨past, creation, front, waiting, rfl, outcome,
        fun later member => kept later (List.mem_append_left _ member)⟩, kept _ (by simp)⟩
  · rintro (⟨waiting, outcome⟩ | ⟨⟨past, creation, after, waiting, rfl, outcome, kept⟩, stays⟩)
    · exact ⟨history, entry, [], waiting, rfl, outcome, by simp⟩
    · refine ⟨past, creation, after ++ [entry], waiting, by simp, outcome, fun later member => ?_⟩
      rcases List.mem_append.mp member with old | new
      · exact kept later old
      · rw [List.mem_singleton.mp new]
        exact stays

theorem Origin.concat (origin : Origin history waiting) (entry : Entry) :
    Origin (history ++ [entry]) waiting := by
  obtain ⟨past, callback, after, rfl, took, issued⟩ := origin
  exact ⟨past, callback, after ++ [entry], by simp, took, issued⟩

end Histories

/-! ### The effect of a step -/

theorem randomID_ne_nil {draw : Draw} {id : Bytes} (found : randomID draw = some id) : id ≠ [] := by
  obtain ⟨bytes, -, rfl⟩ := Option.map_eq_some_iff.mp found
  obtain ⟨bytes, length⟩ := bytes
  cases bytes with
  | nil => cases length
  | cons byte rest => simp [Hex.encodeToString]

/-- What a step can do. -/
inductive Effect (server : Server) (step : Step) : Outcome → Server → Prop
  /-- Nothing, but for logins that are swept and callbacks that end. -/
  | nothing {outcome : Outcome} {pending : Table Pending.state} {waiting : List Waiting}
      (quiet : (∃ status error, outcome = .failed status error) ∨ outcome = .ignored)
      (action : ∀ cookie, step.action ≠ .lookup cookie)
      (fewer : ∀ row ∈ pending.rows, row ∈ server.store.pending.rows)
      (rest : waiting.Sublist server.waiting) :
      Effect server step outcome ⟨{ server.store with pending := pending }, waiting⟩
  | issued (verifier : Bytes) {state nonce : Bytes} {pending : Table Pending.state}
      (drawn : state ∈ step.drawn) (nonempty : nonce ≠ [])
      (more : ∀ row ∈ pending.rows, row ∈ server.store.pending.rows ∨
        row = ⟨state, verifier, nonce, step.now + defaultPendingTTL⟩) :
      Effect server step (.redirected state nonce)
        { server with store := { server.store with pending := pending } }
  | took {waiting : Waiting} {pending : Table Pending.state}
      (action : step.action = .callback waiting.request)
      (cookie : waiting.request.loginCookie = some waiting.pending.state)
      (member : waiting.pending ∈ server.store.pending.rows)
      (early : step.now < waiting.pending.expiresAt)
      (fewer : ∀ row ∈ pending.rows, row ∈ server.store.pending.rows ∧
        row.state ≠ waiting.pending.state) :
      Effect server step (.exchanging waiting)
        ⟨{ server.store with pending := pending }, server.waiting ++ [waiting]⟩
  | signedIn {place : Nat} {waiting : Waiting} {token : IDToken} {idDraw correlationDraw : Draw}
      {session : Session}
      (action : step.action = .answer place (.verified token) idDraw correlationDraw)
      (selected : server.waiting[place]? = some waiting)
      (nonce : waiting.pending.nonce ≠ [] → token.nonce = waiting.pending.nonce)
      (id : randomID idDraw = some session.id)
      (principal : session.principalID = token.subject) (subject : session.subject = token.subject)
      (given : token.subject ≠ []) (issuer : session.issuer = token.issuer)
      (expiresAt : session.expiresAt = step.now + server.store.ttl) :
      Effect server step (.signedIn waiting session)
        ⟨{ server.store with sessions := server.store.sessions.store session },
          server.waiting.eraseIdx place⟩
  | signedOut {cookie : Option Bytes} {sessions : Table Session.id}
      (action : ∀ cookie, step.action ≠ .lookup cookie)
      (fewer : ∀ row, row ∈ sessions.rows ↔
        row ∈ server.store.sessions.rows ∧ (cookie = some row.id → row.id = [])) :
      Effect server step (.signedOut cookie)
        { server with store := { server.store with sessions := sessions } }
  | accepted {session : Session} (action : step.action = .lookup (some session.id))
      (member : session ∈ server.store.sessions.rows) (fresh : session.fresh step.now = true) :
      Effect server step (.accepted session) server
  | rejected {cookie : Option Bytes} {sessions : Table Session.id}
      (action : step.action = .lookup cookie)
      (stale : ∀ row ∈ server.store.sessions.rows, cookie = some row.id → row.id ≠ [] →
        row.fresh step.now = false)
      (fewer : ∀ row, row ∈ sessions.rows ↔
        row ∈ server.store.sessions.rows ∧ (cookie = some row.id → row.id = [])) :
      Effect server step (.failed 401 "unauthenticated")
        { server with store := { server.store with sessions := sessions } }

section Effects

variable {server : Server} {step : Step}

theorem Effect.still {outcome : Outcome}
    (quiet : (∃ status error, outcome = .failed status error) ∨ outcome = .ignored)
    (action : ∀ cookie, step.action ≠ .lookup cookie) : Effect server step outcome server :=
  .nothing quiet action (fun _ member => member) (List.Sublist.refl _)

theorem Store.mem_sweepPending (store : Store) (now : Int) (row : Pending) :
    row ∈ (store.sweepPending now).pending.rows ↔
      row ∈ store.pending.rows ∧ now < row.expiresAt := by
  rw [Store.sweepPending, Table.mem_discard]
  simp

theorem handleLogin_effect (now : Int) (method : Method) (stateDraw nonceDraw : Draw)
    (verifier : Bytes) :
    Effect server ⟨now, .login method stateDraw nonceDraw verifier⟩
      (handleLogin server.store method stateDraw nonceDraw verifier now).1
      { server with
        store := (handleLogin server.store method stateDraw nonceDraw verifier now).2 } := by
  unfold handleLogin
  split_ifs with other
  · exact .still (Or.inl ⟨_, _, rfl⟩) (fun _ => by simp)
  cases state : randomID stateDraw with
  | none => exact .still (Or.inl ⟨_, _, rfl⟩) (fun _ => by simp)
  | some state' =>
    cases nonce : randomID nonceDraw with
    | none => exact .still (Or.inl ⟨_, _, rfl⟩) (fun _ => by simp)
    | some nonce' =>
      refine .issued verifier (by simp [Step.drawn, state]) (randomID_ne_nil nonce)
        fun row member => ?_
      rcases Table.mem_store.mp member with ⟨old, -⟩ | rfl
      · exact Or.inl ((server.store.mem_sweepPending now row).mp old).1
      · exact Or.inr rfl

theorem handleCallback_effect (now : Int) (request : CallbackRequest) :
    Effect server ⟨now, .callback request⟩ (server.step ⟨now, .callback request⟩).1
      (server.step ⟨now, .callback request⟩).2 := by
  simp only [Server.step, handleCallback]
  by_cases other : request.method ≠ .get
  · rw [if_pos other]
    exact .still (Or.inl ⟨_, _, rfl⟩) (fun _ => by simp)
  rw [if_neg other]
  by_cases refused : request.error ≠ []
  · rw [if_pos refused]
    exact .still (Or.inl ⟨_, _, rfl⟩) (fun _ => by simp)
  rw [if_neg refused]
  by_cases empty : request.code = [] ∨ request.state = []
  · rw [if_pos empty]
    exact .still (Or.inl ⟨_, _, rfl⟩) (fun _ => by simp)
  rw [if_neg empty]
  by_cases foreign : request.loginCookie ≠ some request.state
  · rw [if_pos foreign]
    exact .still (Or.inl ⟨_, _, rfl⟩) (fun _ => by simp)
  rw [if_neg foreign, Store.takePending]
  cases found : (server.store.sweepPending now).pending.find? request.state with
  | none =>
    dsimp only
    refine .nothing (Or.inl ⟨_, _, rfl⟩) (fun _ => by simp) (fun row member => ?_)
      (List.Sublist.refl _)
    exact ((server.store.mem_sweepPending now row).mp member).1
  | some pending =>
    dsimp only
    obtain ⟨member, own⟩ := Table.find?_eq_some_iff.mp found
    obtain ⟨listed, early⟩ := (server.store.mem_sweepPending now pending).mp member
    have cookie : request.loginCookie = some pending.state := by
      rw [own]
      exact not_not.mp foreign
    refine Effect.took rfl cookie listed early fun row kept => ?_
    rw [Table.mem_discard, Store.mem_sweepPending] at kept
    exact ⟨kept.1.1, by simpa [own] using kept.2⟩

theorem finishCallback_effect (now : Int) (place : Nat) (assertion : Assertion)
    (idDraw correlationDraw : Draw) {waiting : Waiting}
    (selected : server.waiting[place]? = some waiting) :
    Effect server ⟨now, .answer place assertion idDraw correlationDraw⟩
      (finishCallback server.store waiting assertion idDraw correlationDraw now).1
      ⟨(finishCallback server.store waiting assertion idDraw correlationDraw now).2,
        server.waiting.eraseIdx place⟩ := by
  have ended : ∀ {assertion : Assertion} {status : Nat} {error : String},
      Effect server ⟨now, .answer place assertion idDraw correlationDraw⟩ (.failed status error)
        ⟨server.store, server.waiting.eraseIdx place⟩ :=
    .nothing (Or.inl ⟨_, _, rfl⟩) (fun _ => by simp) (fun _ member => member)
      (List.eraseIdx_sublist _ _)
  unfold finishCallback
  cases assertion with
  | exchangeFailed => exact ended
  | missing => exact ended
  | unverified => exact ended
  | verified token =>
    dsimp only
    by_cases given : token.subject = []
    · rw [if_pos given]
      exact ended
    rw [if_neg given]
    by_cases nonce : waiting.pending.nonce ≠ [] ∧ token.nonce ≠ waiting.pending.nonce
    · rw [if_pos nonce]
      exact ended
    rw [if_neg nonce]
    cases id : randomID idDraw with
    | none =>
      simp only [Store.create, id]
      exact ended
    | some found =>
      cases correlation : randomID correlationDraw with
      | none =>
        simp only [Store.create, id, correlation]
        exact ended
      | some _ =>
        simp only [Store.create, id, correlation]
        refine .signedIn rfl selected (fun nonempty => ?_) id rfl rfl given rfl rfl
        by_contra differs
        exact nonce ⟨nonempty, differs⟩

theorem handleLogout_effect (now : Int) (method : Method) (cookie : Option Bytes) :
    Effect server ⟨now, .logout method cookie⟩ (handleLogout server.store method cookie).1
      { server with store := (handleLogout server.store method cookie).2 } := by
  unfold handleLogout
  split_ifs with other
  · exact .still (Or.inl ⟨_, _, rfl⟩) (fun _ => by simp)
  cases cookie with
  | none => exact .signedOut (fun _ => by simp) fun row => by simp
  | some value =>
    simp only [Option.map_some, Option.getD_some, Store.delete]
    split_ifs with empty
    · refine .signedOut (fun _ => by simp) fun row => ⟨fun member => ⟨member, ?_⟩, And.left⟩
      rintro ⟨⟩
      exact List.isEmpty_iff.mp empty
    · refine .signedOut (fun _ => by simp) fun row => ?_
      rw [Table.mem_discard]
      refine and_congr_right fun _ => ?_
      rw [beq_eq_false_iff_ne]
      constructor
      · rintro different ⟨⟩
        exact absurd rfl different
      · rintro only rfl
        exact empty (List.isEmpty_iff.mpr (only rfl))

theorem lookupSession_effect (now : Int) (cookie : Option Bytes) :
    Effect server ⟨now, .lookup cookie⟩ (lookupSession server.store cookie now).1
      { server with store := (lookupSession server.store cookie now).2 } := by
  unfold lookupSession
  cases cookie with
  | none =>
    exact .rejected rfl (fun row _ same => by cases same) fun row => by simp
  | some value =>
    simp only [authenticate, Controls.getSession]
    split_ifs with empty
    · rw [List.isEmpty_iff] at empty
      refine .rejected rfl (fun row _ same nonempty => ?_) fun row => ?_
      · cases same
        exact absurd empty nonempty
      · refine ⟨fun member => ⟨member, ?_⟩, And.left⟩
        rintro ⟨⟩
        exact empty
    cases found : server.store.sessions.find? value with
    | none =>
      have absent := Table.find?_eq_none_iff.mp found
      refine .rejected rfl (fun row member same => ?_) fun row => ?_
      · cases same
        exact absurd rfl (absent row member)
      · refine ⟨fun member => ⟨member, ?_⟩, And.left⟩
        rintro ⟨⟩
        exact absurd rfl (absent row member)
    | some session =>
      obtain ⟨member, rfl⟩ := Table.find?_eq_some_iff.mp found
      cases fresh : session.fresh now with
      | true =>
        simp only [fresh, if_true]
        exact .accepted rfl member fresh
      | false =>
        simp only [fresh, Bool.false_eq_true, if_false]
        refine .rejected rfl (fun row listed same _ => ?_) fun row => ?_
        · obtain rfl := server.store.sessions.eq_of_key listed member (Option.some.inj same).symm
          exact fresh
        · rw [Table.mem_discard]
          refine and_congr_right fun _ => ?_
          rw [beq_eq_false_iff_ne]
          constructor
          · rintro different same
            exact absurd (Option.some.inj same).symm different
          · rintro only same
            refine empty (List.isEmpty_iff.mpr ?_)
            rw [← same]
            exact only (by rw [same])

/-- Every step has one of these effects. -/
theorem step_effect (server : Server) (step : Step) :
    Effect server step (server.step step).1 (server.step step).2 := by
  obtain ⟨now, action⟩ := step
  cases action with
  | login method stateDraw nonceDraw verifier => exact handleLogin_effect ..
  | callback request => exact handleCallback_effect now request
  | answer place assertion idDraw correlationDraw =>
    simp only [Server.step]
    cases selected : server.waiting[place]? with
    | none => exact .still (Or.inr rfl) (fun _ => by simp)
    | some waiting =>
      exact finishCallback_effect now place assertion idDraw correlationDraw selected
  | logout method cookie => exact handleLogout_effect ..
  | lookup cookie => exact lookupSession_effect ..

end Effects

/-! ### The invariants -/

/-- What the login states and the callbacks of a server have to do with its history. -/
structure Logins (past : History) (server : Server) : Prop where
  issued : ∀ row ∈ server.store.pending.rows, ∃ entry ∈ past, Issued entry row
  pendingDrawn : ∀ row ∈ server.store.pending.rows, row.state ∈ drawn past
  unspent : ∀ row ∈ server.store.pending.rows, ∀ waiting ∈ taken past,
    waiting.pending.state ≠ row.state
  takenDrawn : ∀ waiting ∈ taken past, waiting.pending.state ∈ drawn past
  takenOnce : (taken past).Pairwise fun first second =>
    first.pending.state ≠ second.pending.state
  waiting : ∀ waiting ∈ server.waiting, waiting ∈ taken past ∧ Origin past waiting
  finished : ∀ pair ∈ created past, pair.1 ∈ taken past
  once : ((created past).map (fun pair => pair.1.pending.state) ++
    server.waiting.map fun waiting => waiting.pending.state).Nodup

/-- What the sessions of a server have to do with its history. -/
structure Sessions (past : History) (server : Server) : Prop where
  createdDrawn : ∀ pair ∈ created past, pair.2.id ∈ drawn past
  createdOnce : (created past).Pairwise fun first second => first.2.id ≠ second.2.id
  complete : ∀ pair ∈ created past, pair.2.id ≠ [] ∧ pair.2.principalID ≠ [] ∧
    pair.2.subject ≠ [] ∧ pair.2.issuer ≠ []
  held : ∀ session ∈ server.store.sessions.rows, Alive past session
  present : ∀ session, Alive past session → session ∈ server.store.sessions.rows ∨
    ∃ entry ∈ past, session.expiresAt ≤ entry.step.now

/-- A step that may follow a history: the clock does not go back, the identifiers drawn are new,
and a verified token has an issuer. -/
structure Follows (past : History) (step : Step) : Prop where
  clock : ∀ entry ∈ past, entry.step.now ≤ step.now
  fresh : ∀ id ∈ step.drawn, id ∉ drawn past
  issuer : ∀ token, step.token? = some token → token.issuer ≠ []

section Invariants

variable {past : History} {server next : Server} {entry : Entry}

theorem mem_drawn_concat {id : Bytes} (member : id ∈ drawn past) (entry : Entry) :
    id ∈ drawn (past ++ [entry]) := by
  rw [drawn_append]
  exact List.mem_append_left _ member

/-- A step that takes no login and creates no session. -/
theorem Logins.frame (logins : Logins past server) (noneTaken : taken [entry] = [])
    (noneCreated : created [entry] = [])
    (fewer : ∀ row ∈ next.store.pending.rows, row ∈ server.store.pending.rows)
    (rest : next.waiting.Sublist server.waiting) : Logins (past ++ [entry]) next := by
  have sameTaken : taken (past ++ [entry]) = taken past := by
    rw [taken_append, noneTaken, List.append_nil]
  have sameCreated : created (past ++ [entry]) = created past := by
    rw [created_append, noneCreated, List.append_nil]
  constructor
  · intro row member
    obtain ⟨login, listed, issued⟩ := logins.issued row (fewer row member)
    exact ⟨login, List.mem_append_left _ listed, issued⟩
  · exact fun row member => mem_drawn_concat (logins.pendingDrawn row (fewer row member)) entry
  · rw [sameTaken]
    exact fun row member => logins.unspent row (fewer row member)
  · rw [sameTaken]
    exact fun waiting member => mem_drawn_concat (logins.takenDrawn waiting member) entry
  · rw [sameTaken]
    exact logins.takenOnce
  · rw [sameTaken]
    intro waiting member
    obtain ⟨isTaken, origin⟩ := logins.waiting waiting (rest.subset member)
    exact ⟨isTaken, origin.concat entry⟩
  · rw [sameTaken, sameCreated]
    exact logins.finished
  · rw [sameCreated]
    exact logins.once.sublist ((List.Sublist.refl _).append (rest.map _))

theorem Logins.issue (logins : Logins past server) {step : Step} {state nonce verifier : Bytes}
    {pending : Table Pending.state} (follows : Follows past step) (isDrawn : state ∈ step.drawn)
    (nonempty : nonce ≠ [])
    (more : ∀ row ∈ pending.rows, row ∈ server.store.pending.rows ∨
      row = ⟨state, verifier, nonce, step.now + defaultPendingTTL⟩) :
    Logins (past ++ [⟨step, .redirected state nonce⟩])
      { server with store := { server.store with pending := pending } } := by
  have kept : Logins (past ++ [⟨step, .redirected state nonce⟩]) server :=
    logins.frame rfl rfl (fun _ member => member) (List.Sublist.refl _)
  refine { kept with issued := ?_, pendingDrawn := ?_, unspent := ?_ }
  · intro row member
    rcases more row member with old | rfl
    · exact kept.issued row old
    · exact ⟨⟨step, .redirected state nonce⟩, by simp, rfl, nonempty, rfl⟩
  · intro row member
    rcases more row member with old | rfl
    · exact kept.pendingDrawn row old
    · rw [drawn_append]
      exact List.mem_append_right _ (by simpa [drawn] using isDrawn)
  · intro row member waiting isTaken
    rcases more row member with old | rfl
    · exact kept.unspent row old waiting isTaken
    · intro same
      rw [taken_append] at isTaken
      rcases List.mem_append.mp isTaken with earlier | now
      · have known := logins.takenDrawn waiting earlier
        rw [same] at known
        exact follows.fresh state isDrawn known
      · cases now

theorem Logins.take (logins : Logins past server) {step : Step} {waiting : Waiting}
    {pending : Table Pending.state} (action : step.action = .callback waiting.request)
    (cookie : waiting.request.loginCookie = some waiting.pending.state)
    (member : waiting.pending ∈ server.store.pending.rows)
    (early : step.now < waiting.pending.expiresAt)
    (fewer : ∀ row ∈ pending.rows, row ∈ server.store.pending.rows ∧
      row.state ≠ waiting.pending.state) :
    Logins (past ++ [⟨step, .exchanging waiting⟩])
      ⟨{ server.store with pending := pending }, server.waiting ++ [waiting]⟩ := by
  have isTaken : taken (past ++ [⟨step, .exchanging waiting⟩]) = taken past ++ [waiting] := by
    rw [taken_append]
    rfl
  have sameCreated : created (past ++ [⟨step, .exchanging waiting⟩]) = created past := by
    rw [created_append]
    exact List.append_nil _
  have unspent := logins.unspent waiting.pending member
  constructor
  · intro row listed
    obtain ⟨login, isLogin, issued⟩ := logins.issued row (fewer row listed).1
    exact ⟨login, List.mem_append_left _ isLogin, issued⟩
  · exact fun row listed => mem_drawn_concat (logins.pendingDrawn row (fewer row listed).1) _
  · rw [isTaken]
    intro row listed other taken
    rcases List.mem_append.mp taken with old | new
    · exact logins.unspent row (fewer row listed).1 other old
    · rw [List.mem_singleton.mp new]
      exact (fewer row listed).2.symm
  · rw [isTaken]
    intro other taken
    rcases List.mem_append.mp taken with old | new
    · exact mem_drawn_concat (logins.takenDrawn other old) _
    · rw [List.mem_singleton.mp new]
      exact mem_drawn_concat (logins.pendingDrawn waiting.pending member) _
  · rw [isTaken, List.pairwise_append]
    refine ⟨logins.takenOnce, List.pairwise_singleton _ _, fun first old second new => ?_⟩
    rw [List.mem_singleton.mp new]
    exact unspent first old
  · rw [isTaken]
    intro other listed
    rcases List.mem_append.mp listed with old | new
    · obtain ⟨known, origin⟩ := logins.waiting other old
      exact ⟨List.mem_append_left _ known, origin.concat _⟩
    · rw [List.mem_singleton.mp new]
      exact ⟨by simp, past, _, [], rfl, ⟨rfl, action, cookie, early⟩,
        logins.issued waiting.pending member⟩
  · rw [isTaken, sameCreated]
    exact fun pair listed => List.mem_append_left _ (logins.finished pair listed)
  · rw [sameCreated, List.map_append, ← List.append_assoc, List.nodup_append]
    refine ⟨logins.once, List.nodup_singleton _, fun state listed other new same => ?_⟩
    obtain rfl : other = waiting.pending.state := by simpa using new
    rcases List.mem_append.mp listed with finished | unfinished
    · obtain ⟨pair, isCreated, rfl⟩ := List.mem_map.mp finished
      exact unspent pair.1 (logins.finished pair isCreated) same
    · obtain ⟨held, isWaiting, rfl⟩ := List.mem_map.mp unfinished
      exact unspent held (logins.waiting held isWaiting).1 same

theorem Logins.signIn (logins : Logins past server) {step : Step} {place : Nat}
    {waiting : Waiting} {session : Session}
    (selected : server.waiting[place]? = some waiting) :
    Logins (past ++ [⟨step, .signedIn waiting session⟩])
      ⟨{ server.store with sessions := server.store.sessions.store session },
        server.waiting.eraseIdx place⟩ := by
  have sameTaken : taken (past ++ [⟨step, .signedIn waiting session⟩]) = taken past := by
    rw [taken_append]
    exact List.append_nil _
  have isCreated : created (past ++ [⟨step, .signedIn waiting session⟩]) =
      created past ++ [(waiting, session)] := by
    rw [created_append]
    rfl
  have member : waiting ∈ server.waiting := List.mem_of_getElem? selected
  constructor
  · intro row listed
    obtain ⟨login, isLogin, issued⟩ := logins.issued row listed
    exact ⟨login, List.mem_append_left _ isLogin, issued⟩
  · exact fun row listed => mem_drawn_concat (logins.pendingDrawn row listed) _
  · rw [sameTaken]
    exact logins.unspent
  · rw [sameTaken]
    exact fun other listed => mem_drawn_concat (logins.takenDrawn other listed) _
  · rw [sameTaken]
    exact logins.takenOnce
  · rw [sameTaken]
    intro other listed
    obtain ⟨known, origin⟩ := logins.waiting other ((List.eraseIdx_sublist _ _).subset listed)
    exact ⟨known, origin.concat _⟩
  · rw [sameTaken, isCreated]
    intro pair listed
    rcases List.mem_append.mp listed with old | new
    · exact logins.finished pair old
    · rw [List.mem_singleton.mp new]
      exact (logins.waiting waiting member).1
  · -- The state moves from the callbacks that wait to those that are done.
    have perm : server.waiting.Perm (waiting :: server.waiting.eraseIdx place) :=
      (List.getElem_cons_eraseIdx_perm (List.getElem?_eq_some_iff.mp selected).1).symm.trans
        (List.Perm.of_eq (by rw [(List.getElem?_eq_some_iff.mp selected).2]))
    have once := ((List.Perm.refl _).append (perm.map fun waiting : Waiting =>
      waiting.pending.state)).nodup_iff.mp logins.once
    rw [isCreated, List.map_append, List.append_assoc]
    exact once

/-- A step that creates no session and drops only sessions that it logs out or finds expired. -/
theorem Sessions.frame (sessions : Sessions past server) (noneCreated : created [entry] = [])
    (kept : ∀ row ∈ next.store.sessions.rows, row ∈ server.store.sessions.rows ∧
      entry.outcome ≠ .signedOut (some row.id))
    (dropped : ∀ row ∈ server.store.sessions.rows, row ∈ next.store.sessions.rows ∨
      entry.outcome = .signedOut (some row.id) ∨ row.expiresAt ≤ entry.step.now) :
    Sessions (past ++ [entry]) next := by
  have sameCreated : created (past ++ [entry]) = created past := by
    rw [created_append, noneCreated, List.append_nil]
  have notCreated : ∀ waiting session, entry.outcome ≠ .signedIn waiting session := by
    intro waiting session outcome
    have listed : (waiting, session) ∈ created [entry] :=
      mem_created.mpr ⟨entry, List.mem_singleton_self _, outcome⟩
    rw [noneCreated] at listed
    cases listed
  constructor
  · rw [sameCreated]
    exact fun pair member => mem_drawn_concat (sessions.createdDrawn pair member) entry
  · rw [sameCreated]
    exact sessions.createdOnce
  · rw [sameCreated]
    exact sessions.complete
  · intro session member
    obtain ⟨old, stays⟩ := kept session member
    exact alive_concat.mpr (Or.inr ⟨sessions.held session old, stays⟩)
  · intro session alive
    rcases alive_concat.mp alive with ⟨waiting, outcome⟩ | ⟨old, stays⟩
    · exact absurd outcome (notCreated waiting session)
    · rcases sessions.present session old with member | ⟨earlier, listed, expired⟩
      · rcases dropped session member with still | gone | expired
        · exact Or.inl still
        · exact absurd gone stays
        · exact Or.inr ⟨entry, by simp, expired⟩
      · exact Or.inr ⟨earlier, List.mem_append_left _ listed, expired⟩

theorem Sessions.signIn (sessions : Sessions past server) {step : Step} {place : Nat}
    {waiting : Waiting} {session : Session} (isDrawn : session.id ∈ step.drawn)
    (follows : Follows past step)
    (complete : session.id ≠ [] ∧ session.principalID ≠ [] ∧ session.subject ≠ [] ∧
      session.issuer ≠ []) :
    Sessions (past ++ [⟨step, .signedIn waiting session⟩])
      ⟨{ server.store with sessions := server.store.sessions.store session },
        server.waiting.eraseIdx place⟩ := by
  have isCreated : created (past ++ [⟨step, .signedIn waiting session⟩]) =
      created past ++ [(waiting, session)] := by
    rw [created_append]
    rfl
  have new : ∀ pair ∈ created past, pair.2.id ≠ session.id := by
    intro pair member same
    exact follows.fresh session.id isDrawn (same ▸ sessions.createdDrawn pair member)
  have others : ∀ other, Alive past other → other.id ≠ session.id := by
    intro other alive
    obtain ⟨_, listed⟩ := alive.created
    exact new _ listed
  constructor
  · rw [isCreated, drawn_append]
    intro pair member
    rcases List.mem_append.mp member with old | single
    · exact List.mem_append_left _ (sessions.createdDrawn pair old)
    · rw [List.mem_singleton.mp single]
      exact List.mem_append_right _ (by simpa [drawn] using isDrawn)
  · rw [isCreated, List.pairwise_append]
    refine ⟨sessions.createdOnce, List.pairwise_singleton _ _, fun first old second single => ?_⟩
    rw [List.mem_singleton.mp single]
    exact new first old
  · rw [isCreated]
    intro pair member
    rcases List.mem_append.mp member with old | single
    · exact sessions.complete pair old
    · rw [List.mem_singleton.mp single]
      exact complete
  · intro row member
    rcases Table.mem_store.mp member with ⟨old, -⟩ | rfl
    · exact alive_concat.mpr (Or.inr ⟨sessions.held row old, by simp⟩)
    · exact alive_concat.mpr (Or.inl ⟨waiting, rfl⟩)
  · intro row alive
    rcases alive_concat.mp alive with ⟨_, outcome⟩ | ⟨old, -⟩
    · cases outcome
      exact Or.inl (Table.mem_store_self _ _)
    · rcases sessions.present row old with member | ⟨earlier, listed, expired⟩
      · exact Or.inl (Table.mem_store_of_ne _ member (others row old))
      · exact Or.inr ⟨earlier, List.mem_append_left _ listed, expired⟩

/-- A session that was created is fresh until it expires. -/
theorem Sessions.fresh_iff (sessions : Sessions past server) {session : Session}
    (member : session ∈ server.store.sessions.rows) (now : Int) :
    session.fresh now = true ↔ now < session.expiresAt := by
  obtain ⟨waiting, listed⟩ := (sessions.held session member).created
  obtain ⟨-, principal, subject, issuer⟩ := sessions.complete _ listed
  simp only at principal subject issuer
  simp [Session.fresh, principal, subject, issuer]

/-- What holds of an entry after its past. -/
structure Sound (ttl : Int) (past : History) (entry : Entry) : Prop where
  origin : ∀ waiting session, entry.outcome = .signedIn waiting session →
    (∃ token, entry.step.token? = some token ∧ token.nonce = waiting.pending.nonce) ∧
      session.expiresAt = entry.step.now + ttl ∧ Origin past waiting
  lookup : ∀ cookie, entry.step.action = .lookup cookie →
    ((∃ session, entry.outcome = .accepted session) ↔
      ∃ session, cookie = some session.id ∧ Alive past session ∧
        entry.step.now < session.expiresAt)

/-- Both invariants. -/
structure Tracks (past : History) (server : Server) : Prop where
  logins : Logins past server
  sessions : Sessions past server

/-- A step that is no lookup and creates no session has nothing to show. -/
theorem Sound.of_other {ttl : Int} (noLookup : ∀ cookie, entry.step.action ≠ .lookup cookie)
    (noneCreated : ∀ waiting session, entry.outcome ≠ .signedIn waiting session) :
    Sound ttl past entry :=
  ⟨fun waiting session outcome => absurd outcome (noneCreated waiting session),
    fun cookie action => absurd action (noLookup cookie)⟩

/-- A step keeps the invariants, and its entry is sound. -/
theorem Tracks.step (tracks : Tracks past server) {step : Step} {outcome : Outcome}
    (follows : Follows past step) (effect : Effect server step outcome next) :
    Tracks (past ++ [⟨step, outcome⟩]) next ∧ Sound server.store.ttl past ⟨step, outcome⟩ ∧
      next.store.ttl = server.store.ttl := by
  obtain ⟨logins, sessions⟩ := tracks
  cases effect with
  | nothing quiet action fewer rest =>
    have plain : taken [⟨step, outcome⟩] = [] ∧ created [⟨step, outcome⟩] = [] ∧
        (∀ cookie, outcome ≠ .signedOut cookie) ∧
        ∀ waiting session, outcome ≠ .signedIn waiting session := by
      rcases quiet with ⟨status, error, rfl⟩ | rfl
      · exact ⟨rfl, rfl, by simp, by simp⟩
      · exact ⟨rfl, rfl, by simp, by simp⟩
    obtain ⟨noneTaken, noneCreated, notOut, notIn⟩ := plain
    exact ⟨⟨logins.frame noneTaken noneCreated fewer rest, sessions.frame noneCreated
      (fun row member => ⟨member, notOut _⟩) fun row member => Or.inl member⟩,
      .of_other action notIn, rfl⟩
  | issued verifier isDrawn nonempty more =>
    refine ⟨⟨logins.issue follows isDrawn nonempty more, sessions.frame rfl
      (fun row member => ⟨member, by simp⟩) fun row member => Or.inl member⟩, ?_, rfl⟩
    refine .of_other (fun cookie action => ?_) (by simp)
    rw [Step.drawn, show step.action = .lookup cookie from action] at isDrawn
    cases isDrawn
  | took action cookie member early fewer =>
    refine ⟨⟨logins.take action cookie member early fewer, sessions.frame rfl
      (fun row member => ⟨member, by simp⟩) fun row member => Or.inl member⟩, ?_, rfl⟩
    exact .of_other (by simp [action]) (by simp)
  | @signedIn place waiting token idDraw correlationDraw session action selected nonce id principal
      subject given issuer expiresAt =>
    have isDrawn : session.id ∈ step.drawn := by simp [Step.drawn, action, id]
    have token? : step.token? = some token := by simp [Step.token?, action]
    have complete : session.id ≠ [] ∧ session.principalID ≠ [] ∧ session.subject ≠ [] ∧
        session.issuer ≠ [] :=
      ⟨randomID_ne_nil id, principal ▸ given, subject ▸ given,
        issuer ▸ follows.issuer token token?⟩
    refine ⟨⟨logins.signIn selected, sessions.signIn isDrawn follows complete⟩, ⟨?_, ?_⟩, rfl⟩
    · rintro _ _ ⟨⟩
      obtain ⟨-, origin⟩ := logins.waiting waiting (List.mem_of_getElem? selected)
      obtain ⟨_, _, _, _, _, _, _, issued⟩ := (show Origin past waiting from origin)
      exact ⟨⟨token, token?, nonce issued.nonce⟩, expiresAt, origin⟩
    · intro cookie lookup
      rw [action] at lookup
      cases lookup
  | @signedOut cookie rows action fewer =>
    refine ⟨⟨logins.frame rfl rfl (fun _ member => member) (List.Sublist.refl _),
      sessions.frame rfl (fun row member => ?_) fun row member => ?_⟩, .of_other action (by simp),
      rfl⟩
    · obtain ⟨old, only⟩ := (fewer row).mp member
      refine ⟨old, fun outcome => ?_⟩
      obtain ⟨waiting, listed⟩ := (sessions.held row old).created
      exact (sessions.complete _ listed).1 (only (Outcome.signedOut.inj outcome))
    · by_cases same : cookie = some row.id
      · exact Or.inr (Or.inl (by rw [same]))
      · exact Or.inl ((fewer row).mpr ⟨member, fun equal => absurd equal same⟩)
  | @accepted session action member fresh =>
    refine ⟨⟨logins.frame rfl rfl (fun _ member => member) (List.Sublist.refl _),
      sessions.frame rfl (fun row member => ⟨member, by simp⟩) fun row member => Or.inl member⟩,
      ⟨by simp, fun cookie lookup => ?_⟩, rfl⟩
    obtain rfl : some session.id = cookie := Action.lookup.inj (action.symm.trans lookup)
    refine iff_of_true ⟨session, rfl⟩ ⟨session, rfl, sessions.held session member, ?_⟩
    exact (sessions.fresh_iff member _).mp fresh
  | @rejected cookie rows action stale fewer =>
    have gone : ∀ row ∈ server.store.sessions.rows, cookie = some row.id →
        row.expiresAt ≤ step.now := by
      intro row member same
      obtain ⟨waiting, listed⟩ := (sessions.held row member).created
      have expired := stale row member same (sessions.complete _ listed).1
      rw [← Bool.not_eq_true, sessions.fresh_iff member, not_lt] at expired
      exact expired
    refine ⟨⟨logins.frame rfl rfl (fun _ member => member) (List.Sublist.refl _),
      sessions.frame rfl (fun row member => ⟨((fewer row).mp member).1, by simp⟩)
        fun row member => ?_⟩, ⟨by simp, fun other lookup => ?_⟩, rfl⟩
    · by_cases same : cookie = some row.id
      · exact Or.inr (Or.inr (gone row member same))
      · exact Or.inl ((fewer row).mpr ⟨member, fun equal => absurd equal same⟩)
    · obtain rfl : cookie = other := Action.lookup.inj (action.symm.trans lookup)
      refine iff_of_false (by simp) ?_
      rintro ⟨session, same, alive, unexpired⟩
      rcases sessions.present session alive with member | ⟨earlier, listed, expired⟩
      · exact absurd unexpired (not_lt.mpr (gone session member same))
      · exact absurd unexpired (not_lt.mpr (expired.trans (follows.clock earlier listed)))

end Invariants

/-! ### The main result -/

/-- What is assumed of a run: the clock does not go back, no identifier is drawn twice, and every
verified ID token has an issuer. -/
structure Assumed (steps : List Step) : Prop where
  clock : steps.Pairwise fun first second => first.now ≤ second.now
  distinct : (steps.flatMap Step.drawn).Nodup
  issuer : ∀ token ∈ steps.filterMap Step.token?, token.issuer ≠ []

theorem Assumed.follows {past : History} {step : Step} {rest : List Step}
    (assumed : Assumed (past.map Entry.step ++ step :: rest)) : Follows past step := by
  constructor
  · intro entry member
    exact (List.pairwise_append.mp assumed.clock).2.2 entry.step (List.mem_map_of_mem member) step
      (List.mem_cons_self ..)
  · intro id isDrawn earlier
    have distinct := assumed.distinct
    rw [List.flatMap_append, List.flatMap_map, List.flatMap_cons] at distinct
    exact (List.nodup_append.mp distinct).2.2 id earlier id (List.mem_append_left _ isDrawn) rfl
  · intro token verified
    exact assumed.issuer token (List.mem_filterMap.mpr ⟨step, by simp, verified⟩)

/-- Every entry of a run is sound, and the invariants hold at its end. -/
theorem Tracks.run {past : History} {server : Server} (steps : List Step)
    (tracks : Tracks past server) (assumed : Assumed (past.map Entry.step ++ steps)) :
    (∃ last, Tracks (past ++ server.history steps) last) ∧
      ∀ front entry rest, server.history steps = front ++ entry :: rest →
        Sound server.store.ttl (past ++ front) entry := by
  induction steps generalizing past server with
  | nil =>
    refine ⟨⟨server, by rwa [Server.history, List.append_nil]⟩, fun front entry rest split => ?_⟩
    cases front <;> cases split
  | cons step rest hypothesis =>
    obtain ⟨kept, sound, sameTTL⟩ := tracks.step assumed.follows (step_effect server step)
    have later := hypothesis kept (by
      rw [List.map_append, List.append_assoc]
      exact assumed)
    rw [Server.history_cons]
    refine ⟨?_, fun front entry tail split => ?_⟩
    · obtain ⟨last, ending⟩ := later.1
      rw [List.append_assoc] at ending
      exact ⟨last, ending⟩
    · cases front with
      | nil =>
        obtain ⟨rfl, -⟩ := List.cons.inj split
        rwa [List.append_nil]
      | cons first front =>
        obtain ⟨rfl, behind⟩ := List.cons.inj split
        have later := later.2 front entry tail behind
        rw [sameTTL, List.append_assoc] at later
        exact later

/-- The history of a server keeps to the rules of logins and sessions. -/
structure Safe (ttl : Int) (history : History) : Prop where
  /-- A login state leads to one session at most. -/
  once : (created history).Pairwise fun first second =>
    first.1.pending.state ≠ second.1.pending.state
  /-- A login state is taken by one callback at most, whatever the provider answers. -/
  consumed : (taken history).Pairwise fun first second =>
    first.pending.state ≠ second.pending.state
  /-- A session comes from a callback in time with the right cookie and the right token, and is
  accepted exactly while it is neither logged out nor expired. -/
  sound : ∀ past entry rest, history = past ++ entry :: rest → Sound ttl past entry
  /-- A session that was rejected is not accepted again. -/
  final : ∀ past entry middle later rest waiting session,
    history = past ++ entry :: (middle ++ later :: rest) →
    (waiting, session) ∈ created past → entry.step.action = .lookup (some session.id) →
    (¬∃ found, entry.outcome = .accepted found) →
    later.step.action = .lookup (some session.id) → ¬∃ found, later.outcome = .accepted found

/-- A session that is alive later was alive at any moment after its creation. -/
theorem alive_before {past : History} (middle : History) {waiting : Waiting}
    {session found : Session}
    (sessionsOnce : (created (past ++ middle)).Pairwise fun first second =>
      first.2.id ≠ second.2.id)
    (known : (waiting, session) ∈ created past) (same : found.id = session.id)
    (alive : Alive (past ++ middle) found) : Alive past found := by
  induction middle using List.reverseRecOn with
  | nil => rwa [List.append_nil] at alive
  | append_singleton front last hypothesis =>
    rw [← List.append_assoc] at alive sessionsOnce
    rw [created_append] at sessionsOnce
    rcases alive_concat.mp alive with ⟨creator, outcome⟩ | ⟨alive, -⟩
    · have again : (creator, found) ∈ created [last] :=
        mem_created.mpr ⟨last, List.mem_singleton_self _, outcome⟩
      have first : (waiting, session) ∈ created (past ++ front) := by
        rw [created_append]
        exact List.mem_append_left _ known
      exact absurd same.symm ((List.pairwise_append.mp sessionsOnce).2.2 _ first _ again)
    · exact hypothesis (List.pairwise_append.mp sessionsOnce).1 alive

theorem tracks_start (ttl : Int) : Tracks [] ⟨newStore ttl, []⟩ := by
  have never : ∀ session, ¬Alive [] session := by
    rintro session ⟨past, entry, after, -, split, -⟩
    cases past <;> cases split
  refine ⟨⟨?_, ?_, ?_, ?_, ?_, ?_, ?_, ?_⟩, ⟨?_, ?_, ?_, ?_, ?_⟩⟩
  all_goals first
    | exact fun session alive => absurd alive (never session)
    | simp [newStore, taken, created]

theorem steps_of_history (server : Server) (steps : List Step) :
    (server.history steps).map Entry.step = steps := by
  induction steps generalizing server with
  | nil => rfl
  | cons step rest hypothesis =>
    rw [Server.history_cons, List.map_cons, hypothesis]

/-- Sixteen times the same byte. -/
def sampleDraw (byte : UInt8) : Draw := some ⟨List.replicate 16 byte, List.length_replicate⟩

def sampleID (byte : UInt8) : Bytes := Hex.encodeToString (List.replicate 16 byte)

def sampleCallback : CallbackRequest :=
  ⟨.get, [], ascii "code", sampleID 1, some (sampleID 1)⟩

/-- A login whose state is presented twice, and the end of its session. -/
def sampleLogin : List Step :=
  [⟨0, .login .get (sampleDraw 1) (sampleDraw 2) (ascii "verifier")⟩,
    ⟨10, .callback sampleCallback⟩,
    ⟨20, .callback sampleCallback⟩,
    ⟨30, .answer 0 (.verified ⟨ascii "subject", ascii "issuer", sampleID 2⟩) (sampleDraw 3)
      (sampleDraw 4)⟩,
    ⟨40, .lookup (some (sampleID 3))⟩,
    ⟨50, .logout .post (some (sampleID 3))⟩,
    ⟨60, .lookup (some (sampleID 3))⟩]

end Identity

end SeshatOps
