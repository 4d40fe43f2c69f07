/-
This file is a small library of programs that talk to a transactional store.

A program is the tree of requests a client makes: statements, the begin and the
commit of a transaction, the rollback, and the notifications it sends to other
components. A statement is given by its meaning on a store: the rows it locks, and
either an error or an answer together with the write it makes. The tree says
nothing about who else uses the store, so one text of a client can be run alone
(here) or interleaved with others (`SeshatOps/Interleaving.lean`).

`run` runs a program alone. Every request may be lost: the list of replies decides,
request by request, whether the server fails it or serves it, and resolves what a
query leaves open. Writes of an open transaction stay pending until its commit, and
a rollback drops them. `Ensures` is the resulting notion of a postcondition, over
every list of replies; its rules, one for each constructor, are what proofs about a
client use in place of `run`.
-/

import Mathlib.Logic.Basic

namespace Relational

/-- Why the server did not serve a request. -/
inductive SqlError
  /-- The statement, the commit or the connection failed. -/
  | unavailable
  /-- `unique_violation`. -/
  | unique
  /-- A check or foreign-key constraint forbids the row. -/
  | constraint
  /-- A parameter is outside its column's type. -/
  | domain
  deriving DecidableEq, Repr

/-- What the server does with one request. The number resolves the choices that a query
leaves open, such as the row that `LIMIT 1` returns among equals. -/
inductive Reply
  | lost
  | served (choice : Nat)
  deriving DecidableEq, Repr

/-- A statement: the rows it has to lock, and its answer and write, or its error. Both depend on
what the statement leaves open, such as the rows that `SKIP LOCKED` leaves out. -/
structure Statement (Db Lock Answer : Type) where
  locks : Nat → Db → List Lock
  execute : Nat → Db → Except SqlError (Answer × (Db → Db))

/-- The requests of one client, in order, each continued by what the server answered. -/
inductive Program (Db Lock Note Failure Value : Type) : Type 1
  | done (result : Except Failure Value)
  | ask {Answer : Type} (statement : Statement Db Lock Answer)
      (next : Except SqlError Answer → Program Db Lock Note Failure Value)
  | start (next : Except SqlError Unit → Program Db Lock Note Failure Value)
  | commit (next : Except SqlError Unit → Program Db Lock Note Failure Value)
  | rollback (next : Program Db Lock Note Failure Value)
  | emit (note : Note) (next : Program Db Lock Note Failure Value)

namespace Program

variable {Db Lock Note Failure Other Value Result Answer : Type}

/-! ### Composing programs -/

/-- Continue a program that did not fail. -/
def bind : Program Db Lock Note Failure Value →
    (Value → Program Db Lock Note Failure Result) → Program Db Lock Note Failure Result
  | .done (.ok value), continuation => continuation value
  | .done (.error failure), _ => .done (.error failure)
  | .ask statement next, continuation =>
      .ask statement fun answer => bind (next answer) continuation
  | .start next, continuation => .start fun answer => bind (next answer) continuation
  | .commit next, continuation => .commit fun answer => bind (next answer) continuation
  | .rollback next, continuation => .rollback (bind next continuation)
  | .emit note next, continuation => .emit note (bind next continuation)

instance : Monad (Program Db Lock Note Failure) where
  pure value := .done (.ok value)
  bind := bind

/-- Return an error. -/
def fail (failure : Failure) : Program Db Lock Note Failure Value := .done (.error failure)

/-- Run a program and hand its error, if any, to the continuation. -/
def attempt : Program Db Lock Note Failure Value →
    Program Db Lock Note Other (Except Failure Value)
  | .done result => .done (.ok result)
  | .ask statement next => .ask statement fun answer => attempt (next answer)
  | .start next => .start fun answer => attempt (next answer)
  | .commit next => .commit fun answer => attempt (next answer)
  | .rollback next => .rollback (attempt next)
  | .emit note next => .emit note (attempt next)

/-- Continue a program, whether it failed or not. -/
def resume : Program Db Lock Note Failure Value →
    (Except Failure Value → Program Db Lock Note Other Result) → Program Db Lock Note Other Result
  | .done result, continuation => continuation result
  | .ask statement next, continuation =>
      .ask statement fun answer => resume (next answer) continuation
  | .start next, continuation => .start fun answer => resume (next answer) continuation
  | .commit next, continuation => .commit fun answer => resume (next answer) continuation
  | .rollback next, continuation => .rollback (resume next continuation)
  | .emit note next, continuation => .emit note (resume next continuation)

/-- What follows a program, unless it failed. -/
def onward (continuation : Value → Program Db Lock Note Failure Result) :
    Except Failure Value → Program Db Lock Note Failure Result
  | .ok value => continuation value
  | .error failure => .done (.error failure)

variable (program : Program Db Lock Note Failure Value)
  (continuation : Value → Program Db Lock Note Failure Result)

theorem bind_eq_resume :
    program >>= continuation = program.resume (onward continuation) := by
  show program.bind continuation = _
  induction program with
  | done result => cases result <;> rfl
  | _ => simp_all [bind, resume]

theorem attempt_eq_resume :
    (attempt program : Program Db Lock Note Other _) =
      program.resume fun result => .done (.ok result) := by
  induction program <;> simp_all [attempt, resume]

theorem resume_done :
    program.resume .done = program := by
  induction program <;> simp_all [resume]

/-- One statement, whose error ends the program. -/
def exec (statement : Statement Db Lock Answer) (failure : SqlError → Failure) :
    Program Db Lock Note Failure Answer :=
  .ask statement fun answer => .done (answer.mapError failure)

/-- The commit, whose error ends the program. -/
def commitOr (failure : SqlError → Failure) : Program Db Lock Note Failure Unit :=
  .commit fun answer => .done (answer.mapError failure)

/-- Send a notification. -/
def notify (note : Note) : Program Db Lock Note Failure Unit := .emit note (.done (.ok ()))

/-- A function body between the begin of its transaction and its deferred rollback. -/
def inTransaction (failure : SqlError → Failure) (body : Program Db Lock Note Failure Value) :
    Program Db Lock Note Failure Value :=
  .start fun
    | .error error => fail (failure error)
    | .ok () => do
        let result ← attempt body
        .rollback (.done result)

/-! ### Running a program alone -/

/-- What one connection sees: the committed store, the writes of its open transaction, and
the notifications sent so far. -/
structure Session (Db Note : Type) where
  committed : Db
  pending : Option (Db → Db) := none
  notes : List Note := []

namespace Session

variable (session : Session Db Note)

/-- The store as the connection reads it. -/
def view : Db :=
  match session.pending with
  | none => session.committed
  | some write => write session.committed

/-- A write joins the open transaction, or commits by itself when there is none. -/
def write (change : Db → Db) : Session Db Note :=
  match session.pending with
  | none => { session with committed := change session.committed }
  | some earlier => { session with pending := some fun db => change (earlier db) }

/-- Commit the open transaction. -/
def commit : Session Db Note := { session with committed := session.view, pending := none }

/-- Drop the open transaction. -/
def rollback : Session Db Note := { session with pending := none }

@[simp] theorem write_id : session.write id = session := by
  obtain ⟨committed, pending, notes⟩ := session
  cases pending <;> rfl

end Session

/-- The reply to the next request, and the replies to the requests after it. A list that has
run out serves everything. -/
def nextReply : List Reply → Reply × List Reply
  | [] => (.served 0, [])
  | reply :: rest => (reply, rest)

/-- Run a program alone on a session. -/
def run : Program Db Lock Note Failure Value → List Reply → Session Db Note →
    Except Failure Value × List Reply × Session Db Note
  | .done result, replies, session => (result, replies, session)
  | .ask statement next, replies, session =>
      match (nextReply replies).1 with
      | .lost => run (next (.error .unavailable)) (nextReply replies).2 session
      | .served choice =>
          match statement.execute choice session.view with
          | .ok (answer, change) =>
              run (next (.ok answer)) (nextReply replies).2 (session.write change)
          | .error error => run (next (.error error)) (nextReply replies).2 session
  | .start next, replies, session =>
      match (nextReply replies).1 with
      | .lost => run (next (.error .unavailable)) (nextReply replies).2 session
      | .served _ => run (next (.ok ())) (nextReply replies).2 { session with pending := some id }
  | .commit next, replies, session =>
      match (nextReply replies).1 with
      | .lost => run (next (.error .unavailable)) (nextReply replies).2 session
      | .served _ => run (next (.ok ())) (nextReply replies).2 session.commit
  | .rollback next, replies, session => run next replies session.rollback
  | .emit note next, replies, session =>
      run next replies { session with notes := session.notes ++ [note] }

attribute [local simp] bind attempt run

/-- Go on from where a program ended, unless it failed. -/
def proceed (continuation : Value → Program Db Lock Note Failure Result) :
    Except Failure Value × List Reply × Session Db Note →
      Except Failure Result × List Reply × Session Db Note
  | (.ok value, replies, session) => (continuation value).run replies session
  | (.error failure, replies, session) => (.error failure, replies, session)

theorem run_resume (continuation : Except Failure Value → Program Db Lock Note Other Result)
    (replies : List Reply) (session : Session Db Note) :
    (program.resume continuation).run replies session =
      (continuation (program.run replies session).1).run (program.run replies session).2.1
        (program.run replies session).2.2 := by
  induction program generalizing replies session with
  | done result => rfl
  | ask statement next hypothesis =>
    simp only [resume, run]
    split
    · exact hypothesis _ _ _
    · split
      · exact hypothesis _ _ _
      · exact hypothesis _ _ _
  | start next hypothesis | commit next hypothesis =>
    simp only [resume, run]
    split
    · exact hypothesis _ _ _
    · exact hypothesis _ _ _
  | rollback next hypothesis | emit note next hypothesis => exact hypothesis _ _

theorem run_bind (replies : List Reply)
    (session : Session Db Note) :
    (program >>= continuation).run replies session =
      proceed continuation (program.run replies session) := by
  rw [bind_eq_resume, run_resume]
  rcases program.run replies session with ⟨failure | value, rest, final⟩ <;> rfl

/-- A program that ended without failing passed through its first part. -/
theorem run_bind_ok {program : Program Db Lock Note Failure Value}
    {continuation : Value → Program Db Lock Note Failure Result} {replies rest : List Reply}
    {session final : Session Db Note} {result : Result}
    (ran : (program >>= continuation).run replies session = (.ok result, rest, final)) :
    ∃ value middle between, program.run replies session = (.ok value, middle, between) ∧
      (continuation value).run middle between = (.ok result, rest, final) := by
  rw [run_bind] at ran
  rcases ended : program.run replies session with ⟨failure | value, middle, between⟩
  · rw [ended] at ran
    cases ran
  · rw [ended] at ran
    exact ⟨value, middle, between, rfl, ran⟩

/-- A program uses the replies from the front. -/
theorem run_suffix (replies : List Reply)
    (session : Session Db Note) : (program.run replies session).2.1 <:+ replies := by
  have tail : ∀ replies, (nextReply replies).2 <:+ replies := by
    intro replies
    cases replies with
    | nil => exact List.suffix_refl _
    | cons reply rest => exact List.suffix_cons _ _
  induction program generalizing replies session with
  | done result => exact List.suffix_refl _
  | ask statement next hypothesis =>
    simp only [run]
    split
    · exact (hypothesis _ _ _).trans (tail replies)
    · split
      · exact (hypothesis _ _ _).trans (tail replies)
      · exact (hypothesis _ _ _).trans (tail replies)
  | start next hypothesis | commit next hypothesis =>
    simp only [run]
    split
    · exact (hypothesis _ _ _).trans (tail replies)
    · exact (hypothesis _ _ _).trans (tail replies)
  | rollback next hypothesis | emit note next hypothesis => exact hypothesis _ _

/-! ### Postconditions -/

/-- Every run of the program from the session ends in the postcondition. With `mayFail` the
server may lose any request; without it every request is served. -/
def Ensures (mayFail : Bool) (program : Program Db Lock Note Failure Value)
    (session : Session Db Note)
    (post : Except Failure Value → Session Db Note → Prop) : Prop :=
  ∀ replies : List Reply, (mayFail = false → Reply.lost ∉ replies) →
    post (program.run replies session).1 (program.run replies session).2.2

/-- A postcondition given by what holds of a value and what holds of a failure. -/
def Ends (succeeded : Value → Session Db Note → Prop) (failed : Failure → Session Db Note → Prop) :
    Except Failure Value → Session Db Note → Prop
  | .ok value, final => succeeded value final
  | .error failure, final => failed failure final

variable {mayFail : Bool} {session : Session Db Note}
  {post : Except Failure Value → Session Db Note → Prop}

theorem nextReply_notMem {replies : List Reply} (served : Reply.lost ∉ replies) :
    Reply.lost ∉ (nextReply replies).2 := by
  cases replies with
  | nil => exact served
  | cons reply rest => exact fun member => served (List.mem_cons_of_mem reply member)

theorem nextReply_ne_lost {replies : List Reply} (served : Reply.lost ∉ replies) :
    (nextReply replies).1 ≠ .lost := by
  cases replies with
  | nil => exact Reply.noConfusion
  | cons reply rest => exact fun same => served (same ▸ List.mem_cons_self)

theorem nextReply_served {replies : List Reply} (served : Reply.lost ∉ replies) :
    ∃ choice, (nextReply replies).1 = .served choice := by
  cases reply : (nextReply replies).1 with
  | lost => exact absurd reply (nextReply_ne_lost served)
  | served choice => exact ⟨choice, rfl⟩

theorem mayFail_of_lost {replies : List Reply} (served : mayFail = false → Reply.lost ∉ replies)
    (lost : (nextReply replies).1 = .lost) : mayFail = true := by
  cases mayFail with
  | true => rfl
  | false => exact absurd lost (nextReply_ne_lost (served rfl))

theorem Ensures.mono {program : Program Db Lock Note Failure Value}
    {first second : Except Failure Value → Session Db Note → Prop}
    (ensures : Ensures mayFail program session first)
    (weaker : ∀ result final, first result final → second result final) :
    Ensures mayFail program session second :=
  fun replies served => weaker _ _ (ensures replies served)

theorem ensures_done (result : Except Failure Value)
    (holds : post result session) :
    Ensures mayFail (.done result : Program Db Lock Note Failure Value) session post :=
  fun _ _ => holds

/-- A statement: the postcondition must hold after the loss of the request, where that may
happen, and after every way of serving it. -/
theorem ensures_ask (statement : Statement Db Lock Answer)
    (next : Except SqlError Answer → Program Db Lock Note Failure Value)
    (lost : mayFail = true → Ensures mayFail (next (.error .unavailable)) session post)
    (answered : ∀ choice answer change,
      statement.execute choice session.view = .ok (answer, change) →
        Ensures mayFail (next (.ok answer)) (session.write change) post)
    (refused : ∀ choice error, statement.execute choice session.view = .error error →
      Ensures mayFail (next (.error error)) session post) :
    Ensures mayFail (.ask statement next) session post := by
  intro replies served
  have rest := fun exact => nextReply_notMem (served exact)
  simp only [run]
  cases reply : (nextReply replies).1 with
  | lost => exact lost (mayFail_of_lost served reply) _ rest
  | served choice =>
    cases executed : statement.execute choice session.view with
    | ok outcome =>
      simp only [executed]
      exact answered choice outcome.1 outcome.2 executed _ rest
    | error error =>
      simp only [executed]
      exact refused choice error executed _ rest

theorem ensures_start (next : Except SqlError Unit → Program Db Lock Note Failure Value)
    (lost : mayFail = true → Ensures mayFail (next (.error .unavailable)) session post)
    (answered : Ensures mayFail (next (.ok ())) { session with pending := some id } post) :
    Ensures mayFail (.start next) session post := by
  intro replies served
  have rest := fun exact => nextReply_notMem (served exact)
  simp only [run]
  cases reply : (nextReply replies).1 with
  | lost => exact lost (mayFail_of_lost served reply) _ rest
  | served choice => exact answered _ rest

theorem ensures_commit (next : Except SqlError Unit → Program Db Lock Note Failure Value)
    (lost : mayFail = true → Ensures mayFail (next (.error .unavailable)) session post)
    (answered : Ensures mayFail (next (.ok ())) session.commit post) :
    Ensures mayFail (.commit next) session post := by
  intro replies served
  have rest := fun exact => nextReply_notMem (served exact)
  simp only [run]
  cases reply : (nextReply replies).1 with
  | lost => exact lost (mayFail_of_lost served reply) _ rest
  | served choice => exact answered _ rest

theorem ensures_rollback (next : Program Db Lock Note Failure Value)
    (ensures : Ensures mayFail next session.rollback post) :
    Ensures mayFail (.rollback next) session post :=
  fun replies served => ensures replies served

theorem ensures_emit (note : Note) (next : Program Db Lock Note Failure Value)
    (ensures : Ensures mayFail next { session with notes := session.notes ++ [note] } post) :
    Ensures mayFail (.emit note next) session post :=
  fun replies served => ensures replies served

/-! ### Postconditions of composed programs -/

/-- A program continued: the first part's postcondition is the second part's demand. -/
theorem ensures_bind {post : Except Failure Result → Session Db Note → Prop}
    (first : Ensures mayFail program session
      (Ends (fun value middle => Ensures mayFail (continuation value) middle post)
        fun failure middle => post (.error failure) middle)) :
    Ensures mayFail (program >>= continuation) session post := by
  intro replies served
  have ends := first replies served
  have left : mayFail = false → Reply.lost ∉ (program.run replies session).2.1 :=
    fun exact member => served exact ((run_suffix program replies session).mem member)
  rw [run_bind]
  rcases ran : program.run replies session with ⟨failure | value, rest, middle⟩
  · rw [ran] at ends
    exact ends
  · rw [ran] at ends left
    exact ends rest left

/-- Two continuations that run alike from wherever a program may end give the same runs. -/
theorem Ensures.run_congr {program : Program Db Lock Note Failure Value}
    {first second : Value → Program Db Lock Note Failure Result}
    {succeeded : Value → Session Db Note → Prop} {failed : Failure → Session Db Note → Prop}
    (ensures : Ensures true program session (Ends succeeded failed))
    (same : ∀ value middle rest, succeeded value middle →
      (first value).run rest middle = (second value).run rest middle) (replies : List Reply) :
    (program >>= first).run replies session = (program >>= second).run replies session := by
  have ends := ensures replies (by simp)
  rw [run_bind, run_bind]
  rcases ran : program.run replies session with ⟨failure | value, rest, middle⟩
  · rfl
  · rw [ran] at ends
    exact same value middle rest ends

theorem run_attempt (replies : List Reply)
    (session : Session Db Note) :
    (attempt program : Program Db Lock Note Other _).run replies session =
      (.ok (program.run replies session).1, (program.run replies session).2) := by
  rw [attempt_eq_resume, run_resume]
  rfl

theorem ensures_attempt {post : Except Other (Except Failure Value) → Session Db Note → Prop}
    (ensures : Ensures mayFail program session fun result final => post (.ok result) final) :
    Ensures mayFail (attempt program : Program Db Lock Note Other _) session post := by
  intro replies served
  rw [run_attempt]
  exact ensures replies served

/-- A program whose error is handed on, and what follows it. -/
theorem ensures_attempt_bind
    (continuation : Except Failure Value → Program Db Lock Note Other Result)
    {post : Except Other Result → Session Db Note → Prop}
    (ensures : Ensures mayFail program session fun result middle =>
      Ensures mayFail (continuation result) middle post) :
    Ensures mayFail (attempt program >>= continuation) session post :=
  ensures_bind _ _ (ensures_attempt program ensures)

/-- One statement and what follows it. -/
theorem ensures_exec (statement : Statement Db Lock Answer) (failure : SqlError → Failure)
    (continuation : Answer → Program Db Lock Note Failure Value)
    (lost : mayFail = true → post (.error (failure .unavailable)) session)
    (answered : ∀ choice answer change,
      statement.execute choice session.view = .ok (answer, change) →
        Ensures mayFail (continuation answer) (session.write change) post)
    (refused : ∀ choice error, statement.execute choice session.view = .error error →
      post (.error (failure error)) session) :
    Ensures mayFail (exec statement failure >>= continuation) session post :=
  ensures_ask _ _ (fun may => ensures_done _ (lost may)) answered
    (fun choice error executed => ensures_done _ (refused choice error executed))

/-- The commit and what follows it. -/
theorem ensures_commitOr (failure : SqlError → Failure)
    (continuation : Unit → Program Db Lock Note Failure Value)
    (lost : mayFail = true → post (.error (failure .unavailable)) session)
    (answered : Ensures mayFail (continuation ()) session.commit post) :
    Ensures mayFail (commitOr failure >>= continuation) session post :=
  ensures_commit _ (fun may => ensures_done _ (lost may)) answered

/-- A function body in its transaction: what it has not committed when it returns is gone. -/
theorem ensures_inTransaction (failure : SqlError → Failure)
    (body : Program Db Lock Note Failure Value)
    (lost : mayFail = true → post (.error (failure .unavailable)) session)
    (inside : Ensures mayFail body { session with pending := some id }
      fun result final => post result final.rollback) :
    Ensures mayFail (inTransaction failure body) session post := by
  refine ensures_start _ (fun may => ensures_done _ (lost may)) ?_
  exact ensures_bind _ _ (ensures_attempt body (inside.mono fun result final holds =>
    ensures_rollback _ (ensures_done _ holds)))

/-! ### Laws -/

theorem bind_assoc' (first : Value → Program Db Lock Note Failure Answer)
    (second : Answer → Program Db Lock Note Failure Result) :
    (program >>= first) >>= second = program >>= fun value => first value >>= second := by
  show (program.bind first).bind second = program.bind fun value => (first value).bind second
  induction program with
  | done result => cases result <;> rfl
  | ask statement next hypothesis =>
    exact congrArg (ask statement) (funext fun answer => hypothesis answer)
  | start next hypothesis =>
    exact congrArg start (funext fun answer => hypothesis answer)
  | commit next hypothesis =>
    exact congrArg commit (funext fun answer => hypothesis answer)
  | rollback next hypothesis => exact congrArg rollback hypothesis
  | emit note next hypothesis => exact congrArg (emit note) hypothesis

theorem bind_pure' :
    program >>= pure = program := by
  have same : onward (pure : Value → Program Db Lock Note Failure Value) = .done := by
    funext result
    cases result <;> rfl
  rw [bind_eq_resume, same, resume_done]

instance : LawfulMonad (Program Db Lock Note Failure) :=
  LawfulMonad.mk' _ bind_pure' (fun _ _ => rfl) bind_assoc'

@[simp] theorem done_ok_bind (value : Value)
    (continuation : Value → Program Db Lock Note Failure Result) :
    (done (.ok value) >>= continuation) = continuation value := rfl

/-! ### Symbolic execution of a transaction -/

/-- A session inside a transaction on a committed store, with its own view of it. -/
structure Session.Within (session : Session Db Note) (base view : Db) (sent : List Note) :
    Prop where
  committed : session.committed = base
  notes : session.notes = sent
  pending : ∃ write, session.pending = some write ∧ write base = view

namespace Session.Within

variable {committed view : Db} {notes : List Note}

theorem view_eq (within : session.Within committed view notes) : session.view = view := by
  obtain ⟨write, pending, seen⟩ := within.pending
  rw [Session.view, pending, within.committed]
  exact seen

theorem write (within : session.Within committed view notes) (change : Db → Db) :
    (session.write change).Within committed (change view) notes := by
  obtain ⟨earlier, pending, rfl⟩ := within.pending
  refine ⟨?_, ?_, fun db => change (earlier db), ?_, rfl⟩
  · rw [Session.write, pending]
    exact within.committed
  · rw [Session.write, pending]
    exact within.notes
  · rw [Session.write, pending]

theorem commit_eq (within : session.Within committed view notes) :
    session.commit = ⟨view, none, notes⟩ := by
  rw [Session.commit, within.view_eq, within.notes]

theorem rollback_eq (within : session.Within committed view notes) :
    session.rollback = ⟨committed, none, notes⟩ := by
  rw [Session.rollback, within.committed, within.notes]

end Session.Within

/-- The program, run inside a transaction, either ends in the postcondition or fails and leaves
the committed store as it was. It fails only for a lost request or for the given cause. -/
def Runs (mayFail : Bool) (cause : Prop) (program : Program Db Lock Note Failure Value)
    (committed view : Db) (notes : List Note) (post : Value → Session Db Note → Prop) : Prop :=
  ∀ session : Session Db Note, session.Within committed view notes →
    Ensures mayFail program session
      (Ends post fun _ final =>
        final.rollback = ⟨committed, none, notes⟩ ∧ (mayFail = true ∨ cause))

namespace Runs

variable {cause : Prop} {committed view : Db} {notes : List Note}
  {post : Value → Session Db Note → Prop}

theorem exec (statement : Statement Db Lock Answer) (failure : SqlError → Failure)
    (continuation : Answer → Program Db Lock Note Failure Value)
    (refused : ∀ choice error, statement.execute choice view = .error error → cause)
    (answered : ∀ choice answer change, statement.execute choice view = .ok (answer, change) →
      Runs mayFail cause (continuation answer) committed (change view) notes post) :
    Runs mayFail cause (Program.exec statement failure >>= continuation) committed view notes
      post := by
  intro session within
  refine ensures_exec statement failure continuation ?_ ?_ ?_
  · exact fun may => ⟨within.rollback_eq, Or.inl may⟩
  · intro choice answer change executed
    rw [within.view_eq] at executed
    exact answered choice answer change executed _ (within.write change)
  · intro choice error executed
    rw [within.view_eq] at executed
    exact ⟨within.rollback_eq, Or.inr (refused choice error executed)⟩

/-- After the commit the program must reach the postcondition without failing. -/
theorem commitOr (failure : SqlError → Failure)
    (continuation : Unit → Program Db Lock Note Failure Value)
    (committedNow : Ensures mayFail (continuation ()) ⟨view, none, notes⟩ fun result final =>
      ∃ value, result = .ok value ∧ post value final) :
    Runs mayFail cause (Program.commitOr failure >>= continuation) committed view notes post := by
  intro session within
  refine ensures_commitOr failure continuation ?_ ?_
  · exact fun may => ⟨within.rollback_eq, Or.inl may⟩
  · rw [within.commit_eq]
    exact committedNow.mono fun result final ⟨value, same, holds⟩ => by rw [same]; exact holds

theorem inTransaction (failure : SqlError → Failure)
    (body : Program Db Lock Note Failure Value)
    (inside : Runs mayFail cause body committed committed notes
      fun value final => post value final.rollback) :
    Ensures mayFail (Program.inTransaction failure body) ⟨committed, none, notes⟩
      (Ends post fun _ final => final = ⟨committed, none, notes⟩ ∧ (mayFail = true ∨ cause)) := by
  refine ensures_inTransaction failure body (fun may => ⟨rfl, Or.inl may⟩) ?_
  refine (inside _ ⟨rfl, rfl, id, rfl, rfl⟩).mono fun result final holds => ?_
  cases result with
  | ok value => exact holds
  | error failed => exact holds

end Runs

end Program

end Relational
