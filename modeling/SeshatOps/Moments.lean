/-
This file records what a run of a program makes visible, and in which order.

A run shows itself to others at two kinds of moments: when a commit, or a statement that
commits by itself, stores a change, and when a notification is sent. `moments` lists
them, each with the committed store at that moment. `moments_linked` says that the list
accounts for every change of the committed store. `Shows` is a property of all moments of
all runs, with its rules. `OneTransaction` is a shape of programs, closed under the usual
ways to build one: a single transaction, with notifications after its end only. What such
a program shows is what it leaves.
-/

import SeshatOps.Program

namespace Relational

/-- A visible moment of a run. -/
inductive Moment (Db Note : Type)
  | stored (before after : Db)
  | sent (note : Note) (committed : Db)

namespace Moment

variable {Db Note : Type}

/-- A notification with the committed store at the moment it was sent. -/
def announcement : Moment Db Note → Option (Note × Db)
  | .stored _ _ => none
  | .sent note committed => some (note, committed)

/-- The moments lead from one committed store to another. -/
def Links : Db → List (Moment Db Note) → Db → Prop
  | start, [], final => start = final
  | start, .stored before after :: rest, final => before = start ∧ Links after rest final
  | start, .sent _ committed :: rest, final => committed = start ∧ Links start rest final

end Moment

namespace Program

variable {Db Lock Note Failure Other Value Result Answer : Type}

/-! ### The moments of a run -/

/-- A write outside a transaction commits by itself. -/
def Session.storing (session : Session Db Note) (change : Db → Db) : List (Moment Db Note) :=
  match session.pending with
  | none => [.stored session.committed (change session.committed)]
  | some _ => []

/-- What a run makes visible, in order. -/
def moments : Program Db Lock Note Failure Value → List Reply → Session Db Note →
    List (Moment Db Note)
  | .done _, _, _ => []
  | .ask statement next, replies, session =>
      match (nextReply replies).1 with
      | .lost => moments (next (.error .unavailable)) (nextReply replies).2 session
      | .served choice =>
          match statement.execute choice session.view with
          | .ok (answer, change) =>
              session.storing change ++
                moments (next (.ok answer)) (nextReply replies).2 (session.write change)
          | .error error => moments (next (.error error)) (nextReply replies).2 session
  | .start next, replies, session =>
      match (nextReply replies).1 with
      | .lost => moments (next (.error .unavailable)) (nextReply replies).2 session
      | .served _ =>
          moments (next (.ok ())) (nextReply replies).2 { session with pending := some id }
  | .commit next, replies, session =>
      match (nextReply replies).1 with
      | .lost => moments (next (.error .unavailable)) (nextReply replies).2 session
      | .served _ =>
          .stored session.committed session.view ::
            moments (next (.ok ())) (nextReply replies).2 session.commit
  | .rollback next, replies, session => moments next replies session.rollback
  | .emit note next, replies, session =>
      .sent note session.committed ::
        moments next replies { session with notes := session.notes ++ [note] }

attribute [local simp] moments

/-- What follows where a program ended, unless it failed. -/
def momentsFrom (continuation : Value → Program Db Lock Note Failure Result) :
    Except Failure Value × List Reply × Session Db Note → List (Moment Db Note)
  | (.ok value, replies, session) => (continuation value).moments replies session
  | (.error _, _, _) => []

section Composed

variable (program : Program Db Lock Note Failure Value) (replies : List Reply)
  (session : Session Db Note)

theorem moments_resume (continuation : Except Failure Value → Program Db Lock Note Other Result) :
    (program.resume continuation).moments replies session =
      program.moments replies session ++
        (continuation (program.run replies session).1).moments (program.run replies session).2.1
          (program.run replies session).2.2 := by
  induction program generalizing replies session with
  | done result => rfl
  | ask statement next hypothesis =>
    rcases reply : nextReply replies with ⟨_ | choice, rest⟩
    · simp only [resume, run, moments, reply, hypothesis]
    · cases executed : statement.execute choice session.view with
      | ok pair =>
        simp only [resume, run, moments, reply, executed, hypothesis, List.append_assoc]
      | error error => simp only [resume, run, moments, reply, executed, hypothesis]
  | start next hypothesis =>
    rcases reply : nextReply replies with ⟨_ | choice, rest⟩ <;>
      simp only [resume, run, moments, reply, hypothesis]
  | commit next hypothesis =>
    rcases reply : nextReply replies with ⟨_ | choice, rest⟩ <;>
      simp only [resume, run, moments, reply, hypothesis, List.cons_append]
  | rollback next hypothesis => exact hypothesis _ _
  | emit note next hypothesis => exact congrArg (List.cons _) (hypothesis _ _)

theorem moments_bind (continuation : Value → Program Db Lock Note Failure Result) :
    (program >>= continuation).moments replies session =
      program.moments replies session ++
        momentsFrom continuation (program.run replies session) := by
  rw [bind_eq_resume, moments_resume]
  rcases program.run replies session with ⟨failure | value, rest, final⟩ <;> rfl

theorem moments_attempt :
    (attempt program : Program Db Lock Note Other _).moments replies session =
      program.moments replies session := by
  rw [attempt_eq_resume, moments_resume]
  exact List.append_nil _

/-- The notes of a session are those of its moments. -/
theorem run_notes :
    (program.run replies session).2.2.notes =
      session.notes ++
        ((program.moments replies session).filterMap Moment.announcement).map Prod.fst := by
  induction program generalizing replies session with
  | done result => simp [run, moments]
  | ask statement next hypothesis =>
    rcases reply : nextReply replies with ⟨_ | choice, rest⟩
    · simp only [run, moments, reply, hypothesis]
    · cases executed : statement.execute choice session.view with
      | ok pair =>
        simp only [run, moments, reply, executed, hypothesis]
        rw [Session.storing, Session.write]
        cases session.pending with
        | none => rfl
        | some earlier => rfl
      | error error => simp only [run, moments, reply, executed, hypothesis]
  | start next hypothesis =>
    rcases reply : nextReply replies with ⟨_ | choice, rest⟩ <;>
      simp only [run, moments, reply, hypothesis]
  | commit next hypothesis =>
    rcases reply : nextReply replies with ⟨_ | choice, rest⟩
    · simp only [run, moments, reply, hypothesis]
    · simp only [run, moments, reply, hypothesis]
      rfl
  | rollback next hypothesis => exact hypothesis _ _
  | emit note next hypothesis =>
    simp only [run, moments, hypothesis]
    simp [Moment.announcement]

/-- The moments account for every change of the committed store. -/
theorem moments_linked :
    Moment.Links session.committed (program.moments replies session)
      (program.run replies session).2.2.committed := by
  induction program generalizing replies session with
  | done result => exact rfl
  | ask statement next hypothesis =>
    rcases reply : nextReply replies with ⟨_ | choice, rest⟩
    · simpa only [run, moments, reply] using hypothesis _ _ session
    · cases executed : statement.execute choice session.view with
      | ok pair =>
        simp only [run, moments, reply, executed]
        have linked := hypothesis (.ok pair.1) rest (session.write pair.2)
        rw [Session.storing]
        cases pending : session.pending with
        | none =>
          refine ⟨rfl, ?_⟩
          rwa [Session.write, pending] at linked ⊢
        | some earlier => rwa [Session.write, pending] at linked ⊢
      | error error =>
        simpa only [run, moments, reply, executed] using hypothesis _ _ session
  | start next hypothesis =>
    rcases reply : nextReply replies with ⟨_ | choice, rest⟩
    · simpa only [run, moments, reply] using hypothesis _ _ session
    · simpa only [run, moments, reply] using
        hypothesis _ _ { session with pending := some id }
  | commit next hypothesis =>
    rcases reply : nextReply replies with ⟨_ | choice, rest⟩
    · simpa only [run, moments, reply] using hypothesis _ _ session
    · simp only [run, moments, reply]
      exact ⟨rfl, hypothesis _ _ session.commit⟩
  | rollback next hypothesis => exact hypothesis _ session.rollback
  | emit note next hypothesis =>
    exact ⟨rfl, hypothesis _ { session with notes := session.notes ++ [note] }⟩

/-! ### Properties of all moments -/

end Composed

/-- Every moment of every run has the property. -/
def Shows (good : Moment Db Note → Prop) (program : Program Db Lock Note Failure Value)
    (session : Session Db Note) : Prop :=
  ∀ replies, ∀ moment ∈ program.moments replies session, good moment

section Rules

variable {good : Moment Db Note → Prop} {session : Session Db Note}

theorem shows_done (result : Except Failure Value) :
    Shows good (.done result : Program Db Lock Note Failure Value) session :=
  fun _ _ member => absurd member List.not_mem_nil

theorem shows_attempt {program : Program Db Lock Note Failure Value}
    (shows : Shows good program session) :
    Shows good (attempt program : Program Db Lock Note Other _) session := by
  intro replies
  rw [moments_attempt]
  exact shows replies

/-- A program continued: where the first part ends, the second part takes over. -/
theorem shows_bind {program : Program Db Lock Note Failure Value}
    {continuation : Value → Program Db Lock Note Failure Result}
    (shows : Shows good program session)
    {succeeded : Value → Session Db Note → Prop} {failed : Failure → Session Db Note → Prop}
    (ensures : Ensures true program session (Ends succeeded failed))
    (next : ∀ value middle, succeeded value middle → Shows good (continuation value) middle) :
    Shows good (program >>= continuation) session := by
  intro replies moment member
  rw [moments_bind] at member
  rcases List.mem_append.mp member with earlier | later
  · exact shows replies moment earlier
  · have ends := ensures replies (by simp)
    rcases ran : program.run replies session with ⟨failure | value, rest, middle⟩
    · rw [ran] at later
      cases later
    · rw [ran] at ends later
      exact next value middle ends rest moment later

/-- A program whose error is handed on, and what follows it. -/
theorem shows_attempt_bind {program : Program Db Lock Note Failure Value}
    {continuation : Except Failure Value → Program Db Lock Note Other Result}
    (shows : Shows good program session)
    {ends : Except Failure Value → Session Db Note → Prop}
    (ensures : Ensures true program session ends)
    (next : ∀ result middle, ends result middle → Shows good (continuation result) middle) :
    Shows good (attempt program >>= continuation) session := by
  have attempted : Ensures true (attempt program : Program Db Lock Note Other _) session
      (Ends ends fun _ _ => True) := ensures_attempt program ensures
  exact shows_bind (shows_attempt shows) attempted next

/-- A statement outside a transaction. -/
theorem shows_exec {statement : Statement Db Lock Answer} {failure : SqlError → Failure}
    {db : Db} {notes : List Note}
    (stores : ∀ choice answer change, statement.execute choice db = .ok (answer, change) →
      good (.stored db (change db))) :
    Shows good (exec statement failure : Program Db Lock Note Failure Answer)
      ⟨db, none, notes⟩ := by
  intro replies moment member
  simp only [exec, moments] at member
  split at member
  · cases member
  · split at member
    · rename_i choice _ _ answer change executed
      obtain rfl := List.mem_singleton.mp member
      exact stores choice answer change executed
    · cases member

end Rules

/-! ### Programs of one transaction -/

/-- After the end of a transaction: notifications and the deferred rollback. -/
inductive Trailing : Program Db Lock Note Failure Value → Prop
  | done (result : Except Failure Value) : Trailing (.done result)
  | rollback {next : Program Db Lock Note Failure Value} (rest : Trailing next) :
      Trailing (.rollback next)
  | emit (note : Note) {next : Program Db Lock Note Failure Value} (rest : Trailing next) :
      Trailing (.emit note next)

/-- Statements only. -/
inductive Asking : Program Db Lock Note Failure Value → Prop
  | done (result : Except Failure Value) : Asking (.done result)
  | ask {Answer : Type} (statement : Statement Db Lock Answer)
      {next : Except SqlError Answer → Program Db Lock Note Failure Value}
      (rest : ∀ answer, Asking (next answer)) : Asking (.ask statement next)

/-- Inside a transaction, up to its end. -/
inductive Inside : Program Db Lock Note Failure Value → Prop
  | ended {program : Program Db Lock Note Failure Value} (rest : Trailing program) : Inside program
  | ask {Answer : Type} (statement : Statement Db Lock Answer)
      {next : Except SqlError Answer → Program Db Lock Note Failure Value}
      (rest : ∀ answer, Inside (next answer)) : Inside (.ask statement next)
  | commit {next : Except SqlError Unit → Program Db Lock Note Failure Value}
      (rest : ∀ answer, Trailing (next answer)) : Inside (.commit next)

/-- A single transaction, with notifications after its end only. -/
inductive OneTransaction : Program Db Lock Note Failure Value → Prop
  | done (result : Except Failure Value) : OneTransaction (.done result)
  | start {next : Except SqlError Unit → Program Db Lock Note Failure Value}
      (lost : ∀ error, Trailing (next (.error error))) (begun : Inside (next (.ok ()))) :
      OneTransaction (.start next)

section Shapes

variable {program : Program Db Lock Note Failure Value}
  {continuation : Value → Program Db Lock Note Failure Result}

theorem Trailing.bind (trailing : Trailing program)
    (next : ∀ value, Trailing (continuation value)) : Trailing (program >>= continuation) := by
  induction trailing with
  | done result =>
    cases result with
    | ok value => exact next value
    | error failure => exact .done _
  | rollback rest hypothesis => exact .rollback hypothesis
  | emit note rest hypothesis => exact .emit note hypothesis

theorem Trailing.attempt (trailing : Trailing program) :
    Trailing (attempt program : Program Db Lock Note Other _) := by
  induction trailing with
  | done result => exact .done _
  | rollback rest hypothesis => exact .rollback hypothesis
  | emit note rest hypothesis => exact .emit note hypothesis

theorem Asking.exec (statement : Statement Db Lock Answer) (failure : SqlError → Failure) :
    Asking (exec statement failure : Program Db Lock Note Failure Answer) :=
  .ask statement fun _ => .done _

theorem Asking.bind (asking : Asking program) (next : ∀ value, Asking (continuation value)) :
    Asking (program >>= continuation) := by
  induction asking with
  | done result =>
    cases result with
    | ok value => exact next value
    | error failure => exact .done _
  | ask statement rest hypothesis =>
    exact .ask statement fun answer => hypothesis answer

theorem Asking.bind_inside (asking : Asking program) (next : ∀ value, Inside (continuation value)) :
    Inside (program >>= continuation) := by
  induction asking with
  | done result =>
    cases result with
    | ok value => exact next value
    | error failure => exact .ended (.done _)
  | ask statement rest hypothesis =>
    exact .ask statement fun answer => hypothesis answer

theorem Inside.bind (inside : Inside program) (next : ∀ value, Trailing (continuation value)) :
    Inside (program >>= continuation) := by
  induction inside with
  | ended rest => exact .ended (rest.bind next)
  | ask statement rest hypothesis =>
    exact .ask statement fun answer => hypothesis answer
  | commit rest => exact .commit fun answer => (rest answer).bind next

theorem Inside.attempt (inside : Inside program) :
    Inside (attempt program : Program Db Lock Note Other _) := by
  induction inside with
  | ended rest => exact .ended rest.attempt
  | ask statement rest hypothesis =>
    exact .ask statement fun answer => hypothesis answer
  | commit rest => exact .commit fun answer => (rest answer).attempt

/-- The commit, and what follows it. -/
theorem Inside.commitOr (failure : SqlError → Failure)
    {continuation : Unit → Program Db Lock Note Failure Value}
    (next : Trailing (continuation ())) : Inside (commitOr failure >>= continuation) := by
  refine .commit fun answer => ?_
  cases answer with
  | ok value => exact next
  | error error => exact .done _

theorem OneTransaction.inTransaction (failure : SqlError → Failure) (inside : Inside program) :
    OneTransaction (inTransaction failure program) :=
  .start (fun _ => .done _) (inside.attempt.bind fun _ => .rollback (.done _))

end Shapes

section Showing

variable {program : Program Db Lock Note Failure Value} {replies : List Reply}
  {session : Session Db Note}

theorem Trailing.moments_eq (trailing : Trailing program) :
    (program.run replies session).2.2.committed = session.committed ∧
      ∃ notes, (program.run replies session).2.2.notes = session.notes ++ notes ∧
        program.moments replies session = notes.map fun note => .sent note session.committed := by
  induction trailing generalizing session with
  | done result => exact ⟨rfl, [], by simp [run], rfl⟩
  | rollback rest hypothesis => exact @hypothesis session.rollback
  | emit note rest hypothesis =>
    obtain ⟨kept, notes, sent, shown⟩ :=
      @hypothesis { session with notes := session.notes ++ [note] }
    refine ⟨kept, note :: notes, ?_, congrArg (List.cons _) shown⟩
    rw [run, sent, List.append_assoc]
    rfl

/-- A run that stores at most once, and sends its notifications afterwards. -/
def StoresOnce (program : Program Db Lock Note Failure Value) (replies : List Reply)
    (session : Session Db Note) : Prop :=
  ∃ notes, (program.run replies session).2.2.notes = session.notes ++ notes ∧
    (program.moments replies session =
        (notes.map fun note => .sent note (program.run replies session).2.2.committed) ∧
      (program.run replies session).2.2.committed = session.committed ∨
    program.moments replies session =
      .stored session.committed (program.run replies session).2.2.committed ::
        notes.map fun note => .sent note (program.run replies session).2.2.committed)

theorem Trailing.storesOnce (trailing : Trailing program) :
    program.StoresOnce replies session := by
  obtain ⟨kept, notes, sent, shown⟩ : _ ∧ _ := trailing.moments_eq
  refine ⟨notes, sent, Or.inl ⟨?_, kept⟩⟩
  rw [kept]
  exact shown

theorem Inside.storesOnce (inside : Inside program) (begun : session.pending.isSome = true) :
    program.StoresOnce replies session := by
  induction inside generalizing replies session with
  | ended rest => exact rest.storesOnce
  | ask statement rest hypothesis =>
    obtain ⟨committed, _ | earlier, notes⟩ := session
    · cases begun
    · cases reply : (nextReply replies).1 with
      | lost =>
        rw [StoresOnce, run, moments, reply]
        exact hypothesis _ rfl
      | served choice =>
        cases executed : statement.execute choice (earlier committed) with
        | error error =>
          simp only [StoresOnce, run, moments, reply, Session.view, executed]
          exact hypothesis _ rfl
        | ok pair =>
          simp only [StoresOnce, run, moments, reply, Session.view, executed]
          exact @hypothesis (.ok pair.1) _
            ⟨committed, some fun db => pair.2 (earlier db), notes⟩ rfl
  | commit rest =>
    cases reply : (nextReply replies).1 with
    | lost =>
      rw [StoresOnce, run, moments, reply]
      exact (rest _).storesOnce
    | served choice =>
      rw [StoresOnce, run, moments, reply]
      obtain ⟨kept, notes, sent, shown⟩ : _ ∧ _ :=
        (rest (.ok ())).moments_eq
      refine ⟨notes, sent, Or.inr ?_⟩
      rw [kept, shown]
      rfl

/-- What a single transaction shows is what it leaves. -/
theorem OneTransaction.storesOnce (single : OneTransaction program) :
    program.StoresOnce replies session := by
  cases single with
  | done result => exact (Trailing.done result).storesOnce
  | start lost begun =>
    cases reply : (nextReply replies).1 with
    | lost =>
      rw [StoresOnce, run, moments, reply]
      exact (lost _).storesOnce
    | served choice =>
      rw [StoresOnce, run, moments, reply]
      exact @Inside.storesOnce _ _ _ _ _ _ _ { session with pending := some id } begun rfl

/-- A single transaction shows a property when it holds of what the transaction leaves. -/
theorem OneTransaction.shows {good : Moment Db Note → Prop} {db : Db} {notes : List Note}
    (single : OneTransaction program)
    (leaves : Ensures true program ⟨db, none, notes⟩ fun _ final =>
      good (.stored db final.committed) ∧
        ∀ sent, final.notes = notes ++ sent → ∀ note ∈ sent, good (.sent note final.committed)) :
    Shows good program ⟨db, none, notes⟩ := by
  intro replies moment member
  obtain ⟨stored, announced⟩ := leaves replies (by simp)
  obtain ⟨sent, noted, ⟨shown, -⟩ | shown⟩ : program.StoresOnce replies ⟨db, none, notes⟩ :=
    single.storesOnce
  · rw [shown] at member
    obtain ⟨note, inSent, rfl⟩ := List.mem_map.mp member
    exact announced sent noted note inSent
  · rw [shown] at member
    rcases List.mem_cons.mp member with rfl | later
    · exact stored
    · obtain ⟨note, inSent, rfl⟩ := List.mem_map.mp later
      exact announced sent noted note inSent

end Showing

end Program

end Relational
