/-
This file compares the runs of one program on two stores.

A relation between stores says what the two have in common. A statement respects it when
on related stores it answers the same, or fails the same, and leaves related stores. A
program all of whose statements respect the relation runs in lockstep: with the same
replies it returns the same, and leaves related stores again.
-/

import SeshatOps.Program

namespace Relational

variable {Db Lock Note Failure Other Value Result Answer : Type}

/-- What two executions of a statement have in common. -/
inductive Statement.Matches (related : Db → Db → Prop) (first second : Db) :
    Except SqlError (Answer × (Db → Db)) → Except SqlError (Answer × (Db → Db)) → Prop
  | answered (answer : Answer) (change otherChange : Db → Db)
      (left : related (change first) (otherChange second)) :
      Statement.Matches related first second (.ok (answer, change)) (.ok (answer, otherChange))
  | refused (error : SqlError) :
      Statement.Matches related first second (.error error) (.error error)

/-- On related stores the statement answers the same and leaves related stores. -/
def Statement.Respects (related : Db → Db → Prop) (statement : Statement Db Lock Answer) : Prop :=
  ∀ choice first second, related first second →
    Statement.Matches related first second (statement.execute choice first)
      (statement.execute choice second)

namespace Program

/-- Every statement of the program respects the relation. -/
inductive Respects (related : Db → Db → Prop) : Program Db Lock Note Failure Value → Prop
  | done (result : Except Failure Value) : Respects related (.done result)
  | ask {Answer : Type} {statement : Statement Db Lock Answer}
      {next : Except SqlError Answer → Program Db Lock Note Failure Value}
      (respects : statement.Respects related) (rest : ∀ answer, Respects related (next answer)) :
      Respects related (.ask statement next)
  | start {next : Except SqlError Unit → Program Db Lock Note Failure Value}
      (rest : ∀ answer, Respects related (next answer)) : Respects related (.start next)
  | commit {next : Except SqlError Unit → Program Db Lock Note Failure Value}
      (rest : ∀ answer, Respects related (next answer)) : Respects related (.commit next)
  | rollback {next : Program Db Lock Note Failure Value} (rest : Respects related next) :
      Respects related (.rollback next)
  | emit (note : Note) {next : Program Db Lock Note Failure Value}
      (rest : Respects related next) : Respects related (.emit note next)

section Shapes

variable {related : Db → Db → Prop} {program : Program Db Lock Note Failure Value}
  {continuation : Value → Program Db Lock Note Failure Result}

theorem Respects.resume (respects : Respects related program)
    {continuation : Except Failure Value → Program Db Lock Note Other Result}
    (next : ∀ result, Respects related (continuation result)) :
    Respects related (program.resume continuation) := by
  induction respects with
  | done result => exact next result
  | ask respects rest hypothesis => exact .ask respects hypothesis
  | start rest hypothesis => exact .start hypothesis
  | commit rest hypothesis => exact .commit hypothesis
  | rollback rest hypothesis => exact .rollback hypothesis
  | emit note rest hypothesis => exact .emit note hypothesis

theorem Respects.bind (respects : Respects related program)
    (next : ∀ value, Respects related (continuation value)) :
    Respects related (program >>= continuation) := by
  rw [bind_eq_resume]
  exact respects.resume (Except.rec (fun _ => .done _) next)

theorem Respects.attempt (respects : Respects related program) :
    Respects related (attempt program : Program Db Lock Note Other _) := by
  rw [attempt_eq_resume]
  exact respects.resume fun _ => .done _

theorem Respects.exec {statement : Statement Db Lock Answer} (failure : SqlError → Failure)
    (respects : statement.Respects related) :
    Respects related (exec statement failure : Program Db Lock Note Failure Answer) :=
  .ask respects fun _ => .done _

theorem Respects.commitOr (failure : SqlError → Failure) :
    Respects related (commitOr failure : Program Db Lock Note Failure Unit) :=
  .commit fun _ => .done _

theorem Respects.inTransaction (failure : SqlError → Failure)
    (respects : Respects related program) : Respects related (inTransaction failure program) := by
  refine .start fun answer => ?_
  cases answer with
  | error error => exact .done _
  | ok value => exact respects.attempt.bind fun _ => .rollback (.done _)

end Shapes

/-- Two sessions on related stores. -/
structure Session.Related (related : Db → Db → Prop) (first second : Session Db Note) :
    Prop where
  committed : related first.committed second.committed
  view : related first.view second.view
  opened : first.pending.isSome = second.pending.isSome
  notes : first.notes = second.notes

namespace Session.Related

variable {related : Db → Db → Prop} {first second : Session Db Note}

/-- Two sessions without a transaction. -/
theorem closed {db otherDb : Db} {notes : List Note} (same : related db otherDb) :
    Session.Related related (⟨db, none, notes⟩ : Session Db Note) ⟨otherDb, none, notes⟩ :=
  ⟨same, same, rfl, rfl⟩

theorem begun (both : Session.Related related first second) :
    Session.Related related { first with pending := some id } { second with pending := some id } :=
  ⟨both.committed, both.committed, rfl, both.notes⟩

theorem write (both : Session.Related related first second) {change otherChange : Db → Db}
    (left : related (change first.view) (otherChange second.view)) :
    Session.Related related (first.write change) (second.write otherChange) := by
  obtain ⟨committed, _ | write, notes⟩ := first
  · obtain ⟨otherCommitted, _ | otherWrite, otherNotes⟩ := second
    · exact ⟨left, left, rfl, both.notes⟩
    · exact absurd both.opened (by simp)
  · obtain ⟨otherCommitted, _ | otherWrite, otherNotes⟩ := second
    · exact absurd both.opened (by simp)
    · exact ⟨both.committed, left, rfl, both.notes⟩

theorem commit (both : Session.Related related first second) :
    Session.Related related first.commit second.commit :=
  ⟨both.view, both.view, rfl, both.notes⟩

theorem rollback (both : Session.Related related first second) :
    Session.Related related first.rollback second.rollback :=
  ⟨both.committed, both.committed, rfl, both.notes⟩

theorem emit (both : Session.Related related first second) (note : Note) :
    Session.Related related { first with notes := first.notes ++ [note] }
      { second with notes := second.notes ++ [note] } :=
  ⟨both.committed, both.view, both.opened, by rw [both.notes]⟩

end Session.Related

/-- A program that respects a relation runs in lockstep on related stores. -/
theorem Respects.run {related : Db → Db → Prop} {program : Program Db Lock Note Failure Value}
    (respects : Respects related program) (replies : List Reply) {first second : Session Db Note}
    (both : Session.Related related first second) :
    (program.run replies first).1 = (program.run replies second).1 ∧
      (program.run replies first).2.1 = (program.run replies second).2.1 ∧
      Session.Related related (program.run replies first).2.2 (program.run replies second).2.2 := by
  induction respects generalizing replies first second with
  | done result => exact ⟨rfl, rfl, both⟩
  | @ask Answer statement next respects rest hypothesis =>
    cases reply : (nextReply replies).1 with
    | lost =>
      simp only [Program.run, reply]
      exact hypothesis _ _ both
    | served choice =>
      have same := respects choice _ _ both.view
      simp only [Program.run, reply]
      generalize statement.execute choice first.view = here at same ⊢
      generalize statement.execute choice second.view = there at same ⊢
      cases same with
      | answered answer change otherChange left => exact hypothesis _ _ (both.write left)
      | refused error => exact hypothesis _ _ both
  | start rest hypothesis =>
    cases reply : (nextReply replies).1 with
    | lost =>
      simp only [Program.run, reply]
      exact hypothesis _ _ both
    | served choice =>
      simp only [Program.run, reply]
      exact hypothesis _ _ both.begun
  | commit rest hypothesis =>
    cases reply : (nextReply replies).1 with
    | lost =>
      simp only [Program.run, reply]
      exact hypothesis _ _ both
    | served choice =>
      simp only [Program.run, reply]
      exact hypothesis _ _ both.commit
  | rollback rest hypothesis => exact hypothesis _ both.rollback
  | emit note rest hypothesis => exact hypothesis _ (both.emit note)

/-- A program that fails in its first part ends there. -/
theorem run_bind_error {program : Program Db Lock Note Failure Value}
    {continuation : Value → Program Db Lock Note Failure Result} {replies : List Reply}
    {session : Session Db Note} {failure : Failure}
    (failed : (program.run replies session).1 = .error failure) :
    (program >>= continuation).run replies session =
      (.error failure, (program.run replies session).2) := by
  rw [run_bind]
  generalize program.run replies session = ran at failed ⊢
  obtain ⟨result, rest, final⟩ := ran
  subst failed
  rfl

/-- A transaction whose begin is served runs its body, and then drops what is not committed. -/
theorem run_inTransaction {failure : SqlError → Failure} {body : Program Db Lock Note Failure Value}
    {replies : List Reply} {session : Session Db Note} (served : Reply.lost ∉ replies) :
    (inTransaction failure body).run replies session =
      ((body.run (nextReply replies).2 { session with pending := some id }).1,
        (body.run (nextReply replies).2 { session with pending := some id }).2.1,
        (body.run (nextReply replies).2 { session with pending := some id }).2.2.rollback) := by
  obtain ⟨choice, reply⟩ := nextReply_served served
  simp only [inTransaction, Program.run, reply]
  rw [run_bind, run_attempt]
  rfl

end Program

end Relational
