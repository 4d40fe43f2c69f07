/-
This file runs a program on a part of a larger store.

A `Focus` says where the part lies in the whole. `Program.within` carries a program over
it: the statements see the part only, and their writes are put back into the whole. A
program `Preserves` a property of the store when each of its statements does, and then
every state that a run stores has the property. A program carried over a focus preserves
whatever can be told from the rest of the whole.
-/

import SeshatOps.Moments

namespace Relational

/-- A part of a store, which can be read and replaced. -/
structure Focus (Whole Part : Type) where
  get : Whole → Part
  put : Part → Whole → Whole
  get_put : ∀ part whole, get (put part whole) = part
  put_get : ∀ whole, put (get whole) whole = whole

variable {Whole Part Db Lock Note Other Failure Value Result Answer : Type}

/-- A statement on the part, as a statement on the whole. -/
def Statement.within (focus : Focus Whole Part) (statement : Statement Part Lock Answer) :
    Statement Whole Lock Answer where
  locks choice whole := statement.locks choice (focus.get whole)
  execute choice whole :=
    match statement.execute choice (focus.get whole) with
    | .ok (answer, change) => .ok (answer, fun whole => focus.put (change (focus.get whole)) whole)
    | .error error => .error error

/-- The property survives whatever the statement writes. -/
def Statement.Preserves (holds : Db → Prop) (statement : Statement Db Lock Answer) : Prop :=
  ∀ choice db answer change, holds db → statement.execute choice db = .ok (answer, change) →
    holds (change db)

/-- What is put into the part does not change the property. -/
def Focus.Outside (focus : Focus Whole Part) (holds : Whole → Prop) : Prop :=
  ∀ part whole, holds whole → holds (focus.put part whole)

theorem Statement.preserves_within {focus : Focus Whole Part} {holds : Whole → Prop}
    (outside : focus.Outside holds) (statement : Statement Part Lock Answer) :
    (statement.within focus).Preserves holds := by
  intro choice whole answer change held executed
  simp only [within] at executed
  split at executed
  · cases executed
    exact outside _ _ held
  · cases executed

namespace Program

/-- A program on the part, as a program on the whole. -/
def within (focus : Focus Whole Part) (note : Note → Other) :
    Program Part Lock Note Failure Value → Program Whole Lock Other Failure Value
  | .done result => .done result
  | .ask statement next =>
      .ask (statement.within focus) fun answer => within focus note (next answer)
  | .start next => .start fun answer => within focus note (next answer)
  | .commit next => .commit fun answer => within focus note (next answer)
  | .rollback next => .rollback (within focus note next)
  | .emit sent next => .emit (note sent) (within focus note next)

/-- Every statement of the program preserves the property. -/
inductive Preserves (holds : Db → Prop) : Program Db Lock Note Failure Value → Prop
  | done (result : Except Failure Value) : Preserves holds (.done result)
  | ask {Answer : Type} {statement : Statement Db Lock Answer}
      {next : Except SqlError Answer → Program Db Lock Note Failure Value}
      (preserves : statement.Preserves holds) (rest : ∀ answer, Preserves holds (next answer)) :
      Preserves holds (.ask statement next)
  | start {next : Except SqlError Unit → Program Db Lock Note Failure Value}
      (rest : ∀ answer, Preserves holds (next answer)) : Preserves holds (.start next)
  | commit {next : Except SqlError Unit → Program Db Lock Note Failure Value}
      (rest : ∀ answer, Preserves holds (next answer)) : Preserves holds (.commit next)
  | rollback {next : Program Db Lock Note Failure Value} (rest : Preserves holds next) :
      Preserves holds (.rollback next)
  | emit (note : Note) {next : Program Db Lock Note Failure Value}
      (rest : Preserves holds next) : Preserves holds (.emit note next)

section Rules

variable {holds : Db → Prop} {program : Program Db Lock Note Failure Value}
  {continuation : Value → Program Db Lock Note Failure Result}

theorem Preserves.resume (preserves : Preserves holds program)
    {continuation : Except Failure Value → Program Db Lock Note Other Result}
    (next : ∀ result, Preserves holds (continuation result)) :
    Preserves holds (program.resume continuation) := by
  induction preserves with
  | done result => exact next result
  | ask preserves rest hypothesis => exact .ask preserves hypothesis
  | start rest hypothesis => exact .start hypothesis
  | commit rest hypothesis => exact .commit hypothesis
  | rollback rest hypothesis => exact .rollback hypothesis
  | emit note rest hypothesis => exact .emit note hypothesis

theorem Preserves.bind (preserves : Preserves holds program)
    (next : ∀ value, Preserves holds (continuation value)) :
    Preserves holds (program >>= continuation) := by
  rw [bind_eq_resume]
  exact preserves.resume (Except.rec (fun _ => .done _) next)

theorem Preserves.attempt (preserves : Preserves holds program) :
    Preserves holds (attempt program : Program Db Lock Note Other _) := by
  rw [attempt_eq_resume]
  exact preserves.resume fun _ => .done _

/-- A program on the part preserves what lies outside. -/
theorem preserves_within {focus : Focus Whole Part} {holds : Whole → Prop}
    (outside : focus.Outside holds) (note : Note → Other)
    (program : Program Part Lock Note Failure Value) :
    Preserves holds (program.within focus note) := by
  induction program with
  | done result => exact .done _
  | ask statement next hypothesis =>
    exact .ask (statement.preserves_within outside) hypothesis
  | start next hypothesis => exact .start hypothesis
  | commit next hypothesis => exact .commit hypothesis
  | rollback next hypothesis => exact .rollback hypothesis
  | emit sent next hypothesis => exact .emit _ hypothesis

/-- The committed store and the store as the connection reads it have the property. -/
def Session.Holds (holds : Db → Prop) (session : Session Db Note) : Prop :=
  holds session.committed ∧ holds session.view

theorem Session.Holds.write {session : Session Db Note} (both : session.Holds holds)
    {change : Db → Db} (left : holds (change session.view)) :
    (session.write change).Holds holds := by
  obtain ⟨committed, _ | earlier, notes⟩ := session
  · exact ⟨left, left⟩
  · exact ⟨both.1, left⟩

/-- The states of a moment have the property. -/
def Moment.Holds (holds : Db → Prop) : Moment Db Note → Prop
  | .stored before after => holds before ∧ holds after
  | .sent _ committed => holds committed

/-- What a run stores keeps the property, and so does what it leaves. -/
theorem Preserves.moments (preserves : Preserves holds program) (replies : List Reply)
    {session : Session Db Note} (both : session.Holds holds) :
    (∀ moment ∈ program.moments replies session, Moment.Holds holds moment) ∧
      (program.run replies session).2.2.Holds holds := by
  induction preserves generalizing replies session with
  | done result => exact ⟨nofun, both⟩
  | @ask Answer statement next preserves rest hypothesis =>
    cases reply : (nextReply replies).1 with
    | lost =>
      simp only [Program.moments, Program.run, reply]
      exact hypothesis _ _ both
    | served choice =>
      cases executed : statement.execute choice session.view with
      | error error =>
        simp only [Program.moments, Program.run, reply, executed]
        exact hypothesis _ _ both
      | ok pair =>
        obtain ⟨answer, change⟩ := pair
        have left := preserves choice _ _ _ both.2 executed
        simp only [Program.moments, Program.run, reply, executed]
        obtain ⟨later, final⟩ :=
          hypothesis (.ok answer) (nextReply replies).2 (both.write left)
        refine ⟨fun moment member => ?_, final⟩
        rcases List.mem_append.mp member with stored | member
        · obtain ⟨committed, _ | earlier, notes⟩ := session
          · obtain rfl := List.mem_singleton.mp stored
            exact ⟨both.1, left⟩
          · exact absurd stored List.not_mem_nil
        · exact later moment member
  | start rest hypothesis =>
    cases reply : (nextReply replies).1 with
    | lost =>
      simp only [Program.moments, Program.run, reply]
      exact hypothesis _ _ both
    | served choice =>
      simp only [Program.moments, Program.run, reply]
      exact hypothesis _ _ ⟨both.1, both.1⟩
  | commit rest hypothesis =>
    cases reply : (nextReply replies).1 with
    | lost =>
      simp only [Program.moments, Program.run, reply]
      exact hypothesis _ _ both
    | served choice =>
      simp only [Program.moments, Program.run, reply]
      have committed : Session.Holds holds session.commit := ⟨both.2, both.2⟩
      obtain ⟨later, final⟩ := hypothesis (.ok ()) (nextReply replies).2 committed
      refine ⟨fun moment member => ?_, final⟩
      rcases List.mem_cons.mp member with rfl | member
      · exact ⟨both.1, both.2⟩
      · exact later moment member
  | rollback rest hypothesis => exact hypothesis _ ⟨both.1, both.1⟩
  | emit note rest hypothesis =>
    simp only [Program.moments, Program.run]
    have sent : Session.Holds holds { session with notes := session.notes ++ [note] } := both
    obtain ⟨later, final⟩ := hypothesis replies sent
    refine ⟨fun moment member => ?_, final⟩
    rcases List.mem_cons.mp member with rfl | member
    · exact both.1
    · exact later moment member

end Rules

end Program

end Relational
