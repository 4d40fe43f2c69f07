/-
This file is a small library of several clients on one transactional store.

A `System` is a committed store with a client for each index: the requests it still has
to make, the writes of its open transaction, and the locks it holds. Each request reads
the store as it is committed at that moment, under the client's own pending writes, and
waits while another client holds a lock that it needs; locks are kept until the
transaction ends. A schedule says which client moves next and what the server does with
its request.

Two judgements on programs make whole schedules tractable. A program `Keeps` an
invariant of the store when each of its writes does, whatever other clients commit
between its requests. A program in a `Critical` section on a store that nobody else
changes establishes the invariant with its next commit, announces that once, and keeps
the invariant from then on. `Contest` puts them together: clients that all begin by
asking for one lock, of which the first to get it establishes the invariant.
-/

import Mathlib.Data.Fintype.Basic
import SeshatOps.Program

namespace Relational

namespace Program

variable {Db Lock Note Failure Other Value Result Answer Index : Type}

/-! ### Clients -/

/-- One client between two of its requests. -/
structure Client (Db Lock Note Failure Value : Type) : Type 1 where
  program : Program Db Lock Note Failure Value
  pending : Option (Db → Db) := none
  held : List Lock := []

namespace Client

variable (client : Client Db Lock Note Failure Value)

/-- The store as the client reads it. -/
def view (db : Db) : Db :=
  match client.pending with
  | none => db
  | some write => write db

/-- The locks that the next request of the client needs, for the server to reply as it does. -/
def wants (reply : Reply) (db : Db) : List Lock :=
  match client.program, reply with
  | .ask statement _, .served choice => statement.locks choice (client.view db)
  | _, _ => []

/-- The next request of the client, served or lost: the client after it, the committed store
after it, and what it announced. -/
def advance (reply : Reply) (db : Db) : Client Db Lock Note Failure Value × Db × List Note :=
  match client.program, reply with
  | .done _, _ => (client, db, [])
  | .ask _ next, .lost => ({ client with program := next (.error .unavailable) }, db, [])
  | .ask statement next, .served choice =>
      match statement.execute choice (client.view db) with
      | .error error => ({ client with program := next (.error error) }, db, [])
      | .ok (answer, change) =>
          match client.pending with
          | none => ({ client with program := next (.ok answer) }, change db, [])
          | some write =>
              (⟨next (.ok answer), some fun db => change (write db),
                client.held ++ statement.locks choice (client.view db)⟩, db, [])
  | .start next, .lost => ({ client with program := next (.error .unavailable) }, db, [])
  | .start next, .served _ => (⟨next (.ok ()), some id, client.held⟩, db, [])
  | .commit next, .lost => ({ client with program := next (.error .unavailable) }, db, [])
  | .commit next, .served _ => (⟨next (.ok ()), none, []⟩, client.view db, [])
  | .rollback next, _ => (⟨next, none, []⟩, db, [])
  | .emit note next, _ => ({ client with program := next }, db, [note])

end Client

/-! ### Systems -/

/-- Clients on one store, with everything they have announced. -/
structure System (Index Db Lock Note Failure Value : Type) : Type 1 where
  committed : Db
  clients : Index → Client Db Lock Note Failure Value
  notes : List Note := []

namespace System

variable [DecidableEq Index] [Fintype Index] [DecidableEq Lock]
  (system : System Index Db Lock Note Failure Value)

/-- Another client holds a lock that the client's next request needs. -/
def Blocked (index : Index) (reply : Reply) : Prop :=
  ∃ other, other ≠ index ∧ ∃ lock ∈ (system.clients index).wants reply system.committed,
    lock ∈ (system.clients other).held

instance (index : Index) (reply : Reply) : Decidable (system.Blocked index reply) :=
  inferInstanceAs (Decidable (∃ other, other ≠ index ∧
    ∃ lock ∈ (system.clients index).wants reply system.committed,
      lock ∈ (system.clients other).held))

/-- One client moves, unless it has to wait. -/
def step (index : Index) (reply : Reply) : System Index Db Lock Note Failure Value :=
  if system.Blocked index reply then system
  else
    let moved := (system.clients index).advance reply system.committed
    ⟨moved.2.1, Function.update system.clients index moved.1, system.notes ++ moved.2.2⟩

/-- The clients move in the order of a schedule. -/
def run (schedule : List (Index × Reply)) : System Index Db Lock Note Failure Value :=
  schedule.foldl (fun system turn => system.step turn.1 turn.2) system

theorem run_append (first second : List (Index × Reply)) :
    system.run (first ++ second) = (system.run first).run second := List.foldl_append

end System

/-! ### One client at a time -/

section Alone

variable [DecidableEq Index] [Fintype Index] [DecidableEq Lock] {index : Index}

theorem System.step_of_unblocked {system : System Index Db Lock Note Failure Value}
    {reply : Reply} (unblocked : ¬ system.Blocked index reply) :
    system.step index reply =
      ⟨((system.clients index).advance reply system.committed).2.1,
        Function.update system.clients index
          ((system.clients index).advance reply system.committed).1,
        system.notes ++ ((system.clients index).advance reply system.committed).2.2⟩ :=
  if_neg unblocked

/-- While the others hold no lock, a client is not blocked. -/
theorem System.step_of_free {system : System Index Db Lock Note Failure Value}
    (free : ∀ other, other ≠ index → (system.clients other).held = []) (reply : Reply) :
    system.step index reply =
      ⟨((system.clients index).advance reply system.committed).2.1,
        Function.update system.clients index
          ((system.clients index).advance reply system.committed).1,
        system.notes ++ ((system.clients index).advance reply system.committed).2.2⟩ := by
  refine System.step_of_unblocked ?_
  rintro ⟨other, different, lock, -, held⟩
  rw [free other different] at held
  cases held

/-- A client stays where it is while only others move. -/
theorem System.run_others {system : System Index Db Lock Note Failure Value}
    {schedule : List (Index × Reply)} (others : ∀ turn ∈ schedule, turn.1 ≠ index) :
    (system.run schedule).clients index = system.clients index := by
  induction schedule generalizing system with
  | nil => rfl
  | cons turn rest hypothesis =>
    have stays : (system.step turn.1 turn.2).clients index = system.clients index := by
      rw [System.step]
      split_ifs
      · rfl
      · exact Function.update_of_ne (others turn List.mem_cons_self).symm _ _
    rw [← stays]
    exact hypothesis fun turn member => others turn (List.mem_cons_of_mem _ member)

/-- The connection of one client. -/
def System.session (system : System Index Db Lock Note Failure Value) (index : Index) :
    Session Db Note := ⟨system.committed, (system.clients index).pending, system.notes⟩

/-- Some turns of one client end it with the result, while the other clients stay. -/
def System.CanFinish (system : System Index Db Lock Note Failure Value) (index : Index)
    (result : Except Failure Value × List Reply × Session Db Note) : Prop :=
  ∃ turns client,
    system.run (List.replicate turns (index, .served 0)) =
      ⟨result.2.2.committed, Function.update system.clients index client, result.2.2.notes⟩ ∧
    client.program = .done result.1 ∧ client.pending = result.2.2.pending ∧
    (client.pending = none → client.held = [])

/-- A move to a program that can finish. -/
theorem System.CanFinish.of_step {system : System Index Db Lock Note Failure Value}
    {rest : Program Db Lock Note Failure Value} (session : Session Db Note) (held : List Lock)
    (free : ∀ other, other ≠ index → (system.clients other).held = [])
    (finishes : ∀ system : System Index Db Lock Note Failure Value,
      (system.clients index).program = rest →
      ((system.clients index).pending = none → (system.clients index).held = []) →
      (∀ other, other ≠ index → (system.clients other).held = []) →
      system.CanFinish index (rest.run [] (system.session index)))
    (tidy : session.pending = none → held = [])
    (stepped : system.step index (.served 0) = ⟨session.committed,
      Function.update system.clients index ⟨rest, session.pending, held⟩, session.notes⟩) :
    system.CanFinish index (rest.run [] session) := by
  obtain ⟨turns, client, ran, facts⟩ := finishes
    ⟨session.committed, Function.update system.clients index ⟨rest, session.pending, held⟩,
      session.notes⟩ (by simp) (by simpa using tidy)
    (fun other different => by simpa [Function.update_of_ne different] using free other different)
  simp only [System.session, Function.update_self, Function.update_idem] at ran facts
  refine ⟨turns + 1, client, ?_, facts⟩
  rw [List.replicate_succ, ← ran, ← stepped]
  rfl

/-- While the others hold no lock, a client can run to its end as it would alone. -/
theorem System.canFinish (program : Program Db Lock Note Failure Value) :
    ∀ system : System Index Db Lock Note Failure Value,
      (system.clients index).program = program →
      ((system.clients index).pending = none → (system.clients index).held = []) →
      (∀ other, other ≠ index → (system.clients other).held = []) →
      system.CanFinish index (program.run [] (system.session index)) := by
  induction program with
  | done result =>
    intro system here tidy free
    exact ⟨0, system.clients index, by simp [System.run, System.session, Program.run], here, rfl,
      tidy⟩
  | ask statement next hypothesis =>
    intro system here tidy free
    have stepped := System.step_of_free free (.served 0)
    have view : (system.clients index).view system.committed = (system.session index).view := rfl
    simp only [Client.advance, here, view] at stepped
    simp only [Program.run, nextReply]
    cases executed : statement.execute 0 (system.session index).view with
    | error error =>
      simp only [executed, List.append_nil] at stepped
      exact .of_step (system.session index) _ free (hypothesis _) tidy stepped
    | ok outcome =>
      simp only [executed] at stepped
      cases opened : (system.clients index).pending with
      | none =>
        simp only [opened] at stepped
        refine .of_step _ (system.clients index).held free (hypothesis _) ?_ ?_
        · exact fun _ => tidy opened
        · simpa [Session.write, System.session, opened] using stepped
      | some write =>
        simp only [opened] at stepped
        refine .of_step _ ((system.clients index).held ++ statement.locks 0
          (system.session index).view) free (hypothesis _) ?_ ?_
        · simp [Session.write, System.session, opened]
        · simpa [Session.write, System.session, opened] using stepped
  | start next hypothesis =>
    intro system here tidy free
    have stepped := System.step_of_free free (.served 0)
    simp only [Client.advance, here, List.append_nil] at stepped
    exact .of_step { system.session index with pending := some id } _ free (hypothesis _)
      (by simp) stepped
  | commit next hypothesis =>
    intro system here tidy free
    have stepped := System.step_of_free free (.served 0)
    simp only [Client.advance, here, List.append_nil] at stepped
    exact .of_step (system.session index).commit _ free (hypothesis _) (fun _ => rfl)
      stepped
  | rollback next hypothesis =>
    intro system here tidy free
    have stepped := System.step_of_free free (.served 0)
    simp only [Client.advance, here, List.append_nil] at stepped
    exact .of_step (system.session index).rollback _ free hypothesis (fun _ => rfl) stepped
  | emit note next hypothesis =>
    intro system here tidy free
    have stepped := System.step_of_free free (.served 0)
    simp only [Client.advance, here] at stepped
    exact .of_step { system.session index with notes := system.notes ++ [note] } _ free
      hypothesis tidy stepped

end Alone

/-! ### Keeping an invariant -/

/-- Every write of the program keeps the invariant of the store, whatever is committed between
its requests as long as the invariant holds; what it announces is allowed, and it ends
as asked. -/
def Keeps (invariant : Db → Prop) (allowed : Note → Prop) (ends : Except Failure Value → Prop) :
    Program Db Lock Note Failure Value → Prop
  | .done result => ends result
  | .ask statement next =>
      Keeps invariant allowed ends (next (.error .unavailable)) ∧
      ∀ choice db, invariant db →
        (∀ answer change, statement.execute choice db = .ok (answer, change) →
          (∀ db, invariant db → invariant (change db)) ∧
            Keeps invariant allowed ends (next (.ok answer))) ∧
        ∀ error, statement.execute choice db = .error error →
          Keeps invariant allowed ends (next (.error error))
  | .start next =>
      Keeps invariant allowed ends (next (.error .unavailable)) ∧
        Keeps invariant allowed ends (next (.ok ()))
  | .commit next =>
      Keeps invariant allowed ends (next (.error .unavailable)) ∧
        Keeps invariant allowed ends (next (.ok ()))
  | .rollback next => Keeps invariant allowed ends next
  | .emit note next => allowed note ∧ Keeps invariant allowed ends next

/-- A condition on a result, by what holds of a value and what holds of a failure. -/
def Returns (succeeded : Value → Prop) (failed : Failure → Prop) : Except Failure Value → Prop
  | .ok value => succeeded value
  | .error failure => failed failure

section KeepsRules

variable {invariant : Db → Prop} {allowed : Note → Prop}

variable (program : Program Db Lock Note Failure Value)
  (continuation : Value → Program Db Lock Note Failure Result)

/-- A program continued, whether it failed or not. -/
theorem keeps_resume {continuation : Except Failure Value → Program Db Lock Note Other Result}
    {ends : Except Other Result → Prop}
    (first : Keeps invariant allowed
      (fun result => Keeps invariant allowed ends (continuation result)) program) :
    Keeps invariant allowed ends (program.resume continuation) := by
  induction program with
  | done result => exact first
  | ask statement next hypothesis =>
    obtain ⟨lost, served⟩ := first
    refine ⟨hypothesis _ lost, fun choice db holds => ⟨?_, ?_⟩⟩
    · intro answer change executed
      obtain ⟨keeps, rest⟩ := (served choice db holds).1 answer change executed
      exact ⟨keeps, hypothesis _ rest⟩
    · intro error executed
      exact hypothesis _ ((served choice db holds).2 error executed)
  | start next hypothesis | commit next hypothesis =>
    exact ⟨hypothesis _ first.1, hypothesis _ first.2⟩
  | rollback next hypothesis => exact hypothesis first
  | emit note next hypothesis => exact ⟨first.1, hypothesis first.2⟩

/-- The two ways to say what a continued program leaves. -/
theorem returns_eq_onward (continuation : Value → Program Db Lock Note Failure Result)
    (ends : Except Failure Result → Prop) :
    Returns (fun value => Keeps invariant allowed ends (continuation value))
        (fun failure => ends (.error failure)) =
      fun result => Keeps invariant allowed ends (onward continuation result) := by
  funext result
  cases result <;> rfl

theorem keeps_bind {ends : Except Failure Result → Prop}
    (first : Keeps invariant allowed
      (Returns (fun value => Keeps invariant allowed ends (continuation value))
        fun failure => ends (.error failure)) program) :
    Keeps invariant allowed ends (program >>= continuation) := by
  rw [returns_eq_onward] at first
  rw [bind_eq_resume]
  exact keeps_resume program first

theorem keeps_attempt {ends : Except Other (Except Failure Value) → Prop}
    (first : Keeps invariant allowed (fun result => ends (.ok result)) program) :
    Keeps invariant allowed ends (attempt program : Program Db Lock Note Other _) := by
  rw [attempt_eq_resume]
  exact keeps_resume program first

/-- A statement that keeps the invariant, and what follows each of its answers. -/
theorem keeps_exec (statement : Statement Db Lock Answer) (failure : SqlError → Failure)
    (continuation : Answer → Program Db Lock Note Failure Value)
    {ends : Except Failure Value → Prop} (failed : ∀ error, ends (.error (failure error)))
    (served : ∀ choice db answer change, invariant db →
      statement.execute choice db = .ok (answer, change) →
      (∀ db, invariant db → invariant (change db)) ∧
        Keeps invariant allowed ends (continuation answer)) :
    Keeps invariant allowed ends (exec statement failure >>= continuation) :=
  ⟨failed _, fun choice db holds =>
    ⟨fun answer change executed => served choice db answer change holds executed,
      fun error _ => failed error⟩⟩

theorem keeps_commitOr (failure : SqlError → Failure)
    (continuation : Unit → Program Db Lock Note Failure Value)
    {ends : Except Failure Value → Prop} (failed : ∀ error, ends (.error (failure error)))
    (rest : Keeps invariant allowed ends (continuation ())) :
    Keeps invariant allowed ends (commitOr failure >>= continuation) := ⟨failed _, rest⟩

theorem keeps_inTransaction (failure : SqlError → Failure)
    (body : Program Db Lock Note Failure Value) {ends : Except Failure Value → Prop}
    (failed : ∀ error, ends (.error (failure error)))
    (inside : Keeps invariant allowed ends body) :
    Keeps invariant allowed ends (inTransaction failure body) := by
  refine ⟨failed _, keeps_bind _ _ (keeps_attempt body ?_)⟩
  exact inside

end KeepsRules

/-- A client that keeps the invariant from where it stands. -/
structure Client.Keeping (invariant : Db → Prop) (allowed : Note → Prop)
    (ends : Except Failure Value → Prop) (client : Client Db Lock Note Failure Value) : Prop where
  program : Keeps invariant allowed ends client.program
  writes : ∀ write, client.pending = some write → ∀ db, invariant db → invariant (write db)

section Keeping

variable {invariant : Db → Prop} {allowed : Note → Prop} {ends : Except Failure Value → Prop}
  {client : Client Db Lock Note Failure Value} {db : Db}

theorem Client.Keeping.view (keeping : client.Keeping invariant allowed ends)
    (holds : invariant db) : invariant (client.view db) := by
  unfold Client.view
  cases open' : client.pending with
  | none => exact holds
  | some write => exact keeping.writes write open' db holds

/-- A move of a keeping client keeps the invariant, announces what is allowed and leaves a
keeping client. -/
theorem Client.Keeping.advance (keeping : client.Keeping invariant allowed ends)
    (holds : invariant db) (reply : Reply) :
    (client.advance reply db).1.Keeping invariant allowed ends ∧
      invariant (client.advance reply db).2.1 ∧
        ∀ note ∈ (client.advance reply db).2.2, allowed note := by
  obtain ⟨program, pending, held⟩ := client
  have seen := keeping.view holds
  obtain ⟨keeps, writes⟩ := keeping
  cases program with
  | done result => exact ⟨⟨keeps, writes⟩, holds, by simp [Client.advance]⟩
  | ask statement next =>
    cases reply with
    | lost => exact ⟨⟨keeps.1, writes⟩, holds, by simp [Client.advance]⟩
    | served choice =>
      simp only [Client.advance]
      cases executed : statement.execute choice
          (Client.view ⟨.ask statement next, pending, held⟩ db) with
      | error error =>
        exact ⟨⟨(keeps.2 choice _ seen).2 error executed, writes⟩, holds, by simp⟩
      | ok outcome =>
        obtain ⟨answer, change⟩ := outcome
        obtain ⟨changes, rest⟩ := (keeps.2 choice _ seen).1 answer change executed
        cases pending with
        | none => exact ⟨⟨rest, writes⟩, changes db holds, by simp⟩
        | some write =>
          refine ⟨⟨rest, ?_⟩, holds, by simp⟩
          rintro _ ⟨⟩ other before
          exact changes _ (writes write rfl other before)
  | start next =>
    cases reply with
    | lost => exact ⟨⟨keeps.1, writes⟩, holds, by simp [Client.advance]⟩
    | served choice =>
      refine ⟨⟨keeps.2, ?_⟩, holds, by simp [Client.advance]⟩
      rintro _ ⟨⟩ other before
      exact before
  | commit next =>
    cases reply with
    | lost => exact ⟨⟨keeps.1, writes⟩, holds, by simp [Client.advance]⟩
    | served choice => exact ⟨⟨keeps.2, fun _ none => nomatch none⟩, seen, by simp [Client.advance]⟩
  | rollback next =>
    cases reply <;> exact ⟨⟨keeps, fun _ none => nomatch none⟩, holds, by simp [Client.advance]⟩
  | emit note next =>
    cases reply <;> exact ⟨⟨keeps.2, writes⟩, holds, by simpa [Client.advance] using keeps.1⟩

/-- A step of clients that all keep the invariant. -/
theorem System.step_keeping [DecidableEq Index] [Fintype Index] [DecidableEq Lock]
    {system : System Index Db Lock Note Failure Value}
    (keeping : ∀ index, (system.clients index).Keeping invariant allowed ends)
    (holds : invariant system.committed) (turn : Index × Reply) :
    (∀ index, ((system.step turn.1 turn.2).clients index).Keeping invariant allowed ends) ∧
      invariant (system.step turn.1 turn.2).committed := by
  by_cases blocked : system.Blocked turn.1 turn.2
  · rw [System.step, if_pos blocked]
    exact ⟨keeping, holds⟩
  · obtain ⟨moved, after, -⟩ := (keeping turn.1).advance holds turn.2
    rw [System.step_of_unblocked blocked]
    refine ⟨fun index => ?_, after⟩
    by_cases own : index = turn.1
    · subst own
      simpa only [Function.update_self] using moved
    · simpa only [Function.update_of_ne own] using keeping index

/-- A schedule of clients that all keep the invariant. -/
theorem System.run_keeping [DecidableEq Index] [Fintype Index] [DecidableEq Lock]
    {system : System Index Db Lock Note Failure Value}
    (keeping : ∀ index, (system.clients index).Keeping invariant allowed ends)
    (holds : invariant system.committed) (schedule : List (Index × Reply)) :
    invariant (system.run schedule).committed := by
  induction schedule generalizing system with
  | nil => exact holds
  | cons turn rest hypothesis =>
    obtain ⟨moved, after⟩ := System.step_keeping keeping holds turn
    exact hypothesis moved after

end Keeping

/-! ### Critical sections -/

/-- A transaction on a store that nobody else changes meanwhile. Its commit establishes the
invariant, and the program then makes a marked announcement and keeps the invariant. -/
def Critical (store : Db) (invariant : Db → Prop) (marked : Note → Prop)
    (ends : Except Failure Value → Prop) :
    Program Db Lock Note Failure Value → (Db → Db) → Prop
  | .ask statement next, write =>
      ∀ choice, ∃ answer change, statement.execute choice (write store) = .ok (answer, change) ∧
        Critical store invariant marked ends (next (.ok answer)) fun db => change (write db)
  | .commit next, write =>
      invariant (write store) ∧ ∃ note rest, next (.ok ()) = .emit note rest ∧ marked note ∧
        Keeps invariant (fun note => ¬ marked note) ends rest
  | _, _ => False

section CriticalRules

variable {store : Db} {invariant : Db → Prop} {marked : Note → Prop} {write : Db → Db}

variable (program : Program Db Lock Note Failure Value)
  (continuation : Value → Program Db Lock Note Failure Result)

/-- A critical section continued, whether it failed or not. -/
theorem critical_resume {continuation : Except Failure Value → Program Db Lock Note Other Result}
    {ends : Except Other Result → Prop}
    (first : Critical store invariant marked
      (fun result => Keeps invariant (fun note => ¬ marked note) ends (continuation result))
      program write) :
    Critical store invariant marked ends (program.resume continuation) write := by
  induction program generalizing write with
  | done result => exact first.elim
  | ask statement next hypothesis =>
    intro choice
    obtain ⟨answer, change, executed, rest⟩ := first choice
    exact ⟨answer, change, executed, hypothesis _ rest⟩
  | start next hypothesis => exact first.elim
  | commit next hypothesis =>
    obtain ⟨holds, note, rest, continues, isMarked, keeps⟩ := first
    refine ⟨holds, note, rest.resume continuation, ?_, isMarked, keeps_resume rest keeps⟩
    show (next (.ok ())).resume continuation = _
    rw [continues]
    rfl
  | rollback | emit => exact first.elim

theorem critical_bind {ends : Except Failure Result → Prop}
    (first : Critical store invariant marked
      (Returns (fun value => Keeps invariant (fun note => ¬ marked note) ends (continuation value))
        fun failure => ends (.error failure)) program write) :
    Critical store invariant marked ends (program >>= continuation) write := by
  rw [returns_eq_onward] at first
  rw [bind_eq_resume]
  exact critical_resume program first

theorem critical_attempt {ends : Except Other (Except Failure Value) → Prop}
    (first : Critical store invariant marked (fun result => ends (.ok result)) program write) :
    Critical store invariant marked ends (attempt program : Program Db Lock Note Other _)
      write := by
  rw [attempt_eq_resume]
  exact critical_resume program first

theorem critical_exec (statement : Statement Db Lock Answer) (failure : SqlError → Failure)
    (continuation : Answer → Program Db Lock Note Failure Value)
    {ends : Except Failure Value → Prop}
    (served : ∀ choice, ∃ answer change,
      statement.execute choice (write store) = .ok (answer, change) ∧
      Critical store invariant marked ends (continuation answer) fun db => change (write db)) :
    Critical store invariant marked ends (exec statement failure >>= continuation) write := served

theorem critical_commitOr (failure : SqlError → Failure)
    (continuation : Unit → Program Db Lock Note Failure Value)
    {ends : Except Failure Value → Prop} {note : Note}
    {rest : Program Db Lock Note Failure Value} (established : invariant (write store))
    (continues : continuation () = .emit note rest) (isMarked : marked note)
    (keeps : Keeps invariant (fun note => ¬ marked note) ends rest) :
    Critical store invariant marked ends (commitOr failure >>= continuation) write :=
  ⟨established, note, rest, continues, isMarked, keeps⟩

end CriticalRules

/-! ### Contests for a lock -/

section Contests

variable (store : Db) (lock : Lock) (invariant : Db → Prop) (marked : Note → Prop)
  (ends : Except Failure Value → Prop)

/-- The next request takes the lock, writes nothing and enters a critical section. -/
def Entering (program : Program Db Lock Note Failure Value) : Prop :=
  ∃ (Answer : Type) (statement : Statement Db Lock Answer)
    (next : Except SqlError Answer → Program Db Lock Note Failure Value),
    program = .ask statement next ∧ (∀ choice, lock ∈ statement.locks choice store) ∧
    ∀ choice, ∃ answer, statement.execute choice store = .ok (answer, id) ∧
      Critical store invariant marked ends (next (.ok answer)) id

/-- A client that has not asked for the lock yet. -/
structure Client.AtDoor (client : Client Db Lock Note Failure Value) : Prop where
  keeping : client.Keeping invariant (fun note => ¬ marked note) ends
  free : client.held = []
  place : (∃ next, client.program = .start next ∧ client.pending = none ∧
      Entering store lock invariant marked ends (next (.ok ()))) ∨
    (Entering store lock invariant marked ends client.program ∧ client.pending = some id)

section Doors

variable {store lock invariant marked ends} {system : System Index Db Lock Note Failure Value}

/-- A client at the door waits while another client holds the lock. -/
theorem blocked_of_locked {index holder : Index} (other : index ≠ holder)
    (same : system.committed = store)
    (entering : Entering store lock invariant marked ends (system.clients index).program)
    (pending : (system.clients index).pending = some id)
    (locked : lock ∈ (system.clients holder).held) (choice : Nat) :
    system.Blocked index (.served choice) := by
  obtain ⟨Answer, statement, next, program, needs, -⟩ := entering
  refine ⟨holder, other.symm, lock, ?_, locked⟩
  simp only [Client.wants, program, Client.view, pending, same]
  exact needs choice

/-- A client at the door begins its transaction, or takes the lock and enters. -/
theorem Client.AtDoor.advance {client : Client Db Lock Note Failure Value}
    (door : client.AtDoor store lock invariant marked ends) (choice : Nat) :
    (client.advance (.served choice) store).2 = (store, []) ∧
      ((client.advance (.served choice) store).1.AtDoor store lock invariant marked ends ∨
        ∃ write, (client.advance (.served choice) store).1.pending = some write ∧
          lock ∈ (client.advance (.served choice) store).1.held ∧
          Critical store invariant marked ends (client.advance (.served choice) store).1.program
            write) := by
  obtain ⟨program, pending, held⟩ := client
  obtain ⟨keeping, rfl, place⟩ := door
  rcases place with ⟨next, rfl, rfl, entering⟩ | ⟨entering, rfl⟩
  · refine ⟨rfl, Or.inl ⟨⟨keeping.program.2, ?_⟩, rfl, Or.inr ⟨entering, rfl⟩⟩⟩
    rintro _ ⟨⟩ db holds
    exact holds
  · obtain ⟨Answer, statement, next, rfl, needs, served⟩ := entering
    obtain ⟨answer, executed, critical⟩ := served choice
    have view : Client.view ⟨.ask statement next, some id, []⟩ store = store := rfl
    simp only [Client.advance, view, executed, List.nil_append, true_and]
    exact Or.inr ⟨_, rfl, needs choice, critical⟩

/-- A move inside a critical section: the store stays, or the invariant is established. -/
theorem Critical.advance {client : Client Db Lock Note Failure Value} {write : Db → Db}
    (critical : Critical store invariant marked ends client.program write)
    (pending : client.pending = some write) (choice : Nat) :
    (client.advance (.served choice) store).2.2 = [] ∧
      (((client.advance (.served choice) store).2.1 = store ∧
        (∀ lock ∈ client.held, lock ∈ (client.advance (.served choice) store).1.held) ∧
        ∃ write, (client.advance (.served choice) store).1.pending = some write ∧
          Critical store invariant marked ends (client.advance (.served choice) store).1.program
            write) ∨
      (invariant (client.advance (.served choice) store).2.1 ∧
        (client.advance (.served choice) store).1.pending = none ∧
        ∃ note rest, (client.advance (.served choice) store).1.program = .emit note rest ∧
          marked note ∧ Keeps invariant (fun note => ¬ marked note) ends rest)) := by
  obtain ⟨program, _, held⟩ := client
  obtain rfl := pending
  cases program with
  | done result => exact critical.elim
  | ask statement next =>
    obtain ⟨answer, change, executed, rest⟩ := critical choice
    have view : Client.view ⟨.ask statement next, some write, held⟩ store = write store := rfl
    simp only [Client.advance, view, executed, true_and]
    exact Or.inl ⟨fun lock member => List.mem_append_left _ member, _, rfl, rest⟩
  | start next => exact critical.elim
  | commit next => exact ⟨rfl, Or.inr ⟨critical.1, rfl, critical.2⟩⟩
  | rollback | emit => exact critical.elim

end Doors

variable [DecidablePred marked]

/-- The stages of a contest: nobody has the lock, somebody has it, the invariant is established
and about to be announced, and it was announced once. -/
inductive Contest (system : System Index Db Lock Note Failure Value) : Prop
  | vacant (same : system.committed = store) (silent : system.notes.countP marked = 0)
      (door : ∀ index, (system.clients index).AtDoor store lock invariant marked ends)
  | inside (holder : Index) (same : system.committed = store)
      (silent : system.notes.countP marked = 0)
      (door : ∀ index, index ≠ holder →
        (system.clients index).AtDoor store lock invariant marked ends)
      (write : Db → Db) (pending : (system.clients holder).pending = some write)
      (locked : lock ∈ (system.clients holder).held)
      (critical : Critical store invariant marked ends (system.clients holder).program write)
  | announcing (holder : Index) (holds : invariant system.committed)
      (silent : system.notes.countP marked = 0)
      (others : ∀ index, index ≠ holder →
        (system.clients index).Keeping invariant (fun note => ¬ marked note) ends)
      (closed : (system.clients holder).pending = none) (note : Note)
      (rest : Program Db Lock Note Failure Value)
      (next : (system.clients holder).program = .emit note rest) (isMarked : marked note)
      (keeps : Keeps invariant (fun note => ¬ marked note) ends rest)
  | settled (holds : invariant system.committed) (once : system.notes.countP marked = 1)
      (all : ∀ index, (system.clients index).Keeping invariant (fun note => ¬ marked note) ends)

variable {store lock invariant marked ends}

theorem countP_unmarked {notes sent : List Note} (unmarked : ∀ note ∈ sent, ¬ marked note) :
    (notes ++ sent).countP marked = notes.countP marked := by
  have none : sent.countP marked = 0 := List.countP_eq_zero.mpr (by simpa using unmarked)
  rw [List.countP_append, none, Nat.add_zero]

variable {system : System Index Db Lock Note Failure Value}

/-- When all clients of a contest are done, the invariant holds and was announced once. -/
theorem Contest.finished [Nonempty Index]
    (contest : Contest store lock invariant marked ends system)
    (done : ∀ index, ∃ result, (system.clients index).program = .done result) :
    invariant system.committed ∧ system.notes.countP marked = 1 ∧
      ∀ index result, (system.clients index).program = .done result → ends result := by
  have notEntering : ∀ {index}, ¬ Entering store lock invariant marked ends
      (system.clients index).program := by
    rintro index ⟨Answer, statement, next, program, -⟩
    obtain ⟨result, finished⟩ := done index
    rw [program] at finished
    cases finished
  cases contest with
  | vacant same silent door =>
    obtain ⟨index⟩ := ‹Nonempty Index›
    obtain ⟨result, finished⟩ := done index
    rcases (door index).place with ⟨next, program, -⟩ | ⟨entering, -⟩
    · rw [program] at finished
      cases finished
    · exact absurd entering notEntering
  | inside holder same silent door write pending locked critical =>
    obtain ⟨result, finished⟩ := done holder
    rw [finished] at critical
    exact critical.elim
  | announcing holder holds silent others closed note rest next isMarked keeps =>
    obtain ⟨result, finished⟩ := done holder
    rw [next] at finished
    cases finished
  | settled holds once all =>
    refine ⟨holds, once, fun index result finished => ?_⟩
    have keeps := (all index).program
    rw [finished] at keeps
    exact keeps

variable [DecidableEq Index] [Fintype Index] [DecidableEq Lock]

/-- A move of one of several keeping clients. -/
theorem Client.Keeping.step_others {index holder : Index} (other : index ≠ holder)
    (reply : Reply) (free : ¬ system.Blocked index reply)
    (others : ∀ index, index ≠ holder →
      (system.clients index).Keeping invariant (fun note => ¬ marked note) ends)
    (holds : invariant system.committed) :
    invariant (system.step index reply).committed ∧
      (system.step index reply).notes.countP marked = system.notes.countP marked ∧
      (system.step index reply).clients holder = system.clients holder ∧
      ∀ client, client ≠ holder → ((system.step index reply).clients client).Keeping invariant
        (fun note => ¬ marked note) ends := by
  obtain ⟨keeping, kept, allowed⟩ := (others index other).advance holds reply
  rw [System.step, if_neg free]
  refine ⟨kept, countP_unmarked allowed, Function.update_of_ne other.symm _ _, ?_⟩
  intro client notHolder
  by_cases same : client = index
  · subst same
    simpa using keeping
  · simpa [Function.update_of_ne same] using others client notHolder

/-- A served request keeps the contest going. -/
theorem Contest.step (contest : Contest store lock invariant marked ends system) (index : Index)
    (choice : Nat) :
    Contest store lock invariant marked ends (system.step index (.served choice)) := by
  by_cases blocked : system.Blocked index (.served choice)
  · rwa [System.step, if_pos blocked]
  cases contest with
  | vacant same silent door =>
    rw [System.step, if_neg blocked, same]
    obtain ⟨still, place⟩ := (door index).advance choice
    rw [Prod.ext_iff] at still
    rcases place with atDoor | ⟨write, pending, locked, critical⟩
    · refine .vacant still.1 (by simpa [still.2] using silent) fun other => ?_
      by_cases moved : other = index
      · subst moved
        simpa using atDoor
      · simpa [Function.update_of_ne moved] using door other
    · refine .inside index still.1 (by simpa [still.2] using silent) (fun other different => ?_)
        write (by simpa using pending) (by simpa using locked) (by simpa using critical)
      simpa [Function.update_of_ne different] using door other
  | inside holder same silent door write pending locked critical =>
    by_cases moved : index = holder
    · subst moved
      rw [System.step, if_neg blocked, same]
      obtain ⟨quiet, place⟩ := critical.advance pending choice
      rcases place with ⟨still, keeps, next, opened, further⟩ |
        ⟨holds, closed, note, rest, next, isMarked, rests⟩
      · refine .inside index still (by simpa [quiet] using silent) (fun other different => ?_) next
          (by simpa using opened) (by simpa using keeps lock locked) (by simpa using further)
        simpa [Function.update_of_ne different] using door other different
      · refine .announcing index holds (by simpa [quiet] using silent) (fun other different => ?_)
          (by simpa using closed) note rest (by simpa using next) isMarked rests
        simpa [Function.update_of_ne different] using (door other different).keeping
    · -- Another client can only begin its transaction; for the lock it has to wait.
      obtain ⟨still, -⟩ := (door index moved).advance choice
      rcases (door index moved).place with ⟨next, program, closed, entering⟩ | ⟨entering, opened⟩
      · rw [System.step, if_neg blocked, same]
        rw [Prod.ext_iff] at still
        refine .inside holder still.1 (by simpa [still.2] using silent) (fun other different => ?_)
          write ?_ ?_ ?_
        · by_cases own : other = index
          · subst own
            obtain ⟨keeping, free, -⟩ := door other different
            have keeps := keeping.program
            rw [program] at keeps
            simp only [Function.update_self, Client.advance, program]
            refine ⟨⟨keeps.2, ?_⟩, free, Or.inr ⟨entering, rfl⟩⟩
            rintro _ ⟨⟩ db holds
            exact holds
          · simpa [Function.update_of_ne own] using door other different
        · simpa [Function.update_of_ne (Ne.symm moved)] using pending
        · simpa [Function.update_of_ne (Ne.symm moved)] using locked
        · simpa [Function.update_of_ne (Ne.symm moved)] using critical
      · exact absurd (blocked_of_locked moved same entering opened locked choice) blocked
  | announcing holder holds silent others closed note rest next isMarked keeps =>
    by_cases moved : index = holder
    · subst moved
      have advanced : (system.clients index).advance (.served choice) system.committed =
          ({ system.clients index with program := rest }, system.committed, [note]) := by
        simp only [Client.advance, next]
      rw [System.step, if_neg blocked, advanced]
      refine .settled holds (by simp [List.countP_append, silent, isMarked]) fun other => ?_
      by_cases own : other = index
      · subst own
        simp only [Function.update_self]
        exact ⟨keeps, fun write opened => absurd (closed.symm.trans opened) (by simp)⟩
      · simpa [Function.update_of_ne own] using others other own
    · obtain ⟨kept, count, unmoved, keeping⟩ :=
        Client.Keeping.step_others moved (.served choice) blocked others holds
      exact .announcing holder kept (count.trans silent) keeping (by rw [unmoved]; exact closed)
        note rest (by rw [unmoved]; exact next) isMarked keeps
  | settled holds once all =>
    obtain ⟨keeping, kept, allowed⟩ := (all index).advance holds (.served choice)
    rw [System.step, if_neg blocked]
    refine .settled kept ((countP_unmarked allowed).trans once) fun other => ?_
    by_cases own : other = index
    · subst own
      simpa using keeping
    · simpa [Function.update_of_ne own] using all other

/-- A contest stays one along every schedule of served requests. -/
theorem Contest.run (contest : Contest store lock invariant marked ends system)
    (schedule : List (Index × Nat)) :
    Contest store lock invariant marked ends
      (system.run (schedule.map fun turn => (turn.1, .served turn.2))) := by
  induction schedule generalizing system with
  | nil => exact contest
  | cons turn rest hypothesis => exact hypothesis (contest.step turn.1 turn.2)

end Contests

end Program

end Relational
