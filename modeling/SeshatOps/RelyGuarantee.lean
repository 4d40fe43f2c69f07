/-
This file is a small library for invariants of clients that share a transactional store
with others they know little about.

A `Contract` says what every client may count on: `rely` is what anybody may do to the
store at any time, and `same` what nobody else does while a client holds a lock. A
program `Guarantees` a relation when each of its commits changes the store by that
relation, and outside the locks it holds changes nothing, whatever the others do within
the contract between its requests. `System.Orderly` puts such clients together. It is
kept by every move, by what the surroundings do, and by the crash and the restart of a
client, so each step of a whole run is a step of the relation of the client that moved.

A program that `CommitsLast` writes only inside transactions and succeeds once it has
committed, so a client that ends in a failure has changed nothing along the whole run.
-/

import SeshatOps.Interleaving

namespace Relational

/-- What the clients of a store may count on. -/
structure Contract (Db Lock : Type) where
  /-- The part of the store that the lock protects is the same. -/
  same : Lock → Db → Db → Prop
  /-- What anybody may do. -/
  rely : Db → Db → Prop
  same_refl : ∀ lock db, same lock db db
  same_trans : ∀ lock first second third, same lock first second → same lock second third →
    same lock first third
  rely_refl : ∀ db, rely db db
  rely_trans : ∀ first second third, rely first second → rely second third → rely first third

namespace Contract

variable {Db Lock : Type} (contract : Contract Db Lock)

/-- What others may do while a client holds the locks. -/
def Undisturbed (held : List Lock) (before after : Db) : Prop :=
  contract.rely before after ∧ ∀ lock ∈ held, contract.same lock before after

/-- A change by the relation that keeps to the locks. -/
def Permits (guarantee : Db → Db → Prop) (locks : List Lock) (before after : Db) : Prop :=
  guarantee before after ∧ ∀ lock, lock ∉ locks → contract.same lock before after

variable {contract} {held : List Lock} {first second third : Db}

theorem Undisturbed.refl (held : List Lock) (db : Db) : contract.Undisturbed held db db :=
  ⟨contract.rely_refl db, fun lock _ => contract.same_refl lock db⟩

theorem Undisturbed.trans (early : contract.Undisturbed held first second)
    (late : contract.Undisturbed held second third) : contract.Undisturbed held first third :=
  ⟨contract.rely_trans _ _ _ early.1 late.1, fun lock member =>
    contract.same_trans lock _ _ _ (early.2 lock member) (late.2 lock member)⟩

end Contract

namespace Program

variable {Db Lock Note Failure Other Value Result Answer Index : Type}

/-! ### Guarantees -/

section Judgement

variable (contract : Contract Db Lock) (guarantee : Db → Db → Prop)

/-- Run from the given transaction, locks and store, with others at work within the contract,
the program changes the store by its guarantee and ends as asked. -/
def Guarantees (ends : Except Failure Value → Option (Db → Db) → List Lock → Db → Prop) :
    Program Db Lock Note Failure Value → Option (Db → Db) → List Lock → Db → Prop
  | .done result, pending, held, db =>
      ∀ later, contract.Undisturbed held db later → ends result pending held later
  | .ask statement next, pending, held, db =>
      ∀ later, contract.Undisturbed held db later →
        Guarantees ends (next (.error .unavailable)) pending held later ∧
        ∀ choice,
          (∀ error, statement.execute choice (pending.elim later (· later)) = .error error →
            Guarantees ends (next (.error error)) pending held later) ∧
          ∀ answer change,
            statement.execute choice (pending.elim later (· later)) = .ok (answer, change) →
            match pending with
            | none =>
                contract.Permits guarantee (held ++ statement.locks choice later) later
                  (change later) ∧
                Guarantees ends (next (.ok answer)) none held (change later)
            | some write =>
                Guarantees ends (next (.ok answer)) (some fun db => change (write db))
                  (held ++ statement.locks choice (write later)) later
  | .start next, pending, held, db =>
      ∀ later, contract.Undisturbed held db later →
        Guarantees ends (next (.error .unavailable)) pending held later ∧
          Guarantees ends (next (.ok ())) (some id) held later
  | .commit next, pending, held, db =>
      ∀ later, contract.Undisturbed held db later →
        Guarantees ends (next (.error .unavailable)) pending held later ∧
          contract.Permits guarantee held later (pending.elim later (· later)) ∧
          Guarantees ends (next (.ok ())) none [] (pending.elim later (· later))
  | .rollback next, _, held, db =>
      ∀ later, contract.Undisturbed held db later → Guarantees ends next none [] later
  | .emit _ next, pending, held, db =>
      ∀ later, contract.Undisturbed held db later → Guarantees ends next pending held later

end Judgement

section Rules

variable {contract : Contract Db Lock} {guarantee : Db → Db → Prop}
  {pending : Option (Db → Db)} {held : List Lock} {db later : Db}
  {ends : Except Failure Value → Option (Db → Db) → List Lock → Db → Prop}

/-- What others do within the contract is harmless. -/
theorem Guarantees.stable {program : Program Db Lock Note Failure Value}
    (guarantees : Guarantees contract guarantee ends program pending held db)
    (undisturbed : contract.Undisturbed held db later) :
    Guarantees contract guarantee ends program pending held later := by
  cases program with
  | done | ask | start | commit | rollback | emit =>
    exact fun last rest => guarantees last (undisturbed.trans rest)

variable (program : Program Db Lock Note Failure Value)

/-- A program continued, whether it failed or not. -/
theorem guarantees_resume {continuation : Except Failure Value → Program Db Lock Note Other Result}
    {middle : Except Failure Value → Option (Db → Db) → List Lock → Db → Prop}
    {ends : Except Other Result → Option (Db → Db) → List Lock → Db → Prop}
    (first : Guarantees contract guarantee middle program pending held db)
    (next : ∀ result pending held db,
      (∀ later, contract.Undisturbed held db later → middle result pending held later) →
        Guarantees contract guarantee ends (continuation result) pending held db) :
    Guarantees contract guarantee ends (program.resume continuation) pending held db := by
  induction program generalizing pending held db with
  | done result => exact next _ _ _ _ first
  | ask statement next hypothesis =>
    intro later undisturbed
    obtain ⟨lost, served⟩ := first later undisturbed
    refine ⟨hypothesis _ lost, fun choice => ⟨?_, ?_⟩⟩
    · intro error executed
      exact hypothesis _ ((served choice).1 error executed)
    · intro answer change executed
      have rest := (served choice).2 answer change executed
      cases pending with
      | none => exact ⟨rest.1, hypothesis _ rest.2⟩
      | some write => exact hypothesis _ rest
  | start next hypothesis =>
    intro later undisturbed
    obtain ⟨lost, served⟩ := first later undisturbed
    exact ⟨hypothesis _ lost, hypothesis _ served⟩
  | commit next hypothesis =>
    intro later undisturbed
    obtain ⟨lost, permits, served⟩ := first later undisturbed
    exact ⟨hypothesis _ lost, permits, hypothesis _ served⟩
  | rollback next hypothesis | emit note next hypothesis =>
    exact fun later undisturbed => hypothesis (first later undisturbed)

theorem Guarantees.mono
    {first second : Except Failure Value → Option (Db → Db) → List Lock → Db → Prop}
    {program : Program Db Lock Note Failure Value}
    (guarantees : Guarantees contract guarantee first program pending held db)
    (weaker : ∀ result pending held db, first result pending held db →
      second result pending held db) :
    Guarantees contract guarantee second program pending held db := by
  rw [← resume_done program]
  exact guarantees_resume program guarantees fun _ _ _ _ holds later undisturbed =>
    weaker _ _ _ _ (holds later undisturbed)

/-- An end given by what holds of a value and what holds of a failure. -/
def Leaves (succeeded : Value → Option (Db → Db) → List Lock → Db → Prop)
    (failed : Failure → Option (Db → Db) → List Lock → Db → Prop) :
    Except Failure Value → Option (Db → Db) → List Lock → Db → Prop
  | .ok value => succeeded value
  | .error failure => failed failure

theorem guarantees_bind (continuation : Value → Program Db Lock Note Failure Result)
    {ends : Except Failure Result → Option (Db → Db) → List Lock → Db → Prop}
    (first : Guarantees contract guarantee
      (Leaves (fun value pending held db =>
          Guarantees contract guarantee ends (continuation value) pending held db)
        fun failure pending held db => ends (.error failure) pending held db)
      program pending held db) :
    Guarantees contract guarantee ends (program >>= continuation) pending held db := by
  rw [bind_eq_resume]
  refine guarantees_resume program first fun result pending held db holds => ?_
  cases result with
  | ok value => exact holds db (.refl held db)
  | error failure => exact holds

theorem guarantees_attempt
    {ends : Except Other (Except Failure Value) → Option (Db → Db) → List Lock → Db → Prop}
    (first : Guarantees contract guarantee (fun result => ends (.ok result)) program pending held
      db) :
    Guarantees contract guarantee ends (attempt program : Program Db Lock Note Other _) pending
      held db := by
  rw [attempt_eq_resume]
  exact guarantees_resume program first fun _ _ _ _ holds => holds

/-- A program whose error is handed on, and what follows it. -/
theorem guarantees_attempt_bind
    (continuation : Except Failure Value → Program Db Lock Note Other Result)
    {ends : Except Other Result → Option (Db → Db) → List Lock → Db → Prop}
    (first : Guarantees contract guarantee (fun result pending held db =>
      Guarantees contract guarantee ends (continuation result) pending held db) program pending
      held db) :
    Guarantees contract guarantee ends (attempt program >>= continuation) pending held db :=
  guarantees_bind _ _ (guarantees_attempt program first)

/-- A statement that commits by itself. -/
theorem guarantees_request (statement : Statement Db Lock Answer) (failure : SqlError → Failure)
    {ends : Except Failure Answer → Option (Db → Db) → List Lock → Db → Prop}
    (failed : ∀ later error, contract.Undisturbed held db later →
      ends (.error (failure error)) none held later)
    (served : ∀ later choice answer change, contract.Undisturbed held db later →
      statement.execute choice later = .ok (answer, change) →
      contract.Permits guarantee (held ++ statement.locks choice later) later (change later) ∧
        ∀ last, contract.Undisturbed held (change later) last → ends (.ok answer) none held last) :
    Guarantees contract guarantee ends
      (exec statement failure : Program Db Lock Note Failure Answer) none held db :=
  fun later undisturbed =>
    ⟨fun last rest => failed last _ (undisturbed.trans rest), fun choice =>
      ⟨fun error _ last rest => failed last error (undisturbed.trans rest),
        fun answer change executed => served later choice answer change undisturbed executed⟩⟩

/-- A statement that commits by itself, and what follows it. -/
theorem guarantees_exec (statement : Statement Db Lock Answer) (failure : SqlError → Failure)
    (continuation : Answer → Program Db Lock Note Failure Value)
    (failed : ∀ later error, contract.Undisturbed held db later →
      ends (.error (failure error)) none held later)
    (served : ∀ later choice answer change, contract.Undisturbed held db later →
      statement.execute choice later = .ok (answer, change) →
      contract.Permits guarantee (held ++ statement.locks choice later) later (change later) ∧
        Guarantees contract guarantee ends (continuation answer) none held (change later)) :
    Guarantees contract guarantee ends (exec statement failure >>= continuation) none held db :=
  fun later undisturbed =>
    ⟨fun last rest => failed last _ (undisturbed.trans rest), fun choice =>
      ⟨fun error _ last rest => failed last error (undisturbed.trans rest),
        fun answer change executed => served later choice answer change undisturbed executed⟩⟩

/-- A statement of an open transaction, and what follows it. -/
theorem guarantees_exec_within (statement : Statement Db Lock Answer)
    (failure : SqlError → Failure) (continuation : Answer → Program Db Lock Note Failure Value)
    {write : Db → Db}
    (failed : ∀ later error, contract.Undisturbed held db later →
      ends (.error (failure error)) (some write) held later)
    (served : ∀ later choice answer change, contract.Undisturbed held db later →
      statement.execute choice (write later) = .ok (answer, change) →
      Guarantees contract guarantee ends (continuation answer)
        (some fun db => change (write db)) (held ++ statement.locks choice (write later)) later) :
    Guarantees contract guarantee ends (exec statement failure >>= continuation) (some write) held
      db :=
  fun later undisturbed =>
    ⟨fun last rest => failed last _ (undisturbed.trans rest), fun choice =>
      ⟨fun error _ last rest => failed last error (undisturbed.trans rest),
        fun answer change executed => served later choice answer change undisturbed executed⟩⟩

/-- The commit of an open transaction, and what follows it. -/
theorem guarantees_commitOr (failure : SqlError → Failure)
    (continuation : Unit → Program Db Lock Note Failure Value)
    {write : Db → Db}
    (failed : ∀ later error, contract.Undisturbed held db later →
      ends (.error (failure error)) (some write) held later)
    (served : ∀ later, contract.Undisturbed held db later →
      contract.Permits guarantee held later (write later) ∧
        Guarantees contract guarantee ends (continuation ()) none [] (write later)) :
    Guarantees contract guarantee ends (commitOr failure >>= continuation) (some write) held db :=
  fun later undisturbed =>
    ⟨fun last rest => failed last _ (undisturbed.trans rest), served later undisturbed⟩

/-- A function body in its transaction. What it has not committed when it returns is gone, with
the locks it held. -/
theorem guarantees_inTransaction (failure : SqlError → Failure)
    (body : Program Db Lock Note Failure Value)
    (failed : ∀ later error, contract.Undisturbed [] db later →
      ends (.error (failure error)) none [] later)
    (inside : ∀ later, contract.Undisturbed [] db later →
      Guarantees contract guarantee
        (fun result _ held db => ∀ later, contract.Undisturbed held db later →
          Guarantees contract guarantee ends (.done result : Program Db Lock Note Failure Value)
            none [] later)
        body (some id) [] later) :
    Guarantees contract guarantee ends (inTransaction failure body) none [] db := by
  intro later undisturbed
  refine ⟨fun last rest => failed last _ (undisturbed.trans rest), ?_⟩
  refine guarantees_attempt_bind body _ ?_
  exact inside later undisturbed

end Rules

/-! ### Systems of guaranteeing clients -/

section Clients

variable {contract : Contract Db Lock} {guarantee : Db → Db → Prop}
  {ends : Except Failure Value → Option (Db → Db) → List Lock → Db → Prop}
  {client : Client Db Lock Note Failure Value} {db : Db}

theorem Client.view_eq (client : Client Db Lock Note Failure Value) (db : Db) :
    client.view db = client.pending.elim db (· db) := by
  unfold Client.view
  cases client.pending <;> rfl

/-- A move of a client that keeps its guarantee. -/
theorem Guarantees.advance
    (guarantees : Guarantees contract guarantee ends client.program client.pending client.held db)
    (reply : Reply) :
    ((client.advance reply db).2.1 = db ∨
      contract.Permits guarantee (client.held ++ client.wants reply db) db
        (client.advance reply db).2.1) ∧
    Guarantees contract guarantee ends (client.advance reply db).1.program
      (client.advance reply db).1.pending (client.advance reply db).1.held
      (client.advance reply db).2.1 ∧
    ∀ lock ∈ (client.advance reply db).1.held, lock ∈ client.held ++ client.wants reply db := by
  obtain ⟨program, pending, held⟩ := client
  have weaken : ∀ lock ∈ held, lock ∈ held ++ Client.wants ⟨program, pending, held⟩ reply db :=
    fun lock member => List.mem_append_left _ member
  cases program with
  | done result => exact ⟨Or.inl rfl, guarantees, weaken⟩
  | ask statement next =>
    obtain ⟨lost, served⟩ := guarantees db (.refl held db)
    cases reply with
    | lost => exact ⟨Or.inl rfl, lost, weaken⟩
    | served choice =>
      have view := Client.view_eq ⟨.ask statement next, pending, held⟩ db
      simp only [Client.advance, Client.wants] at weaken ⊢
      rw [view] at weaken ⊢
      cases executed : statement.execute choice (pending.elim db (· db)) with
      | error error => exact ⟨Or.inl rfl, (served choice).1 error executed, weaken⟩
      | ok outcome =>
        have rest := (served choice).2 outcome.1 outcome.2 executed
        cases pending with
        | none => exact ⟨Or.inr rest.1, rest.2, weaken⟩
        | some write => exact ⟨Or.inl rfl, rest, fun lock member => member⟩
  | start next =>
    obtain ⟨lost, served⟩ := guarantees db (.refl held db)
    cases reply with
    | lost => exact ⟨Or.inl rfl, lost, weaken⟩
    | served choice => exact ⟨Or.inl rfl, served, weaken⟩
  | commit next =>
    obtain ⟨lost, permits, served⟩ := guarantees db (.refl held db)
    cases reply with
    | lost => exact ⟨Or.inl rfl, lost, weaken⟩
    | served choice =>
      have view := Client.view_eq ⟨.commit next, pending, held⟩ db
      simp only [Client.advance, Client.wants, List.append_nil]
      rw [view]
      exact ⟨Or.inr permits, served, by simp⟩
  | rollback next =>
    have rest := guarantees db (.refl held db)
    cases reply <;> exact ⟨Or.inl rfl, rest, by simp [Client.advance]⟩
  | emit note next =>
    have rest := guarantees db (.refl held db)
    cases reply <;> exact ⟨Or.inl rfl, rest, weaken⟩

end Clients

section Systems

variable [DecidableEq Index] [Fintype Index] [DecidableEq Lock]

/-- The ways a system goes on. Besides the moves of its clients, the surroundings may change the
store where no lock is held, and a client may be replaced: it has crashed, which drops
its transaction and its locks, or it has ended, and begins anew. -/
inductive System.Evolves (contract : Contract Db Lock) (environment : Db → Db → Prop)
    (launches : Index → Program Db Lock Note Failure Value → Prop)
    (system : System Index Db Lock Note Failure Value) :
    System Index Db Lock Note Failure Value → Prop
  | moved (index : Index) (reply : Reply) :
      Evolves contract environment launches system (system.step index reply)
  | disturbed (db : Db) (allowed : environment system.committed db)
      (waits : ∀ index, ∀ lock ∈ (system.clients index).held,
        contract.same lock system.committed db) :
      Evolves contract environment launches system { system with committed := db }
  | launched (index : Index) (program : Program Db Lock Note Failure Value)
      (begins : launches index program) :
      Evolves contract environment launches system
        { system with clients := Function.update system.clients index ⟨program, none, []⟩ }

/-- No two clients hold one lock, and every client keeps its guarantee from where it stands. -/
structure System.Orderly (contract : Contract Db Lock) (guarantee : Index → Db → Db → Prop)
    (system : System Index Db Lock Note Failure Value) : Prop where
  apart : ∀ first second, first ≠ second → ∀ lock ∈ (system.clients first).held,
    lock ∉ (system.clients second).held
  guarantees : ∀ index, Guarantees contract (guarantee index) (fun _ _ _ _ => True)
    (system.clients index).program (system.clients index).pending (system.clients index).held
    system.committed

variable {contract : Contract Db Lock} {guarantee : Index → Db → Db → Prop}
  {environment : Db → Db → Prop} {launches : Index → Program Db Lock Note Failure Value → Prop}
  {system next : System Index Db Lock Note Failure Value}

/-- A move in an orderly system changes the store by the guarantee of the client that moves. -/
theorem System.Orderly.step_guarantee (orderly : system.Orderly contract guarantee)
    (index : Index) (reply : Reply) :
    (system.step index reply).committed = system.committed ∨
      guarantee index system.committed (system.step index reply).committed := by
  by_cases blocked : system.Blocked index reply
  · exact Or.inl (by rw [System.step, if_pos blocked])
  · rw [System.step_of_unblocked blocked]
    exact ((orderly.guarantees index).advance reply).1.imp_right And.left

theorem System.Orderly.step (orderly : system.Orderly contract guarantee)
    (within : ∀ index before after, guarantee index before after → contract.rely before after)
    (index : Index) (reply : Reply) : (system.step index reply).Orderly contract guarantee := by
  by_cases blocked : system.Blocked index reply
  · rwa [System.step, if_pos blocked]
  obtain ⟨changed, goesOn, locks⟩ := (orderly.guarantees index).advance reply
  -- Another client holds neither a lock of the moving client nor one that it wants.
  have foreign : ∀ other, other ≠ index → ∀ lock ∈ (system.clients other).held,
      lock ∉ (system.clients index).held ++
        (system.clients index).wants reply system.committed := by
    intro other different lock member taken
    rcases List.mem_append.mp taken with own | wanted
    · exact orderly.apart other index different lock member own
    · exact blocked ⟨other, different, lock, wanted, member⟩
  rw [System.step_of_unblocked blocked]
  refine ⟨fun first second different lock member => ?_, fun other => ?_⟩
  · by_cases isFirst : first = index
    · subst isFirst
      simp only [Function.update_self, Function.update_of_ne different.symm] at member ⊢
      exact fun taken => foreign second different.symm lock taken (locks lock member)
    · simp only [Function.update_of_ne isFirst] at member
      by_cases isSecond : second = index
      · subst isSecond
        simp only [Function.update_self]
        exact fun taken => foreign first different lock member (locks lock taken)
      · simp only [Function.update_of_ne isSecond]
        exact orderly.apart first second different lock member
  · by_cases own : other = index
    · subst own
      simp only [Function.update_self]
      exact goesOn
    · simp only [Function.update_of_ne own]
      refine (orderly.guarantees other).stable ?_
      rcases changed with same | permits
      · rw [same]
        exact .refl _ _
      · exact ⟨within index _ _ permits.1, fun lock member =>
          permits.2 lock (foreign other own lock member)⟩

/-- Whatever happens, an orderly system stays orderly. -/
theorem System.Orderly.evolves (orderly : system.Orderly contract guarantee)
    (within : ∀ index before after, guarantee index before after → contract.rely before after)
    (outside : ∀ before after, environment before after → contract.rely before after)
    (begins : ∀ index program, launches index program → ∀ db,
      Guarantees contract (guarantee index) (fun _ _ _ _ => True) program none [] db)
    (evolves : System.Evolves contract environment launches system next) :
    next.Orderly contract guarantee := by
  cases evolves with
  | moved index reply => exact orderly.step within index reply
  | disturbed db allowed waits =>
    exact ⟨orderly.apart, fun index => (orderly.guarantees index).stable
      ⟨outside _ _ allowed, waits index⟩⟩
  | launched index program launch =>
    refine ⟨fun first second different lock member => ?_, fun other => ?_⟩
    · by_cases isFirst : first = index
      · subst isFirst
        simp at member
      · simp only [Function.update_of_ne isFirst] at member
        by_cases isSecond : second = index
        · subst isSecond
          simp
        · simp only [Function.update_of_ne isSecond]
          exact orderly.apart first second different lock member
    · by_cases own : other = index
      · subst own
        simp only [Function.update_self]
        exact begins other program launch system.committed
      · simp only [Function.update_of_ne own]
        exact orderly.guarantees other

end Systems

/-! ### Programs that commit last -/

/-- A program that asks for nothing more and returns a value. -/
def Succeeds : Program Db Lock Note Failure Value → Prop
  | .done (.ok _) => True
  | .rollback next => Succeeds next
  | .emit _ next => Succeeds next
  | _ => False

/-- A program that makes its requests inside a transaction and succeeds after a commit. -/
def CommitsLast : Bool → Program Db Lock Note Failure Value → Prop
  | _, .done _ => True
  | inside, .ask _ next => inside = true ∧ ∀ answer, CommitsLast inside (next answer)
  | inside, .start next =>
      CommitsLast inside (next (.error .unavailable)) ∧ CommitsLast true (next (.ok ()))
  | inside, .commit next =>
      CommitsLast inside (next (.error .unavailable)) ∧ Succeeds (next (.ok ()))
  | _, .rollback next => CommitsLast false next
  | inside, .emit _ next => CommitsLast inside next

section CommittingLast

theorem commitsLast_settled {inside : Bool} (result : Except Failure Answer)
    (continuation : Answer → Program Db Lock Note Failure Value)
    (passed : ∀ value, CommitsLast inside (continuation value)) :
    CommitsLast inside
      ((.done result : Program Db Lock Note Failure Answer) >>= continuation) := by
  cases result with
  | ok value => exact passed value
  | error failure => trivial

theorem commitsLast_exec (statement : Statement Db Lock Answer) (failure : SqlError → Failure)
    (continuation : Answer → Program Db Lock Note Failure Value)
    (answered : ∀ answer, CommitsLast true (continuation answer)) :
    CommitsLast true (exec statement failure >>= continuation) := by
  refine ⟨rfl, fun answer => ?_⟩
  exact commitsLast_settled _ _ answered

theorem commitsLast_commitOr {inside : Bool} (failure : SqlError → Failure)
    (continuation : Unit → Program Db Lock Note Failure Value)
    (succeeds : Succeeds (continuation ())) :
    CommitsLast inside (commitOr failure >>= continuation) := ⟨trivial, succeeds⟩

theorem Succeeds.deferRollback {body : Program Db Lock Note Failure Value}
    (succeeds : Succeeds body) :
    Succeeds ((attempt body : Program Db Lock Note Failure _) >>=
      fun result => .rollback (.done result)) := by
  induction body with
  | done result =>
    cases result with
    | ok value => trivial
    | error failure => cases succeeds
  | rollback next hypothesis | emit note next hypothesis => exact hypothesis succeeds
  | ask | start | commit => cases succeeds

theorem CommitsLast.deferRollback {inside : Bool} {body : Program Db Lock Note Failure Value}
    (commitsLast : CommitsLast inside body) :
    CommitsLast inside ((attempt body : Program Db Lock Note Failure _) >>=
      fun result => .rollback (.done result)) := by
  induction body generalizing inside with
  | done result => trivial
  | ask statement next hypothesis =>
    exact ⟨commitsLast.1, fun answer => hypothesis answer (commitsLast.2 answer)⟩
  | start next hypothesis =>
    exact ⟨hypothesis _ commitsLast.1, hypothesis _ commitsLast.2⟩
  | commit next hypothesis =>
    exact ⟨hypothesis _ commitsLast.1, commitsLast.2.deferRollback⟩
  | rollback next hypothesis | emit note next hypothesis => exact hypothesis commitsLast

theorem commitsLast_inTransaction (failure : SqlError → Failure)
    (body : Program Db Lock Note Failure Value) (inside : CommitsLast true body) :
    CommitsLast false (inTransaction failure body) := ⟨trivial, inside.deferRollback⟩

variable {client : Client Db Lock Note Failure Value} {db : Db}

/-- A client that has succeeded changes nothing more. -/
theorem Succeeds.advance (succeeds : Succeeds client.program) (reply : Reply) :
    (client.advance reply db).2.1 = db ∧ Succeeds (client.advance reply db).1.program := by
  obtain ⟨program, pending, held⟩ := client
  cases program with
  | done result => exact ⟨rfl, succeeds⟩
  | rollback | emit => cases reply <;> exact ⟨rfl, succeeds⟩
  | ask | start | commit => cases succeeds

/-- A move of a client that commits last leaves the store as it was, or is its commit. -/
theorem CommitsLast.advance (commitsLast : CommitsLast client.pending.isSome client.program)
    (reply : Reply) :
    ((client.advance reply db).2.1 = db ∧
      CommitsLast (client.advance reply db).1.pending.isSome
        (client.advance reply db).1.program) ∨
      Succeeds (client.advance reply db).1.program := by
  obtain ⟨program, pending, held⟩ := client
  cases program with
  | done result => exact Or.inl ⟨rfl, trivial⟩
  | ask statement next =>
    cases reply with
    | lost => exact Or.inl ⟨rfl, commitsLast.2 _⟩
    | served choice =>
      cases pending with
      | none => cases commitsLast.1
      | some write =>
        simp only [Client.advance]
        cases statement.execute choice (Client.view ⟨.ask statement next, some write, held⟩ db) with
        | error | ok => exact Or.inl ⟨rfl, commitsLast.2 _⟩
  | start next =>
    cases reply with
    | lost => exact Or.inl ⟨rfl, commitsLast.1⟩
    | served choice => exact Or.inl ⟨rfl, commitsLast.2⟩
  | commit next =>
    cases reply with
    | lost => exact Or.inl ⟨rfl, commitsLast.1⟩
    | served choice => exact Or.inr commitsLast.2
  | rollback | emit => cases reply <;> exact Or.inl ⟨rfl, commitsLast⟩

variable [DecidableEq Index] [Fintype Index] [DecidableEq Lock]
  {system : System Index Db Lock Note Failure Value} {index : Index}

/-- A property of one client and the store that its own moves keep, whatever the others do. -/
theorem System.run_client (holds : Client Db Lock Note Failure Value → Prop)
    (moves : ∀ client db reply, holds client → holds (client.advance reply db).1)
    (system : System Index Db Lock Note Failure Value) (start : holds (system.clients index))
    (schedule : List (Index × Reply)) : holds ((system.run schedule).clients index) := by
  induction schedule generalizing system with
  | nil => exact start
  | cons turn rest hypothesis =>
    refine hypothesis (system.step turn.1 turn.2) ?_
    by_cases blocked : system.Blocked turn.1 turn.2
    · rwa [System.step, if_pos blocked]
    · rw [System.step_of_unblocked blocked]
      by_cases own : index = turn.1
      · subst own
        simpa only [Function.update_self] using moves _ _ _ start
      · simpa only [Function.update_of_ne own] using start

/-- A client that commits last and ends in a failure has changed nothing. -/
theorem System.failed_changes_nothing
    (commitsLast : CommitsLast false (system.clients index).program)
    (outside : (system.clients index).pending = none) {schedule : List (Index × Reply)}
    {failure : Failure}
    (failed : ((system.run schedule).clients index).program = .done (.error failure))
    (early late : List (Index × Reply)) (reply : Reply)
    (split : schedule = early ++ (index, reply) :: late) :
    (system.run (early ++ [(index, reply)])).committed = (system.run early).committed := by
  have start :
      CommitsLast (system.clients index).pending.isSome (system.clients index).program := by
    rw [outside]
    exact commitsLast
  have stage := System.run_client
    (fun client => CommitsLast client.pending.isSome client.program ∨ Succeeds client.program)
    (fun client db reply stage => stage.elim
      (fun commitsLast => (commitsLast.advance reply).imp_left And.right)
      fun succeeds => Or.inr (succeeds.advance reply).2) system (Or.inl start) early
  have whole : system.run schedule = ((system.run early).step index reply).run late := by
    rw [split, System.run_append]
    rfl
  have single : system.run (early ++ [(index, reply)]) = (system.run early).step index reply := by
    rw [System.run_append]
    rfl
  rw [single]
  by_cases blocked : (system.run early).Blocked index reply
  · rw [System.step, if_pos blocked]
  have moved := System.step_of_unblocked blocked
  rcases stage with commitsLast | succeeds
  · rcases commitsLast.advance reply with ⟨same, -⟩ | succeeds
    · rw [moved]
      exact same
    · -- Once the client has committed it can only succeed, so it has not failed at the end.
      have started : Succeeds (((system.run early).step index reply).clients index).program := by
        rw [moved]
        simpa only [Function.update_self] using succeeds
      have ended := System.run_client (fun client => Succeeds client.program)
        (fun client db reply succeeds => (Succeeds.advance succeeds reply).2) _ started late
      rw [← whole, failed] at ended
      cases ended
  · rw [moved]
    exact (succeeds.advance reply).1

end CommittingLast

end Program

end Relational
