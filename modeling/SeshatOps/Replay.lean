/-
This file says what a rebuild does, part by part.

A reset leaves the tables without the rows of its scope, or leaves them alone. The
counts and checksums at the end only read. The loop over the records is a chain of
calls of `ProcessRecord`: `Replayed` lists the states between them.
-/

import SeshatOps.Rebuild
import SeshatOps.Redrive

namespace SeshatOps

open Relational Event

/-! ### Early returns -/

section Rules

variable {Value Answer : Type} {mayFail : Bool}
  {session : Program.Session Database AppliedUpdate}

theorem orReturn_ensures (out : RebuildResult) (action : Recovery Value)
    {post : Except RebuildOutcome Value → Program.Session Database AppliedUpdate → Prop}
    (ensures : Program.Ensures mayFail action session
      (Program.Ends (fun value middle => post (.ok value) middle)
        fun error middle => post (.error ⟨out, some error⟩) middle)) :
    Program.Ensures mayFail (orReturn out action) session post := by
  refine Program.ensures_attempt_bind _ _ (ensures.mono ?_)
  rintro (error | value) middle ends
  · exact Program.ensures_done _ ends
  · exact Program.ensures_done _ ends

/-- What an action promises holds where its error is not returned. -/
theorem orReturn_ok {out : RebuildResult} {action : Recovery Value}
    {succeeded : Value → Program.Session Database AppliedUpdate → Prop}
    {failed : RebuildError → Program.Session Database AppliedUpdate → Prop}
    {replies rest : List Reply} {value : Value} {final : Program.Session Database AppliedUpdate}
    (spec : Program.Ensures true action session (Program.Ends succeeded failed))
    (ran : (orReturn out action).run replies session = (.ok value, rest, final)) :
    succeeded value final := by
  have promised : Program.Ensures true (orReturn out action) session
      (Program.Ends succeeded fun _ _ => True) := by
    refine orReturn_ensures out action (spec.mono ?_)
    rintro (error | value) final ends
    · trivial
    · exact ends
  have ends := promised replies (by simp)
  rwa [ran] at ends

theorem ensures_orReturn (out : RebuildResult) (action : Recovery Value)
    (continuation : Value → Control Answer)
    {post : Except RebuildOutcome Answer → Program.Session Database AppliedUpdate → Prop}
    (ensures : Program.Ensures mayFail action session
      (Program.Ends
        (fun value middle => Program.Ensures mayFail (continuation value) middle post)
        fun error middle => post (.error ⟨out, some error⟩) middle)) :
    Program.Ensures mayFail (orReturn out action >>= continuation) session post :=
  Program.ensures_bind _ _ (orReturn_ensures out action ensures)

/-- A query whose error is returned together with the result so far. -/
theorem ensures_read (out : RebuildResult) (texts : List Bytes) (answer : Nat → Database → Value)
    (failure : SqlError → RebuildError) (continuation : Value → Control Answer)
    {post : Except RebuildOutcome Answer → Program.Session Database AppliedUpdate → Prop}
    (failed : ∀ error, (mayFail = true ∨ texts.all storable = false) →
      post (.error ⟨out, some error⟩) session)
    (answered : ∀ choice,
      Program.Ensures mayFail (continuation (answer choice session.view)) session post) :
    Program.Ensures mayFail
      (orReturn out (.exec (query texts (fun _ => []) answer) failure) >>= continuation) session
      post := by
  refine ensures_orReturn _ _ _ ?_
  rw [← bind_pure (Program.exec _ failure)]
  refine ensures_query _ _ _ _ _ (fun may => failed _ (Or.inl may))
    (fun unfit => failed _ (Or.inr unfit)) fun _ choice => ?_
  exact Program.ensures_done _ (answered choice)

/-- What a body returned without an error it returned at its end, or early. -/
theorem returning_run {body : Control RebuildResult} {replies rest : List Reply}
    {final : Program.Session Database AppliedUpdate} {outcome : RebuildOutcome}
    (ran : (returning body).run replies session = (.ok outcome, rest, final)) :
    body.run replies session = (.ok outcome.result, rest, final) ∧ outcome.error = none ∨
      body.run replies session = (.error outcome, rest, final) := by
  obtain ⟨returned, middle, between, attempted, ended⟩ := Program.run_bind_ok ran
  rw [Program.run_attempt] at attempted
  rcases ran : body.run replies session with ⟨early | result, after, last⟩
  · rw [ran] at attempted
    cases attempted
    cases ended
    exact Or.inr rfl
  · rw [ran] at attempted
    cases attempted
    cases ended
    exact Or.inl ⟨rfl, rfl⟩

/-- A body ends in the same state, whether it returns early or not. -/
theorem returning_session (body : Control RebuildResult) (replies : List Reply) :
    ((returning body).run replies session).2.2 = (body.run replies session).2.2 := by
  rw [returning, Program.run_bind, Program.run_attempt]
  cases ended : (body.run replies session).1 with
  | ok result => rfl
  | error outcome => rfl

end Rules

/-! ### Resets -/

/-- The tables without the rows of a scope. -/
def Platform.cleared (scope : Option Bytes) (platform : Platform) : Platform :=
  derivedTables.foldl (fun platform table => platform.clear scope table) platform

section Resets

variable {mayFail : Bool} {notes : List AppliedUpdate} {scope : Option Bytes} {base : Database}

theorem clearTables_runs {Value : Type} (tables : List DerivedTable) (view : Database)
    (continuation : Unit → Recovery Value)
    {post : Value → Program.Session Database AppliedUpdate → Prop}
    (next : (tables = [] ∨ scope.toList.all storable = true) →
      Program.Runs mayFail (scope.toList.all storable = false) (continuation ()) base
        (view.onPlatform fun platform =>
          tables.foldl (fun platform table => platform.clear scope table) platform) notes post) :
    Program.Runs mayFail (scope.toList.all storable = false)
      (clearTables scope tables >>= continuation) base view notes post := by
  induction tables generalizing view with
  | nil => exact next (Or.inl rfl)
  | cons table rest hypothesis =>
    rw [clearTables, bind_assoc]
    refine runs_command _ _ _ _ _ _ rfl id fun fit => ?_
    exact hypothesis _ fun _ => next (Or.inr fit)

theorem resetScope_ensures (scope : Option Bytes) (db : Database) :
    Program.Ensures mayFail (resetScope scope) ⟨db, none, notes⟩
      (Program.Ends
        (fun _ final => scope.toList.all storable = true ∧
          final = ⟨db.onPlatform (.cleared scope), none, notes⟩)
        fun _ final => final = ⟨db, none, notes⟩ ∧
          (mayFail = true ∨ scope.toList.all storable = false)) := by
  refine Program.Runs.inTransaction _ _ (clearTables_runs derivedTables db _ fun fit => ?_)
  rw [← bind_pure (Program.commitOr _)]
  refine Program.Runs.commitOr _ _ (Program.ensures_done _ ⟨_, rfl, ?_, rfl⟩)
  exact fit.resolve_left (by decide)

end Resets

/-! ### The end of a replay -/

/-- The result after the counts over the tables. -/
def RebuildResult.residual (out : RebuildResult) (scope : Option Bytes) (platform : Platform) :
    RebuildResult :=
  let gaps := platform.residualGaps scope
  let failures := platform.residualFailures scope
  let out := if 0 < gaps then out.mark (.residualGaps gaps) else out
  if 0 < failures then { out with failures := failures }.mark (.processingFailures failures)
  else out

/-- The result with the checksums of a tenant. -/
def RebuildResult.summed (out : RebuildResult) (tenantID : Bytes) (platform : Platform) :
    RebuildResult :=
  { out with
    checksum := checksumTenant platform tenantID
    lineageChecksum := checksumLineage platform (Strings.toLower (Strings.trimSpace tenantID))
    metadata := { out.metadata with checksum := checksumTenant platform tenantID } }

@[simp] theorem RebuildResult.summed_status (out : RebuildResult) (tenantID : Bytes)
    (platform : Platform) : (out.summed tenantID platform).status = out.status := by
  rw [summed]

@[simp] theorem RebuildResult.summed_dispositions (out : RebuildResult) (tenantID : Bytes)
    (platform : Platform) : (out.summed tenantID platform).dispositions = out.dispositions := by
  rw [summed]

@[simp] theorem RebuildResult.close_status (out : RebuildResult) :
    out.close.status = out.status := by
  rw [close]

@[simp] theorem RebuildResult.close_dispositions (out : RebuildResult) :
    out.close.dispositions = out.dispositions := by
  rw [close]

section Endings

variable {mayFail : Bool} {notes : List AppliedUpdate}

theorem RebuildResult.residual_status (out : RebuildResult) (scope : Option Bytes)
    (platform : Platform) :
    (out.residual scope platform).status = .complete ↔ out.status = .complete ∧
      platform.residualGaps scope = 0 ∧ platform.residualFailures scope = 0 := by
  unfold residual
  by_cases gaps : 0 < platform.residualGaps scope
  · have positive : platform.residualGaps scope ≠ 0 := by omega
    simp only [gaps, if_true, positive, false_and, and_false, iff_false]
    split_ifs <;> simp [mark]
  · have zero : platform.residualGaps scope = 0 := by omega
    by_cases failures : 0 < platform.residualFailures scope
    · have positive : platform.residualFailures scope ≠ 0 := by omega
      simp [zero, failures, positive, mark]
    · have none : platform.residualFailures scope = 0 := by omega
      simp [zero, none]

theorem RebuildResult.residual_dispositions (out : RebuildResult) (scope : Option Bytes)
    (platform : Platform) : (out.residual scope platform).dispositions = out.dispositions := by
  unfold residual
  simp only
  split_ifs <;> rfl

theorem countResidual_ensures (scope : Option Bytes) (out : RebuildResult) (db : Database) :
    Program.Ensures mayFail (countResidual scope out) ⟨db, none, notes⟩
      (Program.Ends
        (fun result final => result = out.residual scope db.platform ∧ final = ⟨db, none, notes⟩)
        fun outcome final => outcome.error ≠ none ∧ final = ⟨db, none, notes⟩ ∧
          (mayFail = true ∨ scope.toList.all storable = false)) := by
  refine ensures_read _ _ _ _ _ (fun error cause => ⟨by simp, rfl, cause⟩) fun _ => ?_
  refine ensures_read _ _ _ _ _ (fun error cause => ⟨by simp, rfl, cause⟩) fun _ => ?_
  exact Program.ensures_done _ ⟨rfl, rfl⟩

theorem queryLineage_ensures {Value : Type} (tenantID : Bytes) (kinds : List HopKind)
    (db : Database) (continuation : List LineageRow → Recovery Value)
    {post : Except RebuildError Value → Program.Session Database AppliedUpdate → Prop}
    (failed : ∀ error, (mayFail = true ∨ storable tenantID = false) →
      post (.error error) ⟨db, none, notes⟩)
    (answered : (kinds = [] ∨ storable tenantID = true) → Program.Ensures mayFail
      (continuation (kinds.flatMap fun kind => db.platform.tenantLineage kind tenantID))
      ⟨db, none, notes⟩ post) :
    Program.Ensures mayFail (queryLineage tenantID kinds >>= continuation) ⟨db, none, notes⟩
      post := by
  induction kinds generalizing continuation with
  | nil => exact answered (Or.inl rfl)
  | cons kind rest hypothesis =>
    rw [queryLineage, bind_assoc]
    refine ensures_query _ _ _ _ _ (fun may => failed _ (Or.inl may))
      (fun unfit => failed _ (Or.inr (by simpa using unfit))) fun fit choice => ?_
    rw [bind_assoc]
    exact hypothesis _ fun _ => answered (Or.inr (by simpa using fit))

/-- Why the checksums of a tenant may fail although no request is lost. -/
def Unsummable (tenantID : Bytes) : Prop :=
  storable (Strings.toLower tenantID) = false ∨
    storable (Strings.toLower (Strings.trimSpace tenantID)) = false ∨
    (Strings.toLower (Strings.trimSpace tenantID)).isEmpty = true

theorem assignTenantChecksums_ensures (tenantID : Bytes) (out : RebuildResult) (db : Database) :
    Program.Ensures mayFail (assignTenantChecksums tenantID out) ⟨db, none, notes⟩
      (Program.Ends
        (fun result final => result = out.summed tenantID db.platform ∧
          final = ⟨db, none, notes⟩ ∧ ¬ Unsummable tenantID)
        fun outcome final => outcome.error ≠ none ∧ final = ⟨db, none, notes⟩ ∧
          (mayFail = true ∨ Unsummable tenantID)) := by
  refine ensures_orReturn _ _ _ ?_
  refine ensures_query _ _ _ _ _ (fun may => ⟨by simp, rfl, Or.inl may⟩)
    (fun unfit => ⟨by simp, rfl, Or.inr (Or.inl (by simpa using unfit))⟩) fun fit choice => ?_
  refine Program.ensures_done _ (ensures_orReturn _ _ _ ?_)
  unfold queryChecksumLineage
  by_cases empty : (Strings.toLower (Strings.trimSpace tenantID)).isEmpty = true
  · simp only [empty, if_true]
    exact Program.ensures_done _ ⟨by simp, rfl, Or.inr (Or.inr (Or.inr empty))⟩
  · simp only [empty, if_false, Bool.false_eq_true]
    refine queryLineage_ensures _ _ db _ (fun error cause => ⟨by simp, rfl, ?_⟩) fun read => ?_
    · exact cause.imp_right fun unfit => Or.inr (Or.inl unfit)
    · refine Program.ensures_done _ (Program.ensures_done _ ⟨?_, rfl, ?_⟩)
      · rw [RebuildResult.summed, checksumTenant, checksumLineage]
        rfl
      · simp only [List.all_cons, List.all_nil, Bool.and_true] at fit
        simp [Unsummable, fit, read.resolve_left (by decide), empty]

/-- The end of `RebuildFromHistory` only reads. A complete rebuild has met nothing but
dispositions that pass, and leaves neither gaps nor failures behind. -/
theorem concludeHistory_ensures (options : RebuildOptions) (out : RebuildResult) (db : Database) :
    Program.Ensures mayFail (concludeHistory options out) ⟨db, none, notes⟩
      (Program.Ends
        (fun result final => final = ⟨db, none, notes⟩ ∧ (result.status = .complete →
          out.status = .complete ∧ db.platform.residualGaps none = 0))
        fun outcome final => final = ⟨db, none, notes⟩ ∧ outcome.error ≠ none) := by
  refine Program.ensures_bind _ _ ((countResidual_ensures none out db).mono ?_)
  rintro (outcome | result) final ends
  · exact ⟨ends.2.1, ends.1⟩
  · obtain ⟨rfl, rfl⟩ := ends
    have counted := (out.residual_status none db.platform).mp
    show Program.Ensures mayFail
      (ite ((Strings.trimSpace options.tenantID).isEmpty = true) _ _) _ _
    split_ifs
    · refine Program.ensures_done _ ⟨rfl, fun complete => ?_⟩
      simp [RebuildResult.close, RebuildResult.mark] at complete
    · refine Program.ensures_bind _ _ ((assignTenantChecksums_ensures _ _ db).mono ?_)
      rintro (outcome | result) final ends
      · exact ⟨ends.2.1, ends.1⟩
      · obtain ⟨rfl, rfl, -⟩ := ends
        refine Program.ensures_done _ ⟨rfl, fun complete => ?_⟩
        rw [RebuildResult.close_status, RebuildResult.summed_status] at complete
        exact ⟨(counted complete).1, (counted complete).2.1⟩

/-- The result of the end of `replayTenantRecords`. -/
def RebuildResult.concluded (out : RebuildResult) (tenantID : Bytes) (platform : Platform) :
    RebuildResult :=
  ((out.residual (some tenantID) platform).summed tenantID platform).close

theorem concludeTenant_ensures (tenantID : Bytes) (out : RebuildResult) (db : Database) :
    Program.Ensures mayFail (concludeTenant tenantID out) ⟨db, none, notes⟩
      (Program.Ends
        (fun result final => final = ⟨db, none, notes⟩ ∧
          result = out.concluded tenantID db.platform ∧ ¬ Unsummable tenantID)
        fun outcome final => final = ⟨db, none, notes⟩ ∧ outcome.error ≠ none ∧
          (mayFail = true ∨ storable tenantID = false ∨ Unsummable tenantID)) := by
  refine Program.ensures_bind _ _ ((countResidual_ensures _ out db).mono ?_)
  rintro (outcome | result) final ends
  · refine ⟨ends.2.1, ends.1, ends.2.2.imp_right fun unfit => Or.inl ?_⟩
    simpa using unfit
  · obtain ⟨rfl, rfl⟩ := ends
    refine Program.ensures_bind _ _ ((assignTenantChecksums_ensures _ _ db).mono ?_)
    rintro (outcome | result) final ends
    · exact ⟨ends.2.1, ends.1, ends.2.2.imp_right Or.inr⟩
    · obtain ⟨rfl, rfl, summable⟩ := ends
      exact Program.ensures_done _ ⟨rfl, by rw [RebuildResult.concluded], summable⟩

end Endings

/-! ### One record -/

/-- A record was put through `ProcessRecord`, which returned its disposition without an error. -/
def HistoryRecord.Decided (record : HistoryRecord) (mayFail : Bool) (policy : ReplayPolicy)
    (fuel : Nat) (before : Platform) (disposition : Option Disposition) (after : Platform) : Prop :=
  ∃ result sent, Processes mayFail fuel record.key record.value (policy.position record.pos) before
    ⟨result, none⟩ sent after ∧ result.disposition = disposition

/-- The dispositions that leave a rebuild complete. -/
def passes (disposition : Option Disposition) : Bool :=
  match disposition with
  | some .applied => true
  | some .duplicateNoop => true
  | some .quarantinedGap => true
  | _ => false

section Records

variable {mayFail : Bool} {policy : ReplayPolicy} {fuel : Nat} {notes : List AppliedUpdate}

theorem replayRecord_ensures (index : Nat) (record : HistoryRecord) (out : RebuildResult)
    (db : Database) :
    Program.Ensures mayFail (replayRecord policy fuel index record out) ⟨db, none, notes⟩
      (Program.Ends
        (fun result final => ∃ disposition sent platform,
          record.Decided mayFail policy fuel db.platform disposition platform ∧
          result = (out.cover (policy.position record.pos)).count index disposition ∧
          final = ⟨{ db with platform }, none, notes ++ sent⟩)
        fun outcome final =>
          (policy.check index record (out.cover (policy.position record.pos)) = some outcome ∧
            final = ⟨db, none, notes⟩) ∨
          ∃ result error sent platform, Processes mayFail fuel record.key record.value
              (policy.position record.pos) db.platform ⟨result, some error⟩ sent platform ∧
            outcome.error = some (.process error) ∧
            final = ⟨{ db with platform }, none, notes ++ sent⟩) := by
  unfold replayRecord
  simp only
  cases checked : policy.check index record (out.cover (policy.position record.pos)) with
  | some outcome => exact Program.ensures_done _ (Or.inl ⟨rfl, rfl⟩)
  | none =>
    refine Program.ensures_bind _ _ (Program.ensures_attempt_bind _ _
      ((processRecord_ensures fuel record.key record.value _ db).mono ?_))
    rintro (error | ⟨result, error⟩) final ends
    · exact ends.elim
    · obtain ⟨sent, platform, processes, rfl⟩ := ends
      refine Program.ensures_done _ ?_
      cases error with
      | some error =>
        show Program.Ensures mayFail (ite (result.shouldAck = true) _ _) _ _
        rw [if_neg (by simp [processes.unacknowledged])]
        exact Program.ensures_done _ (Or.inr ⟨result, error, sent, platform, processes, rfl, rfl⟩)
      | none =>
        exact Program.ensures_done _ ⟨_, sent, platform, ⟨result, sent, processes, rfl⟩, rfl, rfl⟩

theorem RebuildResult.count_status (out : RebuildResult) (index : Nat)
    (disposition : Option Disposition) :
    (out.count index disposition).status = .complete ↔
      out.status = .complete ∧ passes disposition = true := by
  cases disposition with
  | none => simp [count, mark, passes]
  | some disposition => cases disposition <;> simp [count, mark, passes]

theorem RebuildResult.count_dispositions (out : RebuildResult) (index : Nat)
    (disposition : Option Disposition) :
    (out.count index disposition).dispositions = out.dispositions ++ [disposition] := by
  cases disposition with
  | none => rfl
  | some disposition => cases disposition <;> rfl

end Records

/-! ### The loop over the records -/

/-- The calls of a replay, with the states between them. -/
structure Replayed (mayFail : Bool) (policy : ReplayPolicy) (fuel : Nat)
    (records : List HistoryRecord) (states : Nat → Platform)
    (dispositions : List (Option Disposition)) : Prop where
  counted : dispositions.length = records.length
  step : ∀ (index : Nat) record, records[index]? = some record →
    ∃ disposition, dispositions[index]? = some disposition ∧
      record.Decided mayFail policy fuel (states index) disposition (states (index + 1))

/-- What a run of the loop that returned has done. -/
structure LoopRun (mayFail : Bool) (policy : ReplayPolicy) (fuel : Nat)
    (records : List HistoryRecord) (out : RebuildResult) (db : Database) (result : RebuildResult)
    (final : Program.Session Database AppliedUpdate) (states : Nat → Platform)
    (dispositions : List (Option Disposition)) : Prop where
  replayed : Replayed mayFail policy fuel records states dispositions
  first : states 0 = db.platform
  last : ∃ sent, final = ⟨{ db with platform := states records.length }, none, sent⟩
  listed : result.dispositions = out.dispositions ++ dispositions
  status : result.status = .complete ↔
    out.status = .complete ∧ ∀ disposition ∈ dispositions, passes disposition = true

/-- A state before the states of a run. -/
def statesFrom (first : Platform) (states : Nat → Platform) : Nat → Platform
  | 0 => first
  | count + 1 => states count

theorem replayRecords_run {mayFail : Bool} {policy : ReplayPolicy} {fuel index : Nat}
    {records : List HistoryRecord} {out result : RebuildResult} {replies rest : List Reply}
    {db : Database} {notes : List AppliedUpdate}
    {final : Program.Session Database AppliedUpdate}
    (served : mayFail = false → Reply.lost ∉ replies)
    (ran : (replayRecords policy fuel index records out).run replies ⟨db, none, notes⟩ =
      (.ok result, rest, final)) :
    ∃ states dispositions, LoopRun mayFail policy fuel records out db result final states
      dispositions := by
  induction records generalizing index out replies db notes with
  | nil =>
    cases ran
    exact ⟨fun _ => db.platform, [], ⟨rfl, by simp⟩, rfl, ⟨notes, rfl⟩, by simp, by simp⟩
  | cons record records hypothesis =>
    obtain ⟨next, middle, session, stepped, ended⟩ := Program.run_bind_ok ran
    have spec : Program.Ensures mayFail (replayRecord policy fuel index record out)
      ⟨db, none, notes⟩ _ := replayRecord_ensures index record out db
    have ends := spec replies served
    rw [stepped] at ends
    obtain ⟨disposition, sent, platform, decided, rfl, rfl⟩ := ends
    have suffix : middle <:+ replies := by
      have used := Program.run_suffix (replayRecord policy fuel index record out) replies
        ⟨db, none, notes⟩
      rwa [stepped] at used
    obtain ⟨states, dispositions, run⟩ := hypothesis
      (fun exact lost => served exact (suffix.subset lost)) ended
    refine ⟨statesFrom db.platform states, disposition :: dispositions,
      ⟨by simp [run.replayed.counted], ?_⟩, rfl, run.last, ?_, ?_⟩
    · rintro (_ | position) other found
      · obtain rfl := Option.some.inj found
        refine ⟨disposition, rfl, ?_⟩
        show record.Decided mayFail policy fuel db.platform disposition (states 0)
        rw [run.first]
        exact decided
      · exact run.replayed.step position other found
    · rw [run.listed, RebuildResult.count_dispositions, List.append_assoc]
      rfl
    · rw [run.status, RebuildResult.count_status, List.forall_mem_cons, and_assoc]
      rfl

/-- An invariant of the calls holds wherever the loop stops. It stops without an error only where
the policy of the replay says so. -/
theorem replayRecords_ensures {mayFail : Bool} {policy : ReplayPolicy} {fuel : Nat}
    (index : Nat) (records : List HistoryRecord) (out : RebuildResult) (db : Database)
    (notes : List AppliedUpdate) (holds : Platform → Prop) (start : holds db.platform)
    (step : ∀ record ∈ records, ∀ platform outcome sent final,
      Processes mayFail fuel record.key record.value (policy.position record.pos) platform outcome
        sent final → holds platform → holds final) :
    Program.Ensures mayFail (replayRecords policy fuel index records out) ⟨db, none, notes⟩
      (Program.Ends
        (fun _ final => ∃ platform sent, holds platform ∧
          final = ⟨{ db with platform }, none, sent⟩)
        fun outcome final => (∃ platform sent, holds platform ∧
          final = ⟨{ db with platform }, none, sent⟩) ∧
          (outcome.error = none → ∃ record ∈ records, ∃ index out,
            policy.check index record out = some outcome)) := by
  induction records generalizing index out db notes with
  | nil => exact Program.ensures_done _ ⟨db.platform, notes, start, rfl⟩
  | cons record records hypothesis =>
    refine Program.ensures_bind _ _ ((replayRecord_ensures index record out db).mono ?_)
    rintro (outcome | next) final ends
    · rcases ends with ⟨stopped, rfl⟩ | ⟨result, error, sent, platform, processes, failed, rfl⟩
      · exact ⟨⟨db.platform, notes, start, rfl⟩,
          fun _ => ⟨record, List.mem_cons_self, _, _, stopped⟩⟩
      · refine ⟨⟨platform, _, step record List.mem_cons_self _ _ _ _ processes start, rfl⟩, ?_⟩
        intro none
        rw [failed] at none
        cases none
    · obtain ⟨disposition, sent, platform, ⟨result, sentNow, processes, -⟩, -, rfl⟩ := ends
      refine (hypothesis _ _ { db with platform } _
        (step record List.mem_cons_self _ _ _ _ processes start)
        fun other member => step other (List.mem_cons_of_mem _ member)).mono ?_
      rintro (outcome | result) final ends
      · refine ⟨ends.1, fun none => ?_⟩
        obtain ⟨other, member, stopped⟩ := ends.2 none
        exact ⟨other, List.mem_cons_of_mem _ member, stopped⟩
      · exact ends

end SeshatOps
