/-
This file says what a rebuild of one tenant does.

The reset takes away the rows of the tenant and nothing else, and a grounded state stays
grounded without them. The history is what the tenant's outbox rows parse to, in the order
of the load, each under its own key. A rebuild that returned without an error is the
chain of calls on this history from the state that the reset leaves.
-/

import SeshatOps.History
import SeshatOps.Replay

namespace SeshatOps

open Relational Event

/-! ### The reset of a tenant -/

/-- The log without the items of a tenant. -/
def Log.without (log : Log) (tenantID : Bytes) : Log := fun key =>
  if key.1 = tenantID then [] else log key

theorem Platform.cleared_some (platform : Platform) (tenantID : Bytes) :
    platform.cleared (some tenantID) =
      { inbox := platform.inbox.discard fun row => row.tenantID == tenantID
        projection := platform.projection.discard fun row => row.tenantID == tenantID
        lineage := platform.lineage.discard fun row => row.hop.tenantID == tenantID
        failures := platform.failures.discard fun row => row.tenantID == some tenantID } := by
  have lineage : (platform.cleared (some tenantID)).lineage =
      platform.lineage.discard fun row => row.hop.tenantID == tenantID := by
    refine Table.eq_of_rows ?_
    simp only [cleared, derivedTables, List.foldl_cons, List.foldl_nil, clear, Table.discard,
      List.filter_filter]
    refine List.filter_congr fun row _ => ?_
    have reached : reaches (some tenantID) (some row.hop.tenantID) =
        (row.hop.tenantID == tenantID) := by simp [reaches]
    rw [reached]
    cases row.hop.kind <;> cases row.hop.tenantID == tenantID <;> rfl
  show Platform.mk (platform.cleared (some tenantID)).inbox
    (platform.cleared (some tenantID)).projection (platform.cleared (some tenantID)).lineage
    (platform.cleared (some tenantID)).failures = _
  rw [lineage]
  simp [cleared, derivedTables, clear, reaches]

section Clearing

variable {tenantID : Bytes} {platform final : Platform} {env : Envelope} {payload : Payload}
  {hash canonical : Bytes} {disposition : Disposition}

/-- A decision about an event of the tenant writes only rows that the reset takes away. -/
theorem Writes.cleared (writes : Writes platform env hash canonical payload disposition final)
    (sameTenant : env.tenantID = tenantID)
    (owned : ∀ existing, platform.inbox.find? env.eventID = some existing →
      existing.tenantID = tenantID) :
    final.cleared (some tenantID) = platform.cleared (some tenantID) := by
  have inbox : ∀ row : InboxRow, row.Of env →
      ((platform.inbox.store row).discard fun row => row.tenantID == tenantID) =
        platform.inbox.discard fun row => row.tenantID == tenantID := by
    intro row of
    refine Table.discard_store _ _ (by simp [of.tenantID, sameTenant]) fun other member same => ?_
    have found := Table.find?_eq_some_iff.mpr ⟨member, same⟩
    rw [of.eventID] at found
    simp [owned other found]
  simp only [Platform.cleared_some]
  cases writes with
  | unchanged => rfl
  | quarantined _ row of unsettled noGap reason => rw [inbox row of]
  | retained _ undecided current reached ahead => rw [inbox _ (versionedRow_of _ _ _)]
  | repeated | joined => rw [inbox _ (inboxRow_of _)]
  | advanced quantity undecided next continues =>
    rw [inbox _ (inboxRow_of _), Table.discard_store _ _ (by simp [sameTenant])]
    intro other member same
    have itsTenant : other.tenantID = env.tenantID := congrArg Prod.fst same
    simp [itsTenant, sameTenant]
  | linked _ undecided hop described first absent free =>
    have hopTenant := payloadHop_tenantID described
    rw [inbox _ (inboxRow_of _),
      Table.discard_store _ _ (by simp [lineageRow, hopTenant, sameTenant])]
    intro other member same
    have itsTenant : other.hop.tenantID = hop.tenantID := congrArg (fun key => key.2.1) same
    simp [itsTenant, hopTenant, sameTenant]

theorem Platform.mem_cleared_inbox (row : InboxRow) :
    row ∈ (platform.cleared (some tenantID)).inbox.rows ↔
      row ∈ platform.inbox.rows ∧ row.tenantID ≠ tenantID := by
  rw [Platform.cleared_some, Table.mem_discard]
  simp

theorem Platform.mem_cleared_lineage (row : LineageRow) :
    row ∈ (platform.cleared (some tenantID)).lineage.rows ↔
      row ∈ platform.lineage.rows ∧ row.hop.tenantID ≠ tenantID := by
  rw [Platform.cleared_some, Table.mem_discard]
  simp

/-- The projection of a grounded state keys its rows by their tenant. -/
theorem Platform.cleared_projection (key : Bytes × Bytes) :
    (platform.cleared (some tenantID)).projection.find? key =
      if key.1 = tenantID then none else platform.projection.find? key := by
  rw [Platform.cleared_some, Table.find?_discard]
  cases found : platform.projection.find? key with
  | none => simp
  | some row =>
    obtain ⟨-, rfl⟩ := Table.find?_eq_some_iff.mp found
    by_cases same : row.tenantID = tenantID
    · simp [ProjectionRow.key, same]
    · simp [ProjectionRow.key, same]

/-- A grounded state stays grounded without the rows of a tenant, and then holds nothing of its
events. -/
theorem Grounded.cleared {delivered : Envelope → Prop} {log : Log}
    (grounded : Grounded delivered log platform) :
    Grounded (fun env => delivered env ∧ env.tenantID ≠ tenantID) (log.without tenantID)
      (platform.cleared (some tenantID)) where
  applied key := by
    rw [Log.without]
    split_ifs with own
    · exact .nil
    · have applied := grounded.applied key
      exact { applied with
        known := fun env member =>
          ⟨applied.known env member, applied.tenantID env member ▸ own⟩ }
  projection key := by
    rw [Platform.cleared_projection, Log.without]
    split_ifs
    · rfl
    · exact grounded.projection key
  lineage row member := by
    obtain ⟨present, foreign⟩ := (Platform.mem_cleared_lineage row).mp member
    obtain ⟨env, payload, hop, known, valid, described, first, rfl⟩ :=
      grounded.lineage row present
    rw [lineageRow, payloadHop_tenantID described] at foreign
    exact ⟨env, payload, hop, ⟨known, foreign⟩, valid, described, first, rfl⟩
  gaps row member isGap := by
    obtain ⟨present, foreign⟩ := (Platform.mem_cleared_inbox row).mp member
    obtain ⟨later, env, payload, canonical, retains⟩ := grounded.gaps row present isGap
    rw [retains.of.tenantID] at foreign
    exact ⟨later, env, payload, canonical, { retains with known := ⟨retains.known, foreign⟩ }⟩
  hashes row member := grounded.hashes row ((Platform.mem_cleared_inbox row).mp member).1

end Clearing

/-! ### The history of a tenant -/

/-- An outbox row as a record of the history: the event that its bytes parse to, under the
event's own key. -/
structure OutboxRow.Yields (row : OutboxRow) (tenantID : Bytes) (record : HistoryRecord)
    (env : Envelope) : Prop where
  parsed : parse row.eventBytes = .ok env
  rowTenant : row.tenantID = tenantID
  tenant : env.tenantID = tenantID
  key : record.key = envelopeKey env
  value : record.value = row.eventBytes

theorem historyRecords_ok {tenantID : Bytes} {offset : Int} {rows : List OutboxRow}
    {records : List HistoryRecord} (loaded : historyRecords tenantID offset rows = .ok records) :
    List.Forall₂ (fun row record => ∃ env, OutboxRow.Yields row tenantID record env) rows
      records := by
  induction rows generalizing offset records with
  | nil =>
    cases loaded
    exact .nil
  | cons row rows hypothesis =>
    rw [historyRecords] at loaded
    split_ifs at loaded with foreign
    cases parsed : parse row.eventBytes with
    | error error => simp [parsed] at loaded
    | ok env =>
      simp only [parsed] at loaded
      split_ifs at loaded with misplaced
      cases rest : historyRecords tenantID (offset + 1) rows with
      | error error => simp [rest] at loaded
      | ok more =>
        simp only [rest, Except.ok.injEq] at loaded
        subst loaded
        exact .cons ⟨env, parsed, not_not.mp foreign, not_not.mp misplaced, rfl, rfl⟩
          (hypothesis rest)

theorem mem_outboxHistory (collation : Collation) (tenantID eventID : Bytes) (erp : Erp)
    (row : OutboxRow) :
    row ∈ outboxHistory collation tenantID eventID erp ↔
      row ∈ erp.outbox.rows ∧ row.tenantID = tenantID ∧ (eventID = [] ∨ row.eventID = eventID) := by
  rw [outboxHistory, List.mem_insertionSort, List.mem_filter]
  simp

/-- A record of the history passes the checks of the replay. -/
theorem OutboxRow.Yields.checked {row : OutboxRow} {tenantID : Bytes} {record : HistoryRecord}
    {env : Envelope} (yields : row.Yields tenantID record env) (index : Nat)
    (out : RebuildResult) : (tenantPolicy tenantID).check index record out = none := by
  simp [tenantPolicy, yields.value, yields.parsed, yields.tenant]

theorem loadTenantOutboxHistory_ensures {mayFail : Bool} {notes : List AppliedUpdate}
    (collation : Collation) (tenantID eventID : Bytes) (db : Database) :
    Program.Ensures mayFail (loadTenantOutboxHistory collation tenantID eventID)
      ⟨db, none, notes⟩
      (Program.Ends
        (fun records final =>
          historyRecords tenantID 1 (outboxHistory collation tenantID eventID db.erp) =
            .ok records ∧ final = ⟨db, none, notes⟩)
        fun error final => final = ⟨db, none, notes⟩ ∧
          (mayFail = true ∨ tenantID = [] ∨ [tenantID, eventID].all storable = false ∨
            historyRecords tenantID 1 (outboxHistory collation tenantID eventID db.erp) =
              .error error)) := by
  unfold loadTenantOutboxHistory
  by_cases empty : tenantID = []
  · subst empty
    exact Program.ensures_done _ ⟨rfl, Or.inr (Or.inl rfl)⟩
  · rw [if_neg (by simp [empty])]
    refine ensures_query _ _ _ _ _ (fun may => ⟨rfl, Or.inl may⟩) (fun unfit => ⟨rfl, ?_⟩)
      fun _ choice => ?_
    · refine Or.inr (Or.inr (Or.inl ?_))
      split_ifs at unfit
      · simp only [List.all_cons, List.all_nil, Bool.and_true] at unfit ⊢
        rw [unfit, Bool.false_and]
      · exact unfit
    · show Program.Ensures mayFail (.done (historyRecords tenantID 1
        (outboxHistory collation tenantID eventID db.erp))) _ _
      cases loaded : historyRecords tenantID 1
          (outboxHistory collation tenantID eventID db.erp) with
      | ok records => exact Program.ensures_done _ ⟨rfl, rfl⟩
      | error error => exact Program.ensures_done _ ⟨rfl, Or.inr (Or.inr (Or.inr rfl))⟩

/-! ### Rebuilds of a tenant -/

/-- One call of `RebuildTenantFromHistory`: what it is given, and what the server does with its
requests. -/
structure TenantRebuild where
  collation : Collation
  fuel : Nat
  tenantID : Bytes
  replies : List Reply

namespace TenantRebuild

variable (rebuild : TenantRebuild) (db : Database)

/-- The body of the rebuild. -/
def body : Control RebuildResult := do
  orReturn {} (resetDerivedStateForTenant rebuild.tenantID)
  let records ← orReturn {} (loadTenantOutboxHistory rebuild.collation rebuild.tenantID [])
  replayTenantRecords rebuild.fuel rebuild.tenantID records

/-- The rebuild run alone on a database. -/
def session : Except Empty RebuildOutcome × List Reply × Program.Session Database AppliedUpdate :=
  (rebuildTenantFromHistory rebuild.collation rebuild.fuel rebuild.tenantID).run rebuild.replies
    ⟨db, none, []⟩

/-- What the rebuild returns. -/
def outcome : RebuildOutcome := returned (rebuild.session db).1

/-- The database that the rebuild leaves. -/
def after : Database := (rebuild.session db).2.2.committed

/-- The server served every request of the rebuild. -/
def Served : Prop := Reply.lost ∉ rebuild.replies

end TenantRebuild

section Rebuilds

variable {mayFail : Bool} {notes : List AppliedUpdate}

theorem resetDerivedStateForTenant_ensures (tenantID : Bytes) (db : Database) :
    Program.Ensures mayFail (resetDerivedStateForTenant tenantID) ⟨db, none, notes⟩
      (Program.Ends
        (fun _ final => tenantID ≠ [] ∧ storable tenantID = true ∧
          final = ⟨db.onPlatform (.cleared (some tenantID)), none, notes⟩)
        fun _ final => final = ⟨db, none, notes⟩ ∧
          (mayFail = true ∨ tenantID = [] ∨ storable tenantID = false)) := by
  unfold resetDerivedStateForTenant
  by_cases empty : tenantID = []
  · subst empty
    exact Program.ensures_done _ ⟨rfl, Or.inr (Or.inl rfl)⟩
  · rw [if_neg (by simp [empty])]
    refine (resetScope_ensures (some tenantID) db).mono ?_
    rintro (error | _) final ends
    · refine ⟨ends.1, ends.2.imp_right fun unfit => Or.inr ?_⟩
      simpa using unfit
    · refine ⟨empty, ?_, ends.2⟩
      simpa using ends.1

/-- A rebuild that returned without an error, as a chain of calls. -/
structure TenantRebuild.Chain (rebuild : TenantRebuild) (mayFail : Bool) (db : Database)
    (records : List HistoryRecord) (states : Nat → Platform)
    (dispositions : List (Option Disposition)) : Prop where
  named : rebuild.tenantID ≠ []
  fit : storable rebuild.tenantID = true
  loaded : historyRecords rebuild.tenantID 1
    (outboxHistory rebuild.collation rebuild.tenantID [] db.erp) = .ok records
  replayed : Replayed mayFail (tenantPolicy rebuild.tenantID) rebuild.fuel records states
    dispositions
  first : states 0 = db.platform.cleared (some rebuild.tenantID)
  last : rebuild.after db = ⟨db.erp, states records.length⟩
  listed : (rebuild.outcome db).result.dispositions = dispositions

end Rebuilds

section Loading

variable {collation : Collation} {tenantID eventID : Bytes} {erp : Erp}
  {records : List HistoryRecord}

/-- Each record of the history is a row of the outbox. -/
theorem yields_of_record
    (loaded : historyRecords tenantID 1 (outboxHistory collation tenantID eventID erp) =
      .ok records) {record : HistoryRecord} (member : record ∈ records) :
    ∃ row ∈ erp.outbox.rows, ∃ env, row.Yields tenantID record env := by
  obtain ⟨length, each⟩ := List.forall₂_iff_get.mp (historyRecords_ok loaded)
  obtain ⟨index, bound, rfl⟩ := List.getElem_of_mem member
  obtain ⟨env, yields⟩ := each index (length ▸ bound) bound
  have listed := (mem_outboxHistory collation tenantID eventID erp _).mp
    (List.get_mem _ ⟨index, length ▸ bound⟩)
  exact ⟨_, listed.1, env, yields⟩

/-- Each row of the tenant is a record of its history. -/
theorem yields_of_row
    (loaded : historyRecords tenantID 1 (outboxHistory collation tenantID [] erp) = .ok records)
    {row : OutboxRow} (member : row ∈ erp.outbox.rows) (owned : row.tenantID = tenantID) :
    ∃ record ∈ records, ∃ env, row.Yields tenantID record env := by
  obtain ⟨length, each⟩ := List.forall₂_iff_get.mp (historyRecords_ok loaded)
  have listed := (mem_outboxHistory collation tenantID [] erp row).mpr
    ⟨member, owned, Or.inl rfl⟩
  obtain ⟨index, bound, rfl⟩ := List.getElem_of_mem listed
  obtain ⟨env, yields⟩ := each index bound (length ▸ bound)
  exact ⟨_, List.get_mem _ ⟨index, length ▸ bound⟩, env, yields⟩

end Loading

/-- A replay of loaded records returns early only with an error. -/
theorem replayTenantRecords_early {mayFail : Bool} {notes : List AppliedUpdate} (fuel : Nat)
    (tenantID : Bytes) (records : List HistoryRecord) (db : Database)
    (passing : ∀ record ∈ records, ∀ index out,
      (tenantPolicy tenantID).check index record out = none) :
    Program.Ensures mayFail (replayTenantRecords fuel tenantID records) ⟨db, none, notes⟩
      (Program.Ends (fun _ _ => True) fun outcome _ => outcome.error ≠ none) := by
  cases records with
  | nil => exact Program.ensures_done _ trivial
  | cons record records =>
    refine Program.ensures_bind _ _ ((replayRecords_ensures 0 _ _ _ _ (fun _ => True) trivial
      fun _ _ _ _ _ _ _ _ => trivial).mono ?_)
    rintro (outcome | out) final ends
    · intro none
      obtain ⟨other, member, index, out, stopped⟩ := ends.2 none
      rw [passing other member] at stopped
      cases stopped
    · obtain ⟨platform, sent, -, rfl⟩ := ends
      refine (concludeTenant_ensures tenantID out _).mono ?_
      rintro (outcome | result) final ends
      · exact ends.2.1
      · trivial

theorem TenantRebuild.body_early (rebuild : TenantRebuild) (db : Database) :
    Program.Ensures true rebuild.body ⟨db, none, []⟩
      (Program.Ends (fun _ _ => True) fun outcome _ => outcome.error ≠ none) := by
  refine ensures_orReturn _ _ _ ((resetDerivedStateForTenant_ensures _ db).mono ?_)
  rintro (error | _) final ends
  · exact Option.some_ne_none error
  · obtain ⟨-, -, rfl⟩ := ends
    refine ensures_orReturn _ _ _ ((loadTenantOutboxHistory_ensures _ _ _ _).mono ?_)
    rintro (error | records) final ends
    · exact Option.some_ne_none error
    · obtain ⟨loaded, rfl⟩ := ends
      refine replayTenantRecords_early _ _ _ _ fun record member index out => ?_
      obtain ⟨row, -, env, yields⟩ := yields_of_record loaded member
      exact yields.checked index out

/-- What a rebuild returns is what its body ends with. -/
theorem TenantRebuild.outcome_eq (rebuild : TenantRebuild) (db : Database) :
    rebuild.outcome db = match (rebuild.body.run rebuild.replies ⟨db, none, []⟩).1 with
      | .ok result => ⟨result, none⟩
      | .error outcome => outcome := by
  show returned ((returning rebuild.body).run rebuild.replies ⟨db, none, []⟩).1 = _
  rw [returning, Program.run_bind, Program.run_attempt]
  cases (rebuild.body.run rebuild.replies ⟨db, none, []⟩).1 with
  | ok result => rfl
  | error outcome => rfl

theorem TenantRebuild.after_eq (rebuild : TenantRebuild) (db : Database) :
    rebuild.after db = (rebuild.body.run rebuild.replies ⟨db, none, []⟩).2.2.committed :=
  congrArg Program.Session.committed (returning_session rebuild.body rebuild.replies)

/-- A run of the body to its end. -/
structure TenantRebuild.BodyRun (rebuild : TenantRebuild) (db : Database)
    (records : List HistoryRecord) (later rest : List Reply) (result : RebuildResult)
    (final : Program.Session Database AppliedUpdate) : Prop where
  ran : rebuild.body.run rebuild.replies ⟨db, none, []⟩ = (.ok result, rest, final)
  named : rebuild.tenantID ≠ []
  fit : storable rebuild.tenantID = true
  loaded : historyRecords rebuild.tenantID 1
    (outboxHistory rebuild.collation rebuild.tenantID [] db.erp) = .ok records
  served : rebuild.Served → Reply.lost ∉ later
  replayed : (replayTenantRecords rebuild.fuel rebuild.tenantID records).run later
    ⟨db.onPlatform (.cleared (some rebuild.tenantID)), none, []⟩ = (.ok result, rest, final)

/-- A rebuild that returned without an error has run its body to the end. -/
theorem TenantRebuild.body_run (rebuild : TenantRebuild) (db : Database)
    (succeeded : (rebuild.outcome db).error = none) :
    ∃ records later rest result final, rebuild.BodyRun db records later rest result final := by
  have ends := rebuild.body_early db rebuild.replies (by simp)
  rw [outcome_eq] at succeeded
  rcases ran : rebuild.body.run rebuild.replies ⟨db, none, []⟩ with ⟨outcome | result, rest, final⟩
  · rw [ran] at ends succeeded
    exact absurd succeeded ends
  obtain ⟨_, middle, between, resetRan, rebuilt⟩ := Program.run_bind_ok ran
  obtain ⟨records, later, loadedSession, loadRan, replayed⟩ := Program.run_bind_ok rebuilt
  obtain ⟨named, fit, rfl⟩ := orReturn_ok (resetDerivedStateForTenant_ensures _ db) resetRan
  obtain ⟨loaded, rfl⟩ := orReturn_ok (loadTenantOutboxHistory_ensures _ _ _ _) loadRan
  refine ⟨records, later, rest, result, final, ran, named, fit, loaded,
    fun served lost => served ?_, replayed⟩
  have first := Program.run_suffix
    (orReturn {} (resetDerivedStateForTenant rebuild.tenantID)) rebuild.replies ⟨db, none, []⟩
  have second := Program.run_suffix
    (orReturn {} (loadTenantOutboxHistory rebuild.collation rebuild.tenantID [])) middle
    ⟨db.onPlatform (.cleared (some rebuild.tenantID)), none, []⟩
  rw [resetRan] at first
  rw [loadRan] at second
  exact first.subset (second.subset lost)

/-- The parts of a rebuild that returned without an error. -/
theorem TenantRebuild.chain (rebuild : TenantRebuild) (mayFail : Bool) (db : Database)
    (served : mayFail = false → rebuild.Served)
    (succeeded : (rebuild.outcome db).error = none) :
    ∃ records states dispositions, rebuild.Chain mayFail db records states dispositions := by
  obtain ⟨records, later, rest, result, final, ran, named, fit, loaded, servedLater, replayed⟩ :=
    rebuild.body_run db succeeded
  have left : rebuild.after db = final.committed := by rw [after_eq, ran]
  have got : rebuild.outcome db = ⟨result, none⟩ := by rw [outcome_eq, ran]
  cases records with
  | nil =>
    cases replayed
    exact ⟨[], fun _ => db.platform.cleared (some rebuild.tenantID), [], named, fit, loaded,
      ⟨rfl, by simp⟩, rfl, left, by rw [got]; rfl⟩
  | cons record records =>
    obtain ⟨out, remaining, session, looped, concluded⟩ := Program.run_bind_ok replayed
    obtain ⟨states, dispositions, loop⟩ : ∃ states dispositions,
        LoopRun mayFail (tenantPolicy rebuild.tenantID) rebuild.fuel (record :: records) _ _ out
          session states dispositions := replayRecords_run (servedLater ∘ served) looped
    obtain ⟨sent, rfl⟩ := loop.last
    have spec : Program.Ensures true (concludeTenant rebuild.tenantID out)
      ⟨⟨db.erp, states (record :: records).length⟩, none, sent⟩ _ :=
      concludeTenant_ensures rebuild.tenantID out _
    have ends := spec remaining (by simp)
    rw [Database.onPlatform_erp] at concluded
    rw [concluded] at ends
    obtain ⟨rfl, same, -⟩ := ends
    refine ⟨record :: records, states, dispositions, named, fit, loaded, loop.replayed,
      loop.first, left, ?_⟩
    have same' : result = out.concluded rebuild.tenantID (states (record :: records).length) :=
      same
    rw [got, same', RebuildResult.concluded, RebuildResult.close_dispositions,
      RebuildResult.summed_dispositions, RebuildResult.residual_dispositions, loop.listed]
    rfl

end SeshatOps
