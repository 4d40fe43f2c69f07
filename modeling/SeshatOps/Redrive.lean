/-
This file says what one call of `ProcessRecord` can do.

`Redrives` follows the loop of `redriveGaps`, which commits one transaction for each gap
it picks up and may be cut off between two of them. `Processes` puts it behind the
decision on the record itself. `processRecord_ensures` derives the list from the
program for every list of lost requests. What a call leaves behind without a lost
request is decided by `admits`, and by what `Stuck` says of the gaps it meets.
-/

import SeshatOps.Decide

namespace SeshatOps

open Relational Event

/-! ### What a re-drive can do -/

/-- A retained gap read back: the envelope in its bytes, as `redriveGaps` sees it. -/
structure Retained (gap : InboxRow) (env : Envelope) (payload : Payload) (canonical : Bytes) :
    Prop where
  parsed : parse (gap.eventBytes.getD []) = .ok env
  valid : Valid env payload
  written : canonicalBytes env = .ok canonical

/-- Why an iteration of the loop fails although no request is lost. -/
inductive Stuck (platform : Platform) (tenantID aggregateType aggregateID : Bytes) : Prop
  | texts (unfit : [tenantID, aggregateType, aggregateID].all storable = false)
  | unreadable (gap : InboxRow)
      (eligible : gap ∈ eligibleGaps platform tenantID aggregateType aggregateID)
      (error : EventError) (refused : parse (gap.eventBytes.getD []) = .error error)
  | conflicting (gap : InboxRow)
      (eligible : gap ∈ eligibleGaps platform tenantID aggregateType aggregateID)
      (env : Envelope) (payload : Payload) (canonical : Bytes)
      (retained : Retained gap env payload canonical)
      (differs : digest canonical ≠ gap.contentHash) (unfit : storable env.aggregateID = false)
  | refused (gap : InboxRow)
      (eligible : gap ∈ eligibleGaps platform tenantID aggregateType aggregateID)
      (env : Envelope) (payload : Payload) (canonical : Bytes)
      (retained : Retained gap env payload canonical)
      (same : digest canonical = gap.contentHash)
      (unfit : accepts platform env (digest canonical) = false)

/-- The runs of the re-drive loop with a given fuel: whether the loop ended by itself, what it
announced and the state it left. -/
inductive Redrives (mayFail : Bool) (tenantID aggregateType aggregateID : Bytes) :
    Nat → Platform → Bool → List AppliedUpdate → Platform → Prop
  | unfinished (platform : Platform) :
      Redrives mayFail tenantID aggregateType aggregateID 0 platform false [] platform
  | failed (fuel : Nat) (platform : Platform)
      (cause : mayFail = true ∨ Stuck platform tenantID aggregateType aggregateID) :
      Redrives mayFail tenantID aggregateType aggregateID (fuel + 1) platform false [] platform
  | drained (fuel : Nat) (platform : Platform)
      (none : eligibleGaps platform tenantID aggregateType aggregateID = []) :
      Redrives mayFail tenantID aggregateType aggregateID (fuel + 1) platform true [] platform
  | requarantined (fuel : Nat) (platform : Platform) (gap : InboxRow)
      (eligible : gap ∈ eligibleGaps platform tenantID aggregateType aggregateID)
      (env : Envelope) (payload : Payload) (canonical : Bytes)
      (retained : Retained gap env payload canonical)
      (differs : digest canonical ≠ gap.contentHash)
      (ended : Bool) (notes : List AppliedUpdate) (final : Platform)
      (rest : Redrives mayFail tenantID aggregateType aggregateID fuel
        (storeInbox (inboxRow env (digest canonical) .quarantinedConflict) platform)
        ended notes final) :
      Redrives mayFail tenantID aggregateType aggregateID (fuel + 1) platform ended notes final
  | stopped (fuel : Nat) (platform : Platform) (gap : InboxRow)
      (eligible : gap ∈ eligibleGaps platform tenantID aggregateType aggregateID)
      (env : Envelope) (payload : Payload) (canonical : Bytes)
      (retained : Retained gap env payload canonical)
      (same : digest canonical = gap.contentHash) (disposition : Disposition) (final : Platform)
      (decides : Decides platform env (digest canonical) canonical payload disposition final)
      (other : disposition ≠ .applied) :
      Redrives mayFail tenantID aggregateType aggregateID (fuel + 1) platform true [] final
  | advanced (fuel : Nat) (platform : Platform) (gap : InboxRow)
      (eligible : gap ∈ eligibleGaps platform tenantID aggregateType aggregateID)
      (env : Envelope) (payload : Payload) (canonical : Bytes)
      (retained : Retained gap env payload canonical)
      (same : digest canonical = gap.contentHash) (next : Platform)
      (decides : Decides platform env (digest canonical) canonical payload .applied next)
      (ended : Bool) (notes : List AppliedUpdate) (final : Platform)
      (rest : Redrives mayFail tenantID aggregateType aggregateID fuel next ended notes final) :
      Redrives mayFail tenantID aggregateType aggregateID (fuel + 1) platform ended
        (appliedNotes env payload .applied ++ notes) final

/-! ### Running the loop -/

section Execution

variable {mayFail : Bool} {notes : List AppliedUpdate} {env : Envelope} {payload : Payload}
  {canonical : Bytes}

/-- What `parse` returns is valid and has canonical bytes. -/
theorem parse_ok {raw : Bytes} (parsed : parse raw = .ok env) :
    ∃ payload canonical, Valid env payload ∧ canonicalBytes env = .ok canonical := by
  have passed := parse_valid raw env parsed
  obtain ⟨payload, valid⟩ := validate_ok env passed
  obtain ⟨canonical, written⟩ := canonicalBytes_total env passed
  exact ⟨payload, canonical, valid, written⟩

/-- `quarantineInbox` for a disposition that retains nothing. -/
theorem quarantineInbox_ensures (db : Database) (valid : Valid env payload)
    (written : canonicalBytes env = .ok canonical) (disposition : Disposition)
    (noGap : disposition ≠ .quarantinedGap) :
    Program.Ensures mayFail (quarantineInbox env disposition none none) ⟨db, none, notes⟩
      (Program.Ends
        (fun value final => storable env.aggregateID = true ∧ value = decided env disposition ∧
          final = ⟨db.onPlatform (storeInbox (inboxRow env (digest canonical) disposition)),
            none, notes⟩)
        fun _ final => final = ⟨db, none, notes⟩ ∧
          (mayFail = true ∨ storable env.aggregateID = false)) := by
  have stored := storable_digest canonical
  have hash : (contentHash env).toOption.getD [] = digest canonical := by
    rw [contentHash_of_canonical written]
    rfl
  have bytes : nullBytes (gapBytes disposition ((canonicalBytes env).toOption.getD [])) = none := by
    simp [gapBytes, noGap, nullBytes]
  rw [quarantineInbox, hash, bytes]
  refine Program.Runs.inTransaction _ _ ?_
  refine recordAndCommit_runs valid _ (inboxRow_of _) (fun unfit => ?_) fun fit => ?_
  · simpa [inboxRow, stored] using unfit
  · exact ⟨by simpa [inboxRow, stored] using fit, rfl, rfl⟩

theorem redriveGaps_ensures (tenantID aggregateType aggregateID : Bytes) (fuel : Nat)
    (db : Database) :
    Program.Ensures mayFail (redriveGaps tenantID aggregateType aggregateID fuel) ⟨db, none, notes⟩
      fun ended final => ∃ sent platform,
        Redrives mayFail tenantID aggregateType aggregateID fuel db.platform ended.isOk sent
          platform ∧ final = ⟨{ db with platform }, none, notes ++ sent⟩ := by
  induction fuel generalizing db notes with
  | zero =>
    rw [redriveGaps]
    exact Program.ensures_done _ ⟨[], db.platform, .unfinished _, by simp⟩
  | succ fuel hypothesis =>
    have failure (why : mayFail = true ∨ Stuck db.platform tenantID aggregateType aggregateID) :
        ∃ sent platform, Redrives mayFail tenantID aggregateType aggregateID (fuel + 1) db.platform
          false sent platform ∧
          (⟨db, none, notes⟩ : Program.Session Database AppliedUpdate) =
            ⟨{ db with platform }, none, notes ++ sent⟩ :=
      ⟨[], db.platform, .failed fuel _ why, by simp⟩
    rw [redriveGaps]
    refine ensures_query _ _ _ _ _ (fun may => failure (Or.inl may))
      (fun unfit => failure (Or.inr (.texts unfit))) fun _ choice => ?_
    have view : (⟨db, none, notes⟩ : Program.Session Database AppliedUpdate).view = db := rfl
    rw [view]
    cases selected : (eligibleGaps db.platform tenantID aggregateType aggregateID)[choice %
        (eligibleGaps db.platform tenantID aggregateType aggregateID).length]? with
    | none =>
      refine Program.ensures_done _ ⟨[], db.platform, .drained fuel _ ?_, by simp⟩
      rw [List.getElem?_eq_none_iff] at selected
      by_contra nonempty
      exact absurd (Nat.mod_lt choice (List.length_pos_of_ne_nil nonempty)) (not_lt.mpr selected)
    | some gap =>
      have eligible := List.mem_of_getElem? selected
      dsimp only
      cases parsed : parse (gap.eventBytes.getD []) with
      | error error =>
        exact Program.ensures_done _ (failure (Or.inr (.unreadable gap eligible error parsed)))
      | ok env =>
        obtain ⟨payload, canonical, valid, written⟩ := parse_ok parsed
        have retained : Retained gap env payload canonical := ⟨parsed, valid, written⟩
        simp only [contentHash_of_canonical written, checked, Program.done_ok_bind]
        split_ifs with differs
        · refine Program.ensures_bind _ _ ((quarantineInbox_ensures db valid written _
            (by decide)).mono ?_)
          rintro (cause | value) final ends
          · obtain ⟨rfl, why⟩ := ends
            exact failure (why.imp_right (.conflicting gap eligible env payload canonical retained
              differs))
          · obtain ⟨-, -, rfl⟩ := ends
            dsimp only [Program.Ends]
            refine (hypothesis _).mono ?_
            rintro ended final ⟨sent, platform, rest, rfl⟩
            exact ⟨sent, platform, .requarantined fuel _ gap eligible env payload canonical
              retained differs _ _ _ rest, rfl⟩
        · have same := not_not.mp differs
          refine Program.ensures_bind _ _ ((processValidated_ensures db valid written).mono ?_)
          rintro (cause | value) final ends
          · obtain ⟨rfl, why⟩ := ends
            exact failure (why.imp_right
              (.refused gap eligible env payload canonical retained same))
          · obtain ⟨disposition, platform, decides, -, rfl, rfl⟩ := ends
            dsimp only [Program.Ends]
            by_cases isApplied : disposition = .applied
            · subst isApplied
              rw [decided_disposition, if_neg (not_not.mpr rfl)]
              refine (hypothesis _).mono ?_
              rintro ended final ⟨sent, last, rest, rfl⟩
              exact ⟨_, last, .advanced fuel _ gap eligible env payload canonical retained same
                platform decides _ _ _ rest, by simp⟩
            · rw [decided_disposition, if_pos fun same => isApplied (Option.some.inj same)]
              refine Program.ensures_done _ ⟨[], platform, .stopped fuel _ gap eligible env payload
                canonical retained same disposition platform decides isApplied, ?_⟩
              rw [appliedNotes_of_ne isApplied]

end Execution

/-! ### What a call can do -/

/-- The position under which a failure is recorded: an empty topic is the relay's. -/
def recordPosition (pos : SourcePosition) : SourcePosition :=
  if pos.topic.isEmpty then { pos with topic := relayTopic } else pos

/-- The key under which the relay publishes an envelope. -/
def envelopeKey (env : Envelope) : Bytes :=
  aggregateKey env.tenantID env.aggregateType env.aggregateID

/-- Every text and number that the call would store for the record itself fits its column. -/
def admits (platform : Platform) (key value : Bytes) (pos : SourcePosition) : Bool :=
  match parse value with
  | .error error =>
      let row := parseFailureRow value (recordPosition pos) error
      row.texts.all storable &&
        (mergeFailure row (platform.failures.find? row.source)).attemptCount ≤ maxInteger
  | .ok env =>
      if key = envelopeKey env then
        accepts platform env (((contentHash env).toOption).getD [])
      else storable env.aggregateID

/-- A value that parses to the envelope, with the envelope's canonical bytes. -/
structure Carries (value : Bytes) (env : Envelope) (payload : Payload) (canonical : Bytes) :
    Prop where
  parsed : parse value = .ok env
  valid : Valid env payload
  written : canonicalBytes env = .ok canonical

theorem Carries.env_eq {value : Bytes} {owner env : Envelope} {payload : Payload}
    {canonical : Bytes} (carries : Carries value owner payload canonical)
    (parsed : parse value = .ok env) : owner = env :=
  Except.ok.inj (carries.parsed.symm.trans parsed)

/-- A value carries at most one event. -/
theorem Carries.unique {value : Bytes} {env other : Envelope} {payload otherPayload : Payload}
    {canonical bytes : Bytes} (first : Carries value env payload canonical)
    (second : Carries value other otherPayload bytes) :
    other = env ∧ otherPayload = payload ∧ bytes = canonical := by
  obtain rfl := second.env_eq first.parsed
  exact ⟨rfl, Option.some.inj (second.valid.carried.symm.trans first.valid.carried),
    Except.ok.inj (second.written.symm.trans first.written)⟩

/-- The runs of one call of `ProcessRecord`: what it returned, what it announced and the state
it left. -/
inductive Processes (mayFail : Bool) (fuel : Nat) (key value : Bytes) (pos : SourcePosition)
    (platform : Platform) : Outcome → List AppliedUpdate → Platform → Prop
  | failed (error : ProcessError)
      (cause : mayFail = true ∨ admits platform key value pos = false) :
      Processes mayFail fuel key value pos platform ⟨{}, some error⟩ [] platform
  | unparsed (error : EventError) (refused : parse value = .error error)
      (admitted : admits platform key value pos = true) :
      Processes mayFail fuel key value pos platform
        ⟨{ disposition := some .quarantinedInvalid, shouldAck := true }, none⟩ []
        (storeFailure (parseFailureRow value (recordPosition pos) error) platform)
  | misdelivered (env : Envelope) (payload : Payload) (canonical : Bytes)
      (carries : Carries value env payload canonical) (otherKey : key ≠ envelopeKey env)
      (admitted : admits platform key value pos = true) :
      Processes mayFail fuel key value pos platform ⟨decided env .quarantinedMismatch, none⟩ []
        (storeInbox (inboxRow env (digest canonical) .quarantinedMismatch) platform)
  | quarantined (env : Envelope) (payload : Payload) (canonical : Bytes)
      (carries : Carries value env payload canonical) (ownKey : key = envelopeKey env)
      (disposition : Disposition) (final : Platform)
      (decides : Decides platform env (digest canonical) canonical payload disposition final)
      (unsettled : disposition.settled = false)
      (admitted : admits platform key value pos = true) :
      Processes mayFail fuel key value pos platform ⟨decided env disposition, none⟩ [] final
  | redriven (env : Envelope) (payload : Payload) (canonical : Bytes)
      (carries : Carries value env payload canonical) (ownKey : key = envelopeKey env)
      (disposition : Disposition) (middle : Platform)
      (decides : Decides platform env (digest canonical) canonical payload disposition middle)
      (settled : disposition.settled = true) (notes : List AppliedUpdate) (final : Platform)
      (redrives : Redrives mayFail env.tenantID env.aggregateType env.aggregateID fuel middle true
        notes final)
      (admitted : admits platform key value pos = true) :
      Processes mayFail fuel key value pos platform ⟨decided env disposition, none⟩
        (appliedNotes env payload disposition ++ notes) final
  | interrupted (env : Envelope) (payload : Payload) (canonical : Bytes)
      (carries : Carries value env payload canonical) (ownKey : key = envelopeKey env)
      (disposition : Disposition) (middle : Platform)
      (decides : Decides platform env (digest canonical) canonical payload disposition middle)
      (settled : disposition.settled = true) (notes : List AppliedUpdate) (final : Platform)
      (redrives : Redrives mayFail env.tenantID env.aggregateType env.aggregateID fuel middle false
        notes final)
      (admitted : admits platform key value pos = true) (error : ProcessError) :
      Processes mayFail fuel key value pos platform
        ⟨{ decided env disposition with shouldAck := false }, some (.gapRedrive error)⟩
        (appliedNotes env payload disposition ++ notes) final

theorem settled_iff (disposition : Disposition) :
    disposition.settled = true ↔ disposition = .applied ∨ disposition = .duplicateNoop := by
  cases disposition <;> simp [Disposition.settled]

section Calls

variable {mayFail : Bool} {notes : List AppliedUpdate}

theorem isProjectionFamily_of_valid {env : Envelope} {payload : Payload}
    (valid : Valid env payload) : isProjectionFamily env.eventType = true := by
  rw [valid.fits.eventType]
  cases payload <;> rfl

theorem projectionSelfID_of_valid {env : Envelope} {payload : Payload}
    (valid : Valid env payload) : projectionSelfID env = some env.aggregateID := by
  simp [projectionSelfID, valid.carried, valid.fits.eventType, valid.fits.selfID]

theorem ensures_settle {session : Program.Session Database AppliedUpdate} (action : Action Result)
    {post : Outcome → Program.Session Database AppliedUpdate → Prop}
    {never : ProcessError → Program.Session Database AppliedUpdate → Prop}
    (ensures : Program.Ensures mayFail action session
      (Program.Ends (fun result final => post ⟨result, none⟩ final)
        fun error final => post ⟨{}, some error⟩ final)) :
    Program.Ensures mayFail (settle action) session (Program.Ends post never) := by
  refine Program.ensures_attempt_bind _ _ (ensures.mono ?_)
  rintro (error | result) final ends
  · exact Program.ensures_done _ ends
  · exact Program.ensures_done _ ends

theorem persistParseFailure_ensures (db : Database) (value : Bytes) (pos : SourcePosition)
    (error : EventError) :
    Program.Ensures mayFail (persistParseFailure value pos error) ⟨db, none, notes⟩
      (Program.Ends
        (fun result final =>
          result = { disposition := some .quarantinedInvalid, shouldAck := true } ∧
          ((parseFailureRow value pos error).texts.all storable &&
            decide ((mergeFailure (parseFailureRow value pos error)
              (db.platform.failures.find? pos)).attemptCount ≤ maxInteger)) = true ∧
          final = ⟨db.onPlatform (storeFailure (parseFailureRow value pos error)), none, notes⟩)
        fun _ final => final = ⟨db, none, notes⟩ ∧
          (mayFail = true ∨ ((parseFailureRow value pos error).texts.all storable &&
            decide ((mergeFailure (parseFailureRow value pos error)
              (db.platform.failures.find? pos)).attemptCount ≤ maxInteger)) = false)) := by
  have source : (parseFailureRow value pos error).source = pos := rfl
  rw [persistParseFailure]
  refine Program.Runs.inTransaction _ _ (Program.Runs.exec _ _ _ ?_ ?_)
  · intro choice refusal executed
    cases fit : (parseFailureRow value pos error).texts.all storable with
    | false => rfl
    | true =>
      simp only [upsertFailureStatement, command, statement, fit, if_true, source] at executed
      split_ifs at executed with exceeds
      · simpa using exceeds
  · intro choice answer change executed
    cases fit : (parseFailureRow value pos error).texts.all storable with
    | false => simp [upsertFailureStatement, command, statement, fit] at executed
    | true =>
      simp only [upsertFailureStatement, command, statement, fit, if_true, source] at executed
      split_ifs at executed with exceeds
      simp only [Except.ok.injEq, Prod.mk.injEq] at executed
      obtain ⟨-, rfl⟩ := executed
      refine Program.Runs.commitOr _ _ (Program.ensures_done _ ⟨_, rfl, rfl, ?_, rfl⟩)
      simpa using not_lt.mp exceeds

/-- One call of `ProcessRecord` does one of the listed things. -/
theorem processRecord_ensures (fuel : Nat) (key value : Bytes) (pos : SourcePosition)
    (db : Database) :
    Program.Ensures mayFail (processRecord fuel key value pos) ⟨db, none, notes⟩
      (Program.Ends
        (fun outcome final => ∃ sent platform,
          Processes mayFail fuel key value pos db.platform outcome sent platform ∧
          final = ⟨{ db with platform }, none, notes ++ sent⟩)
        fun _ _ => False) := by
  have position : (if pos.topic.isEmpty = true then { pos with topic := relayTopic } else pos) =
      recordPosition pos := rfl
  simp only [processRecord, position]
  cases parsed : parse value with
  | error error =>
    have fits : admits db.platform key value pos =
        ((parseFailureRow value (recordPosition pos) error).texts.all storable &&
          decide ((mergeFailure (parseFailureRow value (recordPosition pos) error)
            (db.platform.failures.find? (recordPosition pos))).attemptCount ≤ maxInteger)) := by
      rw [admits, parsed]
      rfl
    refine ensures_settle _ ((persistParseFailure_ensures db value _ error).mono ?_)
    rintro (cause | result) final ends
    · obtain ⟨rfl, why⟩ := ends
      exact ⟨[], db.platform, .failed cause (fits ▸ why), by simp⟩
    · obtain ⟨rfl, admitted, rfl⟩ := ends
      exact ⟨[], _, .unparsed error parsed (fits ▸ admitted), by simp [Database.onPlatform]⟩
  | ok env =>
    obtain ⟨payload, canonical, valid, written⟩ := parse_ok parsed
    have carries : Carries value env payload canonical := ⟨parsed, valid, written⟩
    have hash : ((contentHash env).toOption).getD [] = digest canonical := by
      rw [contentHash_of_canonical written]
      rfl
    simp only [isProjectionFamily_of_valid valid, projectionSelfID_of_valid valid, Bool.not_true,
      Bool.false_eq_true, if_false, ne_eq, not_true_eq_false, or_false]
    show Program.Ensures mayFail (ite (¬key = envelopeKey env) _ _) _ _
    by_cases ownKey : key = envelopeKey env
    · have fits : admits db.platform key value pos =
          accepts db.platform env (digest canonical) := by
        simp only [admits, parsed, if_pos ownKey, hash]
      rw [if_neg (not_not.mpr ownKey), processKeyed]
      refine Program.ensures_attempt_bind _ _ ((processValidated_ensures db valid written).mono ?_)
      rintro (cause | result) final ends
      · obtain ⟨rfl, why⟩ := ends
        exact Program.ensures_done _ ⟨[], db.platform, .failed cause (fits ▸ why), by simp⟩
      · obtain ⟨disposition, middle, decides, accepted, rfl, rfl⟩ := ends
        have admitted : admits db.platform key value pos = true := fits ▸ accepted
        simp only [decided_disposition, Option.some.injEq]
        by_cases settled : disposition = .applied ∨ disposition = .duplicateNoop
        · rw [if_pos settled]
          refine Program.ensures_attempt_bind _ _ ((redriveGaps_ensures _ _ _ fuel _).mono ?_)
          rintro (cause | result) final ⟨sent, last, redrives, rfl⟩
          · exact Program.ensures_done _ ⟨_, last, .interrupted env payload canonical carries ownKey
              disposition middle decides ((settled_iff _).mpr settled) sent last redrives admitted
              cause, by simp⟩
          · exact Program.ensures_done _ ⟨_, last, .redriven env payload canonical carries ownKey
              disposition middle decides ((settled_iff _).mpr settled) sent last redrives admitted,
              by simp⟩
        · have unsettled : disposition.settled = false :=
            Bool.eq_false_of_not_eq_true fun same => settled ((settled_iff _).mp same)
          rw [if_neg settled]
          refine Program.ensures_done _ ⟨[], middle, .quarantined env payload canonical carries
            ownKey disposition middle decides unsettled admitted, ?_⟩
          rw [appliedNotes_of_ne fun same => settled (Or.inl same)]
    · have fits : admits db.platform key value pos = storable env.aggregateID := by
        simp only [admits, parsed, if_neg ownKey]
      rw [if_pos ownKey]
      refine ensures_settle _ ((quarantineInbox_ensures db valid written _ (by decide)).mono ?_)
      rintro (cause | result) final ends
      · obtain ⟨rfl, why⟩ := ends
        exact ⟨[], db.platform, .failed cause (fits ▸ why), by simp⟩
      · obtain ⟨accepted, rfl, rfl⟩ := ends
        exact ⟨[], _, .misdelivered env payload canonical carries ownKey (fits ▸ accepted),
          by simp [Database.onPlatform]⟩

/-- A call that returns an error withholds the acknowledgement. -/
theorem Processes.unacknowledged {fuel : Nat} {key value : Bytes} {pos : SourcePosition}
    {platform final : Platform} {result : Result} {error : ProcessError}
    {sent : List AppliedUpdate}
    (processes : Processes mayFail fuel key value pos platform ⟨result, some error⟩ sent final) :
    result.shouldAck = false := by
  cases processes <;> rfl

/-- What a call does with an event under its own key: it fails and leaves no trace, it
quarantines the event, or it settles the event and re-drives behind it. -/
theorem Processes.own {fuel : Nat} {key value : Bytes} {pos : SourcePosition}
    {platform final : Platform} {outcome : Outcome} {sent : List AppliedUpdate} {env : Envelope}
    {payload : Payload} {canonical : Bytes}
    (processes : Processes mayFail fuel key value pos platform outcome sent final)
    (carries : Carries value env payload canonical) (ownKey : key = envelopeKey env) :
    (∃ error, outcome = ⟨{}, some error⟩ ∧ final = platform ∧
      (mayFail = true ∨ admits platform key value pos = false)) ∨
    (∃ disposition, Decides platform env (digest canonical) canonical payload disposition final ∧
      disposition.settled = false ∧ outcome = ⟨decided env disposition, none⟩) ∨
    ∃ disposition middle ended notes,
      Decides platform env (digest canonical) canonical payload disposition middle ∧
      disposition.settled = true ∧
      Redrives mayFail env.tenantID env.aggregateType env.aggregateID fuel middle ended notes
        final ∧
      outcome.result = { decided env disposition with shouldAck := ended } ∧
      (ended = true → outcome.error = none) := by
  cases processes with
  | failed error cause => exact Or.inl ⟨error, rfl, rfl, cause⟩
  | unparsed error refused =>
    rw [carries.parsed] at refused
    cases refused
  | misdelivered other otherPayload bytes read otherKey =>
    obtain ⟨rfl, -, -⟩ := carries.unique read
    exact absurd ownKey otherKey
  | quarantined other otherPayload bytes read _ disposition final decides unsettled =>
    obtain ⟨rfl, rfl, rfl⟩ := carries.unique read
    exact Or.inr (Or.inl ⟨disposition, decides, unsettled, rfl⟩)
  | redriven other otherPayload bytes read _ disposition middle decides settled notes _ redrives =>
    obtain ⟨rfl, rfl, rfl⟩ := carries.unique read
    exact Or.inr (Or.inr ⟨disposition, middle, true, notes, decides, settled, redrives, rfl,
      fun _ => rfl⟩)
  | interrupted other otherPayload bytes read _ disposition middle decides settled notes _
      redrives =>
    obtain ⟨rfl, rfl, rfl⟩ := carries.unique read
    exact Or.inr (Or.inr ⟨disposition, middle, false, notes, decides, settled, redrives, rfl,
      by simp⟩)

end Calls

end SeshatOps
