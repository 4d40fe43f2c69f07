/-
This file says what one transaction of the record processor can do.

`Decides` lists the outcomes of `processValidated` on a platform state: the disposition
that is returned and the state that is committed. `processValidated_ensures` derives
the list from the program: whatever requests the server loses, the call either commits
one of these outcomes or fails and commits nothing. It fails on its own account only
for a text that a column cannot hold, and `accepts` computes whether there is one.
Everything later about the processor goes through this list.
-/

import SeshatOps.Process

namespace SeshatOps

open Relational Event

/-! ### Texts that columns can hold -/

theorem storable_of_plain (text : Bytes) (plain : ∀ byte ∈ text, byte ≠ 0 ∧ byte < 0x80) :
    storable text = true := by
  simp only [storable, Bool.and_eq_true, Bool.not_eq_true', List.contains_eq_mem,
    decide_eq_false_iff_not]
  exact ⟨Utf8.validString_ascii fun byte member => (plain byte member).2,
    fun member => (plain 0 member).1 rfl⟩

theorem storable_uuid (text : Bytes) (matched : matchesUUID text = true) :
    storable text = true :=
  storable_of_plain text fun byte member =>
    (visible_of_uuid matched byte member).imp_right And.left

theorem storable_digest (bytes : Bytes) : storable (digest bytes) = true := by
  have digit : ∀ value < 16, Hex.digit value ≠ 0 ∧ Hex.digit value < 0x80 := by decide
  refine storable_of_plain _ fun byte member => ?_
  simp only [digest, Hex.encodeToString, List.mem_flatMap, List.mem_cons, List.not_mem_nil,
    or_false] at member
  obtain ⟨source, _, rfl | rfl⟩ := member
  · exact digit _ (by have := source.toNat_lt; omega)
  · exact digit _ (Nat.mod_lt _ (by decide))

theorem storable_aggregateType (payload : Payload) : storable payload.aggregateType = true := by
  cases payload <;> rfl

/-! ### What a transaction can do -/

/-- The version of an item's projection, 0 before the first event. -/
def projectedVersion (platform : Platform) (key : Bytes × Bytes) : Int :=
  (platform.projection.find? key).elim 0 ProjectionRow.aggregateVersion

/-- The version of a hop's row, 0 before the first event. -/
def lineageVersion (platform : Platform) (key : HopKind × Bytes × Bytes) : Int :=
  (platform.lineage.find? key).elim 0 LineageRow.aggregateVersion

/-- The outcomes of an event that no earlier decision settles, by the family of its payload:
the disposition and the state it leaves. -/
inductive Applies (platform : Platform) (env : Envelope) (hash canonical : Bytes) :
    Payload → Disposition → Platform → Prop
  | gap (quantity : QuantityDecremented)
      (ahead : projectedVersion platform (env.tenantID, env.aggregateID) + 1 <
        env.aggregateVersion) :
      Applies platform env hash canonical (.quantityDecremented quantity) .quarantinedGap
        (storeInbox (versionedRow env hash .quarantinedGap
          (projectedVersion platform (env.tenantID, env.aggregateID) + 1) canonical) platform)
  | stale (quantity : QuantityDecremented) (current : ProjectionRow)
      (found : platform.projection.find? (env.tenantID, env.aggregateID) = some current)
      (behind : env.aggregateVersion ≤ current.aggregateVersion) :
      Applies platform env hash canonical (.quantityDecremented quantity) .quarantinedStale
        (storeInbox (versionedRow env hash .quarantinedStale (current.aggregateVersion + 1) [])
          platform)
  | transition (quantity : QuantityDecremented) (current : ProjectionRow)
      (found : platform.projection.find? (env.tenantID, env.aggregateID) = some current)
      (next : env.aggregateVersion = current.aggregateVersion + 1)
      (other : quantity.quantityBefore ≠ current.quantityOnHand) :
      Applies platform env hash canonical (.quantityDecremented quantity) .quarantinedTransition
        (storeInbox (inboxRow env hash .quarantinedTransition) platform)
  | applied (quantity : QuantityDecremented)
      (next : env.aggregateVersion =
        projectedVersion platform (env.tenantID, env.aggregateID) + 1)
      (continues : ∀ current,
        platform.projection.find? (env.tenantID, env.aggregateID) = some current →
          quantity.quantityBefore = current.quantityOnHand) :
      Applies platform env hash canonical (.quantityDecremented quantity) .applied
        (storeInbox (inboxRow env hash .applied) (storeProjection
          ⟨env.tenantID, env.aggregateID, quantity.quantityAfter, env.aggregateVersion⟩ platform))
  | hopGap (payload : Payload) (hop : Hop) (described : payloadHop env.tenantID payload = some hop)
      (ahead : lineageVersion platform hop.key + 1 < env.aggregateVersion) :
      Applies platform env hash canonical payload .quarantinedGap
        (storeInbox (versionedRow env hash .quarantinedGap (lineageVersion platform hop.key + 1)
          canonical) platform)
  | hopStale (payload : Payload) (hop : Hop)
      (described : payloadHop env.tenantID payload = some hop) (current : LineageRow)
      (found : platform.lineage.find? hop.key = some current)
      (behind : env.aggregateVersion ≤ current.aggregateVersion)
      (foreign : current.sourceEventID ≠ env.eventID) :
      Applies platform env hash canonical payload .quarantinedStale
        (storeInbox (versionedRow env hash .quarantinedStale (current.aggregateVersion + 1) [])
          platform)
  | hopDuplicate (payload : Payload) (hop : Hop)
      (described : payloadHop env.tenantID payload = some hop) (current : LineageRow)
      (found : platform.lineage.find? hop.key = some current)
      (behind : env.aggregateVersion ≤ current.aggregateVersion)
      (own : current.sourceEventID = env.eventID) :
      Applies platform env hash canonical payload .duplicateNoop
        (storeInbox (inboxRow env hash .duplicateNoop) platform)
  | hopInvalid (payload : Payload) (hop : Hop)
      (described : payloadHop env.tenantID payload = some hop) (current : LineageRow)
      (found : platform.lineage.find? hop.key = some current)
      (next : env.aggregateVersion = current.aggregateVersion + 1) :
      Applies platform env hash canonical payload .quarantinedInvalid
        (storeInbox (versionedRow env hash .quarantinedInvalid (current.aggregateVersion + 1) [])
          platform)
  | hopApplied (payload : Payload) (hop : Hop)
      (described : payloadHop env.tenantID payload = some hop) (first : env.aggregateVersion = 1)
      (absent : platform.lineage.find? hop.key = none) (free : platform.hasClash hop = false) :
      Applies platform env hash canonical payload .applied
        (storeInbox (inboxRow env hash .applied)
          { platform with lineage := platform.lineage.store (lineageRow env hop) })
  | hopClash (payload : Payload) (hop : Hop)
      (described : payloadHop env.tenantID payload = some hop) (first : env.aggregateVersion = 1)
      (absent : platform.lineage.find? hop.key = none) (taken : platform.hasClash hop = true) :
      Applies platform env hash canonical payload .quarantinedInvalid
        (storeInbox (inboxRow env hash .quarantinedInvalid) platform)

/-- An event with no decision yet, or with a retained gap of the same content. -/
def Undecided (platform : Platform) (env : Envelope) (hash : Bytes) : Prop :=
  ∀ existing, platform.inbox.find? env.eventID = some existing →
    existing.contentHash = hash ∧ existing.disposition = .quarantinedGap

/-- The outcomes of one transaction of `processValidated`. -/
inductive Decides (platform : Platform) (env : Envelope) (hash canonical : Bytes)
    (payload : Payload) : Disposition → Platform → Prop
  | conflict (existing : InboxRow) (found : platform.inbox.find? env.eventID = some existing)
      (differs : existing.contentHash ≠ hash) :
      Decides platform env hash canonical payload .quarantinedConflict
        (storeInbox (inboxRow env existing.contentHash .quarantinedConflict) platform)
  | duplicate (existing : InboxRow) (found : platform.inbox.find? env.eventID = some existing)
      (same : existing.contentHash = hash) (settled : existing.disposition.settled = true) :
      Decides platform env hash canonical payload .duplicateNoop
        (storeInbox (inboxRow env hash .duplicateNoop) platform)
  | terminal (existing : InboxRow) (found : platform.inbox.find? env.eventID = some existing)
      (same : existing.contentHash = hash) (unsettled : existing.disposition.settled = false)
      (noGap : existing.disposition ≠ .quarantinedGap) :
      Decides platform env hash canonical payload existing.disposition platform
  | fresh (undecided : Undecided platform env hash) (disposition : Disposition)
      (final : Platform) (applies : Applies platform env hash canonical payload disposition final) :
      Decides platform env hash canonical payload disposition final

/-! ### Which events the columns can hold -/

/-- The text of a hop's row, where the event would insert one. -/
def hopAccepts (platform : Platform) (env : Envelope) : Bool :=
  match env.payload.bind (payloadHop env.tenantID) with
  | none => true
  | some hop =>
      if env.aggregateVersion = 1 ∧ platform.lineage.find? hop.key = none then
        (lineageRow env hop).texts.all storable
      else true

/-- Every text that the transaction would pass as a parameter can be one. -/
def accepts (platform : Platform) (env : Envelope) (hash : Bytes) : Bool :=
  match platform.inbox.find? env.eventID with
  | none => storable env.aggregateID && hopAccepts platform env
  | some existing =>
      if existing.contentHash ≠ hash then
        storable existing.contentHash && storable env.aggregateID
      else if existing.disposition.settled then storable env.aggregateID
      else if existing.disposition = .quarantinedGap then
        storable env.aggregateID && hopAccepts platform env
      else true

/-! ### Running the transaction -/

section Execution

variable {Value : Type} {mayFail : Bool} {cause : Prop} {base view : Database}
  {notes : List AppliedUpdate} {post : Value → Program.Session Database AppliedUpdate → Prop}
  {env : Envelope} {payload : Payload} {hash canonical : Bytes}

/-- An inbox row that carries the identity of an envelope. -/
structure InboxRow.Of (row : InboxRow) (env : Envelope) : Prop where
  eventID : row.eventID = env.eventID
  tenantID : row.tenantID = env.tenantID
  aggregateType : row.aggregateType = env.aggregateType
  aggregateID : row.aggregateID = env.aggregateID
  aggregateVersion : row.aggregateVersion = env.aggregateVersion

theorem inboxRow_of (disposition : Disposition) : (inboxRow env hash disposition).Of env :=
  ⟨rfl, rfl, rfl, rfl, rfl⟩

theorem versionedRow_of (disposition : Disposition) (expected : Int) (bytes : Bytes) :
    (versionedRow env hash disposition expected bytes).Of env :=
  ⟨rfl, rfl, rfl, rfl, rfl⟩

/-- Writing the inbox row of a valid envelope. -/
theorem record_runs (valid : Valid env payload) (row : InboxRow) (of : row.Of env)
    (continuation : Disposition → Action Value)
    (refused : (storable row.contentHash && storable env.aggregateID) = false → cause)
    (written : (storable row.contentHash && storable env.aggregateID) = true →
      Program.Runs mayFail cause (continuation row.disposition) base
        (view.onPlatform (storeInbox row)) notes post) :
    Program.Runs mayFail cause (record row >>= continuation) base view notes post := by
  have texts : [row.eventID, row.tenantID, row.contentHash, row.aggregateType,
      row.aggregateID].all storable = (storable row.contentHash && storable env.aggregateID) := by
    simp [of.eventID, of.tenantID, of.aggregateType, of.aggregateID, storable_uuid _ valid.eventID,
      storable_uuid _ valid.tenantID, valid.aggregateType, storable_aggregateType]
  have allowed : ¬ row.aggregateVersion < 1 := by
    rw [of.aggregateVersion]
    exact not_lt.mpr valid.version.1
  rw [record, upsertInbox, upsertInboxStatement, bind_assoc]
  refine runs_command _ _ _ _ _ _ (if_neg allowed) ?_ ?_
  · rw [texts]
    exact refused
  · rw [texts]
    exact fun fit => by simpa using written fit

/-- The inbox row that ends every branch of an applied event. -/
theorem recorded_runs (valid : Valid env payload) (stored : storable hash = true)
    (continuation : Disposition → Action Value) (refused : storable env.aggregateID = false → cause)
    {fits : Prop} (decided : ∀ disposition platform,
      Applies view.platform env hash canonical payload disposition platform → fits →
      Program.Runs mayFail cause (continuation disposition) base { view with platform } notes post)
    (row : InboxRow) (between : Database) (of : row.Of env) (sameHash : row.contentHash = hash)
    (fit : fits) (applies : Applies view.platform env hash canonical payload row.disposition
      (storeInbox row between.platform)) (sameErp : between.erp = view.erp) :
    Program.Runs mayFail cause (record row >>= continuation) base between notes post := by
  refine record_runs valid row of continuation ?_ fun _ => ?_
  · intro blocked
    exact refused (by simpa [sameHash, stored] using blocked)
  · have same : between.onPlatform (storeInbox row) =
        { view with platform := storeInbox row between.platform } := by
      simp [Database.onPlatform, ← sameErp]
    rw [same]
    exact decided _ _ applies fit

theorem applyProjection_runs (quantity : QuantityDecremented)
    (valid : Valid env (.quantityDecremented quantity)) (stored : storable hash = true)
    (continuation : Disposition → Action Value)
    (refused : storable env.aggregateID = false → cause)
    (decided : ∀ disposition platform,
      Applies view.platform env hash canonical (.quantityDecremented quantity) disposition
        platform → storable env.aggregateID = true →
      Program.Runs mayFail cause (continuation disposition) base { view with platform } notes
        post) :
    Program.Runs mayFail cause (applyProjection env hash canonical >>= continuation) base view
      notes post := by
  have texts : [env.tenantID, env.aggregateID].all storable = storable env.aggregateID := by
    simp [storable_uuid _ valid.tenantID]
  have positive := valid.version.1
  have payload : asQuantityDecremented env = some quantity := by
    simp [asQuantityDecremented, valid.carried]
  have numbers := valid.fits.numbers
  simp only [Payload.numbers, List.forall_mem_cons] at numbers
  have recorded := recorded_runs valid stored continuation refused decided
  rw [applyProjection, payload]
  simp only [bind_assoc]
  refine runs_query _ _ _ _ _ (fun blocked => refused (texts ▸ blocked)) fun fit _ => ?_
  rw [texts] at fit
  have version : projectedVersion view.platform (env.tenantID, env.aggregateID) =
      (view.platform.projection.find? (env.tenantID, env.aggregateID)).elim 0
        ProjectionRow.aggregateVersion := rfl
  cases found : view.platform.projection.find? (env.tenantID, env.aggregateID) with
  | none =>
    rw [found, Option.elim_none] at version
    dsimp only
    split_ifs with other
    · refine recorded _ view (versionedRow_of _ _ _) rfl fit ?_ rfl
      rw [show (1 : Int) = projectedVersion view.platform (env.tenantID, env.aggregateID) + 1
        by omega]
      exact .gap quantity (by omega)
    · have first : env.aggregateVersion = 1 := not_not.mp other
      have row : (⟨env.tenantID, env.aggregateID, quantity.quantityAfter, 1⟩ : ProjectionRow) =
          ⟨env.tenantID, env.aggregateID, quantity.quantityAfter, env.aggregateVersion⟩ := by
        rw [first]
      rw [bind_assoc, insertProjection, insertProjectionStatement]
      refine runs_command _ _ _ _ _ _ ?_ (fun blocked => refused (texts ▸ blocked)) fun _ => ?_
      · have allowed : ProjectionRow.allowed ⟨env.tenantID, env.aggregateID,
            quantity.quantityAfter, 1⟩ = true := by
          simp [ProjectionRow.allowed, numbers.2.2.1.1]
        simp [allowed, ProjectionRow.key_mk, found]
      · refine recorded _ _ (inboxRow_of _) rfl fit ?_ rfl
        rw [row]
        refine .applied quantity (by omega) fun current present => ?_
        rw [found] at present
        cases present
  | some current =>
    rw [found, Option.elim_some] at version
    dsimp only
    split_ifs with behind ahead other arithmetic
    · exact recorded _ view (versionedRow_of _ _ _) rfl fit (.stale quantity current found behind)
        rfl
    · refine recorded _ view (versionedRow_of _ _ _) rfl fit ?_ rfl
      rw [← version]
      exact .gap quantity (by omega)
    · exact recorded _ view (inboxRow_of _) rfl fit
        (.transition quantity current found (by omega) other) rfl
    · exact absurd (valid.fits.arithmetic quantity rfl) arithmetic
    · rw [bind_assoc, updateProjection, updateProjectionStatement]
      refine runs_command _ _ _ _ _ _ ?_ (fun blocked => refused (texts ▸ blocked)) fun _ => ?_
      · have allowed : ProjectionRow.allowed ⟨env.tenantID, env.aggregateID,
            quantity.quantityAfter, env.aggregateVersion⟩ = true := by
          simp only [ProjectionRow.allowed, Bool.and_eq_true, decide_eq_true_eq]
          exact ⟨numbers.2.2.1.1, by omega⟩
        simp [allowed]
      · refine recorded _ _ (inboxRow_of _) rfl fit ?_ rfl
        have present : (view.platform.projection.find? (ProjectionRow.key ⟨env.tenantID,
            env.aggregateID, quantity.quantityAfter, env.aggregateVersion⟩)).isSome = true := by
          rw [ProjectionRow.key_mk, found]
          rfl
        rw [Database.onPlatform_platform, if_pos present]
        refine .applied quantity (by omega) fun current' present => ?_
        rw [found] at present
        cases present
        exact not_not.mp other

/-- A hop is keyed by the aggregate that its payload names. -/
theorem payloadHop_key (valid : Valid env payload) {hop : Hop}
    (described : payloadHop env.tenantID payload = some hop) :
    hop.key = (hop.kind, env.tenantID, env.aggregateID) ∧
      hopKind env.eventType = some hop.kind := by
  have self := valid.fits.selfID
  rw [valid.fits.eventType]
  cases payload <;> cases described <;> exact ⟨by rw [← self]; rfl, rfl⟩

theorem hopAccepts_of_hop (valid : Valid env payload) {hop : Hop}
    (described : payloadHop env.tenantID payload = some hop) (platform : Platform) :
    hopAccepts platform env =
      if env.aggregateVersion = 1 ∧ platform.lineage.find? hop.key = none then
        (lineageRow env hop).texts.all storable
      else true := by
  simp [hopAccepts, valid.carried, described]

theorem applyLineage_runs (valid : Valid env payload) (hop : Hop)
    (described : payloadHop env.tenantID payload = some hop) (stored : storable hash = true)
    (continuation : Disposition → Action Value)
    (refused : (storable env.aggregateID && hopAccepts view.platform env) = false → cause)
    (decided : ∀ disposition platform,
      Applies view.platform env hash canonical payload disposition platform →
      (storable env.aggregateID && hopAccepts view.platform env) = true →
      Program.Runs mayFail cause (continuation disposition) base { view with platform } notes
        post) :
    Program.Runs mayFail cause (applyLineage hop.kind env hash canonical >>= continuation) base
      view notes post := by
  obtain ⟨key, -⟩ := payloadHop_key valid described
  have accepts := hopAccepts_of_hop valid described view.platform
  have texts : [hop.key.2.1, hop.key.2.2].all storable = storable env.aggregateID := by
    simp [key, storable_uuid _ valid.tenantID]
  have positive := valid.version.1
  have blocked : storable env.aggregateID = false → cause :=
    fun unfit => refused (by simp [unfit])
  have recorded := recorded_runs valid stored continuation blocked decided
  rw [applyLineage, ← key]
  simp only [bind_assoc, lockLineageVersion, lockLineageStatement, pure_bind]
  refine runs_query _ _ _ _ _ (fun unfit => blocked (texts ▸ unfit)) fun fit _ => ?_
  replace fit : storable env.aggregateID = true := texts ▸ fit
  have version : lineageVersion view.platform hop.key =
      (view.platform.lineage.find? hop.key).elim 0 LineageRow.aggregateVersion := rfl
  -- The query for the source event has the parameters of the lock.
  have ownEvent : ∀ between : Database, ∀ next : Option Bytes → Action Value,
      Program.Runs mayFail cause
        (next ((between.platform.lineage.find? hop.key).map LineageRow.sourceEventID)) base between
        notes post →
      Program.Runs mayFail cause (lineageSourceEventID hop.key >>= next) base between notes
        post := by
    intro between next runs
    exact runs_query _ _ _ _ _ (fun unfit => blocked (texts ▸ unfit)) fun _ _ => runs
  cases found : view.platform.lineage.find? hop.key with
  | some current =>
    rw [found, Option.elim_some] at version
    have fits : (storable env.aggregateID && hopAccepts view.platform env) = true := by
      simp [fit, accepts, found]
    simp only [Option.map_some]
    by_cases behind : env.aggregateVersion ≤ current.aggregateVersion
    · have disposition : lineageExistingDisposition current.aggregateVersion
          env.aggregateVersion = .quarantinedStale := if_pos behind
      rw [disposition, if_pos rfl, bind_assoc]
      refine ownEvent view _ ?_
      rw [found]
      simp only [Option.map_some, Option.some.injEq]
      split_ifs with own
      · exact recorded _ view (inboxRow_of _) rfl fits
          (.hopDuplicate payload hop described current found behind own) rfl
      · exact recorded _ view (versionedRow_of _ _ _) rfl fits
          (.hopStale payload hop described current found behind own) rfl
    · by_cases ahead : env.aggregateVersion > current.aggregateVersion + 1
      · have disposition : lineageExistingDisposition current.aggregateVersion
            env.aggregateVersion = .quarantinedGap := by
          rw [lineageExistingDisposition, if_neg behind, if_pos ahead]
        rw [disposition, if_neg (by decide), if_neg (by simp)]
        refine recorded _ view (versionedRow_of _ _ _) rfl fits ?_ rfl
        rw [← version]
        exact .hopGap payload hop described (by omega)
      · have disposition : lineageExistingDisposition current.aggregateVersion
            env.aggregateVersion = .quarantinedInvalid := by
          rw [lineageExistingDisposition, if_neg behind, if_neg ahead]
        rw [disposition, if_neg (by decide), if_neg (by simp)]
        exact recorded _ view (versionedRow_of _ _ _) rfl fits
          (.hopInvalid payload hop described current found (by omega)) rfl
  | none =>
    rw [found, Option.elim_none] at version
    simp only [Option.map_none]
    by_cases first : env.aggregateVersion = 1
    · have hopTexts : hopAccepts view.platform env = (lineageRow env hop).texts.all storable := by
        rw [accepts, if_pos ⟨first, found⟩]
      have inserts : insertLineageHop hop.kind env = Program.exec
          (insertLineageStatement (lineageRow env hop)) (.transient (.insertLineage hop.kind)) := by
        simp [insertLineageHop, valid.carried, described]
      have positiveRow : ¬ (lineageRow env hop).aggregateVersion < 1 := not_lt.mpr positive
      rw [if_neg (not_not.mpr first), bind_assoc, inserts]
      refine Program.Runs.exec _ _ _ ?_ ?_
      · intro choice error executed
        refine refused ?_
        cases fitsHop : (lineageRow env hop).texts.all storable with
        | true => simp [insertLineageStatement, statement, fitsHop, positiveRow] at executed
        | false => simp [hopTexts, fitsHop]
      · intro choice inserted change executed
        cases fitsHop : (lineageRow env hop).texts.all storable with
        | false => simp [insertLineageStatement, statement, fitsHop] at executed
        | true =>
          have fits : (storable env.aggregateID && hopAccepts view.platform env) = true := by
            rw [hopTexts, fit, fitsHop]
            rfl
          simp only [insertLineageStatement, statement, fitsHop, if_true, positiveRow, if_false,
            Except.ok.injEq, Prod.mk.injEq] at executed
          obtain ⟨rfl, rfl⟩ := executed
          cases clash : view.platform.hasClash hop with
          | false =>
            have inserted : view.platform.hasClash (lineageRow env hop).hop = false := clash
            simp only [inserted, Bool.not_false, if_true]
            refine recorded _ _ (inboxRow_of _) rfl fits ?_ rfl
            rw [Database.onPlatform_platform, storeLineage, inserted]
            exact .hopApplied payload hop described first found clash
          | true =>
            have kept : view.platform.hasClash (lineageRow env hop).hop = true := clash
            have unchanged : view.onPlatform (storeLineage (lineageRow env hop)) = view := by
              simp [Database.onPlatform, storeLineage, kept]
            simp only [kept, Bool.not_true, Bool.false_eq_true, if_false, unchanged, bind_assoc]
            refine ownEvent view _ ?_
            rw [found]
            simp only [Option.map_none, reduceCtorEq, if_false]
            exact recorded _ view (inboxRow_of _) rfl fits
              (.hopClash payload hop described first found clash) rfl
    · have fits : (storable env.aggregateID && hopAccepts view.platform env) = true := by
        simp [fit, accepts, first]
      rw [if_pos first]
      refine recorded _ view (versionedRow_of _ _ _) rfl fits ?_ rfl
      rw [show (1 : Int) = lineageVersion view.platform hop.key + 1 by omega]
      exact .hopGap payload hop described (by omega)

theorem applyEvent_runs (valid : Valid env payload) (stored : storable hash = true)
    (continuation : Disposition → Action Value)
    (refused : (storable env.aggregateID && hopAccepts view.platform env) = false → cause)
    (decided : ∀ disposition platform,
      Applies view.platform env hash canonical payload disposition platform →
      (storable env.aggregateID && hopAccepts view.platform env) = true →
      Program.Runs mayFail cause (continuation disposition) base { view with platform } notes
        post) :
    Program.Runs mayFail cause (applyEvent env hash canonical >>= continuation) base view notes
      post := by
  cases described : payloadHop env.tenantID payload with
  | none =>
    cases payload with
    | quantityDecremented quantity =>
      have accepts : hopAccepts view.platform env = true := by
        simp [hopAccepts, valid.carried, payloadHop]
      simp only [accepts, Bool.and_true] at refused decided
      have type : env.eventType = eventTypeQuantityDecremented := valid.fits.eventType
      rw [applyEvent, if_pos type]
      exact applyProjection_runs quantity valid stored continuation refused decided
    | _ => cases described
  | some hop =>
    obtain ⟨-, kind⟩ := payloadHop_key valid described
    have other : env.eventType ≠ eventTypeQuantityDecremented := by
      intro same
      rw [same] at kind
      cases kind
    rw [applyEvent, if_neg other, kind]
    exact applyLineage_runs valid hop described stored continuation refused decided

theorem decided_disposition (disposition : Disposition) :
    (decided env disposition).disposition = some disposition := rfl

/-- What the readers of the projection are told about a decision. -/
def appliedNotes (env : Envelope) (payload : Payload) (disposition : Disposition) :
    List AppliedUpdate :=
  match payload with
  | .quantityDecremented quantity =>
      if disposition = .applied then
        [⟨env.tenantID, env.aggregateID, quantity.quantityAfter, env.aggregateVersion,
          env.eventID⟩]
      else []
  | _ => []

theorem appliedNotes_of_ne {disposition : Disposition} (other : disposition ≠ .applied) :
    appliedNotes env payload disposition = [] := by
  cases payload <;> simp [appliedNotes, other]

/-- Only the inventory payload has the inventory event type. -/
theorem eventType_eq_quantity (payload : Payload) :
    payload.eventType = eventTypeQuantityDecremented ↔
      ∃ quantity, payload = .quantityDecremented quantity := by
  cases payload with
  | quantityDecremented quantity => exact ⟨fun _ => ⟨quantity, rfl⟩, fun _ => rfl⟩
  | supplierRegistered | ingredientLotReceived | productionBatchProduced | shipmentDispatched =>
    simp only [Payload.eventType, reduceCtorEq, exists_false, iff_false]
    decide

theorem applyAndCommit_runs (valid : Valid env payload) (stored : storable hash = true)
    {done : Result → Program.Session Database AppliedUpdate → Prop}
    (refused : (storable env.aggregateID && hopAccepts view.platform env) = false → cause)
    (finished : ∀ disposition platform,
      Applies view.platform env hash canonical payload disposition platform →
      (storable env.aggregateID && hopAccepts view.platform env) = true →
      done (decided env disposition)
        ⟨{ view with platform }, none, notes ++ appliedNotes env payload disposition⟩) :
    Program.Runs mayFail cause (applyAndCommit env hash canonical) base view notes done := by
  rw [applyAndCommit]
  refine applyEvent_runs valid stored _ refused fun disposition platform applies fit => ?_
  have final := finished disposition platform applies fit
  refine Program.Runs.commitOr _ _ ?_
  by_cases notified : disposition = .applied ∧ env.eventType = eventTypeQuantityDecremented
  · obtain ⟨quantity, rfl⟩ :=
      (eventType_eq_quantity payload).mp (valid.fits.eventType ▸ notified.2)
    have carried : asQuantityDecremented env = some quantity := by
      simp [asQuantityDecremented, valid.carried]
    rw [if_pos notified, carried]
    refine Program.ensures_emit _ _ (Program.ensures_done _ ⟨_, rfl, ?_⟩)
    simpa [appliedNotes, notified.1] using final
  · rw [if_neg notified]
    refine Program.ensures_done _ ⟨_, rfl, ?_⟩
    have silent : appliedNotes env payload disposition = [] := by
      cases payload with
      | quantityDecremented quantity =>
        exact appliedNotes_of_ne fun same => notified ⟨same, valid.fits.eventType⟩
      | _ => rfl
    simpa [silent] using final

theorem recordAndCommit_runs (valid : Valid env payload) (row : InboxRow) (of : row.Of env)
    {done : Result → Program.Session Database AppliedUpdate → Prop}
    (refused : (storable row.contentHash && storable env.aggregateID) = false → cause)
    (finished : (storable row.contentHash && storable env.aggregateID) = true →
      done (decided env row.disposition) ⟨view.onPlatform (storeInbox row), none, notes⟩) :
    Program.Runs mayFail cause (recordAndCommit env row) base view notes done := by
  rw [recordAndCommit]
  refine record_runs valid row of _ refused fun fit => ?_
  exact Program.Runs.commitOr _ _ (Program.ensures_done _ ⟨_, rfl, finished fit⟩)

/-- One call of `processValidated` commits one of the listed decisions, or fails and changes
nothing. Without a lost request it fails exactly when a text cannot be stored. -/
theorem processValidated_ensures (db : Database) (valid : Valid env payload)
    (written : canonicalBytes env = .ok canonical) :
    Program.Ensures mayFail (processValidated env) ⟨db, none, notes⟩
      (Program.Ends
        (fun value final => ∃ disposition platform,
          Decides db.platform env (digest canonical) canonical payload disposition platform ∧
          accepts db.platform env (digest canonical) = true ∧
          value = decided env disposition ∧
          final = ⟨{ db with platform }, none, notes ++ appliedNotes env payload disposition⟩)
        fun _ final => final = ⟨db, none, notes⟩ ∧
          (mayFail = true ∨ accepts db.platform env (digest canonical) = false)) := by
  have stored := storable_digest canonical
  have hashed : contentHash env = .ok (digest canonical) := by
    rw [contentHash_eq, written]
    rfl
  have eventText : [env.eventID].all storable = true := by
    simp [storable_uuid _ valid.eventID]
  simp only [processValidated, hashed, written, checked, Program.done_ok_bind]
  refine Program.Runs.inTransaction _ _ ?_
  refine runs_query _ _ _ _ _ (fun unfit => absurd unfit (by rw [eventText]; decide)) ?_
  intro _ _
  cases found : db.platform.inbox.find? env.eventID with
  | none =>
    have fits : accepts db.platform env (digest canonical) =
        (storable env.aggregateID && hopAccepts db.platform env) := by
      rw [accepts, found]
    refine applyAndCommit_runs valid stored (fun unfit => fits ▸ unfit) ?_
    intro disposition platform applies fit
    refine ⟨disposition, platform, .fresh ?_ _ _ applies, fits ▸ fit, rfl, rfl⟩
    intro existing present
    rw [found] at present
    cases present
  | some existing =>
    dsimp only
    split_ifs with differs settled gap
    · have fits : accepts db.platform env (digest canonical) =
          (storable existing.contentHash && storable env.aggregateID) := by
        simp only [accepts, found, if_pos differs]
      refine recordAndCommit_runs valid _ (inboxRow_of _) (fun unfit => fits ▸ unfit) fun fit => ?_
      refine ⟨_, _, .conflict existing found differs, fits ▸ fit, rfl, ?_⟩
      rw [appliedNotes_of_ne (by decide), List.append_nil]
      rfl
    · have same := not_not.mp differs
      have fits : accepts db.platform env (digest canonical) = storable env.aggregateID := by
        simp only [accepts, found, if_neg differs, if_pos settled]
      refine recordAndCommit_runs valid _ (inboxRow_of _) (fun unfit => ?_) fun fit => ?_
      · rw [fits]
        simpa [inboxRow, stored] using unfit
      refine ⟨_, _, .duplicate existing found same settled, ?_, rfl, ?_⟩
      · rw [fits]
        simpa [inboxRow, stored] using fit
      · rw [appliedNotes_of_ne (by decide), List.append_nil]
        rfl
    · have same := not_not.mp differs
      have fits : accepts db.platform env (digest canonical) =
          (storable env.aggregateID && hopAccepts db.platform env) := by
        simp only [accepts, found, if_neg differs, if_neg settled, if_pos gap]
      refine applyAndCommit_runs valid stored (fun unfit => fits ▸ unfit) ?_
      intro disposition platform applies fit
      refine ⟨disposition, platform, .fresh ?_ _ _ applies, fits ▸ fit, rfl, rfl⟩
      intro other present
      rw [found] at present
      cases present
      exact ⟨same, gap⟩
    · have same := not_not.mp differs
      have unsettled := Bool.eq_false_of_not_eq_true settled
      have fits : accepts db.platform env (digest canonical) = true := by
        simp only [accepts, found, if_neg differs, if_neg settled, if_neg gap]
      refine Program.Runs.commitOr _ _ (Program.ensures_done _ ⟨_, rfl, ?_⟩)
      refine ⟨_, _, .terminal existing found same unsettled gap, fits, rfl, ?_⟩
      have other : existing.disposition ≠ .applied := by
        intro isApplied
        rw [isApplied] at settled
        exact settled rfl
      rw [appliedNotes_of_ne other, List.append_nil]
      rfl

end Execution

end SeshatOps
