/-
This file relates the inbox to the projection: which inbox rows account for the events
that the projection has applied.

An applied event keeps its inbox row, with its identity and its content hash, as long as
nothing else is delivered under its identifier: no other content, and nothing under a
foreign key. A settled inbox row of an inventory item, in turn, belongs to the event
that was applied at its version, and one of a hop to a first version. The one exception is
an identifier under which two contents of one hash were delivered, which the digest rules out in
practice but not in the model.
-/

import SeshatOps.History

namespace SeshatOps

open Relational Event

/-! ### Accounting for applied events -/

/-- Two different events of one identifier and one content hash were delivered. -/
def Collides (delivered : Envelope → Prop) (eventID : Bytes) : Prop :=
  ∃ first second, delivered first ∧ delivered second ∧ first.eventID = eventID ∧
    second.eventID = eventID ∧ first ≠ second ∧ contentHash first = contentHash second

/-- An inbox row that accounts for an event. -/
structure InboxRow.Settles (entry : InboxRow) (env : Envelope) : Prop where
  of : entry.Of env
  settled : entry.disposition.settled = true
  hash : Event.contentHash env = .ok entry.contentHash

/-- The place of an event in the log of its item. The event of a hop has none, and is a first
version. -/
structure Log.Places (log : Log) (entry : InboxRow) (env : Envelope) : Prop where
  item : entry.aggregateType = aggregateTypeInventoryItem → ∃ index : Nat,
    (log (entry.tenantID, entry.aggregateID))[index]? = some env ∧
      entry.aggregateVersion = index + 1
  hop : entry.aggregateType ≠ aggregateTypeInventoryItem → entry.aggregateVersion = 1

/-- The inbox accounts for the log: undisturbed applied events have their rows, and the settled
rows have their events. -/
structure Accounted (delivered undisturbed : Envelope → Prop) (log : Log) (platform : Platform) :
    Prop where
  entries : ∀ key, ∀ env ∈ log key, undisturbed env →
    ∃ entry, platform.inbox.find? env.eventID = some entry ∧ entry.Settles env
  sources : ∀ entry ∈ platform.inbox.rows, entry.disposition.settled = true →
    ∃ env, delivered env ∧ entry.Settles env ∧
      (log.Places entry env ∨ Collides delivered entry.eventID)

section Steps

variable {delivered undisturbed : Envelope → Prop} {log : Log} {platform final : Platform}
  {env : Envelope} {payload : Payload} {canonical : Bytes} {disposition : Disposition}

theorem Log.Extends.places {later earlier : Log} (longer : later.Extends earlier)
    {entry : InboxRow} (places : earlier.Places entry env) : later.Places entry env := by
  refine ⟨fun item => ?_, places.hop⟩
  obtain ⟨index, found, version⟩ := places.item item
  obtain ⟨added, extended⟩ := longer (entry.tenantID, entry.aggregateID)
  refine ⟨index, ?_, version⟩
  rw [extended, List.getElem?_append_left (List.getElem?_eq_some_iff.mp found).1]
  exact found

/-- Writing the row of a delivered event keeps the entries of the log, when the row settles the
event or the event was not settled before. -/
theorem Accounted.entries_store (accounted : Accounted delivered undisturbed log platform)
    (alone : ∀ env other, undisturbed env → delivered other → other.eventID = env.eventID →
      other = env)
    (known : delivered env) (written : canonicalBytes env = .ok canonical) {row : InboxRow}
    (of : row.Of env)
    (fair : row.Settles env ∨ ∀ existing, platform.inbox.find? env.eventID = some existing →
      existing.contentHash = digest canonical → existing.disposition.settled = false)
    {key : Bytes × Bytes} {event : Envelope} (member : event ∈ log key)
    (quiet : undisturbed event) :
    ∃ entry, (platform.inbox.store row).find? event.eventID = some entry ∧
      entry.Settles event := by
  obtain ⟨entry, found, settles⟩ := accounted.entries key event member quiet
  by_cases same : event.eventID = env.eventID
  · obtain rfl := alone event env quiet known same.symm
    rcases fair with settlesNow | unsettled
    · refine ⟨row, ?_, settlesNow⟩
      rw [← of.eventID]
      exact Table.find?_store_self _ row
    · have hash : entry.contentHash = digest canonical := by
        have sameHash := settles.hash
        rw [contentHash_of_canonical written] at sameHash
        injection sameHash with sameHash
        exact sameHash.symm
      exact absurd settles.settled (by simp [unsettled entry found hash])
  · refine ⟨entry, ?_, settles⟩
    rw [Table.find?_store_of_ne]
    · exact found
    · rw [of.eventID]
      exact same

/-- Writing the row of a delivered event keeps the sources, when the row is unsettled or has a
source itself. -/
theorem Accounted.sources_store (accounted : Accounted delivered undisturbed log platform)
    {later : Log} (longer : later.Extends log) {row : InboxRow}
    (source : row.disposition.settled = true → ∃ env, delivered env ∧ row.Settles env ∧
      (later.Places row env ∨ Collides delivered row.eventID))
    {entry : InboxRow} (member : entry ∈ (platform.inbox.store row).rows)
    (settled : entry.disposition.settled = true) :
    ∃ env, delivered env ∧ entry.Settles env ∧
      (later.Places entry env ∨ Collides delivered entry.eventID) := by
  rcases Table.mem_store.mp member with ⟨old, -⟩ | rfl
  · obtain ⟨env, known, settles, placed⟩ := accounted.sources entry old settled
    exact ⟨env, known, settles, placed.imp_left longer.places⟩
  · exact source settled

/-- The row of a hop's first version has its place. -/
theorem Log.places_hop (log : Log) {hash : Bytes} {disposition : Disposition}
    (other : env.aggregateType ≠ aggregateTypeInventoryItem) (first : env.aggregateVersion = 1) :
    log.Places (inboxRow env hash disposition) env :=
  ⟨fun item => absurd item other, fun _ => first⟩

theorem aggregateType_hop {hop : Hop} (valid : Valid env payload)
    (described : payloadHop env.tenantID payload = some hop) :
    env.aggregateType ≠ aggregateTypeInventoryItem := by
  rw [valid.aggregateType]
  cases payload with
  | quantityDecremented quantity => cases described
  | _ =>
    simp only [Payload.aggregateType]
    decide

theorem Undecided.unsettled {hash : Bytes} (undecided : Undecided platform env hash) :
    ∀ existing, platform.inbox.find? env.eventID = some existing → existing.contentHash = hash →
      existing.disposition.settled = false := by
  intro existing found _
  rw [(undecided existing found).2]
  rfl

/-- A decision about a delivered event keeps the inbox accounting for the log. -/
theorem Accounted.writes (accounted : Accounted delivered undisturbed log platform)
    (grounded : Grounded delivered log platform)
    (alone : ∀ env other, undisturbed env → delivered other → other.eventID = env.eventID →
      other = env)
    (known : delivered env) (valid : Valid env payload)
    (written : canonicalBytes env = .ok canonical)
    (writes : Writes platform env (digest canonical) canonical payload disposition final) :
    Accounted delivered undisturbed (log.after env payload disposition) final := by
  have longer := log.after_extends env payload disposition
  have hashed := contentHash_of_canonical written
  have settles : ∀ disposition : Disposition, disposition.settled = true →
      (inboxRow env (digest canonical) disposition).Settles env :=
    fun disposition settled => ⟨inboxRow_of _, settled, hashed⟩
  have stored (row : InboxRow) {next : Platform} (inbox : next.inbox = platform.inbox.store row)
      (of : row.Of env) (fair) (source) : Accounted delivered undisturbed log next :=
    ⟨fun _ _ member quiet => inbox ▸ accounted.entries_store alone known written of fair member
      quiet, fun _ member => accounted.sources_store (.refl log) source (inbox ▸ member)⟩
  have settled (disposition : Disposition) (isSettled : disposition.settled = true)
      {next : Platform} (inbox) (placed) : Accounted delivered undisturbed log next :=
    stored (inboxRow env (digest canonical) disposition) inbox (inboxRow_of _)
      (Or.inl (settles _ isSettled)) fun _ => ⟨env, known, settles _ isSettled, placed⟩
  cases writes with
  | unchanged _ existing found same unsettled noGap =>
    rwa [Log.after_of_ne _ _ _ (ne_applied_of_unsettled unsettled)]
  | quarantined _ row of unsettled noGap reason =>
    rw [Log.after_of_ne _ _ _ (ne_applied_of_unsettled unsettled)]
    refine stored row rfl of (Or.inr ?_) (by simp [unsettled])
    rcases reason with ⟨-, undecided⟩ | ⟨existing, found, -, differs, -⟩
    · exact undecided.unsettled
    · intro other present same
      rw [found] at present
      cases present
      exact absurd same differs
  | retained _ undecided current reached ahead =>
    rw [Log.after_of_ne _ _ _ (by decide)]
    exact stored _ rfl (versionedRow_of _ _ _) (Or.inr undecided.unsettled)
      (by simp [versionedRow, inboxRow, Disposition.settled])
  | repeated _ existing found same wasSettled =>
    rw [Log.after_of_ne _ _ _ (by decide)]
    refine settled _ rfl rfl ?_
    obtain ⟨present, itsID⟩ := Table.find?_eq_some_iff.mp found
    obtain ⟨source, sourceKnown, sourceSettles, placed⟩ :=
      accounted.sources existing present wasSettled
    by_cases own : source = env
    · -- The row was written for this very event, so only its disposition may be new.
      subst own
      refine placed.imp (fun places => ⟨fun item => ?_, fun other => ?_⟩) (itsID ▸ id)
      · obtain ⟨index, logged, version⟩ :=
          places.item (sourceSettles.of.aggregateType.trans item)
        rw [sourceSettles.of.tenantID, sourceSettles.of.aggregateID] at logged
        exact ⟨index, logged, sourceSettles.of.aggregateVersion.symm.trans version⟩
      · exact sourceSettles.of.aggregateVersion.symm.trans
          (places.hop fun item => other (sourceSettles.of.aggregateType.symm.trans item))
    · refine Or.inr ⟨source, env, sourceKnown, known, ?_, rfl, own, ?_⟩
      · exact sourceSettles.of.eventID.symm.trans itsID
      · rw [sourceSettles.hash, hashed, same]
  | joined _ undecided hop described current found own behind =>
    rw [Log.after_of_ne _ _ _ (by decide)]
    obtain ⟨_, _, _, -, -, -, first, rfl⟩ :=
      grounded.lineage current (Table.find?_eq_some_iff.mp found).1
    have positive := valid.version.1
    have only : env.aggregateVersion = 1 := le_antisymm (behind.trans first.le) positive
    exact settled _ rfl rfl (Or.inl (log.places_hop (aggregateType_hop valid described) only))
  | advanced quantity undecided next continues =>
    refine ⟨fun key event member quiet => ?_, fun entry member settled => ?_⟩
    · have cases : event ∈ log key ∨ event = env := by
        simp only [Log.after, if_true, Log.append] at member
        split_ifs at member
        · simpa using member
        · exact Or.inl member
      rcases cases with old | rfl
      · exact accounted.entries_store alone known written (inboxRow_of _)
          (Or.inl (settles _ rfl)) old quiet
      · exact ⟨_, Table.find?_store_self platform.inbox
          (inboxRow event (digest canonical) .applied),
          settles _ rfl⟩
    · refine accounted.sources_store longer (fun _ => ⟨env, known, settles _ rfl,
        Or.inl ⟨fun _ => ?_, fun other => absurd valid.aggregateType other⟩⟩) member settled
      rw [grounded.projectedVersion_eq] at next
      exact ⟨_, by simp [Log.after, Log.append, inboxRow], next⟩
  | linked _ undecided hop described first absent free =>
    rw [Log.after_hop _ _ _ described]
    exact settled _ rfl rfl (Or.inl (log.places_hop (aggregateType_hop valid described) first))

/-- A call on a delivered record keeps the inbox accounting for the log. -/
theorem Processes.accounted {mayFail : Bool} {fuel : Nat} {key value : Bytes}
    {pos : SourcePosition} {outcome : Outcome} {sent : List AppliedUpdate}
    (processes : Processes mayFail fuel key value pos platform outcome sent final)
    (grounded : Grounded delivered log platform)
    (start : Accounted delivered undisturbed log platform)
    (known : ∀ env, parse value = .ok env → key = envelopeKey env → delivered env)
    (alone : ∀ env other, undisturbed env → delivered other → other.eventID = env.eventID →
      other = env)
    (ownKey : ∀ env other, undisturbed env → parse value = .ok other →
      other.eventID = env.eventID → key = envelopeKey other) :
    ∃ after, Grounded delivered after final ∧ Accounted delivered undisturbed after final := by
  refine (processes.preserves (fun log platform => Accounted delivered undisturbed log platform)
    grounded known start ?_ ?_ ?_ ?_).imp fun _ kept => ⟨kept.1, kept.2.2⟩
  · exact fun _ _ _ => ⟨start.entries, start.sources⟩
  · intro env payload canonical carries otherKey
    refine ⟨fun key event member quiet => ?_, fun entry member settled => ?_⟩
    · obtain ⟨entry, found, settles⟩ := start.entries key event member quiet
      refine ⟨entry, ?_, settles⟩
      rw [Table.find?_store_of_ne]
      · exact found
      · exact fun same => otherKey (ownKey event env quiet carries.parsed same.symm)
    · exact start.sources_store (.refl log) (by simp [inboxRow, Disposition.settled]) member
        settled
  · intro env payload canonical disposition middle carries own writes
    exact start.writes grounded alone (known env carries.parsed own) carries.valid carries.written
      writes
  · intro env payload canonical carries own log platform gap gapPayload gapBytes disposition
      final redriven writes grounded accounted
    exact accounted.writes grounded alone redriven.known redriven.valid redriven.written writes

end Steps

/-! ### Runs -/

/-- Everything delivered under the event's identifier was the event, under its own key. -/
def Undisturbed (calls : List Call) (env : Envelope) : Prop :=
  ∀ call ∈ calls, ∀ other, parse call.value = .ok other → other.eventID = env.eventID →
    other = env ∧ call.key = envelopeKey env

/-- The inbox accounts for the log after every list of calls. -/
theorem deliver_accounted (erp : Erp) (calls : List Call) :
    ∃ log, Grounded (Delivered calls) log (deliver calls ⟨erp, .empty⟩).platform ∧
      Accounted (Delivered calls) (Undisturbed calls) log
        (deliver calls ⟨erp, .empty⟩).platform := by
  induction calls using List.reverseRecOn with
  | nil => exact ⟨.empty, .empty, by simp [Log.empty], by simp [deliver, Platform.empty]⟩
  | append_singleton calls call hypothesis =>
    obtain ⟨log, grounded, accounted⟩ := hypothesis
    have alone : ∀ env other, Undisturbed (calls ++ [call]) env →
        Delivered (calls ++ [call]) other → other.eventID = env.eventID → other = env := by
      rintro env other quiet ⟨source, member, parsed, -⟩ same
      exact (quiet source member other parsed same).1
    -- What was undisturbed with the new call was so before it, and collisions stay.
    have start : Accounted (Delivered (calls ++ [call])) (Undisturbed (calls ++ [call])) log
        (deliver calls ⟨erp, .empty⟩).platform := by
      refine ⟨fun key env member quiet => accounted.entries key env member fun source before =>
        quiet source (List.mem_append_left _ before), fun entry member settled => ?_⟩
      obtain ⟨env, known, settles, placed⟩ := accounted.sources entry member settled
      refine ⟨env, known.append [call], settles, placed.imp_right ?_⟩
      rintro ⟨first, second, firstKnown, secondKnown, facts⟩
      exact ⟨first, second, firstKnown.append [call], secondKnown.append [call], facts⟩
    obtain ⟨processes, -⟩ := call.processes (deliver calls ⟨erp, .empty⟩) true (by simp)
    rw [deliver_append]
    refine processes.accounted (grounded.mono fun _ known => known.append [call]) start
      (fun _ parsed ownKey => ⟨call, by simp, parsed, ownKey⟩) alone ?_
    intro env other quiet parsed same
    obtain ⟨rfl, ownKey⟩ := quiet call (by simp) other parsed same
    exact ownKey

/-- An inbox row that accounts for a version of an item. -/
structure InboxRow.Accounts (entry : InboxRow) (key : Bytes × Bytes) (version : Int) : Prop where
  tenantID : entry.tenantID = key.1
  aggregateType : entry.aggregateType = aggregateTypeInventoryItem
  aggregateID : entry.aggregateID = key.2
  aggregateVersion : entry.aggregateVersion = version
  settled : entry.disposition.settled = true

/-- The inbox is a ledger of the projection up to disturbed identifiers. Every projection row
shows a chain of applied events, one for each version. If nothing else was delivered
under the identifier of one of them, its inbox row accounts for its version with its own
content hash. No inbox row of another identifier accounts for that version, unless two
contents of one hash were delivered under that identifier. -/
theorem inbox_ledger (erp : Erp) (calls : List Call) :
    ∀ row ∈ (deliver calls ⟨erp, .empty⟩).platform.projection.rows,
      ∃ events, Shows (Delivered calls) row events ∧
        ∀ (index : Nat) (env : Envelope), events[index]? = some env →
          (Undisturbed calls env → ∃ entry ∈ (deliver calls ⟨erp, .empty⟩).platform.inbox.rows,
            entry.eventID = env.eventID ∧ entry.Accounts row.key (index + 1) ∧
              contentHash env = .ok entry.contentHash) ∧
          ∀ entry ∈ (deliver calls ⟨erp, .empty⟩).platform.inbox.rows,
            entry.Accounts row.key (index + 1) →
              entry.eventID = env.eventID ∨ Collides (Delivered calls) entry.eventID := by
  intro row member
  obtain ⟨log, grounded, accounted⟩ := deliver_accounted erp calls
  have shows := grounded.shows member
  refine ⟨log row.key, shows, fun index env logged => ⟨fun quiet => ?_, ?_⟩⟩
  · have listed := List.mem_of_getElem? logged
    obtain ⟨entry, found, settles⟩ := accounted.entries row.key env listed quiet
    obtain ⟨present, sameID⟩ := Table.find?_eq_some_iff.mp found
    have consecutive := shows.consecutive
    refine ⟨entry, present, sameID, ⟨?_, ?_, ?_, ?_, settles.settled⟩, settles.hash⟩
    · exact settles.of.tenantID.trans (consecutive.tenantID env listed)
    · exact settles.of.aggregateType.trans (consecutive.aggregateType env listed)
    · exact settles.of.aggregateID.trans (consecutive.aggregateID env listed)
    · exact settles.of.aggregateVersion.trans (consecutive.versions index env logged)
  · intro entry present accounts
    obtain ⟨source, known, settles, placed⟩ := accounted.sources entry present accounts.settled
    refine placed.imp_left fun places => ?_
    obtain ⟨place, found, version⟩ := places.item accounts.aggregateType
    rw [accounts.tenantID, accounts.aggregateID] at found
    have samePlace : place = index := by
      have versions := accounts.aggregateVersion.symm.trans version
      omega
    subst samePlace
    rw [settles.of.eventID, Option.some.inj (found.symm.trans logged)]

/-- A run of one delivery delivers its own event only. -/
theorem undisturbed_ownCall {env : Envelope} (passed : validate env = .ok ()) :
    Undisturbed [ownCall env] env ∧ ∀ other, Delivered [ownCall env] other → other = env := by
  have only : ∀ call ∈ [ownCall env], ∀ other, parse call.value = .ok other →
      other = env ∧ call.key = envelopeKey env := by
    intro call member other parsed
    rw [List.mem_singleton.mp member] at parsed ⊢
    exact ⟨Except.ok.inj (parsed.symm.trans (parse_ownCall passed)), rfl⟩
  refine ⟨fun call member other parsed _ => only call member other parsed, ?_⟩
  rintro other ⟨call, member, parsed, -⟩
  exact (only call member other parsed).1

/-- The only event of a run is applied, and its inbox row accounts for it. -/
theorem inbox_ledger_sample :
    Undisturbed [ownCall (sampleDecrement sampleTenant sampleEvent 1 10)]
      (sampleDecrement sampleTenant sampleEvent 1 10) ∧
    ∃ row ∈ (deliver [ownCall (sampleDecrement sampleTenant sampleEvent 1 10)]
        ⟨.empty, .empty⟩).platform.projection.rows, row.key = (sampleTenant, ascii "flour") ∧
      ∃ entry ∈ (deliver [ownCall (sampleDecrement sampleTenant sampleEvent 1 10)]
          ⟨.empty, .empty⟩).platform.inbox.rows, entry.eventID = sampleEvent ∧
        entry.Accounts row.key 1 ∧
        contentHash (sampleDecrement sampleTenant sampleEvent 1 10) = .ok entry.contentHash := by
  have ledger := inbox_ledger .empty [ownCall (sampleDecrement sampleTenant sampleEvent 1 10)]
  obtain ⟨quiet, only⟩ := undisturbed_ownCall sampleDecrement_valid.1
  have member : (⟨sampleTenant, ascii "flour", 9, 1⟩ : ProjectionRow) ∈
      (deliver [ownCall (sampleDecrement sampleTenant sampleEvent 1 10)]
        ⟨.empty, .empty⟩).platform.projection.rows := by
    rw [deliver_sampleDecrement]
    exact Table.mem_store_self _ _
  generalize deliver [ownCall (sampleDecrement sampleTenant sampleEvent 1 10)]
    ⟨.empty, .empty⟩ = db at *
  obtain ⟨events, shows, ledger⟩ := ledger _ member
  have version : (1 : Int) = events.length := shows.version
  have length : events.length = 1 := by omega
  obtain ⟨first, rfl⟩ := List.length_eq_one_iff.mp length
  have same := only first (shows.consecutive.known first List.mem_cons_self)
  obtain ⟨entry, present, accounts⟩ := (ledger 0 first rfl).1 (same ▸ quiet)
  rw [same] at accounts
  exact ⟨quiet, _, member, rfl, entry, present, accounts⟩

set_option maxRecDepth 20000 in
/-- An applied event whose identifier is delivered again with other content. -/
theorem reusedIdentifier_run :
    (deliver [ownCall (sampleDecrement sampleTenant sampleEvent 1 10),
        ownCall (sampleDecrement sampleTenant sampleEvent 1 11)]
      ⟨.empty, .empty⟩).platform.projection.rows.map ProjectionRow.aggregateVersion = [1] ∧
    (deliver [ownCall (sampleDecrement sampleTenant sampleEvent 1 10),
        ownCall (sampleDecrement sampleTenant sampleEvent 1 11)]
      ⟨.empty, .empty⟩).platform.inbox.rows.map InboxRow.disposition = [.quarantinedConflict] := by
  decide +kernel

/-- Another content under the identifier of an applied event turns its inbox row into a
conflict, and the projection keeps the version that no row accounts for. -/
theorem applied_entry_relabelled :
    ¬ ∀ (erp : Erp) (calls : List Call),
      ∀ row ∈ (deliver calls ⟨erp, .empty⟩).platform.projection.rows,
        ∀ version : Int, 1 ≤ version → version ≤ row.aggregateVersion →
          ∃! entry, entry ∈ (deliver calls ⟨erp, .empty⟩).platform.inbox.rows ∧
            entry.Accounts row.key version := by
  intro ledger
  obtain ⟨versions, dispositions⟩ := reusedIdentifier_run
  have unique := ledger .empty [ownCall (sampleDecrement sampleTenant sampleEvent 1 10),
    ownCall (sampleDecrement sampleTenant sampleEvent 1 11)]
  obtain ⟨row, member, first⟩ := List.mem_map.mp (versions ▸ List.mem_singleton_self (1 : Int))
  obtain ⟨entry, ⟨present, accounts⟩, -⟩ := unique row member 1 le_rfl first.ge
  have disposition := List.mem_map_of_mem (f := InboxRow.disposition) present
  rw [dispositions, List.mem_singleton] at disposition
  have settled := accounts.settled
  rw [disposition] at settled
  cases settled

end SeshatOps
