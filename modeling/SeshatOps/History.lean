/-
This file models the life of the platform tables under arbitrary input: a list of calls
of `ProcessRecord`, each with any key, any value, any position and any lost requests.

`deliver` runs the calls one after the other from a database. A call that meets a
grounded state leaves one, so what the tables hold is derived from delivered events
whatever else was delivered between them. The file ends with two results over all runs:
the projection is the last state of a chain of delivered events, and a record of one
tenant leaves the rows of another alone, up to the one inbox row of its event.
-/

import SeshatOps.Log
import SeshatOps.Decision

namespace SeshatOps

open Relational Event

/-! ### Calls -/

/-- One call of `ProcessRecord`: what it is given, and what the server does with its requests. -/
structure Call where
  fuel : Nat
  key : Bytes
  value : Bytes
  pos : SourcePosition
  replies : List Reply

namespace Call

variable (call : Call) (db : Database)

/-- The call run alone on a database. -/
def session : Except ProcessError Outcome × List Reply × Program.Session Database AppliedUpdate :=
  (processRecord call.fuel call.key call.value call.pos).run call.replies ⟨db, none, []⟩

/-- What the call returns. -/
def outcome : Outcome :=
  match (call.session db).1 with
  | .ok outcome => outcome
  | .error error => ⟨{}, some error⟩

/-- The database that the call leaves. -/
def after : Database := (call.session db).2.2.committed

/-- The updates that the call announces. -/
def sent : List AppliedUpdate := (call.session db).2.2.notes

/-- The server served every request of the call. -/
def Served : Prop := Reply.lost ∉ call.replies

/-- A call does one of the listed things, and touches the platform tables only. -/
theorem processes (mayFail : Bool) (served : mayFail = false → call.Served) :
    Processes mayFail call.fuel call.key call.value call.pos db.platform (call.outcome db)
      (call.sent db) (call.after db).platform ∧ (call.after db).erp = db.erp := by
  have spec : Program.Ensures mayFail _ ⟨db, none, []⟩ _ :=
    processRecord_ensures call.fuel call.key call.value call.pos db
  have ensures := spec call.replies served
  unfold outcome after sent session
  cases returned : ((processRecord call.fuel call.key call.value call.pos).run call.replies
      ⟨db, none, []⟩).1 with
  | error error =>
    rw [returned] at ensures
    exact ensures.elim
  | ok outcome =>
    rw [returned] at ensures
    obtain ⟨sent, platform, processes, final⟩ := ensures
    rw [final]
    exact ⟨processes, rfl⟩

/-- A served call, on tables where it has no gap to re-drive, does what the decision says. -/
theorem decision_eq {env : Envelope} {payload : Payload} {canonical : Bytes}
    (served : call.Served) (carries : Carries call.value env payload canonical)
    (ownKey : call.key = envelopeKey env) (passes : 0 < call.fuel)
    (fits : accepts db.platform env (digest canonical) = true)
    (stored : storable env.aggregateID = true)
    (calm : eligibleGaps (decision db.platform env (digest canonical) canonical payload).2
      env.tenantID env.aggregateType env.aggregateID = []) :
    call.outcome db =
      ⟨decided env (decision db.platform env (digest canonical) canonical payload).1, none⟩ ∧
    call.after db =
      ⟨db.erp, (decision db.platform env (digest canonical) canonical payload).2⟩ := by
  obtain ⟨processes, sameErp⟩ := call.processes db false fun _ => served
  obtain ⟨made, left⟩ := processes.decision_eq carries ownKey fits stored passes calm
  refine ⟨made, ?_⟩
  rw [← sameErp, ← left]

end Call

/-- The database after a list of calls. -/
def deliver (calls : List Call) (db : Database) : Database :=
  calls.foldl (fun db call => call.after db) db

/-- Some call was made with the envelope, under the envelope's own key. -/
def Delivered (calls : List Call) (env : Envelope) : Prop :=
  ∃ call ∈ calls, parse call.value = .ok env ∧ call.key = envelopeKey env

/-! ### What a call keeps -/

section Preservation

variable {delivered : Envelope → Prop} {mayFail : Bool} {log : Log} {platform final : Platform}
  {fuel : Nat} {key value : Bytes} {pos : SourcePosition} {outcome : Outcome}
  {sent : List AppliedUpdate}

/-- The record's own decision and the re-drive behind it, in a grounded state. -/
theorem Grounded.decides (grounded : Grounded delivered log platform) {env : Envelope}
    {payload : Payload} {canonical : Bytes} {disposition : Disposition} {middle : Platform}
    (known : delivered env) (carries : Carries value env payload canonical)
    (decides : Decides platform env (digest canonical) canonical payload disposition middle) :
    Grounded delivered (log.after env payload disposition) middle :=
  grounded.writes known carries.valid carries.written decides.writes

/-- A property of log and tables that holds after a call: it must be kept by the record of a
failure, by the quarantine of a record under a foreign key, by the decision on the record
and by every decision of the re-drive behind it. -/
theorem Processes.preserves (holds : Log → Platform → Prop)
    (processes : Processes mayFail fuel key value pos platform outcome sent final)
    (grounded : Grounded delivered log platform)
    (known : ∀ env, parse value = .ok env → key = envelopeKey env → delivered env)
    (start : holds log platform)
    (unparsed : ∀ error row, parse value = .error error →
      holds log (storeFailure row platform))
    (misdelivered : ∀ env payload canonical, Carries value env payload canonical →
      key ≠ envelopeKey env →
      holds log { platform with
        inbox := platform.inbox.store (inboxRow env (digest canonical) .quarantinedMismatch) })
    (decided : ∀ env payload canonical disposition middle, Carries value env payload canonical →
      key = envelopeKey env →
      Writes platform env (digest canonical) canonical payload disposition middle →
      holds (log.after env payload disposition) middle)
    (redriven : ∀ env payload canonical, Carries value env payload canonical →
      key = envelopeKey env → ∀ log platform other otherPayload otherBytes disposition final,
      Redriven delivered env.tenantID env.aggregateType env.aggregateID platform other
        otherPayload otherBytes →
      Writes platform other (digest otherBytes) otherBytes otherPayload disposition final →
      Grounded delivered log platform → holds log platform →
      holds (log.after other otherPayload disposition) final) :
    ∃ after, Grounded delivered after final ∧ after.Extends log ∧ holds after final := by
  have drained : ∀ {env payload canonical disposition middle ended notes},
      Carries value env payload canonical → key = envelopeKey env →
      Decides platform env (digest canonical) canonical payload disposition middle →
      Redrives mayFail env.tenantID env.aggregateType env.aggregateID fuel middle ended notes
        final →
      ∃ after, Grounded delivered after final ∧ after.Extends log ∧ holds after final := by
    intro env payload canonical disposition middle ended notes carries ownKey decides redrives
    have between := grounded.decides (known env carries.parsed ownKey) carries decides
    obtain ⟨after, drains, last, longer⟩ := redrives.drains between
    refine ⟨after, last, longer.trans (log.after_extends _ _ _), drains.preserves holds ?_ between
      (decided env payload canonical disposition middle carries ownKey decides.writes)⟩
    intro log platform other otherPayload otherBytes disposition final next applies
    exact redriven env payload canonical carries ownKey log platform other otherPayload otherBytes
      disposition final next (applies.writes next.undecided)
  cases processes with
  | failed error cause => exact ⟨log, grounded, .refl log, start⟩
  | unparsed error refused admitted =>
    exact ⟨log, { grounded with }, .refl log, unparsed error _ refused⟩
  | misdelivered env payload canonical carries otherKey admitted =>
    rw [storeInbox_of_ne platform (by simp [inboxRow])]
    exact ⟨log, grounded.storeRow _ (by simp [inboxRow]) ⟨canonical, rfl⟩, .refl log,
      misdelivered env payload canonical carries otherKey⟩
  | quarantined env payload canonical carries ownKey disposition final decides unsettled admitted =>
    exact ⟨_, grounded.decides (known env carries.parsed ownKey) carries decides,
      log.after_extends _ _ _,
      decided env payload canonical disposition _ carries ownKey decides.writes⟩
  | redriven _ _ _ carries ownKey _ _ decides _ _ _ redrives
  | interrupted _ _ _ carries ownKey _ _ decides _ _ _ redrives =>
    exact drained carries ownKey decides redrives

/-- A call that meets a grounded state leaves one. -/
theorem Processes.grounded
    (processes : Processes mayFail fuel key value pos platform outcome sent final)
    (grounded : Grounded delivered log platform)
    (known : ∀ env, parse value = .ok env → key = envelopeKey env → delivered env) :
    ∃ after, Grounded delivered after final ∧ after.Extends log := by
  obtain ⟨after, last, longer, -⟩ := processes.preserves (fun _ _ => True) grounded known trivial
    (fun _ _ _ => trivial) (fun _ _ _ _ _ => trivial) (fun _ _ _ _ _ _ _ _ => trivial)
    (fun _ _ _ _ _ _ _ _ _ _ _ _ _ _ _ _ => trivial)
  exact ⟨after, last, longer⟩

end Preservation

/-! ### Runs -/

theorem deliver_one (call : Call) (db : Database) : deliver [call] db = call.after db := rfl

theorem deliver_append (calls more : List Call) (db : Database) :
    deliver (calls ++ more) db = deliver more (deliver calls db) := List.foldl_append

theorem deliver_erp (calls : List Call) (db : Database) : (deliver calls db).erp = db.erp := by
  induction calls generalizing db with
  | nil => rfl
  | cons call rest hypothesis =>
    exact (hypothesis (call.after db)).trans (call.processes db true (by simp)).2

theorem Delivered.append {calls : List Call} {env : Envelope} (delivered : Delivered calls env)
    (more : List Call) : Delivered (calls ++ more) env := by
  obtain ⟨call, member, read⟩ := delivered
  exact ⟨call, List.mem_append_left more member, read⟩

/-- More calls keep a grounded state grounded and only extend its log. -/
theorem deliver_grounded_more (calls more : List Call) (log : Log) (db : Database)
    (grounded : Grounded (Delivered calls) log db.platform) :
    ∃ after, Grounded (Delivered (calls ++ more)) after (deliver more db).platform ∧
      after.Extends log := by
  induction more generalizing calls log db with
  | nil =>
    rw [List.append_nil]
    exact ⟨log, grounded, .refl log⟩
  | cons call rest hypothesis =>
    obtain ⟨processes, -⟩ := call.processes db true (by simp)
    obtain ⟨middle, between, longer⟩ := processes.grounded
      (grounded.mono fun env known => known.append [call])
      fun env parsed ownKey => ⟨call, by simp, parsed, ownKey⟩
    obtain ⟨after, last, longest⟩ := hypothesis (calls ++ [call]) _ _ between
    rw [List.append_assoc, List.singleton_append] at last
    exact ⟨after, last, longest.trans longer⟩

/-- Every state that calls reach from empty tables is grounded. -/
theorem deliver_grounded (erp : Erp) (calls : List Call) :
    ∃ log, Grounded (Delivered calls) log (deliver calls ⟨erp, .empty⟩).platform := by
  obtain ⟨log, grounded, -⟩ := deliver_grounded_more [] calls .empty ⟨erp, .empty⟩ .empty
  exact ⟨log, grounded⟩

/-! ### The projection shows delivered events -/

/-- A projection row that shows the last of a chain of delivered events, one for each version. -/
structure Shows (delivered : Envelope → Prop) (row : ProjectionRow) (events : List Envelope) :
    Prop where
  consecutive : Consecutive delivered row.key events
  version : row.aggregateVersion = events.length
  quantity : ∃ last quantity, events.getLast? = some last ∧
    asQuantityDecremented last = some quantity ∧ row.quantityOnHand = quantity.quantityAfter
  nonneg : 0 ≤ row.quantityOnHand

theorem Grounded.shows {delivered : Envelope → Prop} {log : Log} {platform : Platform}
    (grounded : Grounded delivered log platform) {row : ProjectionRow}
    (member : row ∈ platform.projection.rows) : Shows delivered row (log row.key) := by
  have found := Table.find?_eq_some_iff.mpr ⟨member, rfl⟩
  have projects := (grounded.projection row.key).symm.trans found
  have consecutive := grounded.applied row.key
  have version := consecutive.projected_version
  rw [projects, Option.elim_some] at version
  cases ends : (log row.key).getLast? with
  | none => simp [projected, ends] at projects
  | some last =>
    obtain ⟨quantity, valid⟩ := consecutive.valid last (List.mem_of_getLast? ends)
    have same : row = ⟨last.tenantID, last.aggregateID, quantity.quantityAfter,
        last.aggregateVersion⟩ := by
      simpa [projected, ends, shown_of_valid valid] using projects.symm
    have numbers := valid.fits.numbers
    simp only [Payload.numbers, List.forall_mem_cons] at numbers
    refine ⟨consecutive, version, ⟨last, quantity, ends, asQuantityDecremented_of_valid valid, ?_⟩,
      ?_⟩
    · rw [same]
    · rw [same]
      exact numbers.2.2.1.1

/-- Whatever is delivered, a projection row shows the last of a chain of events that were
delivered under their own keys, and later calls can only continue the chain. A lineage
row is the payload and the metadata of such an event. -/
theorem projection_sound (erp : Erp) (calls more : List Call) :
    (∀ row ∈ (deliver calls ⟨erp, .empty⟩).platform.projection.rows,
      ∃ events, Shows (Delivered calls) row events ∧
        ∃ later ∈ (deliver (calls ++ more) ⟨erp, .empty⟩).platform.projection.rows,
          later.key = row.key ∧
          ∃ added, Shows (Delivered (calls ++ more)) later (events ++ added)) ∧
    (∀ row ∈ (deliver calls ⟨erp, .empty⟩).platform.lineage.rows, ∃ env payload hop,
      Delivered calls env ∧ env.aggregateVersion = 1 ∧ env.payload = some payload ∧
        payloadHop env.tenantID payload = some hop ∧ row = lineageRow env hop) := by
  obtain ⟨log, grounded⟩ := deliver_grounded erp calls
  obtain ⟨after, last, longer⟩ := deliver_grounded_more calls more _ _ grounded
  rw [← deliver_append] at last
  refine ⟨fun row member => ?_, fun row member => ?_⟩
  · have shows := grounded.shows member
    obtain ⟨added, extended⟩ := longer row.key
    refine ⟨log row.key, shows, ?_⟩
    -- The longer log is not empty, so it projects to a row.
    cases found : (deliver (calls ++ more) ⟨erp, .empty⟩).platform.projection.find? row.key with
    | none =>
      have version := (last.applied row.key).projected_version
      rw [← last.projection, found, extended, List.length_append] at version
      obtain ⟨event, quantity, ends, -⟩ := shows.quantity
      have filled : log row.key ≠ [] := by
        intro none
        simp [none] at ends
      have positive := List.length_pos_of_ne_nil filled
      simp only [Option.elim_none] at version
      omega
    | some later =>
      obtain ⟨present, sameKey⟩ := Table.find?_eq_some_iff.mp found
      refine ⟨later, present, sameKey, added, ?_⟩
      rw [← extended, ← sameKey]
      exact last.shows present
  · obtain ⟨env, payload, hop, known, valid, described, first, same⟩ := grounded.lineage row member
    exact ⟨env, payload, hop, known, first, valid.carried, described, same⟩

/-! ### Rows of other tenants -/

/-- The rows that do not belong to a tenant are the same in two states, apart from the inbox
row of one event. -/
structure SparesOthers (tenantID eventID : Bytes) (before after : Platform) : Prop where
  inbox : ∀ row : InboxRow, row.tenantID ≠ tenantID → row.eventID ≠ eventID →
    (row ∈ after.inbox.rows ↔ row ∈ before.inbox.rows)
  projection : ∀ row : ProjectionRow, row.tenantID ≠ tenantID →
    (row ∈ after.projection.rows ↔ row ∈ before.projection.rows)
  lineage : ∀ row : LineageRow, row.hop.tenantID ≠ tenantID →
    (row ∈ after.lineage.rows ↔ row ∈ before.lineage.rows)
  failures : after.failures = before.failures

section OtherTenants

variable {tenantID eventID : Bytes} {first second third : Platform}

theorem SparesOthers.refl (platform : Platform) :
    SparesOthers tenantID eventID platform platform :=
  ⟨fun _ _ _ => Iff.rfl, fun _ _ => Iff.rfl, fun _ _ => Iff.rfl, rfl⟩

theorem SparesOthers.trans (late : SparesOthers tenantID eventID second third)
    (early : SparesOthers tenantID eventID first second) :
    SparesOthers tenantID eventID first third where
  inbox row foreign other := (late.inbox row foreign other).trans (early.inbox row foreign other)
  projection row foreign := (late.projection row foreign).trans (early.projection row foreign)
  lineage row foreign := (late.lineage row foreign).trans (early.lineage row foreign)
  failures := late.failures.trans early.failures

/-- A decision writes rows of the event's tenant only, and in the inbox only the row of the
event, which is either the given event or already a row of the tenant. -/
theorem Writes.sparesOthers {env : Envelope} {hash canonical : Bytes} {payload : Payload}
    {disposition : Disposition} {platform final : Platform}
    (writes : Writes platform env hash canonical payload disposition final)
    (owner : env.eventID = eventID ∨ ∃ existing, platform.inbox.find? env.eventID = some existing ∧
      existing.tenantID = env.tenantID) :
    SparesOthers env.tenantID eventID platform final := by
  have inbox : ∀ stored : InboxRow, stored.eventID = env.eventID → ∀ row : InboxRow,
      stored.tenantID = env.tenantID → row.tenantID ≠ env.tenantID → row.eventID ≠ eventID →
      (row ∈ (platform.inbox.store stored).rows ↔ row ∈ platform.inbox.rows) := by
    intro stored sameEvent row sameTenant foreign other
    rcases owner with rfl | ⟨existing, found, owned⟩
    · exact Table.mem_store_iff_of_ne _ (sameEvent ▸ other)
    · obtain ⟨present, itsID⟩ := Table.find?_eq_some_iff.mp found
      constructor
      · intro member
        rcases Table.mem_store.mp member with ⟨old, -⟩ | rfl
        · exact old
        · exact absurd sameTenant foreign
      · intro member
        refine Table.mem_store_of_ne _ member fun same => foreign ?_
        rw [Table.eq_of_key platform.inbox member present (same.trans (sameEvent.trans itsID.symm)),
          owned]
  cases writes with
  | unchanged => exact .refl platform
  | quarantined _ row of unsettled noGap reason =>
    exact ⟨fun other => inbox row of.eventID other of.tenantID, fun _ _ => Iff.rfl,
      fun _ _ => Iff.rfl, rfl⟩
  | retained | repeated | joined =>
    exact ⟨fun other => inbox _ rfl other rfl, fun _ _ => Iff.rfl, fun _ _ => Iff.rfl, rfl⟩
  | advanced quantity undecided next continues =>
    refine ⟨fun other => inbox _ rfl other rfl, fun row foreign => ?_, fun _ _ => Iff.rfl, rfl⟩
    exact Table.mem_store_iff_of_ne _ fun same => foreign (congrArg Prod.fst same)
  | linked _ undecided hop described one absent free =>
    refine ⟨fun other => inbox _ rfl other rfl, fun _ _ => Iff.rfl, fun row foreign => ?_, rfl⟩
    refine Table.mem_store_iff_of_ne _ fun same => foreign ?_
    have sameTenant : row.hop.tenantID = hop.tenantID := congrArg (fun key => key.2.1) same
    rw [sameTenant]
    cases payload <;> cases described <;> rfl

end OtherTenants

/-- A record of one tenant leaves every row of another tenant as it was, apart from the inbox
row of its own event. -/
theorem other_tenants_spared (erp : Erp) (calls : List Call) (call : Call) (env : Envelope)
    (parsed : parse call.value = .ok env) :
    SparesOthers env.tenantID env.eventID (deliver calls ⟨erp, .empty⟩).platform
      (call.after (deliver calls ⟨erp, .empty⟩)).platform := by
  obtain ⟨log, grounded⟩ := deliver_grounded erp calls
  set before := (deliver calls ⟨erp, .empty⟩).platform
  obtain ⟨processes, -⟩ := call.processes (deliver calls ⟨erp, .empty⟩) true (by simp)
  refine (processes.preserves
    (fun _ platform => SparesOthers env.tenantID env.eventID before platform)
    (grounded.mono fun _ known => known.append [call])
    (fun _ parsed ownKey => ⟨call, by simp, parsed, ownKey⟩) (.refl before) ?_ ?_ ?_ ?_).elim
    fun _ kept => kept.2.2
  · intro error row refused
    rw [refused] at parsed
    cases parsed
  · intro other payload canonical carries otherKey
    obtain rfl := carries.env_eq parsed
    refine ⟨fun row _ different => ?_, fun _ _ => Iff.rfl, fun _ _ => Iff.rfl, rfl⟩
    exact Table.mem_store_iff_of_ne _ different
  · intro other payload canonical disposition middle carries ownKey writes
    obtain rfl := carries.env_eq parsed
    exact writes.sparesOthers (Or.inl rfl)
  · intro other payload canonical carries ownKey log platform gap gapPayload gapBytes disposition
      final redriven writes _ spared
    obtain rfl := carries.env_eq parsed
    obtain ⟨row, found, -, -, of⟩ := redriven.retained
    have kept : SparesOthers gap.tenantID other.eventID platform final :=
      writes.sparesOthers (Or.inr ⟨row, found, of.tenantID⟩)
    rw [redriven.sameTenant] at kept
    exact kept.trans spared

/-! ### Sample records -/

/-- The value under which the relay publishes an envelope. -/
def recordValue (env : Envelope) : Bytes := (canonicalBytes env).toOption.getD []

/-- A delivery of an envelope under its own key that meets no fault. -/
def ownCall (env : Envelope) : Call :=
  ⟨8, envelopeKey env, recordValue env, ⟨[], 0, 0⟩, []⟩

theorem carries_ownCall {env : Envelope} {payload : Payload} (passed : validate env = .ok ())
    (carried : env.payload = some payload) :
    Carries (ownCall env).value env payload (recordValue env) := by
  obtain ⟨bytes, written⟩ := canonicalBytes_total env passed
  have value : recordValue env = bytes := by simp [recordValue, written, Except.toOption]
  obtain ⟨other, valid⟩ := validate_ok env passed
  have same : other = payload := Option.some.inj (valid.carried.symm.trans carried)
  subst same
  rw [ownCall, value]
  exact ⟨parse_canonicalBytes env bytes written, valid, written⟩

theorem parse_ownCall {env : Envelope} (passed : validate env = .ok ()) :
    parse (ownCall env).value = .ok env := by
  obtain ⟨payload, valid⟩ := validate_ok env passed
  exact (carries_ownCall passed valid.carried).parsed

/-- The decision on the value under which the relay publishes an envelope. -/
def ownDecision (platform : Platform) (env : Envelope) (payload : Payload) :
    Disposition × Platform :=
  decision platform env (digest (recordValue env)) (recordValue env) payload

/-- A delivery that meets no fault does what the decision says. -/
theorem ownCall_decision {env : Envelope} {payload : Payload} (db : Database)
    (passed : validate env = .ok ()) (carried : env.payload = some payload)
    (fits : accepts db.platform env (digest (recordValue env)) = true)
    (stored : storable env.aggregateID = true)
    (calm : eligibleGaps (ownDecision db.platform env payload).2 env.tenantID env.aggregateType
      env.aggregateID = []) :
    (ownCall env).outcome db = ⟨decided env (ownDecision db.platform env payload).1, none⟩ ∧
      (ownCall env).after db = ⟨db.erp, (ownDecision db.platform env payload).2⟩ :=
  (ownCall env).decision_eq db List.not_mem_nil (carries_ownCall passed carried) rfl
    (Nat.zero_lt_succ 7) fits stored calm

def sampleTenant : Bytes := ascii "aaaaaaaa-aaaa-4aaa-8aaa-aaaaaaaaaaaa"

def otherTenant : Bytes := ascii "bbbbbbbb-bbbb-4bbb-8bbb-bbbbbbbbbbbb"

def sampleEvent : Bytes := ascii "cccccccc-cccc-4ccc-8ccc-cccccccccccc"

def secondEvent : Bytes := ascii "dddddddd-dddd-4ddd-8ddd-dddddddddddd"

def thirdEvent : Bytes := ascii "eeeeeeee-eeee-4eee-8eee-eeeeeeeeeeee"

/-- An event that takes one from the stock of an item. -/
def sampleDecrement (tenantID eventID : Bytes) (version before : Int) : Envelope where
  eventID := eventID
  tenantID := tenantID
  eventType := eventTypeQuantityDecremented
  eventSchemaVersion := schemaVersionV1
  aggregateType := aggregateTypeInventoryItem
  aggregateID := ascii "flour"
  aggregateVersion := version
  occurredAt := ascii "2026-01-02T03:04:05Z"
  recordedAt := ascii "2026-01-02T03:04:05Z"
  producer := producerSyntheticERP
  correlationID := ascii "11111111-1111-4111-8111-111111111111"
  causationID := none
  traceID := ascii "trace"
  payload := some (.quantityDecremented
    ⟨ascii "22222222-2222-4222-8222-222222222222", ascii "flour", 1, before, before - 1⟩)

theorem sampleDecrement_valid :
    validate (sampleDecrement sampleTenant sampleEvent 1 10) = .ok () ∧
      validate (sampleDecrement otherTenant sampleEvent 1 10) = .ok () := by decide +kernel

theorem sampleGap_valid : validate (sampleDecrement sampleTenant secondEvent 2 9) = .ok () := by
  decide +kernel

/-- The first event of an item is applied to empty tables. -/
theorem sampleDecrement_first :
    (ownCall (sampleDecrement sampleTenant sampleEvent 1 10)).outcome .empty =
        ⟨decided (sampleDecrement sampleTenant sampleEvent 1 10) .applied, none⟩ ∧
      (ownCall (sampleDecrement sampleTenant sampleEvent 1 10)).after .empty =
        ⟨.empty, storeInbox (inboxRow (sampleDecrement sampleTenant sampleEvent 1 10)
          (digest (recordValue (sampleDecrement sampleTenant sampleEvent 1 10))) .applied)
          (storeProjection ⟨sampleTenant, ascii "flour", 9, 1⟩ .empty)⟩ :=
  ownCall_decision .empty sampleDecrement_valid.1 rfl (by decide +kernel) (by decide)
    (by decide +kernel)

theorem deliver_sampleDecrement :
    deliver [ownCall (sampleDecrement sampleTenant sampleEvent 1 10)] ⟨.empty, .empty⟩ =
      ⟨.empty, storeInbox (inboxRow (sampleDecrement sampleTenant sampleEvent 1 10)
        (digest (recordValue (sampleDecrement sampleTenant sampleEvent 1 10))) .applied)
        (storeProjection ⟨sampleTenant, ascii "flour", 9, 1⟩ .empty)⟩ := by
  rw [deliver_one]
  exact sampleDecrement_first.2

/-- What the first event of the sample item leaves for a later call. -/
theorem sampleDecrement_left :
    (∃ row, ((ownCall (sampleDecrement sampleTenant sampleEvent 1 10)).after
        .empty).platform.inbox.find? sampleEvent = some row ∧ row.tenantID = sampleTenant ∧
      row.disposition.settled = true ∧ storable row.contentHash = true) ∧
    ((ownCall (sampleDecrement sampleTenant sampleEvent 1 10)).after
      .empty).platform.projection.find? (otherTenant, ascii "flour") = none := by
  rw [sampleDecrement_first.2, storeInbox_of_ne _ (by decide : Disposition.applied ≠ _)]
  have storedHash : ∀ (env : Envelope) (bytes : Bytes),
      storable (inboxRow env (digest bytes) .applied).contentHash = true :=
    fun _ bytes => storable_digest bytes
  exact ⟨⟨_, Table.find?_store_self _ _, rfl, rfl, storedHash _ _⟩, by decide +kernel⟩

/-- An event of another tenant is applied beside the rows of the first one. -/
theorem other_tenants_spared_sample :
    let db := deliver [ownCall (sampleDecrement sampleTenant sampleEvent 1 10)] ⟨.empty, .empty⟩
    (∃ row ∈ db.platform.inbox.rows, row.tenantID = sampleTenant) ∧
    (∃ row ∈ db.platform.projection.rows, row.tenantID = sampleTenant) ∧
    SparesOthers otherTenant secondEvent db.platform
      ((ownCall (sampleDecrement otherTenant secondEvent 1 10)).after db).platform := by
  have passed : validate (sampleDecrement otherTenant secondEvent 1 10) = .ok () := by
    decide +kernel
  refine ⟨?_, ?_, other_tenants_spared .empty
    [ownCall (sampleDecrement sampleTenant sampleEvent 1 10)] _ _ (parse_ownCall passed)⟩
  · rw [deliver_sampleDecrement, storeInbox_of_ne _ (by decide : Disposition.applied ≠ _)]
    exact ⟨_, Table.mem_store_self _ _, rfl⟩
  · rw [deliver_sampleDecrement]
    exact ⟨_, Table.mem_store_self _ _, rfl⟩

/-- An event whose identifier has a settled inbox row takes the row over. -/
theorem settled_row_taken_over {env : Envelope} {payload : Payload} (db : Database)
    (passed : validate env = .ok ()) (carried : env.payload = some payload)
    (stored : storable env.aggregateID = true) {existing : InboxRow}
    (found : db.platform.inbox.find? env.eventID = some existing)
    (settled : existing.disposition.settled = true)
    (storedHash : storable existing.contentHash = true)
    (calm : db.platform.projection.find? (env.tenantID, env.aggregateID) = none) :
    ∃ hash disposition, ((ownCall env).after db).platform.inbox =
      db.platform.inbox.store (inboxRow env hash disposition) := by
  have fits : accepts db.platform env (digest (recordValue env)) = true := by
    simp only [accepts, found, settled, stored, storedHash, Bool.and_self, if_true, ite_self]
  obtain ⟨hash, disposition, decided⟩ : ∃ hash disposition,
      (ownDecision db.platform env payload).2 = { db.platform with
        inbox := db.platform.inbox.store (inboxRow env hash disposition) } := by
    rw [ownDecision, decision, found]
    by_cases differs : existing.contentHash ≠ digest (recordValue env)
    · simp only [if_pos differs]
      exact ⟨_, _, storeInbox_conflict found⟩
    · simp only [if_neg differs, settled, if_true]
      exact ⟨_, _, storeInbox_of_ne _ (by decide : Disposition.duplicateNoop ≠ _)⟩
  have none : eligibleGaps (ownDecision db.platform env payload).2 env.tenantID env.aggregateType
      env.aggregateID = [] := by
    rw [decided]
    simp only [eligibleGaps, calm]
  refine ⟨hash, disposition, ?_⟩
  rw [(ownCall_decision db passed carried fits stored none).2, decided]

/-- The inbox is keyed by the event alone: an event of one tenant that carries the identifier of
another tenant's event takes over its inbox row. -/
theorem other_tenants_row_overwritten :
    ¬ ∀ (erp : Erp) (calls : List Call) (call : Call) (env : Envelope),
      parse call.value = .ok env → ∀ row : InboxRow, row.tenantID ≠ env.tenantID →
        (row ∈ (call.after (deliver calls ⟨erp, .empty⟩)).platform.inbox.rows ↔
          row ∈ (deliver calls ⟨erp, .empty⟩).platform.inbox.rows) := by
  intro spared
  have iff := spared .empty [ownCall (sampleDecrement sampleTenant sampleEvent 1 10)]
    (ownCall (sampleDecrement otherTenant sampleEvent 1 10))
    (sampleDecrement otherTenant sampleEvent 1 10) (parse_ownCall sampleDecrement_valid.2)
  obtain ⟨⟨row, found, owner, settled, storedHash⟩, calm⟩ := sampleDecrement_left
  have start : (⟨.empty, .empty⟩ : Database) = .empty := rfl
  rw [start, deliver_one] at iff
  generalize (ownCall (sampleDecrement sampleTenant sampleEvent 1 10)).after .empty = db at *
  obtain ⟨hash, disposition, taken⟩ := settled_row_taken_over db sampleDecrement_valid.2 rfl
    (by decide) found settled storedHash calm
  have foreign : row.tenantID ≠ otherTenant := by
    rw [owner]
    decide
  obtain ⟨member, key⟩ := Table.find?_eq_some_iff.mp found
  have kept := (iff row foreign).mpr member
  rw [taken] at kept
  have same := Table.eq_of_key _ kept (Table.mem_store_self _ _) key
  exact foreign (congrArg InboxRow.tenantID same)

end SeshatOps
