/-
This file is about the notifications that the processor sends to the readers of the
projection.

A notification is sent for an inventory event that was applied, and for nothing else. So
what was announced for an item is its log of applied events, one for one. The log has one
event for each version up to that of the projection, in their order.
-/

import SeshatOps.Visible

namespace SeshatOps

open Relational Event

/-- Everything that calls announce, in order, each with the tables at that moment. -/
def announcements : List Call → Database → List (AppliedUpdate × Database)
  | [], _ => []
  | call :: rest, db =>
      (call.moments db).filterMap Moment.announcement ++ announcements rest (call.after db)

/-- The notification is about the item. -/
def AppliedUpdate.about (key : Bytes × Bytes) (note : AppliedUpdate) : Bool :=
  note.tenantID == key.1 && note.itemID == key.2

/-- What is announced of an event that was applied. -/
def announced (env : Envelope) : Option AppliedUpdate :=
  (asQuantityDecremented env).map fun quantity =>
    ⟨env.tenantID, env.aggregateID, quantity.quantityAfter, env.aggregateVersion, env.eventID⟩

/-- The notifications about each item are those of its log. -/
def Told (notes : List AppliedUpdate) (log : Log) : Prop :=
  ∀ key, notes.filter (AppliedUpdate.about key) = (log key).filterMap announced

section Telling

variable {delivered : Envelope → Prop} {mayFail : Bool} {log : Log} {before after : Platform}
  {notes : List AppliedUpdate}

/-- A decision tells what it adds to the log. -/
theorem Told.decided (told : Told notes log) {env : Envelope} {payload : Payload}
    (valid : Valid env payload) (disposition : Disposition) :
    Told (notes ++ appliedNotes env payload disposition) (log.after env payload disposition) := by
  by_cases applied : disposition = .applied
  · cases payload with
    | quantityDecremented quantity =>
      intro key
      rw [List.filter_append, told key]
      by_cases own : key = (env.tenantID, env.aggregateID)
      · subst own
        simp [appliedNotes, applied, Log.after, Log.append, AppliedUpdate.about, announced,
          asQuantityDecremented_of_valid valid]
      · have other : ¬ (env.tenantID = key.1 ∧ env.aggregateID = key.2) := by
          rintro ⟨sameTenant, sameItem⟩
          exact own (by rw [sameTenant, sameItem])
        simp [appliedNotes, applied, Log.after, Log.append, AppliedUpdate.about, own, other]
    | _ => exact (List.append_nil notes).symm ▸ told
  · rw [appliedNotes_of_ne applied, List.append_nil, Log.after_of_ne _ _ _ applied]
    exact told

theorem Drains.told {tenantID aggregateType aggregateID : Bytes} {fuel : Nat} {ended : Bool}
    {sent : List AppliedUpdate} {final : Log}
    (drains : Drains delivered mayFail tenantID aggregateType aggregateID fuel log before ended
      sent final after) (told : Told notes log) : Told (notes ++ sent) final := by
  induction drains generalizing notes with
  | cut | drained | stopped => rwa [List.append_nil]
  | advanced fuel log platform env payload canonical redriven next applies ended sent final after
      rest hypothesis =>
    rw [← List.append_assoc]
    exact hypothesis (told.decided redriven.valid .applied)

/-- A call tells what it adds to the log. -/
theorem Processes.told {fuel : Nat} {key value : Bytes} {pos : SourcePosition} {outcome : Outcome}
    {sent : List AppliedUpdate}
    (processes : Processes mayFail fuel key value pos before outcome sent after)
    (grounded : Grounded delivered log before)
    (known : ∀ env, parse value = .ok env → key = envelopeKey env → delivered env)
    (told : Told notes log) :
    ∃ final, Grounded delivered final after ∧ Told (notes ++ sent) final := by
  -- A record that settles its event tells first of itself, then of what the re-drive applies.
  have drained : ∀ {env : Envelope} {payload : Payload} {canonical : Bytes}
      {disposition : Disposition} {middle : Platform} {more : List AppliedUpdate} {ended : Bool},
      Carries value env payload canonical → key = envelopeKey env →
      Decides before env (digest canonical) canonical payload disposition middle →
      Redrives mayFail env.tenantID env.aggregateType env.aggregateID fuel middle ended more after →
      ∃ final, Grounded delivered final after ∧
        Told (notes ++ (appliedNotes env payload disposition ++ more)) final := by
    intro env payload canonical disposition middle more ended carries ownKey decides redrives
    have between := grounded.decides (known env carries.parsed ownKey) carries decides
    obtain ⟨final, drains, last, -⟩ := redrives.drains between
    refine ⟨final, last, ?_⟩
    rw [← List.append_assoc]
    exact drains.told (told.decided carries.valid disposition)
  have silent : Told (notes ++ []) log := by rwa [List.append_nil]
  cases processes with
  | failed error cause => exact ⟨log, grounded, silent⟩
  | unparsed error refused admitted =>
    exact ⟨log, { grounded with }, silent⟩
  | misdelivered env payload canonical carries otherKey admitted =>
    rw [storeInbox_of_ne before (by simp [inboxRow])]
    exact ⟨log, grounded.storeRow _ (by simp [inboxRow]) ⟨canonical, rfl⟩, silent⟩
  | quarantined env payload canonical carries ownKey disposition final decides unsettled admitted =>
    have kept := grounded.decides (known env carries.parsed ownKey) carries decides
    have unapplied := ne_applied_of_unsettled unsettled
    rw [Log.after_of_ne _ _ _ unapplied] at kept
    exact ⟨log, kept, silent⟩
  | redriven _ _ _ carries ownKey _ _ decides _ _ _ redrives
  | interrupted _ _ _ carries ownKey _ _ decides _ _ _ redrives =>
    exact drained carries ownKey decides redrives

/-- The notifications of a log have one version after the other. -/
theorem Consecutive.announced_versions {key : Bytes × Bytes} {events : List Envelope}
    (consecutive : Consecutive delivered key events) :
    (events.filterMap announced).map AppliedUpdate.aggregateVersion =
      (List.range events.length).map fun index : Nat => (index : Int) + 1 := by
  have versions : (events.filterMap announced).map AppliedUpdate.aggregateVersion =
      events.map Envelope.aggregateVersion := by
    rw [List.map_filterMap, ← List.filterMap_eq_map]
    refine List.filterMap_congr fun env member => ?_
    obtain ⟨quantity, valid⟩ := consecutive.valid env member
    simp [announced, asQuantityDecremented_of_valid valid]
  rw [versions]
  refine List.ext_getElem (by simp) fun index bound _ => ?_
  rw [List.length_map] at bound
  simp [consecutive.versions index _ (List.getElem?_eq_getElem bound)]

end Telling

/-! ### Runs -/

theorem Call.sent_eq (call : Call) (db : Database) :
    call.sent db = ((call.moments db).filterMap Moment.announcement).map Prod.fst :=
  Program.run_notes (processRecord call.fuel call.key call.value call.pos) call.replies
    ⟨db, none, []⟩

theorem announcements_told_more (calls more : List Call) (log : Log) (db : Database)
    (notes : List AppliedUpdate) (grounded : Grounded (Delivered calls) log db.platform)
    (told : Told notes log) :
    ∃ final, Grounded (Delivered (calls ++ more)) final (deliver more db).platform ∧
      Told (notes ++ (announcements more db).map Prod.fst) final := by
  induction more generalizing calls log db notes with
  | nil =>
    rw [List.append_nil]
    exact ⟨log, grounded, by rwa [announcements, List.map_nil, List.append_nil]⟩
  | cons call rest hypothesis =>
    obtain ⟨processes, -⟩ := call.processes db true (by simp)
    have before := grounded.mono fun env (known : Delivered calls env) => known.append [call]
    obtain ⟨middle, between, toldThere⟩ := processes.told before
      (fun env parsed ownKey => ⟨call, by simp, parsed, ownKey⟩) told
    rw [call.sent_eq] at toldThere
    obtain ⟨final, last, toldLast⟩ := hypothesis _ middle _ _ between toldThere
    rw [List.append_assoc, List.singleton_append] at last
    refine ⟨final, last, ?_⟩
    rwa [announcements, List.map_append, ← List.append_assoc]

theorem announcements_shown (calls : List Call) (db : Database) (note : AppliedUpdate)
    (committed : Database) (member : (note, committed) ∈ announcements calls db) :
    note.ShownBy committed.platform := by
  induction calls generalizing db with
  | nil => cases member
  | cons call rest hypothesis =>
    rcases List.mem_append.mp member with own | later
    · obtain ⟨moment, visible, sent⟩ := List.mem_filterMap.mp own
      have shows := processRecord_shows call.fuel call.key call.value call.pos _ moment visible
      cases moment with
      | stored before after => cases sent
      | sent note committed =>
        cases sent
        exact shows
    · exact hypothesis _ later

/-- From empty tables, whatever is delivered and whatever requests are lost, the notifications
about an item have the versions from 1 to that of its projection row, in order; and each one
is sent when the committed projection row of its item has the version and the quantity it
tells. -/
theorem notifications_mirror_commits (erp : Erp) (calls : List Call) :
    (∀ key : Bytes × Bytes,
      ((announcements calls ⟨erp, .empty⟩).filter fun sent => sent.1.about key).map
          (fun sent => sent.1.aggregateVersion) =
        (List.range
            (projectedVersion (deliver calls ⟨erp, .empty⟩).platform key).toNat).map
          fun index : Nat => (index : Int) + 1) ∧
    ∀ note committed, (note, committed) ∈ announcements calls ⟨erp, .empty⟩ →
      note.ShownBy committed.platform := by
  refine ⟨fun key => ?_, announcements_shown calls ⟨erp, .empty⟩⟩
  obtain ⟨log, grounded, told⟩ := announcements_told_more [] calls .empty ⟨erp, .empty⟩ [] .empty
    fun _ => rfl
  rw [grounded.projectedVersion_eq, Int.toNat_natCast,
    ← (grounded.applied key).announced_versions, ← told key, List.nil_append, List.filter_map,
    List.map_map]
  rfl

end SeshatOps
