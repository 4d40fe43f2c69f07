/-
This file says what one call of the processor makes visible while it runs.

Each function of the processor that writes is a single transaction: statements, one
commit, and only then the notification. So whatever requests are lost, the tables change
at its commit alone, by the outcome that `Decides` lists, and a notification is sent when
the tables already show what it tells. `processRecord_shows` says this of a whole call,
re-drives included, in any state of the tables.
-/

import SeshatOps.Moments
import SeshatOps.RedriveBound

namespace SeshatOps

open Relational Event

/-! ### The transactions of the processor -/

section Shapes

variable (env : Envelope) (hash canonical : Bytes)

theorem record_asking (row : InboxRow) : Program.Asking (record row) :=
  (Program.Asking.exec _ _).bind fun _ => .done _

theorem applyProjection_asking : Program.Asking (applyProjection env hash canonical) := by
  unfold applyProjection
  split
  · exact .done _
  · refine (Program.Asking.exec _ _).bind fun found => ?_
    cases found with
    | none =>
      dsimp only
      split_ifs
      · exact record_asking _
      · exact (Program.Asking.exec _ _).bind fun _ => record_asking _
    | some current =>
      dsimp only
      split_ifs
      · exact record_asking _
      · exact record_asking _
      · exact record_asking _
      · exact record_asking _
      · exact (Program.Asking.exec _ _).bind fun _ => record_asking _

theorem insertLineageHop_asking (kind : HopKind) :
    Program.Asking (insertLineageHop kind env) := by
  unfold insertLineageHop
  split
  · split_ifs
    · exact .exec _ _
    · exact .done _
  · exact .done _

theorem applyLineage_asking (kind : HopKind) :
    Program.Asking (applyLineage kind env hash canonical) := by
  unfold applyLineage
  have locking : Program.Asking (lockLineageVersion (kind, env.tenantID, env.aggregateID)) :=
    (Program.Asking.exec _ _).bind fun _ => .done _
  refine locking.bind fun found => ?_
  cases found with
  | none =>
    dsimp only
    split_ifs
    · exact record_asking _
    · refine (insertLineageHop_asking env kind).bind fun inserted => ?_
      split_ifs
      · exact record_asking _
      · refine (Program.Asking.exec _ _).bind fun own => ?_
        split_ifs
        · exact record_asking _
        · exact record_asking _
  | some current =>
    dsimp only
    have deciding : ∀ (own : Option Bytes) (row : InboxRow), Program.Asking
        (if own = some env.eventID then record (inboxRow env hash .duplicateNoop)
          else record row) := by
      intro own row
      split_ifs
      · exact record_asking _
      · exact record_asking _
    split
    · exact (Program.Asking.exec _ _).bind fun own => deciding own _
    · exact deciding none _

theorem applyEvent_asking : Program.Asking (applyEvent env hash canonical) := by
  unfold applyEvent
  split_ifs
  · exact applyProjection_asking env hash canonical
  · split
    · exact applyLineage_asking env hash canonical _
    · exact .done _

theorem applyAndCommit_inside : Program.Inside (applyAndCommit env hash canonical) := by
  refine (applyEvent_asking env hash canonical).bind_inside fun disposition =>
    .commitOr _ ?_
  split_ifs
  · split
    · exact .done _
    · exact .emit _ (.done _)
  · exact .done _

theorem recordAndCommit_inside (row : InboxRow) : Program.Inside (recordAndCommit env row) :=
  (record_asking row).bind_inside fun _ => .commitOr _ (.done _)

theorem processValidated_single : Program.OneTransaction (processValidated env) := by
  unfold processValidated
  cases contentHash env with
  | error error => exact .done _
  | ok hash =>
    cases canonicalBytes env with
    | error error => exact .done _
    | ok canonical =>
      refine .inTransaction _ ((Program.Asking.exec _ _).bind_inside fun found => ?_)
      cases found with
      | none => exact applyAndCommit_inside env hash canonical
      | some existing =>
        dsimp only
        split_ifs
        · exact recordAndCommit_inside env _
        · exact recordAndCommit_inside env _
        · exact applyAndCommit_inside env hash canonical
        · exact .commitOr _ (.done _)

theorem quarantineInbox_single (disposition : Disposition) (expected received : Option Int) :
    Program.OneTransaction (quarantineInbox env disposition expected received) :=
  .inTransaction _ (recordAndCommit_inside env _)

theorem persistParseFailure_single (value : Bytes) (pos : SourcePosition) (error : EventError) :
    Program.OneTransaction (persistParseFailure value pos error) :=
  .inTransaction _ ((Program.Asking.exec _ _).bind_inside fun _ => .commitOr _ (.done _))

end Shapes

/-! ### What a call shows -/

/-- One committed change of a call. -/
inductive Stores (before after : Platform) : Prop
  | nothing (same : after = before)
  | failure (row : FailureRow) (stored : after = storeFailure row before)
  | quarantine (row : InboxRow) (unsettled : row.disposition.settled = false)
      (stored : after = storeInbox row before)
  | decision (env : Envelope) (payload : Payload) (canonical : Bytes) (valid : Valid env payload)
      (written : canonicalBytes env = .ok canonical) (disposition : Disposition)
      (decides : Decides before env (digest canonical) canonical payload disposition after)

/-- The projection shows what a notification tells. -/
def AppliedUpdate.ShownBy (note : AppliedUpdate) (platform : Platform) : Prop :=
  platform.projection.find? (note.tenantID, note.itemID) =
    some ⟨note.tenantID, note.itemID, note.quantityOnHand, note.aggregateVersion⟩

/-- A committed change of a call leaves the source alone; a notification tells what is
committed. -/
def CallMoment : Moment Database AppliedUpdate → Prop
  | .stored before after => after.erp = before.erp ∧ Stores before.platform after.platform
  | .sent note committed => note.ShownBy committed.platform

/-- A decision announces what it has stored. -/
theorem Decides.shownBy {platform final : Platform} {env : Envelope} {hash canonical : Bytes}
    {payload : Payload} {disposition : Disposition}
    (decides : Decides platform env hash canonical payload disposition final)
    {note : AppliedUpdate} (member : note ∈ appliedNotes env payload disposition) :
    note.ShownBy final := by
  have silent : ∀ {other : Disposition}, other ≠ .applied →
      note ∉ appliedNotes env payload other := by
    intro other unapplied
    rw [appliedNotes_of_ne unapplied]
    exact List.not_mem_nil
  cases decides with
  | conflict | duplicate => exact absurd member (silent (by decide))
  | terminal existing found same unsettled noGap =>
    exact absurd member (silent (ne_applied_of_unsettled unsettled))
  | fresh undecided disposition final applies =>
    by_cases isApplied : disposition = .applied
    · cases applies with
      | applied quantity next continues =>
        obtain rfl := List.mem_singleton.mp member
        rw [storeInbox_of_ne _ (by simp [inboxRow])]
        exact Table.find?_store_self platform.projection _
      | hopApplied payload hop described first absent free =>
        cases payload with
        | quantityDecremented quantity => cases described
        | _ => cases member
      | _ => cases isApplied
    · exact absurd member (silent isApplied)

section Showing

variable {env : Envelope} {payload : Payload} {canonical : Bytes} {db : Database}
  {notes : List AppliedUpdate}

/-- A single transaction that announces nothing shows the change it leaves. -/
theorem shows_of_silent {action : Action Result} (single : action.OneTransaction)
    (leaves : Program.Ensures true action ⟨db, none, notes⟩ fun _ final =>
      final.notes = notes ∧ final.committed.erp = db.erp ∧
        Stores db.platform final.committed.platform) :
    Program.Shows CallMoment action ⟨db, none, notes⟩ := by
  refine single.shows (leaves.mono fun result final ends => ?_)
  obtain ⟨same, erp, stores⟩ := ends
  refine ⟨⟨erp, stores⟩, fun sent announced note member => ?_⟩
  rw [same] at announced
  rw [List.self_eq_append_right.mp announced] at member
  cases member

theorem processValidated_shows (valid : Valid env payload)
    (written : canonicalBytes env = .ok canonical) :
    Program.Shows CallMoment (processValidated env) ⟨db, none, notes⟩ := by
  refine (processValidated_single env).shows ((processValidated_ensures db valid written).mono ?_)
  rintro (error | result) final ends
  · obtain ⟨rfl, -⟩ := ends
    refine ⟨⟨rfl, .nothing rfl⟩, fun sent announced note member => ?_⟩
    rw [List.self_eq_append_right.mp announced] at member
    cases member
  · obtain ⟨disposition, platform, decides, -, -, rfl⟩ := ends
    refine ⟨⟨rfl, .decision env payload canonical valid written disposition decides⟩, ?_⟩
    intro sent announced note member
    obtain rfl := List.append_cancel_left announced
    exact decides.shownBy member

theorem quarantineInbox_shows (valid : Valid env payload)
    (written : canonicalBytes env = .ok canonical) {disposition : Disposition}
    (noGap : disposition ≠ .quarantinedGap) (unsettled : disposition.settled = false) :
    Program.Shows CallMoment (quarantineInbox env disposition none none) ⟨db, none, notes⟩ := by
  refine shows_of_silent (quarantineInbox_single env disposition none none)
    ((quarantineInbox_ensures db valid written disposition noGap).mono ?_)
  rintro (error | result) final ends
  · obtain ⟨rfl, -⟩ := ends
    exact ⟨rfl, rfl, .nothing rfl⟩
  · obtain ⟨-, -, rfl⟩ := ends
    exact ⟨rfl, rfl, .quarantine _ unsettled rfl⟩

theorem persistParseFailure_shows (value : Bytes) (pos : SourcePosition) (error : EventError) :
    Program.Shows CallMoment (persistParseFailure value pos error) ⟨db, none, notes⟩ := by
  refine shows_of_silent (persistParseFailure_single value pos error)
    ((persistParseFailure_ensures db value pos error).mono ?_)
  rintro (error | result) final ends
  · obtain ⟨rfl, -⟩ := ends
    exact ⟨rfl, rfl, .nothing rfl⟩
  · obtain ⟨-, -, rfl⟩ := ends
    exact ⟨rfl, rfl, .failure _ rfl⟩

theorem redriveGaps_shows (tenantID aggregateType aggregateID : Bytes) (fuel : Nat) :
    Program.Shows CallMoment (redriveGaps tenantID aggregateType aggregateID fuel)
      ⟨db, none, notes⟩ := by
  induction fuel generalizing db notes with
  | zero => exact Program.shows_done _
  | succ fuel hypothesis =>
    rw [redriveGaps]
    refine Program.shows_bind (Program.shows_exec ?_) selectGap_ensures ?_
    · intro choice answer change executed
      cases fit : [tenantID, aggregateType, aggregateID].all storable with
      | false => simp [selectGapStatement, query, statement, fit] at executed
      | true =>
        simp only [selectGapStatement, query, statement, fit, if_true, Except.ok.injEq,
          Prod.mk.injEq] at executed
        obtain ⟨-, rfl⟩ := executed
        exact ⟨rfl, .nothing rfl⟩
    · rintro (_ | gap) middle ⟨rfl, -⟩
      · exact Program.shows_done _
      · dsimp only
        cases parsed : parse (gap.eventBytes.getD []) with
        | error error => exact Program.shows_done _
        | ok env =>
          obtain ⟨payload, canonical, valid, written⟩ := parse_ok parsed
          simp only [contentHash_of_canonical written, checked, Program.done_ok_bind]
          split_ifs with differs
          · refine Program.shows_bind (quarantineInbox_shows valid written (by decide) rfl)
              (quarantineInbox_ensures db valid written _ (by decide)) ?_
            rintro result final ⟨-, -, rfl⟩
            exact hypothesis
          · refine Program.shows_bind (processValidated_shows valid written)
              (processValidated_ensures db valid written) ?_
            rintro result final ⟨disposition, platform, -, -, -, rfl⟩
            split_ifs
            · exact Program.shows_done _
            · exact hypothesis

/-- The error of an action becomes part of the outcome. -/
theorem settle_shows {action : Action Result} {session : Program.Session Database AppliedUpdate}
    (shows : Program.Shows CallMoment action session) :
    Program.Shows CallMoment (settle action) session := by
  have anything : Program.Ensures true action session fun _ _ => True := fun _ _ => trivial
  refine Program.shows_attempt_bind shows anything fun result middle _ => ?_
  cases result with
  | ok | error => exact Program.shows_done _

/-- Every committed change of a call is one of the listed ones, and every notification tells what
is already committed, whatever the state and whatever requests are lost. -/
theorem processRecord_shows (fuel : Nat) (key value : Bytes) (pos : SourcePosition) :
    Program.Shows CallMoment (processRecord fuel key value pos) ⟨db, none, notes⟩ := by
  unfold processRecord
  cases parsed : parse value with
  | error error => exact settle_shows (persistParseFailure_shows _ _ _)
  | ok env =>
    obtain ⟨payload, canonical, valid, written⟩ := parse_ok parsed
    simp only [isProjectionFamily_of_valid valid, projectionSelfID_of_valid valid, Bool.not_true,
      Bool.false_eq_true, if_false]
    split_ifs with misplaced
    · exact settle_shows (quarantineInbox_shows valid written (by decide) rfl)
    · rw [processKeyed]
      refine Program.shows_attempt_bind (processValidated_shows valid written)
        (processValidated_ensures db valid written) ?_
      rintro (error | result) middle ends
      · exact Program.shows_done _
      · obtain ⟨disposition, platform, -, -, -, rfl⟩ := ends
        dsimp only
        split_ifs
        · have anything : Program.Ensures true
              (redriveGaps env.tenantID env.aggregateType env.aggregateID fuel)
              ⟨⟨db.erp, platform⟩, none, notes ++ appliedNotes env payload disposition⟩
              fun _ _ => True := fun _ _ => trivial
          refine Program.shows_attempt_bind (redriveGaps_shows _ _ _ fuel) anything ?_
          rintro (error | _) final -
          · exact Program.shows_done _
          · exact Program.shows_done _
        · exact Program.shows_done _

end Showing

/-- What a call makes visible. -/
def Call.moments (call : Call) (db : Database) : List (Moment Database AppliedUpdate) :=
  (processRecord call.fuel call.key call.value call.pos).moments call.replies ⟨db, none, []⟩

end SeshatOps
