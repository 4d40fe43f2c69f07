/-
This file says that the re-drive loop is safe to run in any state that calls can reach.

A row is retained as a gap together with the canonical bytes of its event, and only ever
so. The loop therefore reads back the event that the row was written for: it cannot fail
to parse it, and it cannot find another hash. `redriveWith` leaves these two branches of
the loop open, and whatever stands there the loop runs the same. Each pass that goes on
has turned a gap of the aggregate into an applied row, so the passes are at most one more
than the gaps.
-/

import SeshatOps.Admission

namespace SeshatOps

open Relational Event

/-! ### The loop with two branches left open -/

/-- `redriveGaps` with other branches for bytes that do not parse and for a hash that differs. -/
def redriveWith (unreadable : InboxRow → EventError → Action Unit)
    (mismatched : InboxRow → Envelope → Action Unit → Action Unit)
    (tenantID aggregateType aggregateID : Bytes) : Nat → Action Unit
  | 0 => .fail .unfinished
  | fuel + 1 => do
      match ← selectGap tenantID aggregateType aggregateID with
      | none => return ()
      | some gap =>
          match parse (gap.eventBytes.getD []) with
          | .error error => unreadable gap error
          | .ok env => do
              let hash ← checked .event (contentHash env)
              if hash ≠ gap.contentHash then
                mismatched gap env
                  (redriveWith unreadable mismatched tenantID aggregateType aggregateID fuel)
              else
                let result ← processValidated env
                if result.disposition ≠ some .applied then return ()
                else redriveWith unreadable mismatched tenantID aggregateType aggregateID fuel

/-- The branch of the source for bytes that do not parse. -/
def redriveUnreadable (gap : InboxRow) (error : EventError) : Action Unit :=
  .fail (.redriveParse gap.eventID error)

/-- The branch of the source for a hash that differs. -/
def redriveMismatched (_ : InboxRow) (env : Envelope) (rest : Action Unit) : Action Unit := do
  let _ ← quarantineInbox env .quarantinedConflict none none
  rest

theorem redriveGaps_eq (tenantID aggregateType aggregateID : Bytes) (fuel : Nat) :
    redriveGaps tenantID aggregateType aggregateID fuel =
      redriveWith redriveUnreadable redriveMismatched tenantID aggregateType aggregateID fuel := by
  induction fuel with
  | zero => rfl
  | succ fuel hypothesis =>
    rw [redriveGaps, redriveWith, hypothesis]
    rfl

section Branches

variable {delivered : Envelope → Prop} {log : Log} {tenantID aggregateType aggregateID : Bytes}
  {db : Database} {notes : List AppliedUpdate}

/-- What the query of the loop returns. -/
theorem selectGap_ensures {mayFail : Bool} :
    Program.Ensures mayFail (selectGap tenantID aggregateType aggregateID) ⟨db, none, notes⟩
      (Program.Ends
        (fun gap final => final = ⟨db, none, notes⟩ ∧
          ∀ row, gap = some row →
            row ∈ eligibleGaps db.platform tenantID aggregateType aggregateID)
        fun _ final => final = ⟨db, none, notes⟩) := by
  rw [← bind_pure (selectGap tenantID aggregateType aggregateID)]
  refine ensures_query _ _ _ _ _ (fun _ => rfl) (fun _ => rfl) fun _ choice => ?_
  exact Program.ensures_done _ ⟨rfl, fun row picked => List.mem_of_getElem? picked⟩

/-- From a grounded state the loop runs the same whatever the two branches do. -/
theorem redriveWith_run (grounded : Grounded delivered log db.platform)
    (unreadable other : InboxRow → EventError → Action Unit)
    (mismatched another : InboxRow → Envelope → Action Unit → Action Unit) (fuel : Nat)
    (replies : List Reply) :
    (redriveWith unreadable mismatched tenantID aggregateType aggregateID fuel).run replies
        ⟨db, none, notes⟩ =
      (redriveWith other another tenantID aggregateType aggregateID fuel).run replies
        ⟨db, none, notes⟩ := by
  induction fuel generalizing log db notes replies with
  | zero => rfl
  | succ fuel hypothesis =>
    rw [redriveWith, redriveWith]
    refine selectGap_ensures.run_congr ?_ replies
    rintro (_ | gap) middle rest ⟨rfl, picked⟩
    · rfl
    · -- The bytes are those of the row's own event, so both loops go on to decide it.
      obtain ⟨env, payload, canonical, parsed, hash, redriven⟩ :=
        grounded.redriven (picked gap rfl)
      dsimp only
      rw [parsed]
      simp only [contentHash_of_canonical redriven.written, checked, Program.done_ok_bind, hash,
        ne_eq, not_true_eq_false, if_false]
      refine (processValidated_ensures db redriven.valid redriven.written).run_congr ?_ rest
      rintro result final rest ⟨disposition, platform, decides, -, -, rfl⟩
      have kept := grounded.writes redriven.known redriven.valid redriven.written decides.writes
      split_ifs
      · exact @hypothesis _ ⟨db.erp, platform⟩ _ kept rest
      · rfl

end Branches

/-! ### Re-drives of reachable states -/

/-- The row holds the canonical bytes of a valid envelope of its own identity and hash. -/
def InboxRow.KeepsEvent (row : InboxRow) : Prop :=
  ∃ env canonical, validate env = .ok () ∧ row.Of env ∧ canonicalBytes env = .ok canonical ∧
    row.eventBytes = some canonical ∧ Event.contentHash env = .ok row.contentHash

/-- Whatever calls were made, each gap row keeps the bytes of its event; a re-drive of any
aggregate takes neither the branch for unreadable bytes nor the one for another hash, and
without a database error it ends after at most one pass more than the aggregate has gaps. -/
theorem redrive_terminates (erp : Erp) (calls : List Call) :
    (∀ row ∈ (deliver calls ⟨erp, .empty⟩).platform.inbox.rows,
      row.disposition = .quarantinedGap → row.KeepsEvent) ∧
    ∀ (tenantID aggregateType aggregateID : Bytes) (fuel : Nat) (replies : List Reply)
      (notes : List AppliedUpdate),
      (∀ unreadable mismatched,
        (redriveGaps tenantID aggregateType aggregateID fuel).run replies
            ⟨deliver calls ⟨erp, .empty⟩, none, notes⟩ =
          (redriveWith unreadable mismatched tenantID aggregateType aggregateID fuel).run replies
            ⟨deliver calls ⟨erp, .empty⟩, none, notes⟩) ∧
      (Reply.lost ∉ replies → [tenantID, aggregateType, aggregateID].all storable = true →
        aggregateGaps (deliver calls ⟨erp, .empty⟩).platform tenantID aggregateType aggregateID + 1
          ≤ fuel →
        ((redriveGaps tenantID aggregateType aggregateID fuel).run replies
          ⟨deliver calls ⟨erp, .empty⟩, none, notes⟩).1 = .ok ()) := by
  obtain ⟨log, grounded⟩ := deliver_grounded erp calls
  refine ⟨fun row member isGap => ?_, fun tenantID aggregateType aggregateID fuel replies notes =>
    ⟨fun unreadable mismatched => ?_, fun served fit enough => ?_⟩⟩
  · obtain ⟨-, env, payload, canonical, retains⟩ := grounded.gaps row member isGap
    refine ⟨env, canonical, ?_, retains.of, retains.written, retains.bytes, ?_⟩
    · exact parse_valid canonical env (parse_canonicalBytes env canonical retains.written)
    · rw [contentHash_of_canonical retains.written, retains.hash]
  · rw [redriveGaps_eq]
    exact redriveWith_run grounded _ _ _ _ fuel replies
  · have spec : Program.Ensures false (redriveGaps tenantID aggregateType aggregateID fuel)
        ⟨deliver calls ⟨erp, .empty⟩, none, notes⟩ _ :=
      redriveGaps_ensures tenantID aggregateType aggregateID fuel _
    have ends := spec replies fun _ => served
    cases ran : ((redriveGaps tenantID aggregateType aggregateID fuel).run replies
        ⟨deliver calls ⟨erp, .empty⟩, none, notes⟩).1 with
    | ok value => rfl
    | error error =>
      rw [ran] at ends
      obtain ⟨sent, platform, redrives, -⟩ := ends
      obtain ⟨after, drains, -⟩ := redrives.drains grounded
      cases drains.ended fit enough

/-- Of two rows, one of which is a gap, the re-drive passes over one at most. -/
theorem aggregateGaps_few {platform : Platform}
    (dispositions : platform.inbox.rows.map InboxRow.disposition = [.quarantinedGap, .applied])
    (tenantID aggregateType aggregateID : Bytes) :
    aggregateGaps platform tenantID aggregateType aggregateID + 1 ≤ 2 := by
  have counted : List.countP (· == .quarantinedGap) (platform.inbox.rows.map
      InboxRow.disposition) = gapCount platform := List.countP_map
  refine Nat.succ_le_succ ((aggregateGaps_le _ _ _ _).trans ?_)
  rw [← counted, dispositions]
  decide

/-- A re-drive with one eligible gap ends within two passes. -/
theorem redrive_terminates_sample :
    (eligibleGaps (deliver cutOffCalls ⟨.empty, .empty⟩).platform sampleTenant
      aggregateTypeInventoryItem (ascii "flour")).map InboxRow.eventID = [secondEvent] ∧
    ((redriveGaps sampleTenant aggregateTypeInventoryItem (ascii "flour") 2).run []
      ⟨deliver cutOffCalls ⟨.empty, .empty⟩, none, []⟩).1 = .ok () := by
  obtain ⟨-, -, -, eligible, dispositions, -⟩ := cutOffCall_run
  rw [← deliver_cutOffCalls] at eligible dispositions
  exact ⟨eligible, ((redrive_terminates .empty cutOffCalls).2 sampleTenant
    aggregateTypeInventoryItem (ascii "flour") 2 [] []).2 List.not_mem_nil (by decide +kernel)
    (aggregateGaps_few dispositions _ _ _)⟩

end SeshatOps
