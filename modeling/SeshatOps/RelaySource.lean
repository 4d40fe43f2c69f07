/-
This file joins the three packages on the way of an event: what the ERP source writes to the
outbox, what the relay checks before it publishes, and what the consumer checks before it
decides.

The certificate of an outbox row is `Records`: the bytes are the canonical bytes of a valid
event whose identity is in the columns. It is all that the two checks of `publishOne` ask for,
and it fixes the key of the message to the one that `ProcessRecord` computes. What is left for
the consumer to decide are versions, quantities and lineage.
-/

import SeshatOps.Concurrent
import SeshatOps.Convergence
import SeshatOps.Relay

namespace SeshatOps

open Relational Event Source

/-! ### Past the checks of the relay -/

/-- The rest of `publishOne` once its two checks have passed. -/
def sendRow (owner : Bytes) (row : OutboxRow) (key : Bytes) : RelayAction OutcomeKind := do
  match ← (Program.exec (publishStatement row.eventID key row.eventBytes)
      RelayError.produce : RelayAction Bool).attempt with
  | .ok true =>
      match ← (markPublished row.eventID owner).attempt with
      | .ok () => return .published
      | .error _ => return .ambiguous
  | _ => do
      releaseTransient row.eventID owner (ascii "broker_publish_failed")
      return .transient

section Rows

variable {row : OutboxRow} {env : Envelope} {payload : Payload} {canonical : Bytes}

/-- A recorded row is sent, whatever claims have done to its other columns. -/
theorem Source.Records.publishOne_eq (records : Records row env payload canonical)
    (owner : Bytes) {claimed : OutboxRow} (bytes : claimed.eventBytes = row.eventBytes)
    (place : claimed.place = row.place) :
    publishOne owner claimed = sendRow owner claimed (envelopeKey env) := by
  have fields := place.trans records.place
  simp only [OutboxRow.place, Envelope.place, Prod.mk.injEq] at fields
  obtain ⟨tenant, type, aggregate, -⟩ := fields
  have agrees : ¬ (env.tenantID ≠ claimed.tenantID ∨ env.aggregateType ≠ claimed.aggregateType ∨
      env.aggregateID ≠ claimed.aggregateID) := by
    rw [tenant, type, aggregate]
    simp
  have parsed : parse claimed.eventBytes = .ok env := by
    rw [bytes]
    exact records.carries.parsed
  rw [publishOne, parsed]
  simp only [if_neg agrees]
  rfl

/-- What the consumer makes of a published event, while the tables follow the source: the event
is applied, retained, or has been applied before. -/
theorem Takes.expected {log : Log} {platform final : Platform} {disposition : Disposition}
    (takes : Takes log platform env canonical payload disposition final) :
    disposition ≠ .quarantinedMismatch ∧ disposition ≠ .quarantinedInvalid := by
  cases takes <;> decide

/-- A call with a published event under its own key reports neither a mismatch nor an invalid
event. -/
theorem World.Sound.disposition_expected {Index : Type} {world : World Index}
    (sound : world.Sound) (member : row ∈ world.db.erp.outbox.rows)
    (records : Records row env payload canonical) {call : Call} (key : call.key = envelopeKey env)
    (value : call.value = row.eventBytes) :
    (call.outcome world.db).result.disposition ≠ some .quarantinedMismatch ∧
      (call.outcome world.db).result.disposition ≠ some .quarantinedInvalid := by
  obtain ⟨log, tracks⟩ := sound.tracks
  have sourced : Sourced world.db.erp := sound.source.sourced
  have known : Published world.db.erp env := ⟨row, member, payload, canonical, records⟩
  have carries : Carries call.value env payload canonical := value ▸ records.carries
  obtain ⟨processes, -⟩ := call.processes world.db true (by simp)
  rcases processes.own carries key with ⟨error, outcome, -⟩ | ⟨disposition, decides, -, outcome⟩ |
    ⟨disposition, middle, ended, notes, decides, -, -, outcome, -⟩
  · simp [outcome]
  all_goals
    have takes := tracks.follows.takes sourced.coherent known carries.valid carries.written decides
    simpa [outcome, decided] using takes.expected

end Rows

/-! ### The way of an event -/

/-- For every outbox row after any run of the source and of deliveries: its bytes parse to an
event with the identity and the hash of its columns; the relay sends it, under the key of the
event; and the consumer gets past its own parse and key checks, reporting no mismatch and no
invalid event. -/
theorem source_rows_pass_checks {Index : Type} [Fintype Index] [DecidableEq Index]
    (commands : Index → Command) (moves : List (World.Move Index)) (row : OutboxRow)
    (member : row ∈ ((World.start commands).run moves).db.erp.outbox.rows) :
    ∃ env, parse row.eventBytes = .ok env ∧ env.eventID = row.eventID ∧
      env.tenantID = row.tenantID ∧ env.aggregateType = row.aggregateType ∧
      env.aggregateID = row.aggregateID ∧ env.aggregateVersion = row.aggregateVersion ∧
      contentHash env = .ok row.contentHash ∧
      (∀ owner claimed, claimed.eventBytes = row.eventBytes → claimed.place = row.place →
        publishOne owner claimed = sendRow owner claimed (envelopeKey env)) ∧
      (∀ fuel pos, processRecord fuel (envelopeKey env) row.eventBytes pos =
        processKeyed fuel env) ∧
      ∀ fuel pos replies, ∀ disposition ∈ ((⟨fuel, envelopeKey env, row.eventBytes, pos,
          replies⟩ : Call).outcome ((World.start commands).run moves).db).result.disposition,
        disposition ≠ .quarantinedMismatch ∧ disposition ≠ .quarantinedInvalid := by
  have sound := World.run_sound commands moves
  generalize (World.start commands).run moves = world at member sound ⊢
  obtain ⟨env, payload, canonical, records, -⟩ := sound.source.sourced.recorded row member
  have place := records.place
  simp only [OutboxRow.place, Envelope.place, Prod.mk.injEq] at place
  obtain ⟨tenant, type, aggregate, version⟩ := place
  refine ⟨env, records.carries.parsed, records.eventID.symm, tenant.symm, type.symm,
    aggregate.symm, version.symm, ?_, ?_, ?_, ?_⟩
  · rw [records.contentHash]
    exact contentHash_of_canonical records.written
  · exact fun owner claimed bytes samePlace => records.publishOne_eq owner bytes samePlace
  · exact fun fuel pos => processRecord_eq records.carries rfl fuel pos
  · intro fuel pos replies disposition reported
    have expected : ((⟨fuel, envelopeKey env, row.eventBytes, pos, replies⟩ : Call).outcome
        world.db).result.disposition ≠ some .quarantinedMismatch ∧ _ :=
      sound.disposition_expected member records rfl rfl
    rw [Option.mem_def] at reported
    rw [reported] at expected
    simpa using expected

/-- The row of the sample order. -/
theorem source_rows_pass_checks_sample :
    ∃ row ∈ ((World.start sampleCommands).run orderMoves).db.erp.outbox.rows,
      row.eventID = secondEvent ∧ ∃ env, parse row.eventBytes = .ok env ∧
        ∀ owner, publishOne owner row = sendRow owner row (envelopeKey env) := by
  obtain ⟨row, member, named⟩ := List.mem_map.mp
    (sampleOrder_events ▸ List.mem_singleton_self secondEvent)
  obtain ⟨env, parsed, -, -, -, -, -, -, sent, -⟩ :=
    source_rows_pass_checks sampleCommands orderMoves row member
  exact ⟨row, member, named, env, parsed, fun owner => sent owner row rfl rfl⟩

end SeshatOps
