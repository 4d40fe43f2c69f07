/-
This file is about the delay after a failed publication.

The source declares the delay twice: `BackoffAfterAttempts` as a Go function, and
`ReleaseTransient` inside its update. The two agree wherever the update is executed. But
the update casts the power of two to `bigint` before it takes the minimum, and from the
64th attempt on the power is out of range. The release then fails, and the row stays
claimed until its lease runs out.
-/

import SeshatOps.Relay

namespace SeshatOps

open Relational Event

/-- `BackoffAfterAttempts`, in nanoseconds. -/
def backoffAfterAttempts (attempts : Int) : Int :=
  let attempts := if attempts < 1 then 1 else attempts
  let shift := if attempts - 1 > 6 then 6 else attempts - 1
  let delay : Int := 1000000000 * 2 ^ shift.toNat
  if delay > 60000000000 then 60000000000 else delay

theorem backoffAfterAttempts_eq (row : OutboxRow) :
    backoffAfterAttempts row.publishAttempts =
      min 60000000000 (1000000000 * 2 ^ min 6 row.backoffExponent) := by
  have shift : (if (if row.publishAttempts < 1 then 1 else row.publishAttempts) - 1 > 6 then 6
      else (if row.publishAttempts < 1 then 1 else row.publishAttempts) - 1).toNat =
        min 6 row.backoffExponent := by
    rw [OutboxRow.backoffExponent]
    split_ifs <;> omega
  rw [backoffAfterAttempts, shift]
  split_ifs <;> omega

/-- The delay in the update is the declared one. -/
theorem backoff_eq (row : OutboxRow) :
    1000 * (min 60 (2 ^ row.backoffExponent) * 1000000) =
      backoffAfterAttempts row.publishAttempts := by
  rw [backoffAfterAttempts_eq]
  rcases Nat.lt_or_ge row.backoffExponent 6 with small | large
  · rw [Nat.min_eq_right small.le]
    omega
  · have power : (2 : Int) ^ 6 ≤ 2 ^ row.backoffExponent := pow_le_pow_right₀ (by decide) large
    rw [Nat.min_eq_left large, min_eq_left (by omega)]
    rfl

/-- A release that serves its purpose: the row is pending again, and due after the declared
delay. -/
def Releases (world final : RelayWorld) (row : OutboxRow) : Prop :=
  ∃ after due, final.outbox.find? row.eventID = some after ∧ after.status = .pending ∧
    after.publishLeaseOwner = none ∧ after.publishLeaseExpiresAt = some due ∧
    1000 * (due - world.clock) = backoffAfterAttempts row.publishAttempts

/-- A release by the holder of a row, whatever its count of attempts, serves its purpose exactly
when its texts can be parameters and the row is at its 63rd attempt at most. -/
theorem release_transient_iff (world : RelayWorld) (row : OutboxRow) (owner errCode : Bytes)
    (replies : List Reply) (present : world.outbox.find? row.eventID = some row)
    (held : row.claimedBy owner = true) (attempted : 1 ≤ row.publishAttempts)
    (served : Reply.lost ∉ replies) :
    (((releaseTransient row.eventID owner errCode).run replies ⟨world, none, []⟩).1 = .ok () ∧
        Releases world
          ((releaseTransient row.eventID owner errCode).run replies ⟨world, none, []⟩).2.2.committed
          row) ↔
      [row.eventID, owner, errCode].all storable = true ∧ row.publishAttempts ≤ 63 := by
  obtain ⟨choice, reply⟩ := Program.nextReply_served served
  have picked : (world.outbox.find? row.eventID).filter (fun row => row.claimedBy owner) =
      some row := by
    rw [present, Option.filter_some, if_pos held]
  have exponent : 63 ≤ row.backoffExponent ↔ ¬ row.publishAttempts ≤ 63 := by
    rw [OutboxRow.backoffExponent]
    omega
  -- The one statement of the release, as the server executes it.
  have ran : ∀ result, (updateStatement [owner, errCode] row.eventID (·.claimedBy owner)
      (fun row => if 63 ≤ row.backoffExponent then some .domain else none)
      fun now row => row.released errCode now).execute choice world = result →
      (releaseTransient row.eventID owner errCode).run replies ⟨world, none, []⟩ =
        match result with
        | .ok (count, change) =>
            (if count ≠ 1 then .error (.affected .releaseTransient row.eventID count) else .ok (),
              (Program.nextReply replies).2, ⟨change world, none, []⟩)
        | .error error => (.error (.update .releaseTransient row.eventID error),
            (Program.nextReply replies).2, ⟨world, none, []⟩) := by
    intro result executed
    rw [releaseTransient, updateOne, Program.run_bind]
    simp only [Program.exec, Program.run, reply, Program.Session.view, executed]
    cases result with
    | error error => rfl
    | ok pair =>
      obtain ⟨count, change⟩ := pair
      by_cases one : count = 1
      · subst one
        rfl
      · simp only [Except.mapError, Program.proceed, Program.Session.write, ne_eq, one,
          not_false_eq_true, if_true]
        rfl
  cases fits : [row.eventID, owner, errCode].all storable with
  | false =>
    have refused := ran (.error .domain) (by simp [updateStatement, fits])
    simp [refused]
  | true =>
    by_cases within : row.publishAttempts ≤ 63
    · have released := ran (.ok (1, fun later => later.updateRow row.eventID fun row =>
        row.released errCode world.clock))
        (by simp [updateStatement, fits, picked, exponent, within])
      rw [released]
      refine ⟨fun _ => ⟨rfl, within⟩, fun _ => ⟨rfl, row.released errCode world.clock, _, ?_, rfl,
        rfl, rfl, ?_⟩⟩
      · simp only [RelayWorld.updateRow, present]
        exact Table.find?_store_self world.outbox (row.released errCode world.clock)
      · rw [← backoff_eq]
        omega
    · have refused := ran (.error .domain)
        (by simp [updateStatement, fits, picked, exponent, within])
      simp [refused, within]

/-- A row that its holder has tried to publish 64 times. -/
def tiredRow : OutboxRow where
  eventID := ascii "e"
  tenantID := ascii "t"
  aggregateType := ascii "inventory_item"
  aggregateID := ascii "i"
  aggregateVersion := 1
  contentHash := []
  eventBytes := []
  status := .publishing
  recordedAt := 0
  publishLeaseOwner := some (ascii "w")
  publishLeaseExpiresAt := some 30000000
  publishAttempts := 64
  lastErrorCode := none
  createdAt := 0

def tiredWorld : RelayWorld := ⟨0, Table.empty.store tiredRow, []⟩

/-- The row at the attempt before. -/
def patientRow : OutboxRow := { tiredRow with publishAttempts := 63 }

def patientWorld : RelayWorld := ⟨0, Table.empty.store patientRow, []⟩

/-- After its 63rd attempt the row is released. -/
theorem release_transient_iff_sample :
    ((releaseTransient patientRow.eventID (ascii "w") (ascii "c")).run []
      ⟨patientWorld, none, []⟩).1 = .ok () ∧
    Releases patientWorld ((releaseTransient patientRow.eventID (ascii "w") (ascii "c")).run []
      ⟨patientWorld, none, []⟩).2.2.committed patientRow :=
  (release_transient_iff patientWorld patientRow (ascii "w") (ascii "c") []
    (Table.find?_store_self Table.empty patientRow) (by decide) (by decide)
    List.not_mem_nil).mpr (by decide)

/-- The cast of the power fails, and with it the release. -/
theorem release_transient_fails :
    ¬ ∀ (world : RelayWorld) (row : OutboxRow) (owner errCode : Bytes) (replies : List Reply),
      world.outbox.find? row.eventID = some row → row.claimedBy owner = true →
      1 ≤ row.publishAttempts → Reply.lost ∉ replies →
      [row.eventID, owner, errCode].all storable = true →
      ((releaseTransient row.eventID owner errCode).run replies ⟨world, none, []⟩).1 = .ok () := by
  intro succeeds
  have released := succeeds tiredWorld tiredRow (ascii "w") (ascii "c") []
    (Table.find?_store_self Table.empty tiredRow) (by decide) (by decide) List.not_mem_nil
    (by decide)
  exact absurd released (by decide +kernel)

end SeshatOps
