/-
This file is about two rebuilds of one tenant in a row.

The reset of the second rebuild takes away what the first one wrote, as long as it wrote
into rows of the tenant only. The inbox is keyed by the event alone, so a row of another
tenant may stand under the identifier of an event of the history. If that row carries
the event's own content it was left there by a conflict, and both rebuilds meet it and
leave it alone. If it carries another content, the first rebuild turns it into a row of
the tenant, and the second one finds its place free. So a rebuild repeats exactly when
no row of the second kind is there. The re-drives of both pick the same rows, since the
outbox has one event of the tenant for each version of an aggregate.
-/

import SeshatOps.Admission
import SeshatOps.TenantReplay

namespace SeshatOps

open Relational Event

/-! ### Whose content a row carries -/

/-- Each inbox row carries the hash of an event of its own identity, or is a conflict. -/
def Attributed (seen : Envelope → Prop) (platform : Platform) : Prop :=
  ∀ row ∈ platform.inbox.rows, row.disposition = .quarantinedConflict ∨
    ∃ env canonical, seen env ∧ canonicalBytes env = .ok canonical ∧ row.Of env ∧
      row.contentHash = digest canonical

/-- Some call was made with the envelope, under any key. -/
def Seen (calls : List Call) (env : Envelope) : Prop :=
  ∃ call ∈ calls, parse call.value = .ok env

section Attribution

variable {seen delivered : Envelope → Prop} {platform final : Platform} {log : Log}
  {env : Envelope} {payload : Payload} {canonical : Bytes} {disposition : Disposition}

theorem Attributed.store {row : InboxRow} (attributed : Attributed seen platform)
    (inbox : final.inbox = platform.inbox.store row)
    (own : row.disposition = .quarantinedConflict ∨
      ∃ env canonical, seen env ∧ canonicalBytes env = .ok canonical ∧ row.Of env ∧
        row.contentHash = digest canonical) : Attributed seen final := by
  rw [Attributed, inbox]
  exact Table.forall_mem_store attributed own

theorem Attributed.writes (attributed : Attributed seen platform) (known : seen env)
    (written : canonicalBytes env = .ok canonical)
    (writes : Writes platform env (digest canonical) canonical payload disposition final) :
    Attributed seen final := by
  have own : ∀ {row : InboxRow} {later : Platform}, row.Of env →
      row.contentHash = digest canonical → later.inbox = platform.inbox.store row →
      Attributed seen later := fun of hashed inbox =>
    attributed.store inbox (Or.inr ⟨env, canonical, known, written, of, hashed⟩)
  cases writes with
  | unchanged => exact attributed
  | quarantined _ row of _ _ reason =>
    rcases reason with ⟨hashed, -⟩ | ⟨-, -, -, -, conflict⟩
    · exact own of hashed rfl
    · exact attributed.store rfl (Or.inl conflict)
  | retained => exact own (versionedRow_of _ _ _) rfl rfl
  | repeated | joined | advanced | linked => exact own (inboxRow_of _) rfl rfl

theorem Processes.attributed {mayFail : Bool} {fuel : Nat} {key value : Bytes}
    {pos : SourcePosition} {outcome : Outcome} {sent : List AppliedUpdate}
    (processes : Processes mayFail fuel key value pos platform outcome sent final)
    (attributed : Attributed seen platform) (grounded : Grounded delivered log platform)
    (known : ∀ env, parse value = .ok env → seen env)
    (keyed : ∀ env, parse value = .ok env → key = envelopeKey env → delivered env)
    (wide : ∀ env, delivered env → seen env) : Attributed seen final := by
  refine (processes.preserves (fun _ later => Attributed seen later) grounded keyed attributed
    (fun _ _ _ => attributed) ?_ ?_ ?_).elim fun _ last => last.2.2
  · intro env payload canonical carries _
    exact attributed.store rfl (Or.inr ⟨env, canonical, known env carries.parsed, carries.written,
      inboxRow_of _, rfl⟩)
  · intro env payload canonical disposition middle carries _ writes
    exact attributed.writes (known env carries.parsed) carries.written writes
  · intro _ _ _ _ _ log platform other payload canonical disposition final redriven writes _ held
    exact held.writes (wide _ redriven.known) redriven.written writes

end Attribution

theorem deliver_attributed (erp : Erp) (calls : List Call) :
    Attributed (Seen calls) (deliver calls ⟨erp, .empty⟩).platform := by
  induction calls using List.reverseRecOn with
  | nil =>
    intro row member
    cases member
  | append_singleton calls call hypothesis =>
    obtain ⟨log, grounded⟩ := deliver_grounded erp calls
    obtain ⟨processes, -⟩ := call.processes (deliver calls ⟨erp, .empty⟩) true (by simp)
    rw [deliver_append]
    refine processes.attributed (fun row member => (hypothesis row member).imp_right ?_)
      (grounded.mono fun env known => known.append [call])
      (fun env parsed => ⟨call, by simp, parsed⟩)
      (fun env parsed ownKey => ⟨call, by simp, parsed, ownKey⟩)
      fun env ⟨earlier, member, parsed, _⟩ => ⟨earlier, member, parsed⟩
    rintro ⟨env, canonical, ⟨earlier, listed, parsed⟩, rest⟩
    exact ⟨env, canonical, ⟨earlier, List.mem_append_left _ listed, parsed⟩, rest⟩

/-! ### What a call does to the rows of other events -/

section OtherEvents

variable {mayFail : Bool} {fuel : Nat} {key value : Bytes} {pos : SourcePosition}
  {outcome : Outcome} {sent : List AppliedUpdate} {platform final : Platform} {log : Log}
  {env : Envelope}

/-- A call leaves what the inbox has for another event, unless it is a gap of its own tenant. -/
theorem Processes.keepsFound
    (processes : Processes mayFail fuel key value pos platform outcome sent final)
    (grounded : Grounded (fun _ => True) log platform) (parsed : parse value = .ok env)
    {eventID : Bytes} {found : Option InboxRow} (before : platform.inbox.find? eventID = found)
    (other : eventID ≠ env.eventID)
    (kept : ∀ row, found = some row → row.tenantID = env.tenantID →
      row.disposition ≠ .quarantinedGap) : final.inbox.find? eventID = found := by
  refine (processes.preserves (fun _ later => later.inbox.find? eventID = found) grounded
    (fun _ _ _ => trivial) before ?_ ?_ ?_ ?_).elim fun _ last => last.2.2
  · exact fun _ _ _ => before
  · intro owner payload canonical carries _
    obtain rfl := carries.env_eq parsed
    refine (Table.find?_store_of_ne platform.inbox ?_).trans before
    exact other
  · intro owner payload canonical disposition middle carries _ writes
    obtain rfl := carries.env_eq parsed
    exact (writes.find?_of_ne other).trans before
  · intro owner payload canonical carries _ log platform gapEnv gapPayload gapBytes disposition
      final redriven writes _ held
    obtain rfl := carries.env_eq parsed
    obtain ⟨gap, gapFound, isGap, -, of⟩ := redriven.retained
    refine (writes.find?_of_ne fun same => ?_).trans held
    rw [← same, held] at gapFound
    exact kept gap gapFound (of.tenantID.trans redriven.sameTenant) isGap

/-- What a call decides about its own event. -/
theorem HistoryRecord.Decided.decides {record : HistoryRecord} {policy : ReplayPolicy}
    {before after : Platform} {disposition : Option Disposition}
    (decided : record.Decided mayFail policy fuel before disposition after)
    (parsed : parse record.value = .ok env) (ownKey : record.key = envelopeKey env) :
    ∃ payload canonical verdict middle, Carries record.value env payload canonical ∧
      disposition = some verdict ∧
      Decides before env (digest canonical) canonical payload verdict middle ∧
      (verdict.settled = false → after = middle) := by
  obtain ⟨result, sent, processes, rfl⟩ := decided
  obtain ⟨payload, canonical, valid, written⟩ := parse_ok parsed
  have carries : Carries record.value env payload canonical := ⟨parsed, valid, written⟩
  rcases processes.own carries ownKey with ⟨error, failed, -⟩ | ⟨verdict, decides, -, outcome⟩ |
    ⟨verdict, middle, ended, notes, decides, settled, -, outcome, -⟩
  · cases failed
  · cases outcome
    exact ⟨payload, canonical, verdict, after, carries, rfl, decides, fun _ => rfl⟩
  · cases outcome
    exact ⟨payload, canonical, verdict, middle, carries, rfl, decides, by simp [settled]⟩

end OtherEvents

/-! ### Rows of other tenants under the tenant's events -/

/-- The event of an outbox row of a tenant. -/
def InHistory (erp : Erp) (tenantID : Bytes) (env : Envelope) : Prop :=
  ∃ entry ∈ erp.outbox.rows, entry.tenantID = tenantID ∧ parse entry.eventBytes = .ok env

/-- A row of another tenant under an event of the history carries the content of that event. -/
def Uncontested (erp : Erp) (tenantID : Bytes) (platform : Platform) : Prop :=
  ∀ row ∈ platform.inbox.rows, row.tenantID ≠ tenantID →
    ∀ env, InHistory erp tenantID env → env.eventID = row.eventID →
      contentHash env = .ok row.contentHash

/-- Another event than one of the history was seen under its identifier and with its SHA-256. -/
def Confused (calls : List Call) (erp : Erp) (tenantID : Bytes) : Prop :=
  ∃ env other, InHistory erp tenantID env ∧ Seen calls other ∧ other ≠ env ∧
    other.eventID = env.eventID ∧ contentHash other = contentHash env

section Contests

variable {calls : List Call} {erp : Erp} {tenantID : Bytes} {platform before middle : Platform}
  {env : Envelope} {payload : Payload} {hash canonical : Bytes} {row : InboxRow}
  {verdict : Disposition}

/-- A row of another tenant that carries the content of an event was left by a conflict. -/
theorem Attributed.conflict (attributed : Attributed (Seen calls) platform)
    (distinct : ¬ Confused calls erp tenantID) (member : row ∈ platform.inbox.rows)
    (foreign : row.tenantID ≠ env.tenantID) (listed : InHistory erp tenantID env)
    (sameID : env.eventID = row.eventID) (same : contentHash env = .ok row.contentHash) :
    row.disposition = .quarantinedConflict := by
  refine (attributed row member).resolve_right ?_
  rintro ⟨other, bytes, known, written, of, hashed⟩
  refine distinct ⟨env, other, listed, known, ?_, of.eventID.symm.trans sameID.symm, ?_⟩
  · rintro rfl
    exact foreign of.tenantID
  · rw [same, contentHash_of_canonical written, hashed]

/-- An event whose row is a conflict over its own content is not decided again. -/
theorem Writes.of_conflict
    (writes : Writes platform env hash canonical payload verdict middle)
    (found : platform.inbox.find? env.eventID = some row) (same : row.contentHash = hash)
    (conflict : row.disposition = .quarantinedConflict) : middle = platform := by
  have decided : ¬ Undecided platform env hash := by
    intro undecided
    have isGap := (undecided row found).2
    rw [conflict] at isGap
    cases isGap
  cases writes with
  | unchanged => rfl
  | quarantined _ _ _ _ _ reason =>
    rcases reason with ⟨-, undecided⟩ | ⟨existing, present, -, differs, -⟩
    · exact absurd undecided decided
    · obtain rfl := Option.some.inj (present.symm.trans found)
      exact absurd same differs
  | retained _ undecided => exact absurd undecided decided
  | repeated _ existing present _ settled =>
    obtain rfl := Option.some.inj (present.symm.trans found)
    rw [conflict] at settled
    cases settled
  | joined _ undecided | advanced _ undecided | linked _ undecided => exact absurd undecided decided

/-- An event whose row has another content, or is a conflict over its own, ends in conflict. -/
theorem Decides.contested
    (decides : Decides before env (digest canonical) canonical payload verdict middle)
    (found : before.inbox.find? env.eventID = some row)
    (conflict : row.contentHash = digest canonical → row.disposition = .quarantinedConflict) :
    verdict = .quarantinedConflict ∧
      (row.contentHash = digest canonical ∧ middle = before ∨
        row.contentHash ≠ digest canonical ∧ middle.inbox.find? env.eventID =
          some (inboxRow env row.contentHash .quarantinedConflict)) := by
  cases decides with
  | conflict existing present differs =>
    obtain rfl := Option.some.inj (present.symm.trans found)
    refine ⟨rfl, Or.inr ⟨differs, ?_⟩⟩
    rw [storeInbox_conflict present]
    exact Table.find?_store_self before.inbox
      (inboxRow env existing.contentHash .quarantinedConflict)
  | duplicate existing present same settled =>
    obtain rfl := Option.some.inj (present.symm.trans found)
    rw [conflict same] at settled
    cases settled
  | terminal existing present same unsettled noGap =>
    obtain rfl := Option.some.inj (present.symm.trans found)
    exact ⟨conflict same, Or.inl ⟨same, rfl⟩⟩
  | fresh undecided _ _ applies =>
    obtain ⟨same, isGap⟩ := undecided row found
    rw [conflict same] at isGap
    cases isGap

/-- An event without a row does not end in conflict. -/
theorem Decides.uncontested
    (decides : Decides before env (digest canonical) canonical payload verdict middle)
    (absent : before.inbox.find? env.eventID = none) : verdict ≠ .quarantinedConflict := by
  have undecided : Undecided before env (digest canonical) := by
    intro existing found
    rw [absent] at found
    cases found
  have applies := decides.applies undecided
  cases applies <;> exact Disposition.noConfusion

end Contests

theorem Platform.cleared_cleared (platform : Platform) (tenantID : Bytes) :
    (platform.cleared (some tenantID)).cleared (some tenantID) =
      platform.cleared (some tenantID) := by
  rw [Platform.cleared_some, Platform.cleared_some]
  simp [Table.discard, List.filter_filter]

/-- What stands in the place of a row of another tenant: the row, unless it was taken over, or a
conflict of the tenant over its content. -/
def Contested (tenantID : Bytes) (row : InboxRow) (taken : Prop) (platform : Platform) : Prop :=
  ∃ now, platform.inbox.find? row.eventID = some now ∧ now.contentHash = row.contentHash ∧
    (¬ taken ∧ now = row ∨ now.tenantID = tenantID ∧ now.disposition = .quarantinedConflict)

section Chains

variable {rebuild : TenantRebuild} {mayFail : Bool} {db : Database}
  {records : List HistoryRecord} {states : Nat → Platform}
  {dispositions : List (Option Disposition)} {calls : List Call} {log : Log}
  (chain : rebuild.Chain mayFail db records states dispositions)
  (start : Grounded (fun _ => True) log db.platform)

include chain start

theorem TenantRebuild.Chain.grounded (count : Nat) (bound : count ≤ records.length) :
    ∃ log, Grounded (fun _ => True) log (states count) := by
  induction count with
  | zero =>
    rw [chain.first]
    exact ⟨_, start.cleared.mono fun _ _ => trivial⟩
  | succ count hypothesis =>
    obtain ⟨before, grounded⟩ := hypothesis (by omega)
    obtain ⟨disposition, -, result, sent, processes, -⟩ :=
      chain.replayed.step count _ (List.getElem?_eq_getElem (by omega))
    obtain ⟨after, last, -⟩ := processes.grounded grounded fun _ _ _ => trivial
    exact ⟨after, last⟩

omit start in
/-- The event of a record of the chain. -/
theorem TenantRebuild.Chain.event {record : HistoryRecord} (member : record ∈ records) :
    ∃ env, parse record.value = .ok env ∧ record.key = envelopeKey env ∧
      env.tenantID = rebuild.tenantID ∧ InHistory db.erp rebuild.tenantID env := by
  obtain ⟨entry, listed, env, yields⟩ := yields_of_record chain.loaded member
  refine ⟨env, ?_, yields.key, yields.tenant, entry, listed, yields.rowTenant, yields.parsed⟩
  rw [yields.value]
  exact yields.parsed

/-- Where an event has no row and each of its records ends in conflict, it has no record. -/
theorem TenantRebuild.Chain.absent {eventID : Bytes}
    (missing : (db.platform.cleared (some rebuild.tenantID)).inbox.find? eventID = none)
    (conflicts : ∀ (index : Nat) record env, records[index]? = some record →
      parse record.value = .ok env → env.eventID = eventID →
      dispositions[index]? = some (some .quarantinedConflict)) (count : Nat)
    (bound : count ≤ records.length) :
    (states count).inbox.find? eventID = none ∧ ∀ index < count, ∀ record env,
      records[index]? = some record → parse record.value = .ok env → env.eventID ≠ eventID := by
  induction count with
  | zero =>
    rw [chain.first]
    exact ⟨missing, by simp⟩
  | succ count hypothesis =>
    obtain ⟨before, others⟩ := hypothesis (by omega)
    obtain ⟨middle, grounded⟩ := chain.grounded start count (by omega)
    have here := List.getElem?_eq_getElem (show count < records.length by omega)
    obtain ⟨disposition, listed, decided⟩ := chain.replayed.step count _ here
    obtain ⟨env, parsed, ownKey, -⟩ := chain.event (List.mem_of_getElem? here)
    have other : env.eventID ≠ eventID := by
      rintro rfl
      obtain ⟨payload, canonical, verdict, middle, -, rfl, decides, -⟩ :=
        decided.decides parsed ownKey
      have conflict := listed.symm.trans (conflicts count _ env here parsed rfl)
      exact decides.uncontested before (Option.some.inj (Option.some.inj conflict))
    obtain ⟨result, sent, processes, -⟩ := decided
    refine ⟨processes.keepsFound grounded parsed before other.symm (by simp), ?_⟩
    intro index below record owner found read
    rcases Nat.lt_succ_iff_lt_or_eq.mp below with below | rfl
    · exact others index below record owner found read
    · cases here.symm.trans found
      exact Except.ok.inj (parsed.symm.trans read) ▸ other

variable (attributed : Attributed (Seen calls) db.platform)
  (distinct : ¬ Confused calls db.erp rebuild.tenantID)

include attributed distinct

/-- Where no row is contested, the replay writes into rows of the tenant only. -/
theorem TenantRebuild.Chain.cleared
    (uncontested : Uncontested db.erp rebuild.tenantID db.platform) (count : Nat)
    (bound : count ≤ records.length) :
    (states count).cleared (some rebuild.tenantID) =
      db.platform.cleared (some rebuild.tenantID) := by
  induction count with
  | zero =>
    rw [chain.first, Platform.cleared_cleared]
  | succ count hypothesis =>
    have before := hypothesis (by omega)
    obtain ⟨middle, grounded⟩ := chain.grounded start count (by omega)
    obtain ⟨disposition, -, result, sent, processes, -⟩ :=
      chain.replayed.step count _ (List.getElem?_eq_getElem (by omega))
    obtain ⟨env, parsed, ownKey, sameTenant, listed⟩ :=
      chain.event (List.getElem_mem (show count < records.length by omega))
    refine (processes.preserves (fun _ later => later.cleared (some rebuild.tenantID) =
      db.platform.cleared (some rebuild.tenantID)) grounded (fun _ _ _ => trivial) before
      ?_ ?_ ?_ ?_).elim fun _ last => last.2.2
    · intro error row refused
      rw [refused] at parsed
      cases parsed
    · intro owner payload canonical carries otherKey
      obtain rfl := carries.env_eq parsed
      exact absurd ownKey otherKey
    · intro owner payload canonical verdict final carries _ writes
      obtain rfl := carries.env_eq parsed
      by_cases owned : ∀ existing, (states count).inbox.find? owner.eventID = some existing →
          existing.tenantID = rebuild.tenantID
      · exact (writes.cleared sameTenant owned).trans before
      · simp only [not_forall] at owned
        obtain ⟨existing, found, foreign⟩ := owned
        obtain ⟨present, sameID⟩ := Table.find?_eq_some_iff.mp found
        have kept := (Platform.mem_cleared_inbox existing).mpr ⟨present, foreign⟩
        rw [before] at kept
        have old := ((Platform.mem_cleared_inbox existing).mp kept).1
        have same := uncontested existing old foreign owner listed sameID.symm
        have conflict := attributed.conflict distinct old (sameTenant ▸ foreign) listed
          sameID.symm same
        rw [contentHash_of_canonical carries.written, Except.ok.injEq] at same
        rw [writes.of_conflict found same.symm conflict]
        exact before
    · intro owner payload canonical carries _ log platform gapEnv gapPayload gapBytes verdict final
        redriven writes _ held
      obtain rfl := carries.env_eq parsed
      obtain ⟨gap, found, -, -, of⟩ := redriven.retained
      refine (writes.cleared (redriven.sameTenant.trans sameTenant) ?_).trans held
      intro existing present
      obtain rfl := Option.some.inj (present.symm.trans found)
      exact of.tenantID.trans (redriven.sameTenant.trans sameTenant)

variable {row : InboxRow} {taken : Prop} (member : row ∈ db.platform.inbox.rows)
  (foreign : row.tenantID ≠ rebuild.tenantID)

include member foreign

/-- What one record makes of a row of another tenant: a record of its event ends in conflict, and
takes the row over if it has another content. -/
theorem TenantRebuild.Chain.contested_step {count : Nat} {record : HistoryRecord}
    (here : records[count]? = some record)
    (contested : Contested rebuild.tenantID row taken (states count)) :
    Contested rebuild.tenantID row taken (states (count + 1)) ∧
      ∀ env, parse record.value = .ok env → env.eventID = row.eventID →
        dispositions[count]? = some (some .quarantinedConflict) ∧
        (contentHash env ≠ .ok row.contentHash →
          Contested rebuild.tenantID row True (states (count + 1))) := by
  obtain ⟨now, found, sameHash, whose⟩ := contested
  obtain ⟨middle, grounded⟩ :=
    chain.grounded start count (Nat.le_of_lt (List.getElem?_eq_some_iff.mp here).1)
  obtain ⟨disposition, listed, decided⟩ := chain.replayed.step count record here
  obtain ⟨env, parsed, ownKey, sameTenant, inHistory⟩ := chain.event (List.mem_of_getElem? here)
  by_cases own : env.eventID = row.eventID
  · obtain ⟨payload, canonical, verdict, after, carries, rfl, decides, unsettled⟩ :=
      decided.decides parsed ownKey
    have conflict : now.contentHash = digest canonical →
        now.disposition = .quarantinedConflict := by
      intro same
      rcases whose with ⟨-, rfl⟩ | ⟨-, conflict⟩
      · refine attributed.conflict distinct member (sameTenant ▸ foreign) inHistory own ?_
        rw [contentHash_of_canonical carries.written, same]
      · exact conflict
    rw [← own] at found
    obtain ⟨rfl, kept | ⟨differs, took⟩⟩ := decides.contested found conflict
    · rw [unsettled rfl, kept.2]
      refine ⟨⟨now, own ▸ found, sameHash, whose⟩, fun other read _ => ⟨listed, fun differs => ?_⟩⟩
      obtain rfl := Except.ok.inj (parsed.symm.trans read)
      rw [contentHash_of_canonical carries.written, ← kept.1, sameHash] at differs
      exact absurd rfl differs
    · rw [unsettled rfl]
      rw [own] at took
      exact ⟨⟨_, took, sameHash, Or.inr ⟨sameTenant, rfl⟩⟩, fun _ _ _ => ⟨listed, fun _ =>
        ⟨_, took, sameHash, Or.inr ⟨sameTenant, rfl⟩⟩⟩⟩
  · obtain ⟨result, sent, processes, -⟩ := decided
    refine ⟨⟨now, processes.keepsFound grounded parsed found (Ne.symm own) ?_, sameHash, whose⟩,
      fun other read same => absurd (Except.ok.inj (parsed.symm.trans read) ▸ same) own⟩
    rintro other ⟨⟩ ownTenant isGap
    rcases whose with ⟨-, rfl⟩ | ⟨-, conflict⟩
    · exact foreign (ownTenant.trans sameTenant)
    · rw [conflict] at isGap
      cases isGap

/-- What further records make of it. -/
theorem TenantRebuild.Chain.contested {count : Nat} (more : Nat)
    (bound : count + more ≤ records.length)
    (contested : Contested rebuild.tenantID row taken (states count)) :
    Contested rebuild.tenantID row taken (states (count + more)) := by
  induction more with
  | zero => exact contested
  | succ more hypothesis =>
    exact (chain.contested_step start attributed distinct member foreign
      (List.getElem?_eq_getElem (show count + more < _ by omega)) (hypothesis (by omega))).1

end Chains

/-! ### Re-drives with one row to pick -/

/-- No two events of a tenant are the same version of one aggregate. -/
def Singular (delivered : Envelope → Prop) (tenantID : Bytes) : Prop :=
  ∀ first second, delivered first → delivered second → first.tenantID = tenantID →
    second.tenantID = tenantID → first.aggregateType = second.aggregateType →
    first.aggregateID = second.aggregateID →
    first.aggregateVersion = second.aggregateVersion → first = second

section Picks

variable {delivered : Envelope → Prop} {log after later : Log} {platform final last : Platform}
  {tenantID aggregateType aggregateID : Bytes} {env other : Envelope}
  {payload otherPayload : Payload} {canonical bytes : Bytes} {fuel : Nat}

/-- The gap that is picked, and what is decided on it, are determined. -/
theorem Redriven.unique {disposition otherDisposition : Disposition}
    (redriven : Redriven delivered tenantID aggregateType aggregateID platform env payload
      canonical)
    (again : Redriven delivered tenantID aggregateType aggregateID platform other otherPayload
      bytes) (single : Singular delivered tenantID)
    (applies : Applies platform env (digest canonical) canonical payload disposition final)
    (appliesAgain : Applies platform other (digest bytes) bytes otherPayload otherDisposition
      last) :
    env = other ∧ payload = otherPayload ∧ disposition = otherDisposition ∧ final = last := by
  obtain rfl : env = other := single _ _ redriven.known again.known redriven.sameTenant
    again.sameTenant (redriven.sameType.trans again.sameType.symm)
    (redriven.sameID.trans again.sameID.symm) (redriven.next.trans again.next.symm)
  obtain rfl := Option.some.inj (redriven.valid.carried.symm.trans again.valid.carried)
  obtain rfl := Except.ok.inj (redriven.written.symm.trans again.written)
  exact ⟨rfl, rfl, Prod.mk.inj ((applies.decideEvent_eq redriven.valid).symm.trans
    (appliesAgain.decideEvent_eq redriven.valid))⟩

/-- A gap whose turn it is can be picked. -/
theorem Redriven.eligible
    (redriven : Redriven delivered tenantID aggregateType aggregateID platform env payload
      canonical) (grounded : Grounded delivered log platform) :
    eligibleGaps platform tenantID aggregateType aggregateID ≠ [] := by
  obtain ⟨gap, found, isGap, -, of⟩ := redriven.retained
  have member := (Table.find?_eq_some_iff.mp found).1
  obtain ⟨-, _, _, _, retains⟩ := grounded.gaps gap member isGap
  have eligible : gap ∈ eligibleGaps platform tenantID aggregateType aggregateID := by
    refine (mem_eligibleGaps gap).mpr ⟨?_, member, of.tenantID.trans redriven.sameTenant,
      of.aggregateType.trans redriven.sameType, of.aggregateID.trans redriven.sameID, isGap, ?_⟩
    · have next := redriven.next
      have notFirst := redriven.later
      unfold projectedVersion at next
      cases shown : platform.projection.find? (tenantID, aggregateID) with
      | none =>
        rw [shown, Option.elim_none] at next
        omega
      | some current =>
        rw [shown, Option.elim_some] at next
        exact ⟨current, rfl, of.aggregateVersion.trans next⟩
    · rw [retains.bytes]
      rfl
  exact List.ne_nil_of_mem eligible

/-- A served re-drive that has one row to pick at most ends in one way. -/
theorem Drains.determined {notes more : List AppliedUpdate} {finished ended : Bool}
    (drains : Drains delivered false tenantID aggregateType aggregateID fuel log platform finished
      notes after final)
    (again : Drains delivered false tenantID aggregateType aggregateID fuel log platform ended
      more later last)
    (done : finished = true) (single : Singular delivered tenantID)
    (fit : [tenantID, aggregateType, aggregateID].all storable = true)
    (grounded : Grounded delivered log platform) : ended = true ∧ last = final := by
  have uncut : ∀ fuel : Nat, ¬ (fuel + 1 = 0 ∨ false = true ∨
      [tenantID, aggregateType, aggregateID].all storable = false) := by
    simp [fit]
  induction drains generalizing ended more later last with
  | cut => cases done
  | drained fuel log platform none =>
    cases again with
    | cut _ _ _ cause => exact absurd cause (uncut fuel)
    | drained => exact ⟨rfl, rfl⟩
    | stopped _ _ _ _ _ _ redriven | advanced _ _ _ _ _ _ redriven =>
      exact absurd none (redriven.eligible grounded)
  | stopped fuel log platform env payload canonical redriven disposition final applies notApplied =>
    cases again with
    | cut _ _ _ cause => exact absurd cause (uncut fuel)
    | drained _ _ _ none => exact absurd none (redriven.eligible grounded)
    | stopped _ _ _ _ _ _ picked _ _ appliesAgain =>
      obtain ⟨-, -, -, rfl⟩ := redriven.unique picked single applies appliesAgain
      exact ⟨rfl, rfl⟩
    | advanced _ _ _ _ _ _ picked _ appliesAgain =>
      exact absurd (redriven.unique picked single applies appliesAgain).2.2.1 notApplied
  | advanced fuel log platform env payload canonical redriven next applies finished notes after
      final rest hypothesis =>
    cases again with
    | cut _ _ _ cause => exact absurd cause (uncut fuel)
    | drained _ _ _ none => exact absurd none (redriven.eligible grounded)
    | stopped _ _ _ _ _ _ picked _ _ appliesAgain notApplied =>
      exact absurd (redriven.unique picked single applies appliesAgain).2.2.1.symm notApplied
    | advanced _ _ _ _ _ _ picked _ appliesAgain _ _ _ _ restAgain =>
      obtain ⟨rfl, rfl, -, rfl⟩ := redriven.unique picked single applies appliesAgain
      exact hypothesis restAgain done (grounded.writes redriven.known redriven.valid
        redriven.written (applies.writes redriven.undecided))

/-- A served call on an event of the tenant that returned without an error would have done the
same with any other picks. -/
theorem Processes.repeats {key value : Bytes} {pos : SourcePosition} {result : Result}
    {outcome : Outcome} {sent more : List AppliedUpdate}
    (processes : Processes false fuel key value pos platform ⟨result, none⟩ sent final)
    (again : Processes false fuel key value pos platform outcome more last)
    (parsed : parse value = .ok env) (ownKey : key = envelopeKey env)
    (single : Singular delivered env.tenantID) (known : delivered env)
    (grounded : Grounded delivered log platform) : outcome = ⟨result, none⟩ ∧ last = final := by
  obtain ⟨payload, canonical, valid, written⟩ := parse_ok parsed
  have carries : Carries value env payload canonical := ⟨parsed, valid, written⟩
  have accepted : admits platform key value pos = true →
      accepts platform env (digest canonical) = true := by
    simp only [admits, parsed, if_pos ownKey, contentHash_of_canonical written]
    exact id
  cases processes with
  | unparsed error refused =>
    rw [parsed] at refused
    cases refused
  | misdelivered own _ _ read otherKey =>
    obtain ⟨rfl, -, -⟩ := carries.unique read
    exact absurd ownKey otherKey
  | quarantined own _ _ read _ disposition _ decides unsettled admitted =>
    obtain ⟨rfl, rfl, rfl⟩ := carries.unique read
    have made := again.served carries ownKey (accepted admitted)
    rw [decides.decision_eq valid] at made
    rcases made with ⟨-, made, left⟩ | ⟨settled, -⟩
    · exact ⟨made, left⟩
    · rw [unsettled] at settled
      cases settled
  | redriven own _ _ read _ disposition middle decides settled notes _ redrives admitted =>
    obtain ⟨rfl, rfl, rfl⟩ := carries.unique read
    have made := again.served carries ownKey (accepted admitted)
    rw [decides.decision_eq valid] at made
    rcases made with ⟨unsettled, -⟩ | ⟨-, ended, others, redrivesAgain, made⟩
    · rw [settled] at unsettled
      cases unsettled
    · have between := grounded.decides known carries decides
      obtain ⟨_, drains, -⟩ := redrives.drains between
      obtain ⟨_, drainsAgain, -⟩ := redrivesAgain.drains between
      obtain ⟨rfl, same⟩ := drains.determined drainsAgain rfl single
        (decides.fits settled carries ownKey admitted grounded) between
      exact ⟨made rfl, same⟩

/-- A replay that returned would have returned the same, and left the same, with any other
picks. -/
theorem replayRecords_repeats {policy : ReplayPolicy} {index : Nat} {records : List HistoryRecord}
    {out result : RebuildResult} {replies rest : List Reply} {db : Database}
    {notes : List AppliedUpdate} {final : Program.Session Database AppliedUpdate}
    (served : Reply.lost ∉ replies)
    (ran : (replayRecords policy fuel index records out).run replies ⟨db, none, notes⟩ =
      (.ok result, rest, final))
    (passing : ∀ record ∈ records, ∀ index out, policy.check index record out = none)
    (single : Singular delivered tenantID)
    (own : ∀ record ∈ records, ∃ env, parse record.value = .ok env ∧
      record.key = envelopeKey env ∧ env.tenantID = tenantID ∧ delivered env)
    (grounded : Grounded delivered log db.platform) (others : List AppliedUpdate) :
    Program.Ensures false (replayRecords policy fuel index records out) ⟨db, none, others⟩
      (Program.Ends (fun value last => value = result ∧
        ∃ sent, last = ⟨final.committed, none, sent⟩) fun _ _ => False) := by
  induction records generalizing index out replies db notes others log with
  | nil =>
    cases ran
    exact Program.ensures_done _ ⟨rfl, others, rfl⟩
  | cons record records hypothesis =>
    obtain ⟨next, middle, session, stepped, ended⟩ := Program.run_bind_ok ran
    have spec : Program.Ensures false (replayRecord policy fuel index record out)
      ⟨db, none, notes⟩ _ := replayRecord_ensures index record out db
    have ends := spec replies fun _ => served
    rw [stepped] at ends
    obtain ⟨disposition, sent, platform, ⟨decision, _, processes, rfl⟩, rfl, rfl⟩ := ends
    have servedLater : Reply.lost ∉ middle := by
      have suffix := Program.run_suffix (replayRecord policy fuel index record out) replies
        ⟨db, none, notes⟩
      rw [stepped] at suffix
      exact fun lost => served (suffix.subset lost)
    obtain ⟨env, parsed, ownKey, rfl, known⟩ := own record List.mem_cons_self
    refine Program.ensures_bind _ _ ((replayRecord_ensures index record out db).mono ?_)
    rintro (outcome | value) last ends
    · rcases ends with ⟨stopped, -⟩ | ⟨_, error, _, _, processesAgain, -⟩
      · rw [passing record List.mem_cons_self] at stopped
        cases stopped
      · have same := (processes.repeats processesAgain parsed ownKey single known grounded).1
        cases same
    · obtain ⟨_, more, _, ⟨_, _, processesAgain, rfl⟩, rfl, rfl⟩ := ends
      obtain ⟨same, rfl⟩ := processes.repeats processesAgain parsed ownKey single known grounded
      cases same
      obtain ⟨after, kept, -⟩ := processes.grounded grounded fun other read _ => by
        exact Except.ok.inj (read.symm.trans parsed) ▸ known
      exact hypothesis servedLater ended
        (fun other member => passing other (List.mem_cons_of_mem _ member))
        (fun other member => own other (List.mem_cons_of_mem _ member)) kept _

end Picks

/-! ### Repeated rebuilds -/

/-- A second rebuild returned what the first one did. -/
structure RebuildOutcome.Repeats (first second : RebuildOutcome) : Prop where
  error : second.error = first.error
  status : second.result.status = first.result.status
  dispositions : second.result.dispositions = first.result.dispositions
  checksum : second.result.checksum = first.result.checksum
  lineageChecksum : second.result.lineageChecksum = first.result.lineageChecksum

/-- Two states have the same inbox dispositions, projection and lineage of a tenant. -/
structure SameTenantRows (tenantID : Bytes) (first second : Platform) : Prop where
  inbox : ∀ eventID disposition,
    (∃ row ∈ second.inbox.rows, row.tenantID = tenantID ∧ row.eventID = eventID ∧
      row.disposition = disposition) ↔
    ∃ row ∈ first.inbox.rows, row.tenantID = tenantID ∧ row.eventID = eventID ∧
      row.disposition = disposition
  projection : ∀ row : ProjectionRow, row.tenantID = tenantID →
    (row ∈ second.projection.rows ↔ row ∈ first.projection.rows)
  lineage : ∀ row : LineageRow, row.hop.tenantID = tenantID →
    (row ∈ second.lineage.rows ↔ row ∈ first.lineage.rows)

/-- The same rebuild with other replies. -/
def TenantRebuild.again (rebuild : TenantRebuild) (more : List Reply) : TenantRebuild :=
  { rebuild with replies := more }

/-- A rebuild of a second database, with its own replies, gives what the rebuild of the first
gave. -/
def TenantRebuild.Agrees (rebuild : TenantRebuild) (first second : Database)
    (more : List Reply) : Prop :=
  (rebuild.outcome first).Repeats ((rebuild.again more).outcome second) ∧
    SameTenantRows rebuild.tenantID (rebuild.after first).platform
      ((rebuild.again more).after second).platform

/-- The history is refused: no tenant is named, or a row of its outbox is not an event of the
tenant. -/
def TenantRebuild.Refused (rebuild : TenantRebuild) (erp : Erp) : Prop :=
  rebuild.tenantID = [] ∨ storable rebuild.tenantID = true ∧ ∃ error,
    historyRecords rebuild.tenantID 1
      (outboxHistory rebuild.collation rebuild.tenantID [] erp) = .error error

/-- The event is none of the tenant, or one of its history. -/
def Owned (erp : Erp) (tenantID : Bytes) (env : Envelope) : Prop :=
  env.tenantID = tenantID → InHistory erp tenantID env

/-- `UNIQUE (tenant_id, aggregate_type, aggregate_id, aggregate_version)` of the outbox. -/
def OutboxUnique (erp : Erp) : Prop :=
  ∀ row ∈ erp.outbox.rows, ∀ other ∈ erp.outbox.rows, row.tenantID = other.tenantID →
    row.aggregateType = other.aggregateType → row.aggregateID = other.aggregateID →
    row.aggregateVersion = other.aggregateVersion → row = other

/-- The columns of a tenant's outbox rows are those of their events. -/
def OutboxDescribes (erp : Erp) (tenantID : Bytes) : Prop :=
  ∀ row ∈ erp.outbox.rows, row.tenantID = tenantID → ∀ env, parse row.eventBytes = .ok env →
    row.aggregateType = env.aggregateType ∧ row.aggregateID = env.aggregateID ∧
      row.aggregateVersion = env.aggregateVersion

theorem singular_history {erp : Erp} {tenantID : Bytes} (unique : OutboxUnique erp)
    (describes : OutboxDescribes erp tenantID) : Singular (Owned erp tenantID) tenantID := by
  intro first second firstKnown secondKnown firstOwn secondOwn sameType sameID sameVersion
  obtain ⟨row, member, owned, parsed⟩ := firstKnown firstOwn
  obtain ⟨other, otherMember, otherOwned, otherParsed⟩ := secondKnown secondOwn
  obtain ⟨type, item, version⟩ := describes row member owned first parsed
  obtain ⟨otherType, otherItem, otherVersion⟩ :=
    describes other otherMember otherOwned second otherParsed
  obtain rfl := unique row member other otherMember (owned.trans otherOwned.symm)
    (type.trans (sameType.trans otherType.symm)) (item.trans (sameID.trans otherItem.symm))
    (version.trans (sameVersion.trans otherVersion.symm))
  exact Except.ok.inj (parsed.symm.trans otherParsed)

theorem SameTenantRows.refl (tenantID : Bytes) (platform : Platform) :
    SameTenantRows tenantID platform platform :=
  ⟨fun _ _ => Iff.rfl, fun _ _ => Iff.rfl, fun _ _ => Iff.rfl⟩

section Repeating

variable {rebuild : TenantRebuild} {db second : Database} {more : List Reply}

/-- Two runs that return the same and leave the same tables. -/
theorem TenantRebuild.agrees_of_runs
    (sameResult : (rebuild.body.run more ⟨second, none, []⟩).1 =
      (rebuild.body.run rebuild.replies ⟨db, none, []⟩).1)
    (sameTables : (rebuild.body.run more ⟨second, none, []⟩).2.2.committed =
      (rebuild.body.run rebuild.replies ⟨db, none, []⟩).2.2.committed) :
    rebuild.Agrees db second more := by
  have outcome : (rebuild.again more).outcome second = rebuild.outcome db := by
    rw [outcome_eq, outcome_eq, ← sameResult]
    rfl
  have after : (rebuild.again more).after second = rebuild.after db := by
    rw [after_eq, after_eq, ← sameTables]
    rfl
  rw [Agrees, outcome, after]
  exact ⟨⟨rfl, rfl, rfl, rfl, rfl⟩, .refl _ _⟩

/-- A served rebuild resets the tenant, and then replays its history or refuses it. -/
theorem TenantRebuild.body_ensures (named : rebuild.tenantID ≠ [])
    (fit : storable rebuild.tenantID = true)
    {post : Except RebuildOutcome RebuildResult → Program.Session Database AppliedUpdate → Prop}
    (refused : ∀ error, historyRecords rebuild.tenantID 1
        (outboxHistory rebuild.collation rebuild.tenantID [] db.erp) = .error error →
      post (.error ⟨{}, some error⟩)
        ⟨db.onPlatform (.cleared (some rebuild.tenantID)), none, []⟩)
    (replayed : ∀ records, historyRecords rebuild.tenantID 1
        (outboxHistory rebuild.collation rebuild.tenantID [] db.erp) = .ok records →
      Program.Ensures false (replayTenantRecords rebuild.fuel rebuild.tenantID records)
        ⟨db.onPlatform (.cleared (some rebuild.tenantID)), none, []⟩ post) :
    Program.Ensures false rebuild.body ⟨db, none, []⟩ post := by
  have stored : storable [] = true := by decide
  refine ensures_orReturn _ _ _ ((resetDerivedStateForTenant_ensures _ db).mono ?_)
  rintro (failure | _) final ends
  · obtain ⟨-, cause⟩ := ends
    simp [named, fit] at cause
  obtain ⟨-, -, rfl⟩ := ends
  refine ensures_orReturn _ _ _ ((loadTenantOutboxHistory_ensures _ _ _ _).mono ?_)
  rintro (failure | records) final ends
  · obtain ⟨rfl, cause⟩ := ends
    refine refused failure ?_
    simpa [named, fit, stored] using cause
  · obtain ⟨loaded, rfl⟩ := ends
    exact replayed records loaded

/-- A rebuild whose history is refused returns an error and has at most reset the tenant. -/
theorem TenantRebuild.Refused.ends {erp : Erp} (refused : rebuild.Refused erp) :
    ∃ error, ∀ (db : Database), db.erp = erp → Program.Ensures false rebuild.body ⟨db, none, []⟩
      fun result final => result = .error ⟨{}, some error⟩ ∧ final.committed =
        if rebuild.tenantID = [] then db else db.onPlatform (.cleared (some rebuild.tenantID)) := by
  by_cases named : rebuild.tenantID = []
  · refine ⟨.tenantRequired, fun db _ replies _ => ?_⟩
    rw [body, named, if_pos rfl]
    exact ⟨rfl, rfl⟩
  · obtain ⟨fit, error, refusal⟩ := refused.resolve_left named
    refine ⟨error, fun db same => body_ensures named fit ?_ ?_⟩
    · intro other cause
      rw [same, refusal] at cause
      cases cause
      exact ⟨rfl, (if_neg named).symm⟩
    · intro records loaded
      rw [same, refusal] at loaded
      cases loaded

theorem TenantRebuild.Refused.agrees (refused : rebuild.Refused db.erp) (served : rebuild.Served)
    (servedMore : Reply.lost ∉ more) : rebuild.Agrees db (rebuild.after db) more := by
  obtain ⟨error, ends⟩ := refused.ends
  obtain ⟨failed, left⟩ := ends db rfl rebuild.replies fun _ => served
  rw [← after_eq] at left
  have sameErp : (rebuild.after db).erp = db.erp := by
    rw [left]
    split_ifs
    · rfl
    · exact Database.onPlatform_erp _ _
  obtain ⟨failedAgain, leftAgain⟩ := ends (rebuild.after db) sameErp more fun _ => servedMore
  refine agrees_of_runs (failedAgain.trans failed.symm) (leftAgain.trans ?_)
  rw [← after_eq, left]
  split_ifs
  · rfl
  · rw [Database.onPlatform, Database.onPlatform, Platform.cleared_cleared]

theorem replayTenantRecords_repeats {fuel : Nat} {collation : Collation} {tenantID : Bytes}
    {records : List HistoryRecord} {replies rest : List Reply} {result : RebuildResult}
    {final : Program.Session Database AppliedUpdate} {log : Log} (served : Reply.lost ∉ replies)
    (ran : (replayTenantRecords fuel tenantID records).run replies ⟨db, none, []⟩ =
      (.ok result, rest, final))
    (loaded : historyRecords tenantID 1 (outboxHistory collation tenantID [] db.erp) = .ok records)
    (fit : storable tenantID = true) (single : Singular (Owned db.erp tenantID) tenantID)
    (grounded : Grounded (Owned db.erp tenantID) log db.platform) :
    Program.Ensures false (replayTenantRecords fuel tenantID records) ⟨db, none, []⟩
      (Program.Ends (fun value last => value = result ∧ last.committed = final.committed)
        fun _ _ => False) := by
  cases records with
  | nil =>
    cases ran
    exact Program.ensures_done _ ⟨rfl, rfl⟩
  | cons record records =>
    obtain ⟨out, remaining, session, looped, concluded⟩ := Program.run_bind_ok ran
    have passing : ∀ other ∈ record :: records, ∀ index out,
        (tenantPolicy tenantID).check index other out = none := by
      intro other member index out
      obtain ⟨row, -, env, yields⟩ := yields_of_record loaded member
      exact yields.checked index out
    have own : ∀ other ∈ record :: records, ∃ env, parse other.value = .ok env ∧
        other.key = envelopeKey env ∧ env.tenantID = tenantID ∧ Owned db.erp tenantID env := by
      intro other member
      obtain ⟨row, listed, env, yields⟩ := yields_of_record loaded member
      exact ⟨env, by rw [yields.value]; exact yields.parsed, yields.key, yields.tenant,
        fun _ => ⟨row, listed, yields.rowTenant, yields.parsed⟩⟩
    have repeats := replayRecords_repeats served looped passing single own grounded []
    have shape := repeats replies fun _ => served
    rw [looped] at shape
    obtain ⟨-, sent, shape⟩ := shape
    have spec : Program.Ensures true (concludeTenant tenantID out)
      ⟨session.committed, none, sent⟩ _ := concludeTenant_ensures tenantID out session.committed
    have ends := spec remaining (by simp)
    rw [← shape, concluded] at ends
    obtain ⟨left, rfl, summable⟩ := ends
    obtain rfl : final = session := left
    refine Program.ensures_bind _ _ (repeats.mono ?_)
    rintro (failure | value) last ends
    · exact ends.elim
    obtain ⟨rfl, more, rfl⟩ := ends
    refine (concludeTenant_ensures tenantID value final.committed).mono ?_
    rintro (outcome | result) last ends
    · obtain ⟨-, -, cause⟩ := ends
      simp [fit, summable] at cause
    · exact ⟨ends.2.1, by rw [ends.1]⟩

/-- With one event for each version of an aggregate, a rebuild that returned would have returned
the same with any other picks, and with any other rows of the tenant before its reset. -/
theorem TenantRebuild.agrees {log : Log} (served : rebuild.Served)
    (servedMore : Reply.lost ∉ more) (succeeded : (rebuild.outcome db).error = none)
    (single : Singular (Owned db.erp rebuild.tenantID) rebuild.tenantID)
    (start : Grounded (fun _ => True) log db.platform) (sameErp : second.erp = db.erp)
    (sameRest : second.platform.cleared (some rebuild.tenantID) =
      db.platform.cleared (some rebuild.tenantID)) : rebuild.Agrees db second more := by
  obtain ⟨records, later, rest, result, final, ran, named, fit, loaded, servedLater, replayed⟩ :=
    rebuild.body_run db succeeded
  have grounded : Grounded (Owned db.erp rebuild.tenantID) (log.without rebuild.tenantID)
      (db.platform.cleared (some rebuild.tenantID)) :=
    start.cleared.mono fun env foreign own => absurd own foreign.2
  have sameReset : second.onPlatform (.cleared (some rebuild.tenantID)) =
      db.onPlatform (.cleared (some rebuild.tenantID)) := by
    rw [Database.onPlatform, Database.onPlatform, sameErp, sameRest]
  have spec : Program.Ensures false rebuild.body ⟨second, none, []⟩ (Program.Ends
      (fun value last => value = result ∧ last.committed = final.committed) fun _ _ => False) := by
    refine TenantRebuild.body_ensures named fit (fun error refusal => ?_)
      fun again loadedAgain => ?_
    · rw [sameErp, loaded] at refusal
      cases refusal
    · rw [sameErp, loaded] at loadedAgain
      cases loadedAgain
      rw [sameReset]
      exact replayTenantRecords_repeats (servedLater served) replayed loaded fit single grounded
  have ends := spec more fun _ => servedMore
  rcases ranAgain : rebuild.body.run more ⟨second, none, []⟩ with
    ⟨failure | value, restAgain, last⟩
  · rw [ranAgain] at ends
    exact ends.elim
  rw [ranAgain] at ends
  obtain ⟨rfl, same⟩ := ends
  refine agrees_of_runs ?_ ?_
  · rw [ranAgain, ran]
  · rw [ranAgain, ran]
    exact same

/-- A second rebuild that gives what the first one gave met no contested row. -/
theorem TenantRebuild.Agrees.uncontested {calls : List Call} {log : Log}
    (agrees : rebuild.Agrees db (rebuild.after db) more)
    (succeeded : (rebuild.outcome db).error = none)
    (start : Grounded (fun _ => True) log db.platform)
    (attributed : Attributed (Seen calls) db.platform)
    (distinct : ¬ Confused calls db.erp rebuild.tenantID) :
    Uncontested db.erp rebuild.tenantID db.platform := by
  obtain ⟨records, states, dispositions, chain⟩ := rebuild.chain true db (by simp) succeeded
  obtain ⟨recordsAgain, statesAgain, dispositionsAgain, chainAgain⟩ :=
    (rebuild.again more).chain true (rebuild.after db) (by simp)
      (agrees.1.error.trans succeeded)
  have sameDispositions : dispositionsAgain = dispositions := by
    rw [← chain.listed, ← chainAgain.listed]
    exact agrees.1.dispositions
  have loaded := chainAgain.loaded
  rw [chain.last] at loaded
  obtain rfl := Except.ok.inj (loaded.symm.trans chain.loaded)
  subst sameDispositions
  intro row member foreign env listed sameID
  by_contra differs
  obtain ⟨entry, inOutbox, owned, parsed⟩ := listed
  obtain ⟨record, inRecords, yielded, yields⟩ := yields_of_row chain.loaded inOutbox owned
  obtain rfl := Except.ok.inj (yields.parsed.symm.trans parsed)
  have readRecord : parse record.value = .ok yielded := by rw [yields.value]; exact parsed
  obtain ⟨index, bound, rfl⟩ := List.getElem_of_mem inRecords
  have contested : ∀ count ≤ recordsAgain.length,
      Contested rebuild.tenantID row False (states count) := by
    intro count inside
    rw [← Nat.zero_add count]
    refine chain.contested start attributed distinct member foreign count (by omega)
      ⟨row, ?_, rfl, Or.inl ⟨id, rfl⟩⟩
    rw [chain.first]
    exact Table.find?_eq_some_iff.mpr
      ⟨(Platform.mem_cleared_inbox row).mpr ⟨member, foreign⟩, rfl⟩
  have step : ∀ index record, recordsAgain[index]? = some record → _ := fun index record here =>
    (chain.contested_step start attributed distinct member foreign here
      (contested index (Nat.le_of_lt (List.getElem?_eq_some_iff.mp here).1))).2
  -- The first rebuild has turned the row into one of the tenant, so the second reset removes it.
  have took := (step index _ (List.getElem?_eq_getElem bound) yielded readRecord sameID).2 differs
  have last := chain.contested start attributed distinct member foreign
    (recordsAgain.length - (index + 1)) (by omega) took
  rw [Nat.add_sub_cancel' bound] at last
  obtain ⟨now, found, -, untaken | ⟨taken, -⟩⟩ := last
  · exact untaken.1 trivial
  have missing : ((rebuild.after db).platform.cleared (some rebuild.tenantID)).inbox.find?
      row.eventID = none := by
    rw [chain.last, Option.eq_none_iff_forall_ne_some]
    intro other present
    obtain ⟨kept, otherID⟩ := Table.find?_eq_some_iff.mp present
    obtain ⟨inLast, otherTenant⟩ := (Platform.mem_cleared_inbox other).mp kept
    have same := (Table.find?_eq_some_iff.mpr ⟨inLast, otherID⟩).symm.trans found
    obtain rfl := Option.some.inj same
    exact otherTenant taken
  -- So no record of the event ends in conflict there.
  obtain ⟨log, grounded⟩ : ∃ log, Grounded (fun _ => True) log (rebuild.after db).platform := by
    rw [chain.last]
    exact chain.grounded start recordsAgain.length le_rfl
  exact (chainAgain.absent grounded missing
    (fun index record env here read same => (step index record here env read same).1) _ le_rfl).2
    index bound _ yielded (List.getElem?_eq_getElem bound) readRecord sameID

end Repeating

/-- Over an outbox that keeps its unique index, and has the columns of its events, two rebuilds of
a tenant in a row give the same exactly when the history is refused or no row of another tenant
under an event of the history carries another content, up to a collision of SHA-256 between
two events of one identifier. -/
theorem rebuild_repeats_iff (erp : Erp) (calls : List Call) (rebuild : TenantRebuild)
    (more : List Reply) (unique : OutboxUnique erp)
    (describes : OutboxDescribes erp rebuild.tenantID) (served : rebuild.Served)
    (servedMore : Reply.lost ∉ more)
    (returned : (rebuild.outcome (deliver calls ⟨erp, .empty⟩)).error = none ∨
      rebuild.Refused erp) :
    Confused calls erp rebuild.tenantID ∨
      (rebuild.Agrees (deliver calls ⟨erp, .empty⟩)
          (rebuild.after (deliver calls ⟨erp, .empty⟩)) more ↔
        rebuild.Refused erp ∨
          Uncontested erp rebuild.tenantID (deliver calls ⟨erp, .empty⟩).platform) := by
  by_cases distinct : Confused calls erp rebuild.tenantID
  · exact Or.inl distinct
  refine Or.inr ?_
  obtain ⟨log, delivered⟩ := deliver_grounded erp calls
  have grounded : Grounded (fun _ => True) log (deliver calls ⟨erp, .empty⟩).platform :=
    delivered.mono fun _ _ => trivial
  have attributed := deliver_attributed erp calls
  have sameErp : (deliver calls ⟨erp, .empty⟩).erp = erp := deliver_erp calls ⟨erp, .empty⟩
  generalize deliver calls ⟨erp, .empty⟩ = db at *
  subst sameErp
  rcases returned with succeeded | refused
  · obtain ⟨records, states, dispositions, chain⟩ := rebuild.chain true db (by simp) succeeded
    constructor
    · exact fun agrees => Or.inr (agrees.uncontested succeeded grounded attributed distinct)
    · rintro (refused | uncontested)
      · obtain ⟨-, error, refusal⟩ := refused.resolve_left chain.named
        rw [chain.loaded] at refusal
        cases refusal
      · refine TenantRebuild.agrees served servedMore succeeded
          (singular_history unique describes) grounded ?_ ?_
        · rw [chain.last]
        · rw [chain.last]
          exact chain.cleared grounded attributed distinct uncontested _ le_rfl
  · exact iff_of_true (refused.agrees served servedMore) (Or.inl refused)

/-- The outbox row of an event that is still to be published. -/
def outboxRowOf (env : Envelope) : OutboxRow where
  eventID := env.eventID
  tenantID := env.tenantID
  aggregateType := env.aggregateType
  aggregateID := env.aggregateID
  aggregateVersion := env.aggregateVersion
  contentHash := (contentHash env).toOption.getD []
  eventBytes := recordValue env
  status := .pending
  recordedAt := 0
  publishLeaseOwner := none
  publishLeaseExpiresAt := none
  publishAttempts := 0
  lastErrorCode := none
  createdAt := 0

theorem parse_outboxRowOf {env : Envelope} (passed : validate env = .ok ()) :
    parse (outboxRowOf env).eventBytes = .ok env := parse_ownCall passed

/-- The first two events of the sample item. -/
def repeatedErp : Erp :=
  { Erp.empty with
    outbox :=
      (Table.empty.store (outboxRowOf (sampleDecrement sampleTenant sampleEvent 1 10))).store
      (outboxRowOf (sampleDecrement sampleTenant secondEvent 2 9)) }

/-- An event of another tenant. -/
def repeatedCalls : List Call := [ownCall (sampleDecrement otherTenant thirdEvent 1 10)]

def sampleRebuild : TenantRebuild := ⟨byteOrder, 8, sampleTenant, []⟩

theorem repeatedErp_rows : ∀ row ∈ repeatedErp.outbox.rows, ∃ eventID version before,
    row = outboxRowOf (sampleDecrement sampleTenant eventID version before) ∧
    parse row.eventBytes = .ok (sampleDecrement sampleTenant eventID version before) ∧
    (eventID = sampleEvent ∧ version = 1 ∧ before = 10 ∨
      eventID = secondEvent ∧ version = 2 ∧ before = 9) := by
  refine Table.forall_mem_store (Table.forall_mem_store (by simp [Table.empty]) ?_) ?_
  · exact ⟨sampleEvent, 1, 10, rfl, parse_outboxRowOf sampleDecrement_valid.1, by simp⟩
  · exact ⟨secondEvent, 2, 9, rfl, parse_outboxRowOf sampleGap_valid, by simp⟩

theorem repeatedErp_unique : OutboxUnique repeatedErp := by
  intro row member other otherMember _ _ _ sameVersion
  obtain ⟨_, _, _, rfl, -, which⟩ := repeatedErp_rows row member
  obtain ⟨_, _, _, rfl, -, whichOther⟩ := repeatedErp_rows other otherMember
  rcases which with ⟨rfl, rfl, rfl⟩ | ⟨rfl, rfl, rfl⟩
  · rcases whichOther with ⟨rfl, rfl, rfl⟩ | ⟨rfl, rfl, rfl⟩
    · rfl
    · cases sameVersion
  · rcases whichOther with ⟨rfl, rfl, rfl⟩ | ⟨rfl, rfl, rfl⟩
    · cases sameVersion
    · rfl

theorem repeatedErp_describes : OutboxDescribes repeatedErp sampleTenant := by
  intro row member _ env parsed
  obtain ⟨_, _, _, rfl, read, -⟩ := repeatedErp_rows row member
  cases read.symm.trans parsed
  exact ⟨rfl, rfl, rfl⟩

set_option maxRecDepth 20000 in
theorem repeatedRebuild_run :
    (sampleRebuild.outcome (deliver repeatedCalls ⟨repeatedErp, .empty⟩)).error = none ∧
    (sampleRebuild.outcome (deliver repeatedCalls ⟨repeatedErp, .empty⟩)).result.dispositions =
      [some .applied, some .applied] ∧
    (deliver repeatedCalls ⟨repeatedErp, .empty⟩).platform.inbox.rows.map InboxRow.eventID =
      [thirdEvent] := by
  decide +kernel

/-- Nobody else has sent an event of the history: the second rebuild gives what the first gave. -/
theorem rebuild_repeats_iff_sample :
    (sampleRebuild.outcome (deliver repeatedCalls ⟨repeatedErp, .empty⟩)).result.dispositions =
      [some .applied, some .applied] ∧
    sampleRebuild.Agrees (deliver repeatedCalls ⟨repeatedErp, .empty⟩)
      (sampleRebuild.after (deliver repeatedCalls ⟨repeatedErp, .empty⟩)) [] := by
  obtain ⟨succeeded, applied, seen⟩ := repeatedRebuild_run
  have apart : ∀ env, InHistory repeatedErp sampleTenant env → env.eventID ≠ thirdEvent := by
    rintro env ⟨row, member, -, parsed⟩
    obtain ⟨_, _, _, -, read, which⟩ := repeatedErp_rows row member
    cases read.symm.trans parsed
    rcases which with ⟨rfl, rfl, rfl⟩ | ⟨rfl, rfl, rfl⟩
    · decide
    · decide
  refine ⟨applied, ?_⟩
  rcases rebuild_repeats_iff repeatedErp repeatedCalls sampleRebuild [] repeatedErp_unique
    repeatedErp_describes List.not_mem_nil List.not_mem_nil (Or.inl succeeded) with confused | same
  · obtain ⟨env, other, listed, ⟨call, member, parsed⟩, -, sameID, -⟩ := confused
    obtain rfl := List.mem_singleton.mp member
    have read : parse (ownCall (sampleDecrement otherTenant thirdEvent 1 10)).value =
        .ok (sampleDecrement otherTenant thirdEvent 1 10) := parse_ownCall (by decide +kernel)
    cases read.symm.trans parsed
    exact absurd sameID.symm (apart env listed)
  · refine same.mpr (Or.inr fun row member _ env listed sameID => absurd ?_ (apart env listed))
    have listedID := List.mem_map_of_mem (f := InboxRow.eventID) member
    rw [seen, List.mem_singleton] at listedID
    exact sameID.trans listedID

def contestedErp : Erp :=
  { Erp.empty with
    outbox := Table.empty.store (outboxRowOf (sampleDecrement sampleTenant sampleEvent 1 10)) }

/-- Another tenant's event under the identifier of the only event of the history. -/
def contestingCalls : List Call := [ownCall (sampleDecrement otherTenant sampleEvent 1 10)]

/-- What the first rebuild returns, and what it leaves to the second one. -/
theorem contestedRebuild_run :
    (sampleRebuild.outcome (deliver contestingCalls ⟨contestedErp, .empty⟩)).error = none ∧
    (sampleRebuild.outcome
      (deliver contestingCalls ⟨contestedErp, .empty⟩)).result.dispositions =
        [some .quarantinedConflict] ∧
    ((sampleRebuild.again []).outcome (sampleRebuild.after
      (deliver contestingCalls ⟨contestedErp, .empty⟩))).result.dispositions =
        [some .applied] := by
  decide +kernel

/-- The first rebuild meets the other tenant's row as a conflict and makes it a row of the tenant;
the second one deletes it and applies the event. -/
theorem rebuild_not_idempotent :
    ¬ ∀ (erp : Erp) (calls : List Call) (rebuild : TenantRebuild) (more : List Reply),
      rebuild.Served → Reply.lost ∉ more →
      (rebuild.outcome (deliver calls ⟨erp, .empty⟩)).error = none →
      rebuild.Agrees (deliver calls ⟨erp, .empty⟩)
        (rebuild.after (deliver calls ⟨erp, .empty⟩)) more := by
  intro idempotent
  obtain ⟨succeeded, first, second⟩ := contestedRebuild_run
  have agrees := idempotent contestedErp contestingCalls sampleRebuild [] List.not_mem_nil
    List.not_mem_nil succeeded
  have same := second.symm.trans (agrees.1.dispositions.trans first)
  cases same

end SeshatOps
