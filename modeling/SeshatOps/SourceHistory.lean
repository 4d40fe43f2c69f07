/-
This file gathers what holds of the source schema after any run of the commands.

`Sourced` says it table by table: every outbox row records a valid event, no two events
have one place, every inventory row has its history, and the hops and their events
belong together one to one. Seeding an item and every commit of a command keep it. The
events that such a schema publishes are coherent, which is all that the platform needs.
-/

import SeshatOps.Spine
import SeshatOps.Stock

namespace SeshatOps

open Relational Event

namespace Source

/-! ### Recorded events -/

/-- An outbox row as a command writes it for an event. -/
structure Records (row : OutboxRow) (env : Envelope) (payload : Payload) (canonical : Bytes) :
    Prop where
  valid : Valid env payload
  written : canonicalBytes env = .ok canonical
  stored : env.Storable payload
  eventID : row.eventID = env.eventID
  place : row.place = env.place
  contentHash : row.contentHash = digest canonical
  eventBytes : row.eventBytes = canonical
  recordedAt : Time.parseTimeZ env.recordedAt = some row.recordedAt

/-- The events of the outbox. -/
def Published (erp : Erp) (env : Envelope) : Prop :=
  ∃ row ∈ erp.outbox.rows, ∃ payload canonical, Records row env payload canonical

section Recording

variable {before : Erp} {row : OutboxRow} {env other : Envelope} {payload otherPayload : Payload}
  {canonical bytes : Bytes} {recordedAt : Int}

theorem Emits.records (emits : Emits before env payload canonical recordedAt) (now : Int) :
    Records (pendingRow env (digest canonical) canonical recordedAt now) env payload canonical :=
  ⟨emits.valid, emits.written, emits.stored, rfl, rfl, rfl, rfl, emits.recorded⟩

theorem Records.carries (records : Records row env payload canonical) :
    Carries row.eventBytes env payload canonical := by
  refine ⟨?_, records.valid, records.written⟩
  rw [records.eventBytes]
  exact parse_canonicalBytes env canonical records.written

theorem Records.validated (records : Records row env payload canonical) :
    validate env = .ok () :=
  parse_valid row.eventBytes env records.carries.parsed

theorem Records.canonicalID (records : Records row env payload canonical) :
    CanonicalID env.aggregateID :=
  validate_canonicalID env records.validated

/-- A row records one event. -/
theorem Records.unique (first : Records row env payload canonical)
    (second : Records row other otherPayload bytes) : other = env ∧ otherPayload = payload := by
  obtain ⟨sameEvent, samePayload, -⟩ := first.carries.unique second.carries
  exact ⟨sameEvent, samePayload⟩

theorem Records.decrementOf {quantity : QuantityDecremented}
    (records : Records row env (.quantityDecremented quantity) canonical) :
    decrementOf row = some quantity := by
  rw [Source.decrementOf, records.carries.parsed]
  exact asQuantityDecremented_of_valid records.valid

/-- The columns that place a row hold what the event says. -/
theorem Records.columns (records : Records row env payload canonical) :
    row.tenantID = env.tenantID ∧ row.aggregateType = env.aggregateType ∧
      row.aggregateID = env.aggregateID ∧ row.aggregateVersion = env.aggregateVersion := by
  simpa only [OutboxRow.place, Envelope.place, Prod.mk.injEq] using records.place

/-- The row of a decrement is among the events of its item. -/
theorem Records.mem_itemEvents {quantity : QuantityDecremented}
    (records : Records row env (.quantityDecremented quantity) canonical)
    (member : row ∈ before.outbox.rows) : row ∈ itemEvents before env.item := by
  have place := records.columns
  simp [itemEvents, member, place, records.valid.aggregateType, Envelope.item,
    Payload.aggregateType]

theorem Records.aggregateVersion (records : Records row env payload canonical) :
    row.aggregateVersion = env.aggregateVersion :=
  records.columns.2.2.2

end Recording

/-! ### The source schema -/

/-- What every run of the commands leaves in the source schema. -/
structure Sourced (erp : Erp) : Prop where
  recorded : ∀ row ∈ erp.outbox.rows, ∃ env payload canonical,
    Records row env payload canonical ∧ ∀ hop, payloadHop env.tenantID payload = some hop →
      env.aggregateVersion = 1 ∧ Caused erp hop env.causationID ∧
        ∃ source ∈ erp.hops.rows, source.hop = hop
  placed : ∀ first ∈ erp.outbox.rows, ∀ second ∈ erp.outbox.rows, first.place = second.place →
    first = second
  stocked : ∀ key item, erp.inventoryItems.find? key = some item →
    ∃ initial decrements, Stock initial key erp item decrements
  unstocked : ∀ key, erp.inventoryItems.find? key = none →
    itemEvents erp key = [] ∧ itemOrders erp key = []
  announced : ∀ source ∈ erp.hops.rows, ∃ row ∈ erp.outbox.rows, ∃ env payload canonical,
    Records row env payload canonical ∧ payloadHop env.tenantID payload = some source.hop
  apart : ∀ first ∈ erp.hops.rows, ∀ second ∈ erp.hops.rows,
    first.hop.clashes second.hop = true → first = second
  refers : ∀ source ∈ erp.hops.rows, refersTo erp source.hop = true

theorem Sourced.empty : Sourced .empty := by
  constructor <;> simp [Erp.empty, itemEvents, itemOrders]

section Steps

variable {before after : Erp} {env : Envelope} {payload : Payload} {canonical : Bytes}
  {recordedAt now : Int}

/-- References stay good while rows are only added. -/
theorem refersTo_mono {hop : Hop} (refers : refersTo before hop = true)
    (hops : ∀ key, (before.hops.find? key).isSome = true → (after.hops.find? key).isSome = true)
    (items : ∀ key, (before.inventoryItems.find? key).isSome = true →
      (after.inventoryItems.find? key).isSome = true) : refersTo after hop = true := by
  unfold refersTo at refers ⊢
  simp only [Bool.and_eq_true, Bool.or_eq_true] at refers ⊢
  refine ⟨?_, refers.2.imp_right (items _)⟩
  cases parent : parentKind hop.kind with
  | none => rfl
  | some kind =>
    simp only [parent] at refers ⊢
    exact hops _ refers.1

/-- The place of an emitted event is new. -/
theorem Emits.placed (emits : Emits before env payload canonical recordedAt)
    (placed : ∀ first ∈ before.outbox.rows, ∀ second ∈ before.outbox.rows,
      first.place = second.place → first = second) :
    ∀ first ∈ (before.outbox.store
        (pendingRow env (digest canonical) canonical recordedAt now)).rows,
      ∀ second ∈ (before.outbox.store
        (pendingRow env (digest canonical) canonical recordedAt now)).rows,
      first.place = second.place → first = second := by
  intro first firstMember second secondMember same
  rcases Table.mem_store.mp firstMember with ⟨firstOld, -⟩ | rfl <;>
    rcases Table.mem_store.mp secondMember with ⟨secondOld, -⟩ | rfl
  · exact placed first firstOld second secondOld same
  · exact absurd ⟨first, firstOld, same⟩ emits.freshPlace
  · exact absurd ⟨second, secondOld, same.symm⟩ emits.freshPlace
  · rfl

/-- Every commit keeps the history of a stocked item, and makes none for another. -/
theorem Sourced.stocked_step (sourced : Sourced before) (steps : Steps before after)
    (key : Bytes × Bytes) :
    (∀ item, after.inventoryItems.find? key = some item →
      ∃ initial decrements, Stock initial key after item decrements) ∧
    (after.inventoryItems.find? key = none →
      itemEvents after key = [] ∧ itemOrders after key = []) := by
  cases held : before.inventoryItems.find? key with
  | some old =>
    obtain ⟨initial, decrements, stock⟩ := sourced.stocked key old held
    obtain ⟨item, decrements, kept⟩ := stock.step steps
    refine ⟨fun found present => ?_, fun absent => ?_⟩
    · obtain rfl : item = found := Option.some.inj (kept.found.symm.trans present)
      exact ⟨initial, decrements, kept⟩
    · rw [kept.found] at absent
      cases absent
  | none =>
    obtain ⟨noEvents, noOrders⟩ := sourced.unstocked key held
    have spares : after.inventoryItems.find? key = before.inventoryItems.find? key ∧
        itemEvents after key = itemEvents before key ∧
        itemOrders after key = itemOrders before key := by
      cases steps with
      | accepted cmd item occurredAt recordedAt now canonical accepts =>
        refine accepts.sparesItem ?_
        rintro rfl
        rw [accepts.found] at held
        cases held
      | linked context hop causationID payload occurredAt recordedAt now canonical links =>
        exact links.sparesItem key
    obtain ⟨sameItem, sameEvents, sameOrders⟩ := spares
    refine ⟨fun found present => ?_, fun _ =>
      ⟨sameEvents.trans noEvents, sameOrders.trans noOrders⟩⟩
    rw [sameItem, held] at present
    cases present

/-- An accepted order. -/
theorem Sourced.accept (sourced : Sourced before) {cmd : OrderCommand} {item : InventoryItem}
    {occurredAt : Int}
    (accepts : Accepts cmd item occurredAt recordedAt now canonical before after) :
    Sourced after := by
  have steps : Steps before after := .accepted _ _ _ _ _ _ accepts
  have stocked := sourced.stocked_step steps
  have keeps := steps.keepsEvents
  have hops : after.hops = before.hops := by
    rw [accepts.result]
    rfl
  refine ⟨fun row member => ?_, ?_, fun key => (stocked key).1, fun key => (stocked key).2,
    fun source member => ?_, ?_, fun source member => ?_⟩
  · rw [accepts.result] at member
    rcases Table.mem_store.mp member with ⟨old, -⟩ | rfl
    · obtain ⟨env, payload, canonical, records, linked⟩ := sourced.recorded row old
      refine ⟨env, payload, canonical, records, fun hop described => ?_⟩
      obtain ⟨first, caused, source⟩ := linked hop described
      exact ⟨first, caused.mono keeps, hops ▸ source⟩
    · exact ⟨_, _, canonical, accepts.emits.records now, by rintro hop ⟨⟩⟩
  · rw [accepts.result]
    exact accepts.emits.placed sourced.placed
  · rw [hops] at member
    obtain ⟨row, listed, recorded⟩ := sourced.announced source member
    exact ⟨row, keeps row listed, recorded⟩
  · rw [hops]
    exact sourced.apart
  · rw [hops] at member
    refine refersTo_mono (sourced.refers source member) (by rw [hops]; exact fun _ => id) ?_
    rw [accepts.result]
    exact fun key => Table.isSome_find?_store before.inventoryItems _ key

/-- A new hop. -/
theorem Sourced.link (sourced : Sourced before) {context : Context} {hop : Hop}
    {causationID : Option Bytes} {occurredAt : Int}
    (links : Links context hop causationID payload occurredAt recordedAt now canonical before
      after) : Sourced after := by
  have steps : Steps before after := .linked _ _ _ _ _ _ _ _ links
  have stocked := sourced.stocked_step steps
  have keeps := steps.keepsEvents
  have fresh : before.hops.find? hop.key = none := ((hasClash_eq_false_iff _ _).mp links.free).1
  have free : ∀ source ∈ before.hops.rows, hop.clashes source.hop ≠ true :=
    List.any_eq_false.mp links.free
  -- The new row, and every row that was there before.
  have hops : ∀ source, source ∈ after.hops.rows ↔ source ∈ before.hops.rows ∨ source =
      ⟨hop, firstAggregateVersion, occurredAt, context.correlationID, context.traceID⟩ := by
    intro source
    rw [links.result]
    refine Table.mem_store.trans (or_congr_left ?_)
    exact and_iff_left_of_imp fun old => Table.find?_eq_none_iff.mp fresh source old
  have referring : ∀ other, refersTo before other = true → refersTo after other = true := by
    intro other refers
    rw [links.result]
    exact refersTo_mono refers (Table.isSome_find?_store before.hops _) fun _ => id
  refine ⟨fun row member => ?_, ?_, fun key => (stocked key).1, fun key => (stocked key).2,
    fun source member => ?_, fun first firstMember second secondMember clashes => ?_,
    fun source member => ?_⟩
  · rw [links.result] at member
    rcases Table.mem_store.mp member with ⟨old, -⟩ | rfl
    · obtain ⟨env, payload, canonical, records, linked⟩ := sourced.recorded row old
      refine ⟨env, payload, canonical, records, fun hop described => ?_⟩
      obtain ⟨first, caused, source, listed, same⟩ := linked hop described
      exact ⟨first, caused.mono keeps, source, (hops source).mpr (Or.inl listed), same⟩
    · refine ⟨_, payload, canonical, links.emits.records now, fun other described => ?_⟩
      obtain rfl : hop = other := Option.some.inj (links.described.symm.trans described)
      exact ⟨rfl, links.caused.mono keeps, _, (hops _).mpr (Or.inr rfl), rfl⟩
  · rw [links.result]
    exact links.emits.placed sourced.placed
  · rcases (hops source).mp member with old | rfl
    · obtain ⟨row, listed, recorded⟩ := sourced.announced source old
      exact ⟨row, keeps row listed, recorded⟩
    · refine ⟨_, ?_, _, payload, canonical, links.emits.records now, links.described⟩
      rw [links.result]
      exact Table.mem_store_self _ _
  · rcases (hops first).mp firstMember with firstOld | rfl <;>
      rcases (hops second).mp secondMember with secondOld | rfl
    · exact sourced.apart first firstOld second secondOld clashes
    · rw [Hop.clashes_comm] at clashes
      exact absurd clashes (free first firstOld)
    · exact absurd clashes (free second secondOld)
    · rfl
  · rcases (hops source).mp member with old | rfl
    · exact referring _ (sourced.refers source old)
    · exact referring _ links.refers

/-- Every commit of a command keeps the source schema in order. -/
theorem Sourced.step (sourced : Sourced before) (steps : Steps before after) : Sourced after := by
  cases steps with
  | accepted cmd item occurredAt recordedAt now canonical accepts => exact sourced.accept accepts
  | linked context hop causationID payload occurredAt recordedAt now canonical links =>
    exact sourced.link links

/-- So does the seed of an item. -/
theorem Sourced.seed (sourced : Sourced before) (row : InventoryItem)
    (absent : before.inventoryItems.find? row.key = none) (fresh : row.aggregateVersion = 0)
    (nonnegative : 0 ≤ row.quantityOnHand) : Sourced (storeItem row before) := by
  refine ⟨sourced.recorded, sourced.placed, fun key item found => ?_, fun key none => ?_,
    sourced.announced, sourced.apart, fun source member => ?_⟩
  · by_cases own : key = row.key
    · subst own
      obtain rfl : row = item := by
        have stored : (storeItem row before).inventoryItems.find? row.key = some row :=
          Table.find?_store_self _ row
        exact Option.some.inj (stored.symm.trans found)
      obtain ⟨noEvents, noOrders⟩ := sourced.unstocked row.key absent
      have seeded : Seeded row.quantityOnHand row.key (storeItem row before) := by
        refine ⟨?_, nonnegative, noEvents, noOrders⟩
        rw [found, ← fresh]
        rfl
      have stock := seeded.stock
      rw [← fresh] at stock
      exact ⟨_, _, stock⟩
    · have kept : before.inventoryItems.find? key = some item :=
        (Table.find?_store_of_ne _ own).symm.trans found
      obtain ⟨initial, decrements, stock⟩ := sourced.stocked key item kept
      exact ⟨initial, decrements, stock.frame (Table.find?_store_of_ne _ own) rfl rfl⟩
  · by_cases own : key = row.key
    · subst own
      have stored : (storeItem row before).inventoryItems.find? row.key = some row :=
        Table.find?_store_self _ row
      rw [stored] at none
      cases none
    · exact sourced.unstocked key ((Table.find?_store_of_ne _ own).symm.trans none)
  · exact refersTo_mono (sourced.refers source member) (fun _ => id)
      (Table.isSome_find?_store before.inventoryItems row)

end Steps

/-! ### The published events -/

section Coherence

variable {erp : Erp} {env : Envelope} {payload : Payload} {hop : Hop}
  {quantity : QuantityDecremented}

/-- An event that describes a hop has the hop's place, at version 1. -/
theorem place_of_hop (valid : Valid env payload)
    (described : payloadHop env.tenantID payload = some hop) (first : env.aggregateVersion = 1) :
    env.place = (hop.tenantID, hop.kind.aggregateType, hop.hopID, 1) := by
  have self := valid.fits.selfID
  rw [Envelope.place, valid.aggregateType, ← self, first]
  cases payload <;> cases described <;> rfl

/-- The hop of a published event is in the source tables. -/
theorem Sourced.hop_of_event (sourced : Sourced erp) (known : Published erp env)
    (valid : Valid env payload) (described : payloadHop env.tenantID payload = some hop) :
    env.aggregateVersion = 1 ∧ Caused erp hop env.causationID ∧
      ∃ source ∈ erp.hops.rows, source.hop = hop := by
  obtain ⟨row, member, otherPayload, canonical, records⟩ := known
  obtain ⟨other, payload', bytes, records', linked⟩ := sourced.recorded row member
  obtain ⟨rfl, rfl⟩ := records'.unique records
  obtain rfl : otherPayload = payload :=
    Option.some.inj (records.valid.carried.symm.trans valid.carried)
  exact linked hop described

/-- The item of a published decrement is stocked. -/
theorem Sourced.stock_of_event (sourced : Sourced erp) (known : Published erp env)
    (valid : Valid env (.quantityDecremented quantity)) :
    ∃ initial item decrements, Stock initial env.item erp item decrements ∧
      ∃ row ∈ itemEvents erp env.item, decrementOf row = some quantity ∧
        row.aggregateVersion = env.aggregateVersion := by
  obtain ⟨row, member, payload, canonical, records⟩ := known
  obtain rfl : payload = .quantityDecremented quantity :=
    Option.some.inj (records.valid.carried.symm.trans valid.carried)
  have listed := records.mem_itemEvents member
  cases found : erp.inventoryItems.find? env.item with
  | none =>
    rw [(sourced.unstocked env.item found).1] at listed
    cases listed
  | some item =>
    obtain ⟨initial, decrements, stock⟩ := sourced.stocked env.item item found
    exact ⟨initial, item, decrements, stock, row, listed, records.decrementOf,
      records.aggregateVersion⟩

/-- What the source publishes is coherent. -/
theorem Sourced.coherent (sourced : Sourced erp) : Coherent (Published erp) := by
  have placed : ∀ first second, Published erp first → Published erp second →
      first.place = second.place → first = second := by
    rintro first second ⟨row, member, payload, canonical, records⟩
      ⟨other, otherMember, otherPayload, bytes, otherRecords⟩ same
    obtain rfl := sourced.placed row member other otherMember
      (records.place.trans (same.trans otherRecords.place.symm))
    exact (otherRecords.unique records).1
  refine ⟨?_, ?_, placed, ?_, ?_, ?_, ?_⟩
  · rintro env ⟨row, member, payload, canonical, records⟩
    exact ⟨payload, canonical, records.valid, records.written, records.stored⟩
  · rintro first second ⟨row, member, payload, canonical, records⟩
      ⟨other, otherMember, otherPayload, bytes, otherRecords⟩ same
    obtain rfl := erp.outbox.eq_of_key member otherMember
      (records.eventID.trans (same.trans otherRecords.eventID.symm))
    exact (otherRecords.unique records).1
  · intro env quantity known valid version low high
    obtain ⟨initial, item, decrements, stock, row, listed, -, sameVersion⟩ :=
      sourced.stock_of_event known valid
    have conserved := stock.conserved
    have bound := ((conserved.versions row.aggregateVersion).mp ⟨row, listed, rfl⟩).2
    obtain ⟨other, otherListed, rfl⟩ := (conserved.versions version).mpr ⟨low, by omega⟩
    simp only [itemEvents, List.mem_filter, Bool.and_eq_true, beq_iff_eq] at otherListed
    obtain ⟨member, ⟨tenant, type⟩, aggregate⟩ := otherListed
    obtain ⟨otherEnv, payload, canonical, records, -⟩ := sourced.recorded other member
    refine ⟨otherEnv, ⟨other, member, payload, canonical, records⟩, ?_⟩
    rw [← records.place, OutboxRow.place, tenant, type, aggregate, valid.aggregateType]
    rfl
  · intro first second earlier later firstKnown secondKnown firstValid secondValid sameItem next
    obtain ⟨initial, item, decrements, stock, row, listed, carries, version⟩ :=
      sourced.stock_of_event firstKnown firstValid
    obtain ⟨-, -, -, -, other, otherListed, otherCarries, otherVersion⟩ :=
      sourced.stock_of_event secondKnown secondValid
    rw [← sameItem] at otherListed
    obtain ⟨early, late, foundEarly, foundLate, continues⟩ :=
      stock.conserved.chains row listed other otherListed (by omega)
    obtain rfl := Option.some.inj (carries.symm.trans foundEarly)
    obtain rfl := Option.some.inj (otherCarries.symm.trans foundLate)
    exact continues
  · intro env payload hop known valid described
    exact (sourced.hop_of_event known valid described).1
  · intro first second payload other hop rival firstKnown secondKnown firstValid secondValid
      described otherDescribed clashes
    obtain ⟨version, -, source, member, rfl⟩ :=
      sourced.hop_of_event firstKnown firstValid described
    obtain ⟨otherVersion, -, otherSource, otherMember, rfl⟩ :=
      sourced.hop_of_event secondKnown secondValid otherDescribed
    obtain rfl := sourced.apart source member otherSource otherMember clashes
    refine placed first second firstKnown secondKnown ?_
    rw [place_of_hop firstValid described version, place_of_hop secondValid otherDescribed
      otherVersion]

theorem Published.mono {later : Erp} (keeps : KeepsEvents erp later)
    (known : Published erp env) : Published later env := by
  obtain ⟨row, member, recorded⟩ := known
  exact ⟨row, keeps row member, recorded⟩

end Coherence

/-! ### Runs of commands -/

/-- Clients that each execute one command, on one database. -/
abbrev Sourcing (Index : Type) :=
  Program.System Index Database Lock Empty SourceError (AcceptResult ⊕ SourceAcceptResult)

/-- What can happen to the source: an item is seeded, a client takes up a command, giving up
what it was at, or a client goes on with its next request. -/
inductive Move (Index : Type)
  | seed (tenantID itemID : Bytes) (quantity : Int)
  | launch (index : Index) (command : Command)
  | advance (index : Index) (reply : Reply)

section Runs

variable {Index : Type}

/-- Every client at the start of its command, on empty tables. -/
def Sourcing.start (commands : Index → Command) : Sourcing Index where
  committed := .empty
  clients index := { program := (commands index).action }

/-- The source in order, with every client at some point of its command. -/
structure Sourcing.Sound (system : Sourcing Index) : Prop where
  orderly : system.Orderly sourceContract fun _ => StepsOnly
  sourced : Sourced system.committed.erp

theorem Sourcing.start_sound (commands : Index → Command) : (Sourcing.start commands).Sound :=
  ⟨⟨by simp [Sourcing.start], fun index => (commands index).guarantees _⟩, .empty⟩

/-- What happens to the platform is nothing to the source. -/
theorem Sourcing.Sound.withPlatform {system : Sourcing Index} (sound : system.Sound)
    {db : Database} (same : db.erp = system.committed.erp) :
    Sourcing.Sound { system with committed := db } := by
  refine ⟨⟨sound.orderly.apart, fun index => (sound.orderly.guarantees index).stable ⟨?_, ?_⟩⟩, ?_⟩
  · show KeepsEvents system.committed.erp db.erp
    rw [same]
    exact fun _ => id
  · intro lock _
    show Protected lock system.committed.erp db.erp
    rw [same]
    exact .refl lock _
  · show Sourced db.erp
    rw [same]
    exact sound.sourced

/-- What is seeded is a new row at version 0. -/
theorem seedItem_ok {tenantID itemID : Bytes} {quantity : Int} {db : Database} {answer : Unit}
    {change : Database → Database}
    (executed : (seedItemStatement tenantID itemID quantity).execute 0 db = .ok (answer, change)) :
    change db = db.onErp (storeItem ⟨tenantID, itemID, quantity, 0⟩) ∧ 0 ≤ quantity ∧
      db.erp.inventoryItems.find? (tenantID, itemID) = none := by
  simp only [seedItemStatement, sourceCommand, statement] at executed
  split_ifs at executed with fit allowed taken
  simp only [Except.ok.injEq, Prod.mk.injEq] at executed
  obtain ⟨-, rfl⟩ := executed
  refine ⟨rfl, ?_, ?_⟩
  · simpa [allowedItem] using allowed
  · simpa [InventoryItem.key] using taken

variable [Fintype Index] [DecidableEq Index]

/-- A seed waits for the lock on its key, so it happens only when no client holds it. -/
def Sourcing.move (system : Sourcing Index) : Move Index → Sourcing Index
  | .seed tenantID itemID quantity =>
      match (seedItemStatement tenantID itemID quantity).execute 0 system.committed with
      | .error _ => system
      | .ok (_, change) =>
          if ∀ index, Lock.item (tenantID, itemID) ∉ (system.clients index).held then
            { system with committed := change system.committed }
          else system
  | .launch index command =>
      { system with
        clients := Function.update system.clients index { program := command.action } }
  | .advance index reply => system.step index reply

/-- Whatever happens, the source stays in order, keeps its events and leaves the platform
alone. -/
theorem Sourcing.Sound.move {system : Sourcing Index} (sound : system.Sound) (move : Move Index) :
    (system.move move).Sound ∧
      KeepsEvents system.committed.erp (system.move move).committed.erp ∧
      (system.move move).committed.platform = system.committed.platform := by
  have within : ∀ (index : Index) before after, StepsOnly before after →
      sourceContract.rely before after := fun _ _ _ steps => steps.1.keepsEvents
  cases move with
  | seed tenantID itemID quantity =>
    cases executed : (seedItemStatement tenantID itemID quantity).execute 0 system.committed with
    | error error =>
      have same : system.move (.seed tenantID itemID quantity) = system := by
        simp only [Sourcing.move, executed]
      rw [same]
      exact ⟨sound, fun _ => id, rfl⟩
    | ok result =>
      obtain ⟨answer, change⟩ := result
      obtain ⟨changed, nonnegative, absent⟩ := seedItem_ok executed
      simp only [Sourcing.move, executed, changed]
      split_ifs with free
      · refine ⟨⟨⟨sound.orderly.apart, fun index => (sound.orderly.guarantees index).stable ?_⟩,
          sound.sourced.seed _ absent rfl nonnegative⟩, fun _ => id, rfl⟩
        refine ⟨fun _ => id, fun lock held => protected_storeItem _ ?_⟩
        rintro rfl
        exact free index held
      · exact ⟨sound, fun _ => id, rfl⟩
  | launch index command =>
    have evolves : Program.System.Evolves sourceContract (fun _ _ => False)
        (fun _ program => program = command.action) system (system.move (.launch index command)) :=
      .launched index command.action rfl
    refine ⟨⟨sound.orderly.evolves within (fun _ _ never => never.elim) ?_ evolves, sound.sourced⟩,
      fun _ => id, rfl⟩
    rintro _ _ rfl db
    exact command.guarantees db
  | advance index reply =>
    have orderly := sound.orderly.step within index reply
    rcases sound.orderly.step_guarantee index reply with same | ⟨steps, platform⟩
    · have unchanged : (system.move (.advance index reply)).committed = system.committed := same
      rw [unchanged]
      exact ⟨⟨orderly, by rw [unchanged]; exact sound.sourced⟩, fun _ => id, rfl⟩
    · exact ⟨⟨orderly, sound.sourced.step steps⟩, steps.keepsEvents, platform⟩

end Runs

end Source

end SeshatOps
