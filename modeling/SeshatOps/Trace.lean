/-
This file models `TraceBatch`, the query for the lineage of a production batch, and proves
that it shows the chain of the source.

The query joins the batch to its lot, the lot to its supplier and the batch to its
shipment, and reads a missing row as an empty hop. `batches_traced` is about every run
after which the lineage events were acknowledged, in whatever order they came: the
joins then find the rows of the source, each under the event that announced it, and each
caused by the event of the row it comes from.
-/

import SeshatOps.Checksum
import SeshatOps.Convergence

namespace SeshatOps

open Relational Event Source

/-! ### The query -/

/-- A hop of a trace. A hop that the join did not find is empty. -/
structure LineageHop where
  id : Bytes := []
  parentID : Bytes := []
  itemID : Bytes := []
  orderID : Bytes := []
  aggregateVersion : Int := 0
  sourceEventID : Bytes := []
  eventSchemaVersion : Int := 0
  occurredAt : Bytes := []
  recordedAt : Bytes := []
  correlationID : Bytes := []
  causationID : Option Bytes := none
  traceID : Bytes := []
  deriving DecidableEq

/-- `lineageHopScan.hop`. -/
def lineageHop : Option LineageRow → LineageHop
  | none => {}
  | some row =>
      { id := row.hop.hopID
        parentID := row.hop.parentID
        itemID := row.hop.itemID
        orderID := row.hop.orderID
        aggregateVersion := row.aggregateVersion
        sourceEventID := row.sourceEventID
        eventSchemaVersion := row.eventSchemaVersion
        occurredAt := row.occurredAt
        recordedAt := row.recordedAt
        correlationID := row.correlationID
        causationID := row.causationID
        traceID := row.traceID }

structure BatchTrace where
  tenantID : Bytes
  batch : LineageHop := {}
  lot : LineageHop := {}
  supplier : LineageHop := {}
  shipment : LineageHop := {}
  deriving DecidableEq

inductive TraceError
  | tenantRequired
  | batchRequired
  | query (error : SqlError)
  deriving DecidableEq

/-- A row of the join. -/
structure TraceRow where
  batch : LineageRow
  lot : Option LineageRow
  supplier : Option LineageRow
  shipment : Option LineageRow

/-- `LEFT JOIN`: the rows that match, or one without a match. -/
def leftJoin (rows : List LineageRow) (joins : LineageRow → Bool) : List (Option LineageRow) :=
  match rows.filter joins with
  | [] => [none]
  | found => found.map some

/-- The row is in the table of a kind, under the given tenant. -/
def LineageRow.isIn (row : LineageRow) (kind : HopKind) (tenantID : Bytes) : Bool :=
  row.hop.kind == kind && row.hop.tenantID == tenantID

/-- The rows that the query selects. -/
def traceRows (platform : Platform) (tenantID batchID : Bytes) : List TraceRow :=
  let rows := platform.lineage.rows
  (rows.filter fun row => row.isIn .productionBatch tenantID && row.hop.hopID == batchID).flatMap
    fun batch =>
  (leftJoin rows fun row =>
    row.isIn .ingredientLot batch.hop.tenantID && row.hop.hopID == batch.hop.parentID).flatMap
    fun lot =>
  (leftJoin rows fun row => row.isIn .supplier batch.hop.tenantID &&
    some row.hop.hopID == lot.map fun lot => lot.hop.parentID).flatMap fun supplier =>
  (leftJoin rows fun row => row.isIn .shipment batch.hop.tenantID &&
    row.hop.parentID == batch.hop.hopID).map fun shipment => ⟨batch, lot, supplier, shipment⟩

/-- The one row that `QueryRow` scans: some row of the result, where there is one. -/
def traceStatement (tenantID batchID : Bytes) : Statement Database Lock (Option TraceRow) :=
  query [tenantID, batchID] (fun _ => []) fun choice db =>
    let rows := traceRows db.platform tenantID batchID
    rows[choice % rows.length]?

/-- `TraceBatch`. -/
def traceBatch (tenantID batchID : Bytes) :
    Program Database Lock Empty TraceError (BatchTrace × Bool) :=
  let tenantID := Strings.trimSpace tenantID
  let batchID := Strings.trimSpace batchID
  if tenantID.isEmpty then Program.fail .tenantRequired
  else if batchID.isEmpty then Program.fail .batchRequired
  else do
    match ← Program.exec (traceStatement tenantID batchID) .query with
    | none => return ({ tenantID }, false)
    | some row => return (⟨tenantID, lineageHop row.batch, lineageHop row.lot,
        lineageHop row.supplier, lineageHop row.shipment⟩, true)

/-- What the call returns on a database. -/
def tracedBatch (db : Database) (tenantID batchID : Bytes) (replies : List Reply) :
    Except TraceError (BatchTrace × Bool) :=
  ((traceBatch tenantID batchID).run replies ⟨db, none, []⟩).1

/-- A query that selects one row, for identifiers without white space. -/
theorem tracedBatch_of_single {db : Database} {tenantID batchID : Bytes} {row : TraceRow}
    (tenantTrimmed : Strings.trimSpace tenantID = tenantID) (tenantGiven : tenantID ≠ [])
    (batchTrimmed : Strings.trimSpace batchID = batchID) (batchGiven : batchID ≠ [])
    (tenantStored : storable tenantID = true) (batchStored : storable batchID = true)
    (single : traceRows db.platform tenantID batchID = [row]) {replies : List Reply}
    (served : Reply.lost ∉ replies) :
    tracedBatch db tenantID batchID replies = .ok (⟨tenantID, lineageHop row.batch,
      lineageHop row.lot, lineageHop row.supplier, lineageHop row.shipment⟩, true) := by
  have ensures : Program.Ensures false (traceBatch tenantID batchID) ⟨db, none, []⟩
      fun result _ => result = .ok (⟨tenantID, lineageHop row.batch, lineageHop row.lot,
        lineageHop row.supplier, lineageHop row.shipment⟩, true) := by
    simp only [traceBatch, tenantTrimmed, batchTrimmed, List.isEmpty_iff, if_neg tenantGiven,
      if_neg batchGiven]
    refine ensures_query _ _ _ _ _ (by simp) (by simp [tenantStored, batchStored])
      fun _ choice => ?_
    have view : (⟨db, none, []⟩ : Program.Session Database Empty).view = db := rfl
    simp only [view, single, List.length_singleton, Nat.mod_one, List.getElem?_cons_zero]
    exact Program.ensures_done _ rfl
  exact ensures replies fun _ => served

/-! ### Hops and their events -/

/-- The outbox rows of a hop. -/
def hopEvents (erp : Erp) (hop : Hop) : List OutboxRow :=
  erp.outbox.rows.filter fun row => row.tenantID == hop.tenantID &&
    row.aggregateType == hop.kind.aggregateType && row.aggregateID == hop.hopID

/-- A lineage row that shows a hop of the source under the hop's one event. -/
structure ShowsHop (erp : Erp) (source : SourceHop) (event : OutboxRow) (line : LineageRow) :
    Prop where
  hop : line.hop = source.hop
  events : hopEvents erp source.hop = [event]
  sourceEventID : line.sourceEventID = event.eventID
  caused : Caused erp source.hop line.causationID

section Hops

variable {erp : Erp} {acked : Bytes → Prop} {log : Log} {platform : Platform}
  {row : OutboxRow} {env : Envelope} {payload : Payload} {canonical : Bytes} {hop : Hop}

theorem payloadHop_of_type {kind : HopKind} (tenantID : Bytes)
    (type : payload.aggregateType = kind.aggregateType) :
    ∃ hop, payloadHop tenantID payload = some hop := by
  cases payload with
  | quantityDecremented quantity =>
    cases kind <;> exact absurd type (by simp only [Payload.aggregateType]; decide)
  | _ => exact ⟨_, rfl⟩

theorem mem_hopEvents (row : OutboxRow) (hop : Hop) :
    row ∈ hopEvents erp hop ↔ row ∈ erp.outbox.rows ∧ row.tenantID = hop.tenantID ∧
      row.aggregateType = hop.kind.aggregateType ∧ row.aggregateID = hop.hopID := by
  simp [hopEvents, and_assoc]

/-- A hop has one event. -/
theorem Source.Sourced.hopEvents_eq (sourced : Sourced erp) (listed : row ∈ erp.outbox.rows)
    (records : Records row env payload canonical)
    (described : payloadHop env.tenantID payload = some hop) : hopEvents erp hop = [row] := by
  have known : Published erp env := ⟨row, listed, payload, canonical, records⟩
  have first := (sourced.hop_of_event known records.valid described).1
  have place := records.place.trans (place_of_hop records.valid described first)
  refine Table.filter_eq_singleton erp.outbox _ listed ?_ fun other member matched => ?_
  · simp only [OutboxRow.place, Prod.mk.injEq] at place
    simp [place]
  · simp only [Bool.and_eq_true, beq_iff_eq] at matched
    obtain ⟨⟨tenant, type⟩, aggregate⟩ := matched
    obtain ⟨otherEnv, otherPayload, bytes, otherRecords, linked⟩ := sourced.recorded other member
    have otherPlace := otherRecords.place
    simp only [OutboxRow.place, Envelope.place, Prod.mk.injEq] at otherPlace
    obtain ⟨rival, otherDescribed⟩ := payloadHop_of_type otherEnv.tenantID
      (otherRecords.valid.aggregateType.symm.trans (otherPlace.2.1.symm.trans type))
    refine sourced.placed other member row listed ?_
    rw [place, OutboxRow.place, tenant, type, aggregate, otherPlace.2.2.2,
      (linked rival otherDescribed).1]

theorem hopID_of_described (valid : Valid env payload)
    (described : payloadHop env.tenantID payload = some hop) :
    hop.tenantID = env.tenantID ∧ hop.hopID = env.aggregateID := by
  obtain ⟨key, -⟩ := payloadHop_key valid described
  simp only [Hop.key, Prod.mk.injEq, true_and] at key
  exact key

/-- Once its event is acknowledged a hop is shown. -/
theorem Source.Sourced.showsHop (sourced : Sourced erp)
    (tracks : Tracks (Published erp) acked log platform) {source : SourceHop}
    (member : source ∈ erp.hops.rows)
    (all : ∀ row ∈ erp.outbox.rows, row.aggregateType ≠ aggregateTypeInventoryItem →
      acked row.eventID) :
    ∃ event line, platform.lineage.find? source.key = some line ∧ ShowsHop erp source event line ∧
      CanonicalID source.hop.hopID ∧ storable source.hop.hopID = true ∧
      matchesUUID source.hop.tenantID = true := by
  obtain ⟨row, listed, env, payload, canonical, records, described, found⟩ :=
    sourced.line_of_hop tracks member fun row listed place => all row listed (by
      simp only [OutboxRow.place, Prod.mk.injEq] at place
      rw [place.2.1]
      cases source.hop.kind <;> decide)
  have known : Published erp env := ⟨row, listed, payload, canonical, records⟩
  obtain ⟨tenant, self⟩ := hopID_of_described records.valid described
  refine ⟨row, _, found, ⟨rfl, sourced.hopEvents_eq listed records described, records.eventID.symm,
    (sourced.hop_of_event known records.valid described).2.1⟩, ?_, ?_, ?_⟩
  · rw [self]
    exact records.canonicalID
  · rw [self]
    exact records.stored.1
  · rw [tenant]
    exact records.valid.tenantID

/-- The cause of a hop is the event of the row it comes from. -/
theorem ShowsHop.causationID {source parent : SourceHop} {event parentEvent : OutboxRow}
    {line parentLine : LineageRow} {kind : HopKind} (shows : ShowsHop erp source event line)
    (above : ShowsHop erp parent parentEvent parentLine)
    (isParent : parentKind source.hop.kind = some kind) (parentKey :
      parent.hop.key = (kind, source.hop.tenantID, source.hop.parentID)) :
    line.causationID = some parentLine.sourceEventID := by
  have caused := shows.caused
  simp only [Caused, isParent] at caused
  obtain ⟨cause, member, tenant, type, aggregate, named⟩ := caused
  simp only [Hop.key, Prod.mk.injEq] at parentKey
  have listed : cause ∈ hopEvents erp parent.hop := by
    refine (mem_hopEvents cause parent.hop).mpr ⟨member, ?_, ?_, ?_⟩
    · rw [tenant, parentKey.2.1]
    · rw [type, parentKey.1]
    · rw [aggregate, parentKey.2.2]
  rw [above.events, List.mem_singleton] at listed
  rw [named, above.sourceEventID, listed]

end Hops

/-! ### Traces -/

/-- A hop of a trace that shows a row of the source, under the one event of that row. -/
structure Traced (erp : Erp) (source : SourceHop) (hop : LineageHop) : Prop where
  id : hop.id = source.hop.hopID
  parentID : hop.parentID = source.hop.parentID
  itemID : hop.itemID = source.hop.itemID
  orderID : hop.orderID = source.hop.orderID
  event : ∃ event, hopEvents erp source.hop = [event] ∧ hop.sourceEventID = event.eventID

/-- The shipment is the one of the batch. -/
def Ships (batch shipment : SourceHop) : Prop :=
  shipment.hop.kind = .shipment ∧ shipment.hop.tenantID = batch.hop.tenantID ∧
    shipment.hop.parentID = batch.hop.hopID

/-- A trace that shows the chain of a batch, each hop caused by the one before it. -/
structure BatchTraced (erp : Erp) (batch : SourceHop) (trace : BatchTrace) : Prop where
  tenantID : trace.tenantID = batch.hop.tenantID
  own : Traced erp batch trace.batch
  chain : ∃ lot ∈ erp.hops.rows, ∃ supplier ∈ erp.hops.rows,
    lot.hop.key = (.ingredientLot, batch.hop.tenantID, batch.hop.parentID) ∧
    supplier.hop.key = (.supplier, lot.hop.tenantID, lot.hop.parentID) ∧
    Traced erp lot trace.lot ∧ Traced erp supplier trace.supplier
  causes : trace.batch.causationID = some trace.lot.sourceEventID ∧
    trace.lot.causationID = some trace.supplier.sourceEventID ∧ trace.supplier.causationID = none
  dispatched : ∀ shipment ∈ erp.hops.rows, Ships batch shipment →
    Traced erp shipment trace.shipment ∧
      trace.shipment.causationID = some trace.batch.sourceEventID
  undispatched : (∀ shipment ∈ erp.hops.rows, ¬ Ships batch shipment) → trace.shipment = {}

/-- Two traces with no lot, supplier or shipment in common. -/
structure Unshared (first second : BatchTrace) : Prop where
  lot : first.lot.id ≠ second.lot.id
  supplier : first.supplier.id ≠ second.supplier.id
  shipment : first.shipment.id = second.shipment.id → first.shipment = {} ∧ second.shipment = {}

section Traces

variable {erp : Erp} {acked : Bytes → Prop} {log : Log} {platform : Platform}

theorem ShowsHop.traced {source : SourceHop} {event : OutboxRow} {line : LineageRow}
    (shows : ShowsHop erp source event line) : Traced erp source (lineageHop (some line)) := by
  refine ⟨?_, ?_, ?_, ?_, event, shows.events, shows.sourceEventID⟩ <;>
    simp [lineageHop, shows.hop]

/-- A join by the primary key. -/
theorem filter_of_find? {source : SourceHop} {kind : HopKind} {tenantID hopID : Bytes}
    {line : LineageRow} (sourceKey : source.hop.key = (kind, tenantID, hopID))
    (found : platform.lineage.find? source.key = some line) :
    (platform.lineage.rows.filter fun row => row.isIn kind tenantID && row.hop.hopID == hopID) =
      [line] := by
  rw [SourceHop.key, sourceKey] at found
  obtain ⟨member, key⟩ := Table.find?_eq_some_iff.mp found
  have columns : ∀ row : LineageRow, (row.isIn kind tenantID && row.hop.hopID == hopID) = true ↔
      row.key = (kind, tenantID, hopID) := by
    intro row
    simp [LineageRow.isIn, LineageRow.key, Hop.key, and_assoc]
  refine Table.filter_eq_singleton _ _ member ((columns line).mpr key)
    fun other listed matched => ?_
  exact platform.lineage.eq_of_key listed member (((columns other).mp matched).trans key.symm)

theorem leftJoin_of_single {rows : List LineageRow} {joins : LineageRow → Bool} {row : LineageRow}
    (single : rows.filter joins = [row]) : leftJoin rows joins = [some row] := by
  simp [leftJoin, single]

theorem leftJoin_of_none {rows : List LineageRow} {joins : LineageRow → Bool}
    (none : rows.filter joins = []) : leftJoin rows joins = [Option.none] := by
  simp [leftJoin, none]

/-- The row that a source row refers to. -/
theorem Source.Sourced.parent (sourced : Sourced erp) {source : SourceHop}
    (member : source ∈ erp.hops.rows) {kind : HopKind}
    (isParent : parentKind source.hop.kind = some kind) :
    ∃ parent ∈ erp.hops.rows,
      parent.hop.key = (kind, source.hop.tenantID, source.hop.parentID) := by
  have refers := sourced.refers source member
  simp only [refersTo, isParent, Bool.and_eq_true] at refers
  obtain ⟨parent, found⟩ := Option.isSome_iff_exists.mp refers.1
  exact ⟨parent, Table.find?_eq_some_iff.mp found⟩

/-- The shipment of a batch is the one row that the join finds. -/
theorem Source.Sourced.shipment_joins (sourced : Sourced erp)
    (follows : Follows (Published erp) log platform) {batch shipment : SourceHop}
    (member : shipment ∈ erp.hops.rows) (ships : Ships batch shipment) {line : LineageRow}
    (found : platform.lineage.find? shipment.key = some line) :
    (platform.lineage.rows.filter fun row => row.isIn .shipment batch.hop.tenantID &&
      row.hop.parentID == batch.hop.hopID) = [line] := by
  obtain ⟨kind, tenant, parent⟩ := ships
  obtain ⟨listed, key⟩ := Table.find?_eq_some_iff.mp found
  obtain ⟨source, ⟨sourceMember, sameHop⟩, -⟩ := sourced.hop_of_line follows listed
  obtain rfl := erp.hops.eq_of_key sourceMember member (by rw [SourceHop.key, sameHop]; exact key)
  refine Table.filter_eq_singleton _ _ listed ?_ fun other otherListed matched => ?_
  · simp [LineageRow.isIn, ← sameHop, kind, tenant, parent]
  · simp only [LineageRow.isIn, Bool.and_eq_true, beq_iff_eq] at matched
    obtain ⟨⟨otherKind, otherTenant⟩, otherParent⟩ := matched
    obtain ⟨rival, ⟨rivalMember, rivalHop⟩, -⟩ := sourced.hop_of_line follows otherListed
    have clashes : source.hop.clashes rival.hop = true := by
      refine (Hop.clashes_iff _ _).mpr (Or.inr (Or.inl ⟨?_, ?_⟩))
      · rw [rivalHop, otherKind]
        decide
      · rw [rivalHop, otherKind, otherTenant, otherParent, kind, tenant, parent]
    obtain rfl := sourced.apart source member rival rivalMember clashes
    refine platform.lineage.eq_of_key otherListed listed ?_
    rw [LineageRow.key, LineageRow.key, ← rivalHop, sameHop]

theorem Source.Sourced.no_shipment_joins (sourced : Sourced erp)
    (follows : Follows (Published erp) log platform) {batch : SourceHop}
    (undispatched : ∀ shipment ∈ erp.hops.rows, ¬ Ships batch shipment) :
    (platform.lineage.rows.filter fun row => row.isIn .shipment batch.hop.tenantID &&
      row.hop.parentID == batch.hop.hopID) = [] := by
  refine List.filter_eq_nil_iff.mpr fun line listed matched => ?_
  simp only [LineageRow.isIn, Bool.and_eq_true, beq_iff_eq] at matched
  obtain ⟨source, ⟨member, sameHop⟩, -⟩ := sourced.hop_of_line follows listed
  refine undispatched source member ⟨?_, ?_, ?_⟩
  · rw [sameHop, matched.1.1]
  · rw [sameHop, matched.1.2]
  · rw [sameHop, matched.2]

/-- The query finds the chain of a batch once the lineage events are acknowledged. -/
theorem Source.Sourced.traces {db : Database} (sourced : Sourced db.erp)
    (tracks : Tracks (Published db.erp) acked log db.platform)
    (all : ∀ row ∈ db.erp.outbox.rows, row.aggregateType ≠ aggregateTypeInventoryItem →
      acked row.eventID)
    {batch : SourceHop} (member : batch ∈ db.erp.hops.rows)
    (isBatch : batch.hop.kind = .productionBatch) {replies : List Reply}
    (served : Reply.lost ∉ replies) :
    ∃ trace, tracedBatch db batch.hop.tenantID batch.hop.hopID replies = .ok (trace, true) ∧
      BatchTraced db.erp batch trace := by
  have lotParent : parentKind batch.hop.kind = some .ingredientLot := by rw [isBatch]; rfl
  obtain ⟨lot, lotMember, lotKey⟩ := sourced.parent member lotParent
  have supplierParent : parentKind lot.hop.kind = some .supplier := by
    rw [(Prod.mk.inj lotKey).1]
    rfl
  obtain ⟨supplier, supplierMember, supplierKey⟩ := sourced.parent lotMember supplierParent
  obtain ⟨event, line, found, shows, canonical, stored, uuid⟩ :=
    sourced.showsHop tracks member all
  obtain ⟨lotEvent, lotLine, lotFound, lotShows, -⟩ := sourced.showsHop tracks lotMember all
  obtain ⟨supplierEvent, supplierLine, supplierFound, supplierShows, -⟩ :=
    sourced.showsHop tracks supplierMember all
  obtain ⟨lotKind, lotTenant, lotID⟩ : lot.hop.kind = .ingredientLot ∧
      lot.hop.tenantID = batch.hop.tenantID ∧ lot.hop.hopID = batch.hop.parentID := by
    simpa [Hop.key] using lotKey
  -- The first three tables contribute one row each.
  have batchKey : batch.hop.key = (.productionBatch, batch.hop.tenantID, batch.hop.hopID) := by
    rw [Hop.key, isBatch]
  have batchRows := filter_of_find? batchKey found
  have lotRows := leftJoin_of_single (filter_of_find? lotKey lotFound)
  have supplierRows := leftJoin_of_single (filter_of_find? supplierKey supplierFound)
  rw [lotTenant] at supplierRows
  have joined : ∀ shipment, (leftJoin db.platform.lineage.rows fun row =>
      row.isIn .shipment batch.hop.tenantID && row.hop.parentID == batch.hop.hopID) = [shipment] →
      traceRows db.platform batch.hop.tenantID batch.hop.hopID =
        [⟨line, some lotLine, some supplierLine, shipment⟩] := by
    intro shipment single
    simp only [traceRows, batchRows, List.flatMap_singleton, shows.hop, lotRows, Option.map_some,
      lotShows.hop, Option.some_beq_some, supplierRows, single, List.map_singleton]
  have traced := fun shipment single => tracedBatch_of_single (Strings.trimSpace_uuid uuid)
    (by rintro none; rw [none] at uuid; cases uuid)
    (Strings.trimSpace_of_spaceless canonical.spaceless) canonical.nonempty
    (storable_uuid _ uuid) stored (joined shipment single) served
  have chain : ∃ lot ∈ db.erp.hops.rows, ∃ supplier ∈ db.erp.hops.rows,
      lot.hop.key = (.ingredientLot, batch.hop.tenantID, batch.hop.parentID) ∧
      supplier.hop.key = (.supplier, lot.hop.tenantID, lot.hop.parentID) ∧
      Traced db.erp lot (lineageHop (some lotLine)) ∧
      Traced db.erp supplier (lineageHop (some supplierLine)) :=
    ⟨lot, lotMember, supplier, supplierMember, lotKey, supplierKey, lotShows.traced,
      supplierShows.traced⟩
  have causes : line.causationID = some lotLine.sourceEventID ∧
      lotLine.causationID = some supplierLine.sourceEventID ∧ supplierLine.causationID = none := by
    refine ⟨shows.causationID lotShows lotParent lotKey,
      lotShows.causationID supplierShows supplierParent supplierKey, ?_⟩
    have caused := supplierShows.caused
    rwa [Caused, (Prod.mk.inj supplierKey).1] at caused
  by_cases dispatched : ∃ shipment ∈ db.erp.hops.rows, Ships batch shipment
  · obtain ⟨shipment, shipmentMember, ships⟩ := dispatched
    obtain ⟨shipmentEvent, shipmentLine, shipmentFound, shipmentShows, -⟩ :=
      sourced.showsHop tracks shipmentMember all
    have single := leftJoin_of_single
      (sourced.shipment_joins tracks.follows shipmentMember ships shipmentFound)
    have cause : shipmentLine.causationID = some line.sourceEventID :=
      shipmentShows.causationID shows (by rw [ships.1]; rfl)
        (by rw [Hop.key, isBatch, ships.2.1, ships.2.2])
    refine ⟨_, traced _ single, rfl, shows.traced, chain, causes, ?_,
      fun none => absurd ships (none shipment shipmentMember)⟩
    intro other otherMember otherShips
    obtain rfl : other = shipment := by
      refine sourced.apart other otherMember shipment shipmentMember ((Hop.clashes_iff _ _).mpr
        (Or.inr (Or.inl ⟨by rw [ships.1]; decide, ?_⟩)))
      rw [ships.1, ships.2.1, ships.2.2, otherShips.1, otherShips.2.1, otherShips.2.2]
    exact ⟨shipmentShows.traced, cause⟩
  · have undispatched : ∀ shipment ∈ db.erp.hops.rows, ¬ Ships batch shipment :=
      fun shipment member ships => dispatched ⟨shipment, member, ships⟩
    have single := leftJoin_of_none (sourced.no_shipment_joins tracks.follows undispatched)
    exact ⟨_, traced _ single, rfl, shows.traced, chain, causes,
      fun shipment member ships => absurd ships (undispatched shipment member), fun _ => rfl⟩

theorem Source.Sourced.hopID_ne_nil (sourced : Sourced erp) {source : SourceHop}
    (member : source ∈ erp.hops.rows) : source.hop.hopID ≠ [] := by
  obtain ⟨row, listed, env, payload, canonical, records, described⟩ :=
    sourced.announced source member
  rw [(hopID_of_described records.valid described).2]
  exact records.canonicalID.nonempty

/-- Different batches have nothing in common, since a row has one row that refers to it. -/
theorem Source.Sourced.unshared (sourced : Sourced erp) {first second : SourceHop}
    (firstMember : first ∈ erp.hops.rows) (secondMember : second ∈ erp.hops.rows)
    (firstKind : first.hop.kind = .productionBatch)
    (secondKind : second.hop.kind = .productionBatch)
    (tenant : first.hop.tenantID = second.hop.tenantID)
    (different : first.hop.hopID ≠ second.hop.hopID) {firstTrace secondTrace : BatchTrace}
    (firstTraced : BatchTraced erp first firstTrace)
    (secondTraced : BatchTraced erp second secondTrace) : Unshared firstTrace secondTrace := by
  -- Two rows of one kind and tenant that refer to one row are one row.
  have child : ∀ one ∈ erp.hops.rows, ∀ other ∈ erp.hops.rows, one.hop.kind ≠ .supplier →
      one.hop.kind = other.hop.kind → one.hop.tenantID = other.hop.tenantID →
      one.hop.parentID = other.hop.parentID → one = other := by
    intro one oneMember other otherMember below kind tenant parent
    refine sourced.apart one oneMember other otherMember ((Hop.clashes_iff _ _).mpr
      (Or.inr (Or.inl ⟨kind ▸ below, ?_⟩)))
    rw [kind, tenant, parent]
  obtain ⟨lot, lotMember, supplier, supplierMember, lotKey, supplierKey, lotTraced,
    supplierTraced⟩ := firstTraced.chain
  obtain ⟨otherLot, otherLotMember, otherSupplier, otherSupplierMember, otherLotKey,
    otherSupplierKey, otherLotTraced, otherSupplierTraced⟩ := secondTraced.chain
  simp only [Hop.key, Prod.mk.injEq] at lotKey supplierKey otherLotKey otherSupplierKey
  have lots : firstTrace.lot.id ≠ secondTrace.lot.id := by
    intro same
    rw [lotTraced.id, otherLotTraced.id, lotKey.2.2, otherLotKey.2.2] at same
    refine different (congrArg (fun source => source.hop.hopID) (child first firstMember second
      secondMember ?_ (firstKind.trans secondKind.symm) tenant same))
    rw [firstKind]
    decide
  refine ⟨lots, fun same => lots ?_, fun same => ?_⟩
  · rw [supplierTraced.id, otherSupplierTraced.id, supplierKey.2.2, otherSupplierKey.2.2] at same
    have sameLot := child lot lotMember otherLot otherLotMember (by rw [lotKey.1]; decide)
      (lotKey.1.trans otherLotKey.1.symm)
      (lotKey.2.1.trans (tenant.trans otherLotKey.2.1.symm)) same
    rw [lotTraced.id, otherLotTraced.id, sameLot]
  · by_cases shipped : ∃ shipment ∈ erp.hops.rows, Ships first shipment
    · obtain ⟨shipment, member, ships⟩ := shipped
      have id := (firstTraced.dispatched shipment member ships).1.id
      by_cases otherShipped : ∃ shipment ∈ erp.hops.rows, Ships second shipment
      · obtain ⟨other, otherMember, otherShips⟩ := otherShipped
        have otherID := (secondTraced.dispatched other otherMember otherShips).1.id
        have sameRow : shipment = other := by
          refine erp.hops.eq_of_key member otherMember ?_
          simp only [SourceHop.key, Hop.key, Prod.mk.injEq]
          exact ⟨ships.1.trans otherShips.1.symm,
            ships.2.1.trans (tenant.trans otherShips.2.1.symm), by rw [← id, same, otherID]⟩
        rw [sameRow] at ships
        exact absurd (ships.2.2.symm.trans otherShips.2.2) different
      · have empty := secondTraced.undispatched fun other otherMember ships =>
          otherShipped ⟨other, otherMember, ships⟩
        rw [id, empty] at same
        exact absurd same (sourced.hopID_ne_nil member)
    · have empty := firstTraced.undispatched fun shipment member ships =>
        shipped ⟨shipment, member, ships⟩
      refine ⟨empty, secondTraced.undispatched fun other otherMember ships => ?_⟩
      have id := (secondTraced.dispatched other otherMember ships).1.id
      rw [empty, id] at same
      exact sourced.hopID_ne_nil otherMember same.symm

end Traces

/-- Once a call has acknowledged each lineage event of the outbox, whatever else has happened,
the trace of every batch of the source is the chain of the source, and two batches of a
tenant have nothing in common. -/
theorem batches_traced {Index : Type} [Fintype Index] [DecidableEq Index]
    (commands : Index → Command) (moves : List (World.Move Index)) (db : Database)
    (reached : ((World.start commands).run moves).db = db)
    (all : ∀ row ∈ db.erp.outbox.rows, row.aggregateType ≠ aggregateTypeInventoryItem →
      row.eventID ∈ ((World.start commands).run moves).acked) :
    (∀ batch ∈ db.erp.hops.rows, batch.hop.kind = .productionBatch →
      ∀ replies, Reply.lost ∉ replies → ∃ trace,
        tracedBatch db batch.hop.tenantID batch.hop.hopID replies = .ok (trace, true) ∧
        BatchTraced db.erp batch trace) ∧
    ∀ first ∈ db.erp.hops.rows, ∀ second ∈ db.erp.hops.rows,
      first.hop.kind = .productionBatch → second.hop.kind = .productionBatch →
      first.hop.tenantID = second.hop.tenantID → first.hop.hopID ≠ second.hop.hopID →
      ∀ replies, Reply.lost ∉ replies → ∀ firstTrace secondTrace,
        tracedBatch db first.hop.tenantID first.hop.hopID replies = .ok (firstTrace, true) →
        tracedBatch db second.hop.tenantID second.hop.hopID replies = .ok (secondTrace, true) →
        Unshared firstTrace secondTrace := by
  subst reached
  have sound := World.run_sound commands moves
  obtain ⟨log, tracks⟩ := sound.tracks
  have sourced := sound.source.sourced
  refine ⟨fun batch member isBatch replies served =>
    sourced.traces tracks all member isBatch served, ?_⟩
  intro first firstMember second secondMember firstKind secondKind tenant different replies served
    firstTrace secondTrace firstReturned secondReturned
  obtain ⟨trace, returned, traced⟩ := sourced.traces tracks all firstMember firstKind served
  obtain ⟨otherTrace, otherReturned, otherTraced⟩ :=
    sourced.traces tracks all secondMember secondKind served
  obtain ⟨rfl, -⟩ := Prod.mk.inj (Except.ok.inj (returned.symm.trans firstReturned))
  obtain ⟨rfl, -⟩ := Prod.mk.inj (Except.ok.inj (otherReturned.symm.trans secondReturned))
  exact sourced.unshared firstMember secondMember firstKind secondKind tenant different traced
    otherTraced

/-! ### A sample chain -/

def chainContext (eventID : Bytes) (causationID : Option Bytes) : Context where
  eventID := eventID
  tenantID := sampleTenant
  occurredAt := ascii "2026-01-02T03:04:05Z"
  recordedAt := ascii "2026-01-02T03:04:05Z"
  correlationID := ascii "11111111-1111-4111-8111-111111111111"
  causationID := causationID
  traceID := ascii "trace"

/-- A supplier, a lot of it, and a batch of the lot. -/
def chainCommands : Fin 3 → Command
  | 0 => .registerSupplier { chainContext sampleEvent none with supplierID := ascii "s" }
  | 1 => .receiveIngredientLot { chainContext secondEvent (some sampleEvent) with
      lotID := ascii "l", supplierID := ascii "s", itemID := sampleItem }
  | 2 => .produceProductionBatch { chainContext thirdEvent (some secondEvent) with
      batchID := ascii "b", lotID := ascii "l" }

/-- The moves of the source in the chain. -/
def chainSource : List (World.Move (Fin 3)) :=
  [.source (.seed sampleTenant sampleItem 1)] ++
    (List.replicate 4 0 ++ List.replicate 7 1 ++ List.replicate 6 2 : List (Fin 3)).map
      (fun index : Fin 3 => .source (.advance index (.served 0)))

theorem chainSource_run :
    (∃ batch ∈ ((World.start chainCommands).run chainSource).db.erp.hops.rows,
      batch.hop.kind = .productionBatch) ∧
    ((World.start chainCommands).run chainSource).db.erp.outbox.rows.length < 4 ∧
    ∀ row ∈ ((World.start chainCommands).run chainSource).db.erp.outbox.rows,
      row.eventID ∈ [thirdEvent, secondEvent, sampleEvent] := by
  rw [World.start_eq]
  decide +kernel

/-- The three events are delivered with the last one first. -/
def chainMoves : List (World.Move (Fin 3)) :=
  chainSource ++ World.pass 4 [thirdEvent, secondEvent, sampleEvent]

/-- The batch is produced, and every event of the chain is acknowledged. -/
theorem chain_run : (∃ batch ∈ ((World.start chainCommands).run chainMoves).db.erp.hops.rows,
      batch.hop.kind = .productionBatch) ∧
    ∀ row ∈ ((World.start chainCommands).run chainMoves).db.erp.outbox.rows,
      row.aggregateType ≠ aggregateTypeInventoryItem →
      row.eventID ∈ ((World.start chainCommands).run chainMoves).acked := by
  obtain ⟨produced, few, published⟩ := chainSource_run
  obtain ⟨erp, acked⟩ := (World.run_sound chainCommands chainSource).passed _ few published
  rw [chainMoves, World.run_append]
  rw [← erp] at produced
  exact ⟨produced, fun row member _ => acked row member⟩

theorem batches_traced_sample :
    (∃ batch ∈ ((World.start chainCommands).run chainMoves).db.erp.hops.rows,
      batch.hop.kind = .productionBatch) ∧
    ∀ batch ∈ ((World.start chainCommands).run chainMoves).db.erp.hops.rows,
      batch.hop.kind = .productionBatch → ∀ replies, Reply.lost ∉ replies → ∃ trace,
        tracedBatch ((World.start chainCommands).run chainMoves).db batch.hop.tenantID
          batch.hop.hopID replies = .ok (trace, true) ∧
        BatchTraced ((World.start chainCommands).run chainMoves).db.erp batch trace :=
  ⟨chain_run.1, (batches_traced chainCommands chainMoves _ rfl chain_run.2).1⟩

end SeshatOps
