/-
This file models the two builders of the forecasts: `BuildDataset`, which turns a history of
daily quantities into labelled examples, and `BuildFeatureSnapshot`, which turns the same
history into rows of features.

Both index the observations of a tenant by item and day, refuse a series with a gap, and
keep the days that have a week behind them, the first 105 of them over all items. Days are
texts here as they are in the source. Go decides in which order a map is ranged over; every
such loop has an order of its own.
-/

import Mathlib.Algebra.Order.Ring.Rat
import SeshatOps.DateText
import SeshatOps.ForecastSource

namespace SeshatOps

open Relational

namespace Forecast

/-! ### Errors -/

/-- An argument of a message. -/
inductive Argument
  | text (value : Bytes)
  | number (value : Int)
  | score (value : ℚ)
  deriving DecidableEq

/-- `forecast: invalid input: ..`, with the format and the arguments of the rest. -/
structure Invalid where
  format : String
  arguments : List Argument
  deriving DecidableEq

def wrapInvalid {Result : Type} (format : String) (arguments : List Argument) :
    Except Invalid Result := .error ⟨format, arguments⟩

/-! ### Ranging over maps -/

/-- The entries of a map, in the order in which they are visited. -/
def Ranging.entries {Row Key : Type} [DecidableEq Key] {key : Row → Key} (ranging : Ranging Key)
    (table : Table key) : List Row :=
  (ranging.visit (table.rows.map key)).filterMap table.find?

/-! ### Constants -/

def protocolID : Bytes := ascii "m4-stockout-eval-v1"

def horizonDays : Nat := 7

def splitTrain : Bytes := ascii "train"

def splitValidation : Bytes := ascii "validation"

def splitTest : Bytes := ascii "test"

def trainDayCount : Nat := 70

def validationDayCount : Nat := 14

def testDayCount : Nat := 21

/-! ### Days -/

/-- An entry of the map of an item's days. -/
structure Day where
  date : Bytes
  quantity : Int
  deriving DecidableEq

/-- A tenant and an item. -/
abbrev SeriesKey := Bytes × Bytes

/-- An entry of the map of series. -/
structure Series where
  key : SeriesKey
  days : Table Day.date

/-- `addDays`. -/
def addDays (asOf : Bytes) (days : Int) : Option Bytes :=
  (Calendar.parseDate asOf).map fun date => (date.plus days).format

/-- The orders of the loops over maps, one for each loop of the builders. -/
structure Ranges where
  dense : Ranging SeriesKey
  denseDates : SeriesKey → Ranging Bytes
  labelable : Ranging SeriesKey
  labelableDates : SeriesKey → Ranging Bytes
  seen : Ranging Bytes
  build : Ranging SeriesKey
  buildDates : SeriesKey → Ranging Bytes
  hash : SeriesKey → Bytes → Ranging Bytes

/-- `sort.Strings`. -/
def sortStrings (texts : List Bytes) : List Bytes := sortRows (fun text => [text]) texts

def sortedDates (ranging : Ranging Bytes) (days : Table Day.date) : List Bytes :=
  sortStrings (ranging.visit (days.rows.map Day.date))

/-! ### Indexing the observations -/

/-- The loop of `indexObservations` over the observations. -/
def indexObservation (tenantID : Bytes) (series : Table Series.key) (observation : Observation) :
    Except Invalid (Table Series.key) :=
  let tenant := Strings.toLower (Strings.trimSpace observation.tenantID)
  let item := Strings.toLower (Strings.trimSpace observation.itemID)
  if tenant ≠ tenantID then .ok series
  else if item = [] then wrapInvalid "empty item_id" []
  else if observation.quantityOnHand < 0 then
    wrapInvalid "negative quantity for %s %s" [.text item, .text observation.asOfDate]
  else
    match Calendar.parseDate observation.asOfDate with
    | none => wrapInvalid "as_of_date %q" [.text observation.asOfDate]
    | some day =>
        let date := day.format
        if date ≠ observation.asOfDate then
          wrapInvalid "as_of_date %q" [.text observation.asOfDate]
        else
          let days := ((series.find? (tenant, item)).map Series.days).getD .empty
          if (days.find? date).isSome then
            wrapInvalid "duplicate observation %s %s %s" [.text tenant, .text item, .text date]
          else .ok (series.store ⟨(tenant, item), days.store ⟨date, observation.quantityOnHand⟩⟩)

/-- `int(end.Sub(start).Hours()/24)`: a duration has no more than 106751 whole days. -/
def daysBetween (start stop : Calendar.Date) : Int := min (stop.ordinal - start.ordinal) 106751

/-- The check of `requireDense` that the dates follow one another. -/
def followsDaily (start : Calendar.Date) (dates : List Bytes) : Bool :=
  dates.zipIdx.all fun (date, place) => date == (start.plus place).format

def requireDense (ranging : Ranging Bytes) (series : Series) : Except Invalid Unit :=
  let names := [Argument.text series.key.1, .text series.key.2]
  match sortedDates ranging series.days with
  | [] => wrapInvalid "empty series %s %s" names
  | first :: rest =>
      match Calendar.parseDate first with
      | none => wrapInvalid "as_of_date %q" [.text first]
      | some start =>
          let last := (first :: rest).getLast (List.cons_ne_nil first rest)
          match Calendar.parseDate last with
          | none => wrapInvalid "as_of_date %q" [.text last]
          | some stop =>
              if daysBetween start stop + 1 ≠ (first :: rest).length then
                wrapInvalid "calendar gap in %s %s" names
              else if !followsDaily start (first :: rest) then
                wrapInvalid "calendar gap in %s %s" names
              else .ok ()

def indexObservations (ranges : Ranges) (observations : List Observation) (tenantID : Bytes) :
    Except Invalid (Table Series.key) := do
  let series ← observations.foldlM (indexObservation tenantID) .empty
  (ranges.dense.entries series).forM fun entry => requireDense (ranges.denseDates entry.key) entry
  return series

/-! ### Splits -/

/-- The loop of `uniqueLabelableDates` over the days of an item. -/
def labelableIn (days : Table Day.date) : List Bytes → Except Invalid (List Bytes)
  | [] => .ok []
  | asOf :: rest =>
      match addDays asOf horizonDays with
      | none => wrapInvalid "as_of_date %s" [.text asOf]
      | some stop => do
          let others ← labelableIn days rest
          return if (days.find? stop).isSome then asOf :: others else others

def uniqueLabelableDates (ranges : Ranges) (series : Table Series.key) :
    Except Invalid (List Bytes) := do
  let found ← (ranges.labelable.entries series).mapM fun entry =>
    labelableIn entry.days
      ((ranges.labelableDates entry.key).visit (entry.days.rows.map Day.date))
  return sortStrings (ranges.seen.visit found.flatten)

/-- The split of a date by its number among the dates, the first one being 1. -/
def splitOf (number : Nat) : Option Bytes :=
  if number ≤ trainDayCount then some splitTrain
  else if number ≤ trainDayCount + validationDayCount then some splitValidation
  else if number ≤ trainDayCount + validationDayCount + testDayCount then some splitTest
  else none

/-- An entry of a map from dates to splits. -/
structure DateSplit where
  date : Bytes
  split : Bytes
  deriving DecidableEq

def assignSplits (dates : List Bytes) : Table DateSplit.date :=
  Table.empty.storeAll (dates.zipIdx.filterMap fun (date, place) =>
    (splitOf (place + 1)).map fun split => ⟨date, split⟩)

/-! ### Labels and hashes -/

/-- The loop of `labelAt` over the days ahead. -/
def labelWithin (days : Table Day.date) (asOf : Bytes) : List Nat → Except Invalid Int
  | [] => .ok 0
  | ahead :: rest =>
      match addDays asOf ahead with
      | none => wrapInvalid "as_of_date %s" [.text asOf]
      | some day =>
          match days.find? day with
          | none => wrapInvalid "missing label-window observation %s" [.text day]
          | some found => if found.quantity = 0 then .ok 1 else labelWithin days asOf rest

def labelAt (days : Table Day.date) (asOf : Bytes) : Except Invalid Int :=
  labelWithin days asOf (List.range' 1 horizonDays)

/-- The text of the days up to a cutoff. -/
def historyText (ranging : Ranging Bytes) (days : Table Day.date) (cutoff : Bytes) : Bytes :=
  (sortStrings ((ranging.visit (days.rows.map Day.date)).filter fun date =>
    !Strings.less cutoff date)).flatMap fun date =>
      checksumLine [date, Json.formatInt (((days.find? date).map Day.quantity).getD 0)]

def historyHash (ranging : Ranging Bytes) (days : Table Day.date) (cutoff : Bytes) : Bytes :=
  digest (historyText ranging days cutoff)

def rowID (tenantID itemID asOfDate : Bytes) : Bytes :=
  digest (checksumLine [protocolID, tenantID, itemID, asOfDate])

/-! ### The dataset -/

structure Example where
  rowID : Bytes
  tenantID : Bytes
  itemID : Bytes
  asOfDate : Bytes
  label : Int
  split : Bytes
  sourceCutoffDate : Bytes
  historyHash : Bytes
  protocolID : Bytes
  deriving DecidableEq

structure Dataset where
  protocolID : Bytes
  tenantID : Bytes
  examples : List Example
  deriving DecidableEq

/-- The columns of `exampleLess`. -/
def Example.columns (row : Example) : List Bytes := [row.tenantID, row.itemID, row.asOfDate]

/-- The loop of `BuildDataset` over the dates of a series. -/
def examplesOf (ranges : Ranges) (splits : Table DateSplit.date) (series : Series) :
    List Bytes → Except Invalid (List Example)
  | [] => .ok []
  | asOf :: rest =>
      match addDays asOf horizonDays with
      | none => wrapInvalid "as_of_date %s" [.text asOf]
      | some stop =>
          if (series.days.find? stop).isNone then examplesOf ranges splits series rest
          else do
            let label ← labelAt series.days asOf
            match splits.find? asOf with
            | none => examplesOf ranges splits series rest
            | some entry =>
                let others ← examplesOf ranges splits series rest
                return {
                  rowID := rowID series.key.1 series.key.2 asOf
                  tenantID := series.key.1
                  itemID := series.key.2
                  asOfDate := asOf
                  label := label
                  split := entry.split
                  sourceCutoffDate := asOf
                  historyHash := historyHash (ranges.hash series.key asOf) series.days asOf
                  protocolID := protocolID } :: others

def buildDataset (ranges : Ranges) (history : List Observation) (tenantID : Bytes) :
    Except Invalid Dataset :=
  let tenantID := Strings.toLower (Strings.trimSpace tenantID)
  if tenantID = [] then wrapInvalid "empty tenant" []
  else do
    let series ← indexObservations ranges history tenantID
    if series.rows = [] then wrapInvalid "no observations for tenant %s" [.text tenantID]
    else do
      let splits := assignSplits (← uniqueLabelableDates ranges series)
      let found ← (ranges.build.entries series).mapM fun entry =>
        examplesOf ranges splits entry (sortedDates (ranges.buildDates entry.key) entry.days)
      return {
        protocolID := protocolID
        tenantID := tenantID
        examples := sortRows Example.columns found.flatten }

/-- `Checksum`. -/
def datasetChecksum (dataset : Dataset) : Bytes :=
  digest ((sortRows (fun row : Example =>
    [Strings.toLower row.tenantID, Strings.toLower row.itemID, row.asOfDate])
      dataset.examples).flatMap fun row => checksumLine [
        Strings.toLower row.rowID, Strings.toLower row.tenantID, Strings.toLower row.itemID,
        row.asOfDate, Json.formatInt row.label, Strings.toLower row.split, row.sourceCutoffDate,
        Strings.toLower row.historyHash])

/-! ### The feature snapshot -/

def featureDefinitionVersion : Bytes := ascii "m4-raw-onhand-v1"

def snapshotContractVersion : Int := 1

def snapshotStatusComplete : Bytes := ascii "complete"

def snapshotStatusInsufficient : Bytes := ascii "insufficient"

structure FeatureRow where
  rowID : Bytes
  tenantID : Bytes
  itemID : Bytes
  asOfDate : Bytes
  sourceCutoffDate : Bytes
  split : Bytes
  quantityOnHand : Int
  historyHash : Bytes
  deriving DecidableEq

structure FeatureSnapshot where
  contractVersion : Int
  status : Bytes
  tenantID : Bytes
  datasetVersion : Bytes
  featureDefinitionVersion : Bytes
  sourceBoundary : SourceBoundary
  snapshotID : Bytes := []
  checksum : Bytes := []
  rows : List FeatureRow
  statusReasons : List Bytes := []
  deriving DecidableEq

/-- The columns of `featureRowLess`. -/
def FeatureRow.columns (row : FeatureRow) : List Bytes := [row.tenantID, row.itemID, row.asOfDate]

/-- `featureTenantUUIDv4`. -/
def featureTenantUUIDv4 (tenantID : Bytes) : Bool :=
  tenantID.length == 36 && tenantID.zipIdx.all fun (byte, place) =>
    if place = 8 ∨ place = 13 ∨ place = 18 ∨ place = 23 then byte == 0x2D
    else if place = 14 then byte == 0x34
    else if place = 19 then byte == 0x38 || byte == 0x39 || byte == 0x61 || byte == 0x62
    else (0x30 ≤ byte && byte ≤ 0x39) || (0x61 ≤ byte && byte ≤ 0x66)

def normalizeBoundary (boundary : SourceBoundary) : SourceBoundary where
  historyChecksum := Strings.toLower (Strings.trimSpace boundary.historyChecksum)
  projectionChecksum := Strings.toLower (Strings.trimSpace boundary.projectionChecksum)
  maxRecordedAt := Strings.trimSpace boundary.maxRecordedAt
  sourceCutoffDate := Strings.trimSpace boundary.sourceCutoffDate
  appliedEventCount := if boundary.appliedEventCount < 0 then 0 else boundary.appliedEventCount

-- The two loops below look texts up in a list.
local instance bytesLawful : LawfulBEq Bytes := inferInstance

/-- The loop of `validateFeatureObservations`, with the keys seen so far. -/
def validateFeatureObservation (seen : List Bytes) (observation : Observation) :
    Except Invalid (List Bytes) :=
  let tenant := Strings.toLower (Strings.trimSpace observation.tenantID)
  let item := Strings.toLower (Strings.trimSpace observation.itemID)
  if tenant = [] then wrapInvalid "empty observation tenant" []
  else if !featureTenantUUIDv4 tenant then
    wrapInvalid "malformed observation tenant %s" [.text tenant]
  else if item = [] then wrapInvalid "empty item_id" []
  else if observation.quantityOnHand < 0 then
    wrapInvalid "negative quantity for %s %s" [.text item, .text observation.asOfDate]
  else
    match Calendar.parseDate observation.asOfDate with
    | none => wrapInvalid "as_of_date %q" [.text observation.asOfDate]
    | some day =>
        let key := tenant ++ [0x09] ++ item ++ [0x09] ++ day.format
        if key ∈ seen then
          wrapInvalid "duplicate observation %s %s %s" [.text tenant, .text item, .text day.format]
        else .ok (key :: seen)

def validateFeatureObservations (observations : List Observation) : Except Invalid Unit := do
  let _ ← observations.foldlM validateFeatureObservation []
  return ()

/-- The loop of `cleanReasons`. -/
def keepReason (kept : List Bytes) (reason : Bytes) : List Bytes :=
  let reason := Strings.trimSpace reason
  if reason = [] then kept else if reason ∈ kept then kept else kept ++ [reason]

def cleanReasons (reasons : List Bytes) : List Bytes := sortStrings (reasons.foldl keepReason [])

/-- The fields that the checksum and the identity of a snapshot share. -/
def boundaryFields (snapshot : FeatureSnapshot) : List Bytes :=
  [Strings.toLower snapshot.tenantID, Strings.toLower snapshot.datasetVersion,
    Strings.toLower snapshot.featureDefinitionVersion,
    Strings.toLower snapshot.sourceBoundary.historyChecksum,
    Strings.toLower snapshot.sourceBoundary.projectionChecksum,
    snapshot.sourceBoundary.maxRecordedAt, snapshot.sourceBoundary.sourceCutoffDate,
    Json.formatInt snapshot.sourceBoundary.appliedEventCount]

def featureChecksum (snapshot : FeatureSnapshot) : Bytes :=
  digest (checksumLine (Json.formatInt snapshot.contractVersion ::
      Strings.toLower snapshot.status :: boundaryFields snapshot) ++
    ((sortRows FeatureRow.columns snapshot.rows).flatMap fun row => checksumLine [
      Strings.toLower row.rowID, Strings.toLower row.tenantID, Strings.toLower row.itemID,
      row.asOfDate, row.sourceCutoffDate, Strings.toLower row.split,
      Json.formatInt row.quantityOnHand, Strings.toLower row.historyHash]) ++
    (cleanReasons snapshot.statusReasons).flatMap fun reason =>
      checksumLine [ascii "reason", reason])

def snapshotIdentity (snapshot : FeatureSnapshot) : Bytes :=
  digest (checksumLine (Json.formatInt snapshot.contractVersion ::
    (boundaryFields snapshot ++ [snapshot.checksum])))

def finalizeFeatureSnapshot (snapshot : FeatureSnapshot) : FeatureSnapshot :=
  let cleaned := { snapshot with
    sourceBoundary := normalizeBoundary snapshot.sourceBoundary
    statusReasons := cleanReasons snapshot.statusReasons }
  let summed := { cleaned with checksum := featureChecksum cleaned }
  { summed with snapshotID := snapshotIdentity summed }

/-- The loop of `BuildFeatureSnapshot` over the dates of a series. -/
def featureRowsOf (ranges : Ranges) (splits : Table DateSplit.date) (series : Series) :
    List Bytes → Except Invalid (List FeatureRow)
  | [] => .ok []
  | asOf :: rest =>
      match splits.find? asOf with
      | none => featureRowsOf ranges splits series rest
      | some entry =>
          match addDays asOf horizonDays with
          | none => wrapInvalid "as_of_date %s" [.text asOf]
          | some stop =>
              if (series.days.find? stop).isNone then featureRowsOf ranges splits series rest
              else do
                let others ← featureRowsOf ranges splits series rest
                return {
                  rowID := rowID series.key.1 series.key.2 asOf
                  tenantID := series.key.1
                  itemID := series.key.2
                  asOfDate := asOf
                  sourceCutoffDate := asOf
                  split := entry.split
                  quantityOnHand := ((series.days.find? asOf).map Day.quantity).getD 0
                  historyHash := historyHash (ranges.hash series.key asOf) series.days asOf } ::
                    others

/-- The observations that a declared cutoff leaves. -/
def declaredObservations (history : List Observation) (boundary : SourceBoundary) :
    Except Invalid (List Observation) :=
  if boundary.sourceCutoffDate = [] then .ok history
  else
    match Calendar.parseDate boundary.sourceCutoffDate with
    | none => wrapInvalid "as_of_date %q" [.text boundary.sourceCutoffDate]
    | some _ => .ok (history.filter fun observation =>
        !Strings.less boundary.sourceCutoffDate observation.asOfDate)

def buildFeatureSnapshot (ranges : Ranges) (history : List Observation) (tenantID : Bytes)
    (boundary : SourceBoundary) : Except Invalid FeatureSnapshot :=
  let tenantID := Strings.toLower (Strings.trimSpace tenantID)
  if tenantID = [] then wrapInvalid "empty tenant" []
  else if !featureTenantUUIDv4 tenantID then wrapInvalid "malformed tenant %s" [.text tenantID]
  else do
    validateFeatureObservations history
    let boundary := normalizeBoundary boundary
    let declared ← declaredObservations history boundary
    let series ← indexObservations ranges declared tenantID
    if series.rows = [] then wrapInvalid "no observations for tenant %s" [.text tenantID]
    else do
      let splits := assignSplits (← uniqueLabelableDates ranges series)
      let entries := sortRows (fun entry : Series => [entry.key.1, entry.key.2])
        (ranges.build.entries series)
      let found ← entries.mapM fun entry =>
        featureRowsOf ranges splits entry (sortedDates (ranges.buildDates entry.key) entry.days)
      return finalizeFeatureSnapshot {
        contractVersion := snapshotContractVersion
        status := if found.flatten = [] then snapshotStatusInsufficient
          else snapshotStatusComplete
        tenantID := tenantID
        datasetVersion := protocolID
        featureDefinitionVersion := featureDefinitionVersion
        sourceBoundary := boundary
        rows := found.flatten
        statusReasons := if found.flatten = [] then
          [ascii "no labelable protocol observations"] else [] }

end Forecast

end SeshatOps
