/-
This file says what the checksums of a tenant tell about its tables.

A checksum is the digest of a text with one line for each row. The fields of a row are
separated by tabs and nothing is escaped, so the text determines the rows only because no
field holds a tab or a newline. Identifiers of the contract have no whitespace, and the
platform stores no other. The rows are sorted by their key before they are written,
which makes the text independent of the order in which the server returns them.
-/

import SeshatOps.History
import SeshatOps.Identifiers
import SeshatOps.SortedReads

namespace SeshatOps

open Relational Event

/-! ### Lines -/

/-- A text without tab and newline. -/
structure Unbroken (text : Bytes) : Prop where
  tabless : 0x09 ∉ text
  oneLine : 0x0A ∉ text

/-- Fields that can be told apart once they stand in a line. -/
structure Separable (fields : List Bytes) : Prop where
  nonempty : fields ≠ []
  unbroken : ∀ field ∈ fields, Unbroken field

theorem mem_intercalate {byte separator : UInt8} {fields : List Bytes}
    (member : byte ∈ [separator].intercalate fields) :
    byte = separator ∨ ∃ field ∈ fields, byte ∈ field := by
  induction fields with
  | nil => cases member
  | cons field rest hypothesis =>
    cases rest with
    | nil => exact Or.inr ⟨field, List.mem_cons_self, by simpa using member⟩
    | cons next others =>
      rw [List.intercalate_cons_cons, List.mem_append, List.mem_append] at member
      rcases member with (own | single) | later
      · exact Or.inr ⟨field, List.mem_cons_self, own⟩
      · exact Or.inl (List.mem_singleton.mp single)
      · rcases hypothesis later with separates | ⟨other, listed, own⟩
        · exact Or.inl separates
        · exact Or.inr ⟨other, List.mem_cons_of_mem field listed, own⟩

/-- Lines that each end in a newline are what newlines separate, with nothing behind the last. -/
theorem flatMap_checksumLine (lines : List (List Bytes)) :
    lines.flatMap checksumLine = [0x0A].intercalate (lines.map [0x09].intercalate ++ [[]]) := by
  induction lines with
  | nil => rfl
  | cons fields rest hypothesis =>
    rw [List.flatMap_cons, hypothesis, List.map_cons, List.cons_append, checksumLine]
    cases rest with
    | nil => rw [List.map_nil, List.nil_append, List.intercalate_cons_cons]
    | cons next others => rw [List.map_cons, List.cons_append, List.intercalate_cons_cons]

/-- A text of separable lines determines the lines. -/
theorem lines_injective {first second : List (List Bytes)}
    (separable : ∀ fields ∈ first, Separable fields)
    (otherSeparable : ∀ fields ∈ second, Separable fields)
    (same : first.flatMap checksumLine = second.flatMap checksumLine) : first = second := by
  have split : ∀ lines : List (List Bytes), (∀ fields ∈ lines, Separable fields) →
      (lines.flatMap checksumLine).splitOn 0x0A = lines.map [0x09].intercalate ++ [[]] := by
    intro lines fit
    rw [flatMap_checksumLine]
    refine List.splitOn_intercalate _ (fun line listed => ?_) (by simp)
    rcases List.mem_append.mp listed with listed | last
    · obtain ⟨fields, member, rfl⟩ := List.mem_map.mp listed
      intro newline
      rcases mem_intercalate newline with tab | ⟨field, inside, own⟩
      · cases tab
      · exact ((fit fields member).unbroken field inside).oneLine own
    · rw [List.mem_singleton.mp last]
      exact List.not_mem_nil
  have fields : ∀ lines : List (List Bytes), (∀ fields ∈ lines, Separable fields) →
      (lines.map [0x09].intercalate).map (List.splitOn 0x09) = lines := by
    intro lines fit
    rw [List.map_map]
    refine (List.map_congr_left fun line member => ?_).trans (List.map_id lines)
    refine List.splitOn_intercalate _ (fun field inside => ?_) (fit line member).nonempty
    exact ((fit line member).unbroken field inside).tabless
  have bodies : first.map [0x09].intercalate = second.map [0x09].intercalate := by
    have both := congrArg (List.splitOn 0x0A) same
    rw [split first separable, split second otherSeparable] at both
    exact List.append_cancel_right both
  rw [← fields first separable, bodies, fields second otherSeparable]

/-! ### Sorted lines -/

/-- The first fields of a line, by which lines are sorted. -/
def leading (count : Nat) (fields : List Bytes) : List Bytes :=
  (List.range count).map fun place => fields.getD place []

/-- Lines sorted by their first fields, as a text. -/
def linesText (count : Nat) (lines : List (List Bytes)) : Bytes :=
  (sortRows (leading count) lines).flatMap checksumLine

theorem leading_length (count : Nat) (fields : List Bytes) :
    (leading count fields).length = count := by
  rw [leading, List.length_map, List.length_range]

/-- Lines of a text: separable, and told apart by their first fields. -/
structure Listed (count : Nat) (lines : List (List Bytes)) : Prop where
  separable : ∀ fields ∈ lines, Separable fields
  distinct : lines.Nodup
  untied : ∀ fields ∈ lines, ∀ others ∈ lines,
    leading count fields = leading count others → fields = others

/-- The lines of rows that are told apart by their keys and by what their lines begin with. -/
theorem listed_map {Row Key : Type} {key : Row → Key} {count : Nat} {line : Row → List Bytes}
    {rows : List Row} (distinct : (rows.map key).Nodup)
    (separable : ∀ row ∈ rows, Separable (line row))
    (keyed : ∀ row ∈ rows, ∀ other ∈ rows, leading count (line row) = leading count (line other) →
      key row = key other) : Listed count (rows.map line) := by
  have apart : ∀ row ∈ rows, ∀ other ∈ rows, leading count (line row) = leading count (line other) →
      row = other := fun row member other otherMember same =>
    List.inj_on_of_nodup_map distinct member otherMember (keyed row member other otherMember same)
  refine ⟨List.forall_mem_map.mpr separable, ?_, ?_⟩
  · refine List.Nodup.map_on (fun row member other otherMember same => ?_) (distinct.of_map _)
    exact apart row member other otherMember (congrArg (leading count) same)
  · simp only [List.forall_mem_map]
    exact fun row member other otherMember same =>
      congrArg line (apart row member other otherMember same)

/-- Lines have the same text when they are the same, in whatever order. -/
theorem linesText_eq_iff {count : Nat} {first second : List (List Bytes)}
    (listed : Listed count first) (otherListed : Listed count second) :
    linesText count first = linesText count second ↔
      ∀ fields, fields ∈ first ↔ fields ∈ second := by
  constructor
  · intro same fields
    have sorted : sortRows (leading count) first = sortRows (leading count) second := by
      refine lines_injective (fun line member => ?_) (fun line member => ?_) same
      · exact listed.separable line ((List.mem_insertionSort _).mp member)
      · exact otherListed.separable line ((List.mem_insertionSort _).mp member)
    have firstMember : fields ∈ sortRows (leading count) first ↔ fields ∈ first :=
      List.mem_insertionSort _
    have secondMember : fields ∈ sortRows (leading count) second ↔ fields ∈ second :=
      List.mem_insertionSort _
    rw [← firstMember, sorted, secondMember]
  · intro same
    rw [linesText, linesText, sortRows_congr (leading_length count) listed.distinct
      otherListed.distinct same listed.untied]

/-- Rows that are sorted by what their lines begin with are sorted as lines. -/
theorem linesText_map {Row : Type} (count : Nat) (columns fields : Row → List Bytes)
    (begins : ∀ row, leading count (fields row) = columns row) (rows : List Row) :
    (sortRows columns rows).flatMap (fun row => checksumLine (fields row)) =
      linesText count (rows.map fields) := by
  have sorted : (sortRows columns rows).map fields =
      sortRows (leading count) (rows.map fields) := by
    refine List.map_insertionSort _ _ _ _ fun row _ other _ => ?_
    rw [begins, begins]
  rw [linesText, ← sorted, List.flatMap_map]

/-! ### Identifiers -/

/-- A byte below 0x80 is written for the rune of its value alone. -/
theorem mem_encodeRune_low {rune : Nat} {byte : UInt8} (member : byte ∈ Utf8.encodeRune rune)
    (low : byte < 0x80) : rune < 0x80 ∧ byte.toNat = rune := by
  have high : ∀ value : Nat, 0x80 ≤ value → value < 256 → byte ≠ UInt8.ofNat value := by
    rintro value above below rfl
    rw [UInt8.lt_iff_toNat_lt, UInt8.toNat_ofNat_of_lt' below] at low
    exact absurd low (Nat.not_lt.mpr above)
  unfold Utf8.encodeRune at member
  split_ifs at member with small two invalid three
  · rw [List.mem_singleton.mp member, UInt8.toNat_ofNat_of_lt' (show rune < 256 by omega)]
    exact ⟨small, rfl⟩
  · simp only [List.mem_cons, List.not_mem_nil, or_false] at member
    rcases member with same | same <;> exact absurd same (high _ (by omega) (by omega))
  · simp only [List.mem_cons, List.not_mem_nil, or_false] at member
    rcases member with rfl | rfl | rfl <;> exact absurd low (by decide)
  · simp only [List.mem_cons, List.not_mem_nil, or_false] at member
    rcases member with same | same | same <;> exact absurd same (high _ (by omega) (by omega))
  · simp only [List.mem_cons, List.not_mem_nil, or_false] at member
    rcases member with same | same | same | same <;>
      exact absurd same (high _ (by omega) (by omega))

/-- The lower case of a text without whitespace can stand in a line. -/
theorem unbroken_toLower {text : Bytes}
    (spaceless : (Utf8.runes text).any Unicode.isSpace = false) :
    Unbroken (Strings.toLower text) := by
  have visible : ∀ byte : UInt8, byte < 0x80 → Unicode.isSpace byte.toNat = true →
      byte ∉ Strings.toLower text := by
    intro byte low space member
    obtain ⟨rune, listed, written⟩ := List.mem_flatMap.mp member
    obtain ⟨lowered, same⟩ := mem_encodeRune_low written low
    have plain : rune < 0x80 := by
      rcases Unicode.toLower_low lowered with plain | letter | letter
      · exact plain
      · rw [same, letter] at space
        cases space
      · rw [same, letter] at space
        cases space
    rw [Unicode.toLower, if_pos plain] at same
    split_ifs at same with letter
    · rw [same, Unicode.isSpace] at space
      simp only [Bool.or_eq_true, Bool.and_eq_true, decide_eq_true_eq, beq_iff_eq] at space
      omega
    · rw [same] at space
      exact List.any_eq_false.mp spaceless rune listed space
  exact ⟨visible 0x09 (by decide) rfl, visible 0x0A (by decide) rfl⟩

theorem Event.CanonicalID.unbroken {text : Bytes} (canonical : CanonicalID text) :
    Unbroken text := by
  rw [canonical.lowercase]
  exact unbroken_toLower canonical.spaceless

theorem unbroken_uuid {text : Bytes} (matched : matchesUUID text = true) :
    Unbroken (Strings.toLower text) := unbroken_toLower (Strings.spaceless_uuid matched)

theorem unbroken_formatInt (value : Nat) : Unbroken (Json.formatInt value) := by
  constructor
  · exact fun member => absurd (formatInt_plain value _ member) (by decide)
  · exact fun member => absurd (formatInt_plain value _ member) (by decide)

theorem formatInt_injective {first second : Nat}
    (same : Json.formatInt first = Json.formatInt second) : first = second := by
  rw [← decimal_formatInt first, same, decimal_formatInt]

/-! ### The inventory -/

/-- A projection row that the contract lets through. -/
structure ProjectionRow.Identified (row : ProjectionRow) : Prop where
  tenantID : matchesUUID row.tenantID = true
  lowercase : row.tenantID = Strings.toLower row.tenantID
  itemID : CanonicalID row.itemID
  quantity : 0 ≤ row.quantityOnHand
  version : 0 ≤ row.aggregateVersion

namespace ProjectionRow.Identified

variable {row other : ProjectionRow}

theorem lowered (identified : row.Identified) : row.lowered = row := by
  rw [ProjectionRow.lowered, ← identified.lowercase, ← identified.itemID.lowercase]

theorem separable (identified : row.Identified) : Separable row.checksumFields := by
  obtain ⟨quantity, sameQuantity⟩ := Int.eq_ofNat_of_zero_le identified.quantity
  obtain ⟨version, sameVersion⟩ := Int.eq_ofNat_of_zero_le identified.version
  refine ⟨List.cons_ne_nil _ _, ?_⟩
  simp only [ProjectionRow.checksumFields, List.forall_mem_cons, sameQuantity, sameVersion]
  refine ⟨?_, identified.itemID.unbroken, unbroken_formatInt quantity, unbroken_formatInt version,
    List.forall_mem_nil _⟩
  rw [identified.lowercase]
  exact unbroken_uuid identified.tenantID

theorem eq_of_fields (identified : row.Identified) (otherIdentified : other.Identified)
    (same : row.checksumFields = other.checksumFields) : row = other := by
  obtain ⟨tenantID, itemID, quantityOnHand, aggregateVersion⟩ := row
  obtain ⟨otherTenant, otherItem, otherQuantity, otherVersion⟩ := other
  obtain ⟨quantity, rfl⟩ := Int.eq_ofNat_of_zero_le identified.quantity
  obtain ⟨version, rfl⟩ := Int.eq_ofNat_of_zero_le identified.version
  obtain ⟨second, rfl⟩ := Int.eq_ofNat_of_zero_le otherIdentified.quantity
  obtain ⟨last, rfl⟩ := Int.eq_ofNat_of_zero_le otherIdentified.version
  simp only [ProjectionRow.checksumFields, List.cons.injEq, and_true] at same
  obtain ⟨rfl, rfl, quantities, versions⟩ := same
  rw [formatInt_injective quantities, formatInt_injective versions]

end ProjectionRow.Identified

/-- Rows of a projection that the contract lets through. -/
structure ProjectionRows (rows : List ProjectionRow) : Prop where
  identified : ∀ row ∈ rows, row.Identified
  distinct : (rows.map ProjectionRow.key).Nodup

theorem projectionText_lines (rows : List ProjectionRow) :
    projectionText rows = linesText 2 ((rows.map ProjectionRow.lowered).map
      ProjectionRow.checksumFields) :=
  linesText_map 2 _ _ (fun _ => rfl) _

namespace ProjectionRows

variable {rows others : List ProjectionRow}

theorem lowered (contract : ProjectionRows rows) : rows.map ProjectionRow.lowered = rows :=
  (List.map_congr_left fun row member => (contract.identified row member).lowered).trans
    (List.map_id rows)

theorem listed (contract : ProjectionRows rows) :
    Listed 2 (rows.map ProjectionRow.checksumFields) := by
  refine listed_map contract.distinct (fun row member => (contract.identified row member).separable)
    fun row _ other _ same => ?_
  obtain ⟨tenant, item⟩ : row.tenantID = other.tenantID ∧ row.itemID = other.itemID := by
    simpa [leading, List.range_succ, ProjectionRow.checksumFields] using same
  exact Prod.ext tenant item

theorem perm (contract : ProjectionRows rows) (reordered : others.Perm rows) :
    ProjectionRows others where
  identified row member := contract.identified row (reordered.subset member)
  distinct := (reordered.map _).nodup_iff.mpr contract.distinct

/-- The text tells which rows there are. -/
theorem text_eq_iff (contract : ProjectionRows rows) (otherContract : ProjectionRows others) :
    projectionText rows = projectionText others ↔ ∀ row, row ∈ rows ↔ row ∈ others := by
  rw [projectionText_lines, projectionText_lines, contract.lowered, otherContract.lowered,
    linesText_eq_iff contract.listed otherContract.listed]
  have member : ∀ {rows others : List ProjectionRow}, ProjectionRows rows → ProjectionRows others →
      (∀ fields ∈ rows.map ProjectionRow.checksumFields,
        fields ∈ others.map ProjectionRow.checksumFields) → ∀ row ∈ rows, row ∈ others := by
    intro rows others contract otherContract same row inside
    obtain ⟨other, listed, equal⟩ := List.mem_map.mp (same _ (List.mem_map_of_mem inside))
    rwa [(contract.identified row inside).eq_of_fields (otherContract.identified other listed)
      equal.symm]
  constructor
  · exact fun same row => ⟨member contract otherContract (fun fields => (same fields).mp) row,
      member otherContract contract (fun fields => (same fields).mpr) row⟩
  · intro same fields
    simp only [List.mem_map, same]

theorem text_perm (contract : ProjectionRows rows) (reordered : others.Perm rows) :
    projectionText others = projectionText rows :=
  ((contract.perm reordered).text_eq_iff contract).mpr fun _ => reordered.mem_iff

end ProjectionRows

/-- The text that `checksumForecastProjection` hashes: the rows are lower-cased after they are
sorted. -/
def forecastProjectionText (rows : List ProjectionRow) : Bytes :=
  (sortRows (fun row => [row.tenantID, row.itemID]) rows).flatMap
    fun row => checksumLine row.lowered.checksumFields

/-- The loader lower-cases the rows before that as well. -/
theorem ProjectionRows.forecast_text {rows others : List ProjectionRow}
    (contract : ProjectionRows rows) (reordered : others.Perm rows) :
    forecastProjectionText (others.map ProjectionRow.lowered) = projectionText rows := by
  have contractOthers := contract.perm reordered
  rw [← contract.text_perm reordered, projectionText, contractOthers.lowered,
    forecastProjectionText, List.flatMap_def, List.flatMap_def]
  refine congrArg List.flatten (List.map_congr_left fun row member => ?_)
  rw [(contractOthers.identified row ((List.mem_insertionSort _).mp member)).lowered]

/-! ### The lineage -/

/-- An identifier of a hop, where the hop has one. -/
def OptionalID (text : Bytes) : Prop := text = [] ∨ CanonicalID text

theorem OptionalID.lowercase {text : Bytes} (optional : OptionalID text) :
    Strings.toLower text = text := by
  rcases optional with rfl | canonical
  · rfl
  · exact canonical.lowercase.symm

theorem OptionalID.unbroken {text : Bytes} (optional : OptionalID text) : Unbroken text := by
  rcases optional with rfl | canonical
  · exact ⟨List.not_mem_nil, List.not_mem_nil⟩
  · exact canonical.unbroken

/-- A lineage row that the contract lets through. -/
structure LineageRow.Identified (row : LineageRow) : Prop where
  tenantID : matchesUUID row.hop.tenantID = true
  lowercase : row.hop.tenantID = Strings.toLower row.hop.tenantID
  hopID : OptionalID row.hop.hopID
  parentID : OptionalID row.hop.parentID
  itemID : OptionalID row.hop.itemID
  orderID : row.hop.orderID = [] ∨ matchesUUID row.hop.orderID = true
  sourceEventID : matchesUUID row.sourceEventID = true
  version : 0 ≤ row.aggregateVersion
  schema : 0 ≤ row.eventSchemaVersion

/-- Two rows that agree on everything the checksum reads, whatever the letter case of the
order and of the source event. -/
structure LineageRow.Agrees (row other : LineageRow) : Prop where
  kind : row.hop.kind = other.hop.kind
  tenantID : row.hop.tenantID = other.hop.tenantID
  hopID : row.hop.hopID = other.hop.hopID
  parentID : row.hop.parentID = other.hop.parentID
  itemID : row.hop.itemID = other.hop.itemID
  orderID : Strings.toLower row.hop.orderID = Strings.toLower other.hop.orderID
  version : row.aggregateVersion = other.aggregateVersion
  sourceEventID : Strings.toLower row.sourceEventID = Strings.toLower other.sourceEventID
  schema : row.eventSchemaVersion = other.eventSchemaVersion

/-- The line of a lineage row. -/
def LineageRow.line (row : LineageRow) : List Bytes := row.lowered.checksumFields

theorem HopKind.aggregateType_injective {kind other : HopKind}
    (same : kind.aggregateType = other.aggregateType) : kind = other := by
  cases kind <;> cases other <;> first | rfl | exact absurd same (by decide)

namespace LineageRow.Identified

variable {row other : LineageRow}

theorem line_eq (identified : row.Identified) :
    row.line = [row.hop.kind.aggregateType, row.hop.tenantID, row.hop.hopID, row.hop.parentID,
      row.hop.itemID, Strings.toLower row.hop.orderID, Json.formatInt row.aggregateVersion,
      Strings.toLower row.sourceEventID, Json.formatInt row.eventSchemaVersion] := by
  simp only [LineageRow.line, LineageRow.checksumFields, LineageRow.lowered,
    ← identified.lowercase, identified.hopID.lowercase, identified.parentID.lowercase,
    identified.itemID.lowercase]

theorem separable (identified : row.Identified) : Separable row.line := by
  obtain ⟨version, sameVersion⟩ := Int.eq_ofNat_of_zero_le identified.version
  obtain ⟨schema, sameSchema⟩ := Int.eq_ofNat_of_zero_le identified.schema
  have kind : Unbroken row.hop.kind.aggregateType := by
    cases row.hop.kind <;> exact ⟨by decide, by decide⟩
  have tenant : Unbroken row.hop.tenantID := by
    rw [identified.lowercase]
    exact unbroken_uuid identified.tenantID
  have order : Unbroken (Strings.toLower row.hop.orderID) := by
    rcases identified.orderID with none | matched
    · rw [none]
      exact ⟨List.not_mem_nil, List.not_mem_nil⟩
    · exact unbroken_uuid matched
  refine ⟨List.cons_ne_nil _ _, ?_⟩
  simp only [identified.line_eq, List.forall_mem_cons, sameVersion, sameSchema]
  exact ⟨kind, tenant, identified.hopID.unbroken, identified.parentID.unbroken,
    identified.itemID.unbroken, order, unbroken_formatInt version,
    unbroken_uuid identified.sourceEventID, unbroken_formatInt schema, List.forall_mem_nil _⟩

/-- Rows have one line when they agree. -/
theorem line_eq_iff (identified : row.Identified) (otherIdentified : other.Identified) :
    row.line = other.line ↔ row.Agrees other := by
  obtain ⟨version, sameVersion⟩ := Int.eq_ofNat_of_zero_le identified.version
  obtain ⟨schema, sameSchema⟩ := Int.eq_ofNat_of_zero_le identified.schema
  obtain ⟨otherVersion, sameOther⟩ := Int.eq_ofNat_of_zero_le otherIdentified.version
  obtain ⟨otherSchema, sameOtherSchema⟩ := Int.eq_ofNat_of_zero_le otherIdentified.schema
  rw [identified.line_eq, otherIdentified.line_eq]
  simp only [List.cons.injEq, and_true]
  constructor
  · rintro ⟨kind, tenant, hop, parent, item, order, versions, source, schemas⟩
    refine ⟨HopKind.aggregateType_injective kind, tenant, hop, parent, item, order, ?_, source, ?_⟩
    · rw [sameVersion, sameOther] at versions ⊢
      rw [formatInt_injective versions]
    · rw [sameSchema, sameOtherSchema] at schemas ⊢
      rw [formatInt_injective schemas]
  · intro agrees
    exact ⟨congrArg HopKind.aggregateType agrees.kind, agrees.tenantID, agrees.hopID,
      agrees.parentID, agrees.itemID, agrees.orderID, congrArg Json.formatInt agrees.version,
      agrees.sourceEventID, congrArg Json.formatInt agrees.schema⟩

end LineageRow.Identified

/-- Rows of the lineage tables that the contract lets through. -/
structure LineageRows (rows : List LineageRow) : Prop where
  identified : ∀ row ∈ rows, row.Identified
  distinct : (rows.map fun row => row.hop.key).Nodup

theorem lineageText_lines (rows : List LineageRow) :
    lineageText rows = linesText 3 (rows.map LineageRow.line) := by
  have sorted := linesText_map 3
    (fun row : LineageRow => [row.hop.kind.aggregateType, row.hop.tenantID, row.hop.hopID])
    LineageRow.checksumFields (fun _ => rfl) (rows.map LineageRow.lowered)
  rwa [List.map_map] at sorted

/-- Each row of either list agrees with one of the other. -/
def LineageAgree (rows others : List LineageRow) : Prop :=
  (∀ row ∈ rows, ∃ other ∈ others, row.Agrees other) ∧
    ∀ other ∈ others, ∃ row ∈ rows, row.Agrees other

namespace LineageRows

variable {rows others : List LineageRow}

theorem listed (contract : LineageRows rows) : Listed 3 (rows.map LineageRow.line) := by
  refine listed_map contract.distinct (fun row member => (contract.identified row member).separable)
    fun row member other otherMember same => ?_
  rw [(contract.identified row member).line_eq, (contract.identified other otherMember).line_eq]
    at same
  obtain ⟨kind, tenant, hop⟩ : row.hop.kind.aggregateType = other.hop.kind.aggregateType ∧
      row.hop.tenantID = other.hop.tenantID ∧ row.hop.hopID = other.hop.hopID := by
    simpa [leading, List.range_succ] using same
  exact Prod.ext (HopKind.aggregateType_injective kind) (Prod.ext tenant hop)

/-- The text tells which rows there are, up to what the checksum does not read. -/
theorem text_eq_iff (contract : LineageRows rows) (otherContract : LineageRows others) :
    lineageText rows = lineageText others ↔ LineageAgree rows others := by
  have lines : ∀ row ∈ rows, ∀ other ∈ others, row.line = other.line ↔ row.Agrees other :=
    fun row member other otherMember =>
      (contract.identified row member).line_eq_iff (otherContract.identified other otherMember)
  rw [lineageText_lines, lineageText_lines, linesText_eq_iff contract.listed otherContract.listed]
  constructor
  · intro same
    constructor
    · intro row member
      obtain ⟨other, listed, equal⟩ :=
        List.mem_map.mp ((same row.line).mp (List.mem_map_of_mem member))
      exact ⟨other, listed, (lines row member other listed).mp equal.symm⟩
    · intro other member
      obtain ⟨row, listed, equal⟩ :=
        List.mem_map.mp ((same other.line).mpr (List.mem_map_of_mem member))
      exact ⟨row, listed, (lines row listed other member).mp equal⟩
  · rintro ⟨forth, back⟩ fields
    constructor
    · intro member
      obtain ⟨row, inside, rfl⟩ := List.mem_map.mp member
      obtain ⟨other, listed, agrees⟩ := forth row inside
      rw [(lines row inside other listed).mpr agrees]
      exact List.mem_map_of_mem listed
    · intro member
      obtain ⟨other, inside, rfl⟩ := List.mem_map.mp member
      obtain ⟨row, listed, agrees⟩ := back other inside
      rw [← (lines row listed other inside).mpr agrees]
      exact List.mem_map_of_mem listed

theorem text_perm (contract : LineageRows rows) (reordered : others.Perm rows) :
    lineageText others = lineageText rows := by
  have contractOthers : LineageRows others :=
    ⟨fun row member => contract.identified row (reordered.subset member),
      (reordered.map _).nodup_iff.mpr contract.distinct⟩
  rw [lineageText_lines, lineageText_lines,
    linesText_eq_iff contractOthers.listed contract.listed]
  exact fun fields => (reordered.map LineageRow.line).mem_iff

end LineageRows

/-! ### Reachable tables -/

/-- The identifiers that a validated hop carries. -/
structure Hop.Identified (hop : Hop) : Prop where
  hopID : CanonicalID hop.hopID
  parentID : OptionalID hop.parentID
  itemID : OptionalID hop.itemID
  orderID : hop.orderID = [] ∨ matchesUUID hop.orderID = true

theorem validate_hop {env : Envelope} {payload : Payload} {hop : Hop}
    (passed : validate env = .ok ()) (carried : env.payload = some payload)
    (described : payloadHop env.tenantID payload = some hop) : hop.Identified := by
  have fits := (validate_checks env passed).2.2 _ carried
  cases payload with
  | quantityDecremented quantity => cases described
  | supplierRegistered supplier =>
    simp only [Payload.validateAgainst, SupplierRegistered.validateAgainst, requireUTF8,
      check_then_ok, demand_ok, requireCanonicalID_ok, beq_iff_eq] at fits
    cases described
    exact ⟨fits.2.2.1, Or.inl rfl, Or.inl rfl, Or.inl rfl⟩
  | ingredientLotReceived lot =>
    simp only [Payload.validateAgainst, IngredientLotReceived.validateAgainst, requireUTF8,
      check_then_ok, demand_ok, requireCanonicalID_ok, beq_iff_eq] at fits
    cases described
    obtain ⟨-, -, -, -, own, supplier, item, -⟩ := fits
    exact ⟨own, Or.inr supplier, Or.inr item, Or.inl rfl⟩
  | productionBatchProduced batch =>
    simp only [Payload.validateAgainst, ProductionBatchProduced.validateAgainst, requireUTF8,
      check_then_ok, demand_ok, requireCanonicalID_ok, beq_iff_eq] at fits
    cases described
    obtain ⟨-, -, -, own, lot, -⟩ := fits
    exact ⟨own, Or.inr lot, Or.inl rfl, Or.inl rfl⟩
  | shipmentDispatched shipment =>
    simp only [Payload.validateAgainst, ShipmentDispatched.validateAgainst, requireUTF8,
      requireUUID, check_then_ok, demand_ok, requireCanonicalID_ok, beq_iff_eq] at fits
    cases described
    obtain ⟨-, -, -, -, own, batch, order, -⟩ := fits
    exact ⟨own, Or.inr batch, Or.inl rfl, Or.inr order⟩

/-- The rows of the lineage tables of a tenant, as `ChecksumLineage` reads them. -/
def Platform.lineageRows (platform : Platform) (tenantID : Bytes) : List LineageRow :=
  lineageTables.flatMap fun kind => platform.tenantLineage kind tenantID

section Reached

variable {delivered : Envelope → Prop} {log : Log} {platform : Platform}

theorem Grounded.projection_identified (grounded : Grounded delivered log platform)
    (validated : ∀ env, delivered env → validate env = .ok ()) {row : ProjectionRow}
    (member : row ∈ platform.projection.rows) : row.Identified := by
  have shows := grounded.shows member
  obtain ⟨last, quantity, ends, -, -⟩ := shows.quantity
  have inside := List.mem_of_getLast? ends
  obtain ⟨decrement, valid⟩ := shows.consecutive.valid last inside
  have passed := validated last (shows.consecutive.known last inside)
  have tenant : last.tenantID = row.tenantID := shows.consecutive.tenantID last inside
  have item : last.aggregateID = row.itemID := shows.consecutive.aggregateID last inside
  refine ⟨?_, ?_, ?_, shows.nonneg, ?_⟩
  · rw [← tenant]
    exact valid.tenantID
  · rw [← tenant]
    exact validate_tenantID last passed
  · rw [← item]
    exact validate_canonicalID last passed
  · rw [shows.version]
    exact Int.natCast_nonneg _

theorem Grounded.lineage_identified (grounded : Grounded delivered log platform)
    (validated : ∀ env, delivered env → validate env = .ok ()) {row : LineageRow}
    (member : row ∈ platform.lineage.rows) : row.Identified := by
  obtain ⟨env, payload, hop, known, valid, described, first, rfl⟩ := grounded.lineage row member
  have identified := validate_hop (validated env known) valid.carried described
  have tenant := payloadHop_tenantID described
  refine ⟨?_, ?_, Or.inr identified.hopID, identified.parentID, identified.itemID,
    identified.orderID, valid.eventID, ?_, ?_⟩
  · show matchesUUID hop.tenantID = true
    rw [tenant]
    exact valid.tenantID
  · show hop.tenantID = Strings.toLower hop.tenantID
    rw [tenant]
    exact validate_tenantID env (validated env known)
  · show 0 ≤ env.aggregateVersion
    omega
  · show 0 ≤ env.eventSchemaVersion
    rw [valid.schema]
    decide

theorem Grounded.projectionRows (grounded : Grounded delivered log platform)
    (validated : ∀ env, delivered env → validate env = .ok ()) (tenantID : Bytes) :
    ProjectionRows (platform.tenantProjection tenantID) where
  identified _ member := grounded.projection_identified validated (List.mem_of_mem_filter member)
  distinct := (List.filter_sublist.map _).nodup platform.projection.unique

theorem Platform.mem_lineageRows {tenantID : Bytes} {row : LineageRow} :
    row ∈ platform.lineageRows tenantID ↔
      row ∈ platform.lineage.rows ∧ row.hop.tenantID = tenantID := by
  have listed : row.hop.kind ∈ lineageTables := by cases row.hop.kind <;> decide
  simp only [Platform.lineageRows, Platform.tenantLineage, List.mem_flatMap, List.mem_filter,
    decide_eq_true_eq]
  constructor
  · rintro ⟨kind, -, member, -, tenant⟩
    exact ⟨member, tenant⟩
  · rintro ⟨member, tenant⟩
    exact ⟨row.hop.kind, listed, member, rfl, tenant⟩

theorem Grounded.lineageRows (grounded : Grounded delivered log platform)
    (validated : ∀ env, delivered env → validate env = .ok ()) (tenantID : Bytes) :
    LineageRows (platform.lineageRows tenantID) where
  identified _ member :=
    grounded.lineage_identified validated (Platform.mem_lineageRows.mp member).1
  distinct := by
    have rows : (platform.lineageRows tenantID).Nodup := by
      refine List.nodup_flatMap.mpr ⟨fun kind _ => ?_, ?_⟩
      · exact (List.Nodup.of_map _ platform.lineage.unique).filter _
      · have kinds : lineageTables.Nodup := by decide
        refine kinds.imp fun {kind other} different _ member otherMember => ?_
        have first := List.of_mem_filter member
        have second := List.of_mem_filter otherMember
        simp only [decide_eq_true_eq] at first second
        exact different (first.1.symm.trans second.1)
    refine List.Nodup.map_on (fun row member other otherMember same => ?_) rows
    exact platform.lineage.eq_of_key (Platform.mem_lineageRows.mp member).1
      (Platform.mem_lineageRows.mp otherMember).1 same

end Reached

/-- What the checksums of one tenant tell about two states: the texts do not depend on the order
of the rows and tell the rows apart, and so do the checksums where the digest does not
collide. -/
structure Identifying (first second : Platform) (tenantID : Bytes) : Prop where
  reordered : ∀ rows, rows.Perm (first.tenantProjection (Strings.toLower tenantID)) →
    projectionText rows = projectionText (first.tenantProjection (Strings.toLower tenantID)) ∧
    forecastProjectionText (rows.map ProjectionRow.lowered) =
      projectionText (first.tenantProjection (Strings.toLower tenantID))
  inventory : projectionText (first.tenantProjection (Strings.toLower tenantID)) =
      projectionText (second.tenantProjection (Strings.toLower tenantID)) ↔
    ∀ row, row ∈ first.tenantProjection (Strings.toLower tenantID) ↔
      row ∈ second.tenantProjection (Strings.toLower tenantID)
  checksum : (digest (projectionText (first.tenantProjection (Strings.toLower tenantID))) =
        digest (projectionText (second.tenantProjection (Strings.toLower tenantID))) →
      projectionText (first.tenantProjection (Strings.toLower tenantID)) =
        projectionText (second.tenantProjection (Strings.toLower tenantID))) →
    checksumTenant first tenantID = checksumTenant second tenantID →
    ∀ row, row ∈ first.tenantProjection (Strings.toLower tenantID) ↔
      row ∈ second.tenantProjection (Strings.toLower tenantID)
  lineageReordered : ∀ rows, rows.Perm (first.lineageRows tenantID) →
    lineageText rows = lineageText (first.lineageRows tenantID)
  lineage : lineageText (first.lineageRows tenantID) = lineageText (second.lineageRows tenantID) ↔
    LineageAgree (first.lineageRows tenantID) (second.lineageRows tenantID)
  lineageChecksum : (digest (lineageText (first.lineageRows tenantID)) =
        digest (lineageText (second.lineageRows tenantID)) →
      lineageText (first.lineageRows tenantID) = lineageText (second.lineageRows tenantID)) →
    checksumLineage first tenantID = checksumLineage second tenantID →
    LineageAgree (first.lineageRows tenantID) (second.lineageRows tenantID)

/-- The checksums identify the tables of a tenant in any two states that calls reach. -/
theorem checksums_identify_projections (erp otherErp : Erp) (calls others : List Call)
    (tenantID : Bytes) :
    Identifying (deliver calls ⟨erp, .empty⟩).platform (deliver others ⟨otherErp, .empty⟩).platform
      tenantID := by
  have validated : ∀ calls env, Delivered calls env → validate env = .ok () := by
    rintro calls env ⟨call, -, parsed, -⟩
    exact parse_valid _ env parsed
  obtain ⟨log, grounded⟩ := deliver_grounded erp calls
  obtain ⟨otherLog, otherGrounded⟩ := deliver_grounded otherErp others
  have rows := grounded.projectionRows (validated calls) (Strings.toLower tenantID)
  have otherRows := otherGrounded.projectionRows (validated others) (Strings.toLower tenantID)
  have hops := grounded.lineageRows (validated calls) tenantID
  have otherHops := otherGrounded.lineageRows (validated others) tenantID
  have inventory := rows.text_eq_iff otherRows
  have lineage := hops.text_eq_iff otherHops
  exact {
    reordered := fun listed reordered => ⟨rows.text_perm reordered, rows.forecast_text reordered⟩
    inventory := inventory
    checksum := fun collisionFree same => inventory.mp (collisionFree same)
    lineageReordered := fun listed reordered => hops.text_perm reordered
    lineage := lineage
    lineageChecksum := fun collisionFree same => lineage.mp (collisionFree same) }

end SeshatOps
