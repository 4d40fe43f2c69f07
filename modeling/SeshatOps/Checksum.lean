/-
This file models the checksums of the platform's projections: `ChecksumTenant` over the
inventory of a tenant and `ChecksumLineage` over its lineage.

Both write one line for each row, in an order that the rows themselves give, and hash
the text. The rows come from the server in no order, so a checksum is only a function
of the projection where the sort leaves no ties.
-/

import Mathlib.Data.List.Sort
import SeshatOps.Schema

namespace SeshatOps

open Relational Event

namespace Strings

/-! ### Order and white space -/

/-- The order of Go strings, byte by byte. -/
def less (first second : Bytes) : Bool :=
  decide (first.map UInt8.toNat < second.map UInt8.toNat)

/-- Drop white space from the front of a string that is at most `fuel` bytes long. -/
def trimLeftWithin : Nat → Bytes → Bytes
  | 0, bytes => bytes
  | _ + 1, [] => []
  | fuel + 1, bytes =>
      if Unicode.isSpace (Utf8.decodeRune bytes).1 then
        trimLeftWithin fuel (bytes.drop (Utf8.decodeRune bytes).2)
      else bytes

/-- Drop white space from the end of a string. -/
def trimRight : Bytes → Bytes
  | [] => []
  | byte :: rest => if isBlank (byte :: rest) then [] else byte :: trimRight rest

/-- `strings.TrimSpace`. -/
def trimSpace (bytes : Bytes) : Bytes := trimRight (trimLeftWithin bytes.length bytes)

theorem isBlank_cons {byte : UInt8} {rest : Bytes} (blank : isBlank (byte :: rest) = true) :
    Unicode.isSpace (Utf8.decodeRune (byte :: rest)).1 = true := by
  have runes : Utf8.runes (byte :: rest) = (Utf8.decodeRune (byte :: rest)).1 ::
      Utf8.runesWithin rest.length ((byte :: rest).drop (Utf8.decodeRune (byte :: rest)).2) := rfl
  rw [isBlank, runes, List.all_cons, Bool.and_eq_true] at blank
  exact blank.1

/-- In a string without white space no character that starts anywhere is white space. -/
theorem no_space_drop (fuel : Nat) (bytes : Bytes) (enough : bytes.length ≤ fuel)
    (spaceless : (Utf8.runesWithin fuel bytes).any Unicode.isSpace = false) (index : Nat)
    (byte : UInt8) (rest : Bytes) (suffix : bytes.drop index = byte :: rest) :
    Unicode.isSpace (Utf8.decodeRune (byte :: rest)).1 = false := by
  induction fuel generalizing bytes index with
  | zero =>
    obtain rfl := List.length_eq_zero_iff.mp (Nat.le_zero.mp enough)
    simp at suffix
  | succ fuel hypothesis =>
    cases bytes with
    | nil => simp at suffix
    | cons first others =>
      simp only [Utf8.runesWithin, List.any_cons, Bool.or_eq_false_iff] at spaceless
      have positive := Utf8.decodeRune_pos first others
      rcases Nat.eq_zero_or_pos index with rfl | later
      · rw [List.drop_zero] at suffix
        rw [← suffix]
        exact spaceless.1
      · by_cases within : index < (Utf8.decodeRune (first :: others)).2
        · rw [← suffix, Utf8.decodeRune_inside _ index later within]
          rfl
        · refine hypothesis _ ?_ spaceless.2
            (index - (Utf8.decodeRune (first :: others)).2) ?_
          · rw [List.length_drop]
            simp only [List.length_cons] at enough ⊢
            omega
          · rw [List.drop_drop, Nat.add_sub_cancel' (not_lt.mp within)]
            exact suffix

theorem trimRight_of_spaceless (bytes : Bytes)
    (visible : ∀ index byte rest, bytes.drop index = byte :: rest →
      Unicode.isSpace (Utf8.decodeRune (byte :: rest)).1 = false) : trimRight bytes = bytes := by
  induction bytes with
  | nil => rfl
  | cons byte rest hypothesis =>
    have notBlank : ¬ isBlank (byte :: rest) = true := by
      intro blank
      have space := isBlank_cons blank
      rw [visible 0 byte rest rfl] at space
      cases space
    rw [trimRight, if_neg notBlank, hypothesis]
    intro index other others suffix
    exact visible (index + 1) other others suffix

/-- A string without white space is left as it is. -/
theorem trimSpace_of_spaceless {bytes : Bytes}
    (spaceless : (Utf8.runes bytes).any Unicode.isSpace = false) : trimSpace bytes = bytes := by
  have visible := no_space_drop bytes.length bytes le_rfl spaceless
  have front : trimLeftWithin bytes.length bytes = bytes := by
    cases bytes with
    | nil => rfl
    | cons byte rest =>
      have first : Unicode.isSpace (Utf8.decodeRune (byte :: rest)).1 = false :=
        visible 0 byte rest rfl
      show (if Unicode.isSpace (Utf8.decodeRune (byte :: rest)).1 = true then _ else _) = _
      rw [first, if_neg Bool.false_ne_true]
  rw [trimSpace, front]
  exact trimRight_of_spaceless bytes visible

/-- The runes of ASCII text are its bytes. -/
theorem runesWithin_ascii (bytes : Bytes) (plain : ∀ byte ∈ bytes, byte < 0x80) :
    Utf8.runesWithin bytes.length bytes = bytes.map UInt8.toNat := by
  induction bytes with
  | nil => rfl
  | cons byte rest hypothesis =>
    have decoded : Utf8.decodeRune (byte :: rest) = (byte.toNat, 1) := by
      simp only [Utf8.decodeRune, Utf8.lead, if_pos (plain byte List.mem_cons_self)]
    have runes : Utf8.runesWithin (rest.length + 1) (byte :: rest) =
        (Utf8.decodeRune (byte :: rest)).1 ::
          Utf8.runesWithin rest.length ((byte :: rest).drop (Utf8.decodeRune (byte :: rest)).2) :=
      rfl
    rw [List.length_cons, runes, decoded, List.drop_one, List.tail_cons, List.map_cons,
      hypothesis fun other member => plain other (List.mem_cons_of_mem byte member)]

/-- A UUID has no white space. -/
theorem spaceless_uuid {text : Bytes} (matched : matchesUUID text = true) :
    (Utf8.runes text).any Unicode.isSpace = false := by
  have visible := visible_of_uuid matched
  rw [Utf8.runes, runesWithin_ascii text fun byte member => (visible byte member).2.1, List.any_map,
    List.any_eq_false]
  exact fun byte member => by simp [(visible byte member).2.2]

theorem trimSpace_uuid {text : Bytes} (matched : matchesUUID text = true) :
    trimSpace text = text := trimSpace_of_spaceless (spaceless_uuid matched)

end Strings

/-! ### Lines -/

/-- The fields of a row, separated by tabs and ended by a newline. -/
def checksumLine (fields : List Bytes) : Bytes := [0x09].intercalate fields ++ [0x0A]

/-- The order of rows by a list of sort columns. -/
def lessBy : List Bytes → List Bytes → Bool
  | first :: firsts, second :: seconds =>
      if first ≠ second then Strings.less first second else lessBy firsts seconds
  | _, _ => false

/-- `sort.Slice` by the given columns. -/
def sortRows {Row : Type} (columns : Row → List Bytes) (rows : List Row) : List Row :=
  rows.insertionSort fun first second => lessBy (columns second) (columns first) = false

/-! ### The inventory -/

/-- A projection row as the checksum sees it. -/
def ProjectionRow.lowered (row : ProjectionRow) : ProjectionRow :=
  { row with tenantID := Strings.toLower row.tenantID, itemID := Strings.toLower row.itemID }

def ProjectionRow.checksumFields (row : ProjectionRow) : List Bytes :=
  [row.tenantID, row.itemID, Json.formatInt row.quantityOnHand,
    Json.formatInt row.aggregateVersion]

/-- `SELECT .. FROM platform.inventory_projection WHERE tenant_id = $1`. -/
def Platform.tenantProjection (platform : Platform) (tenantID : Bytes) : List ProjectionRow :=
  platform.projection.rows.filter fun row => row.tenantID = tenantID

/-- The text that `ChecksumTenant` hashes. -/
def projectionText (rows : List ProjectionRow) : Bytes :=
  (sortRows (fun row => [row.tenantID, row.itemID]) (rows.map ProjectionRow.lowered)).flatMap
    fun row => checksumLine row.checksumFields

def checksumTenant (platform : Platform) (tenantID : Bytes) : Bytes :=
  digest (projectionText (platform.tenantProjection (Strings.toLower tenantID)))

/-! ### The lineage -/

/-- A lineage row as the checksum sees it. -/
def LineageRow.lowered (row : LineageRow) : LineageRow :=
  { row with
    hop :=
      { row.hop with
        tenantID := Strings.toLower row.hop.tenantID
        hopID := Strings.toLower row.hop.hopID
        parentID := Strings.toLower row.hop.parentID
        itemID := Strings.toLower row.hop.itemID
        orderID := Strings.toLower row.hop.orderID }
    sourceEventID := Strings.toLower row.sourceEventID }

def LineageRow.checksumFields (row : LineageRow) : List Bytes :=
  [row.hop.kind.aggregateType, row.hop.tenantID, row.hop.hopID, row.hop.parentID, row.hop.itemID,
    row.hop.orderID, Json.formatInt row.aggregateVersion, row.sourceEventID,
    Json.formatInt row.eventSchemaVersion]

/-- `SELECT .. FROM platform.lineage_<kind> WHERE tenant_id = $1`. -/
def Platform.tenantLineage (platform : Platform) (kind : HopKind) (tenantID : Bytes) :
    List LineageRow :=
  platform.lineage.rows.filter fun row => row.hop.kind = kind ∧ row.hop.tenantID = tenantID

/-- The text that `ChecksumLineage` hashes. -/
def lineageText (rows : List LineageRow) : Bytes :=
  (sortRows (fun row => [row.hop.kind.aggregateType, row.hop.tenantID, row.hop.hopID])
    (rows.map LineageRow.lowered)).flatMap fun row => checksumLine row.checksumFields

/-- The tables that `ChecksumLineage` reads, in its order. -/
def lineageTables : List HopKind := [.supplier, .ingredientLot, .productionBatch, .shipment]

def checksumLineage (platform : Platform) (tenantID : Bytes) : Bytes :=
  digest (lineageText (lineageTables.flatMap fun kind => platform.tenantLineage kind tenantID))

end SeshatOps
