/-
This file proves that a published event is always recorded when the server serves the call.

The columns of the platform refuse a text with U+0000 or one that is not UTF-8. What the source
publishes has passed the columns of the source, and the times of an event are plain by the
pattern they match. So nothing that an event of the outbox makes the processor store can be
refused, and a call with fuel for the gaps is acknowledged.
-/

import SeshatOps.SourceHistory

namespace SeshatOps

open Relational Event Source

/-! ### Times are plain text -/

namespace Time

/-- Every byte is a digit, a separator or a letter of a time. -/
def Plain (bytes : Bytes) : Prop := ∀ byte ∈ bytes, byte ≠ 0 ∧ byte < 0x80

theorem plain_append {first second : Bytes} (plain : Plain first) (rest : Plain second) :
    Plain (first ++ second) := by
  intro byte member
  exact (List.mem_append.mp member).elim (plain byte) (rest byte)

theorem isDigit_plain (byte : UInt8) (isDigit : Json.isDigit byte = true) :
    byte ≠ 0 ∧ byte < 0x80 := by
  simp only [Json.isDigit, Bool.and_eq_true, decide_eq_true_eq] at isDigit
  obtain ⟨low, high⟩ := isDigit
  rw [UInt8.le_iff_toNat_le] at low high
  refine ⟨fun zero => ?_, ?_⟩
  · subst zero
    revert low
    decide
  · rw [UInt8.lt_iff_toNat_lt]
    exact lt_of_le_of_lt high (by decide)

theorem readFixed_plain {count : Nat} {bytes rest : Bytes} {value : Nat}
    (read : readFixed count bytes = some (value, rest)) (plain : Plain rest) : Plain bytes := by
  simp only [readFixed] at read
  split_ifs at read with digits
  obtain ⟨-, rfl⟩ := Prod.mk.inj (Option.some.inj read)
  rw [← List.take_append_drop count bytes]
  exact plain_append (fun byte member =>
    isDigit_plain byte (List.all_eq_true.mp digits.2 byte member))
    plain

theorem readByte_plain {wanted : UInt8} {bytes rest : Bytes}
    (read : readByte wanted bytes = some rest)
    (isPlain : wanted ≠ 0 ∧ wanted < 0x80) (plain : Plain rest) : Plain bytes := by
  cases bytes with
  | nil => cases read
  | cons byte tail =>
    simp only [readByte] at read
    split_ifs at read with same
    obtain rfl := Option.some.inj read
    subst same
    intro other member
    rcases List.mem_cons.mp member with rfl | later
    · exact isPlain
    · exact plain other later

theorem readFraction_plain {bytes rest : Bytes} {value : Nat}
    (read : readFraction true bytes = some (value, rest)) (plain : Plain rest) : Plain bytes := by
  cases bytes with
  | nil =>
    intro byte member
    cases member
  | cons mark tail =>
    simp only [readFraction, Bool.not_true, Bool.false_eq_true, and_false, or_false] at read
    split_ifs at read with point
    · subst point
      obtain ⟨⟨digits, after⟩, found, split⟩ := Option.map_eq_some_iff.mp read
      obtain ⟨-, rfl⟩ := Prod.mk.inj split
      have parts : tail = digits ++ after ∧ ∀ byte ∈ digits, Json.isDigit byte = true := by
        simp only [Json.readDigits, List.span_eq_takeWhile_dropWhile] at found
        split at found
        · cases found
        · rename_i taken left _ spanned
          obtain ⟨rfl, rfl⟩ := Prod.mk.inj (Option.some.inj found)
          obtain ⟨rfl, rfl⟩ := Prod.mk.inj spanned
          exact ⟨List.takeWhile_append_dropWhile.symm, fun byte member =>
            List.all_eq_true.mp List.all_takeWhile byte member⟩
      rw [parts.1]
      intro byte member
      rcases List.mem_cons.mp member with rfl | later
      · decide
      · exact plain_append (fun byte member => isDigit_plain byte (parts.2 byte member)) plain byte
          later
    · obtain ⟨-, rfl⟩ := Prod.mk.inj (Option.some.inj read)
      exact plain

theorem readClock_plain {bytes : Bytes} {clock : Clock} (read : readClock true bytes = some clock) :
    Plain bytes := by
  have hour : ∀ {bytes : Bytes} {found : Nat × Bytes}, readHour true bytes = some found →
      readFixed 2 bytes = some found := by
    intro bytes found here
    rw [readHour] at here
    cases fixed : readFixed 2 bytes with
    | some pair => rw [fixed] at here; exact here
    | none => rw [fixed] at here; cases here
  simp only [readClock, Option.bind_eq_bind, Option.bind_eq_some_iff, Prod.exists] at read
  obtain ⟨_, _, year, _, yearMark, _, _, month, _, monthMark, _, _, day, _, dayMark, _, _, hours, _,
    hourMark, _, _, minute, _, minuteMark, _, _, second, _, rest, fraction, ends⟩ := read
  split_ifs at ends with last
  have plainZ : Plain rest := by
    rw [last]
    intro byte member
    rw [List.mem_singleton.mp member]
    decide
  have atSecond := readFixed_plain second (readFraction_plain fraction plainZ)
  have atMinute := readFixed_plain minute (readByte_plain minuteMark (by decide) atSecond)
  have atHour := readFixed_plain (hour hours) (readByte_plain hourMark (by decide) atMinute)
  have atDay := readFixed_plain day (readByte_plain dayMark (by decide) atHour)
  have atMonth := readFixed_plain month (readByte_plain monthMark (by decide) atDay)
  exact readFixed_plain year (readByte_plain yearMark (by decide) atMonth)

end Time

theorem storable_time (text : Bytes) (matched : Time.matchesTimeZ text = true) :
    storable text = true := by
  rw [Time.matchesTimeZ] at matched
  cases read : Time.readClock true text with
  | none => rw [read] at matched; cases matched
  | some clock => exact storable_of_plain text (Time.readClock_plain read)

/-! ### Published events are recordable -/

section Published

variable {row : OutboxRow} {env : Envelope} {payload : Payload} {canonical : Bytes}

/-- The lineage row of a published event fits its columns. -/
theorem storable_lineageRow (valid : Valid env payload) (stored : env.Storable payload) {hop : Hop}
    (described : payloadHop env.tenantID payload = some hop) :
    ∀ text ∈ (lineageRow env hop).texts, storable text = true := by
  obtain ⟨-, trace, texts⟩ := stored
  have tenant := storable_uuid _ valid.tenantID
  have nothing : storable [] = true := by decide
  have parts : ∀ text ∈ [hop.tenantID, hop.hopID, hop.parentID, hop.itemID, hop.orderID],
      storable text = true := by
    cases payload <;> cases described <;>
      simp_all [Payload.texts]
  intro text member
  simp only [LineageRow.texts, lineageRow, List.mem_append, List.mem_cons, List.not_mem_nil,
    or_false, Option.mem_toList] at member
  rcases member with (own | own | own | own | own | own | own | own | own | own) | cause
  · exact parts text (by simp [own])
  · exact parts text (by simp [own])
  · exact parts text (by simp [own])
  · exact parts text (by simp [own])
  · exact parts text (by simp [own])
  · exact own ▸ storable_uuid _ valid.eventID
  · exact own ▸ storable_time _ valid.occurredAt
  · exact own ▸ storable_time _ valid.recordedAt
  · exact own ▸ storable_uuid _ valid.correlationID
  · exact own ▸ trace
  · exact storable_uuid _ (valid.causationID text cause)

/-- Whatever the tables hold, the record of a published event can be stored. -/
theorem Source.Records.recordable (records : Records row env payload canonical)
    (platform : Platform) (pos : SourcePosition) :
    Recordable platform (envelopeKey env) row.eventBytes pos := by
  rw [Recordable, records.carries.parsed]
  simp only [if_true]
  refine Or.inr ⟨records.stored.1, fun _ hop described _ _ => ?_⟩
  rw [records.valid.carried, Option.bind_some] at described
  exact storable_lineageRow records.valid records.stored described

end Published

end SeshatOps
