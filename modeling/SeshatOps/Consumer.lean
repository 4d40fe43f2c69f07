/-
This file models the consumer of the platform: cycles of `ConsumeOnce` on one client.

The client keeps a position in memory for each partition, which every poll moves behind
the records it returns, whatever becomes of them. A cycle processes the polled records
in order, stops at the first error, and commits the offsets of the acknowledged ones.
Within one cycle the committed records are a front part of the polled ones, so nothing
is passed over. The next cycle polls behind the records that the last one left, and its
commit covers them too. The file ends with the condition under which no record is lost.
-/

import SeshatOps.History

namespace SeshatOps

open Relational Event

/-! ### The topic -/

/-- A record of the topic that the relay publishes to. -/
structure TopicRecord where
  partition : Int
  offset : Int
  key : Bytes
  value : Bytes
  deriving DecidableEq

/-- Everything that is ever written to the topic, by partition and in the order of offsets. -/
structure Topic where
  records : Int → List TopicRecord
  placed : ∀ partition, ∀ record ∈ records partition, record.partition = partition
  increasing : ∀ partition,
    (records partition).Pairwise fun first second => first.offset < second.offset

/-! ### The client -/

/-- The part of a fetch that belongs to one partition. -/
structure FetchTopicPartition where
  records : List TopicRecord
  highWatermark : Int

/-- How many records of a partition a poll returns, and what it says about the end of it. -/
structure Take where
  partition : Int
  count : Nat
  highWatermark : Int

/-- `PollFetches`: for each partition the records behind the last polled one. The position moves
whether or not offsets are committed. -/
def pollFetches (topic : Topic) : List Take → (Int → Nat) →
    List FetchTopicPartition × (Int → Nat)
  | [], polled => ([], polled)
  | take :: rest, polled =>
      let records := ((topic.records take.partition).drop (polled take.partition)).take take.count
      let moved := Function.update polled take.partition (polled take.partition + records.length)
      let later := pollFetches topic rest moved
      (⟨records, take.highWatermark⟩ :: later.1, later.2)

/-- `CommitRecords`, as far as the given partitions take it: the committed offset of a partition
becomes the highest given offset plus one. -/
def commitRecords (records : List TopicRecord) (landed : Int → Bool)
    (committed : Int → Option Int) : Int → Option Int := fun partition =>
  match ((records.filter (·.partition == partition)).map TopicRecord.offset).max? with
  | some highest => if landed partition then some (highest + 1) else committed partition
  | none => committed partition

/-! ### ConsumeOnce -/

/-- The errors that a poll reports. -/
inductive FetchError
  | canceled
  | deadlineExceeded
  | other
  deriving DecidableEq, Repr

inductive ConsumeError
  /-- The error of the context, as it is. -/
  | context (cause : FetchError)
  /-- `platform: fetch: <cause>` -/
  | fetch (cause : FetchError)
  /-- `platform: commit offsets: <cause>` -/
  | commitOffsets
  /-- The first error of `ProcessRecord`. -/
  | process (cause : ProcessError)
  deriving DecidableEq

structure ConsumeResult where
  fetched : Nat := 0
  processed : Nat := 0
  acked : Nat := 0
  skipped : Nat := 0
  ackWithheld : Nat := 0
  ackCommitFail : Bool := false
  observedLag : Int := 0
  lagKnown : Bool := false
  deriving DecidableEq

/-- What the broker and the database do in one cycle. -/
structure Cycle where
  takes : List Take
  fetchErrors : List FetchError := []
  fuel : TopicRecord → Nat
  replies : TopicRecord → List Reply
  /-- `CommitRecords` fails, after the offsets of the given partitions were stored. -/
  commitFailure : Option (Int → Bool) := none

/-- The database, the position of the client, the committed offsets of the group, and the
records for which a call has returned `ShouldAck`. -/
structure ConsumerState where
  db : Database
  polled : Int → Nat
  committed : Int → Option Int
  acknowledged : List TopicRecord

/-- The error that a poll with errors makes `ConsumeOnce` return. -/
def fetchFailure : FetchError → ConsumeError
  | .canceled => .context .canceled
  | .deadlineExceeded => .context .deadlineExceeded
  | .other => .fetch .other

/-- The lag that one partition of a fetch adds to the result. -/
def observeLag (out : ConsumeResult) (partition : FetchTopicPartition) : ConsumeResult :=
  match partition.records with
  | [] => out
  | first :: _ =>
      if partition.highWatermark < 0 then out
      else { out with
        observedLag := out.observedLag + max 0 (partition.highWatermark - first.offset)
        lagKnown := true }

/-- The variables of the loop over the fetched records. -/
structure Loop where
  db : Database
  out : ConsumeResult
  toCommit : List TopicRecord := []
  firstErr : Option ProcessError := none
  acknowledged : List TopicRecord

/-- The call of `ProcessRecord` on a record. -/
def Cycle.call (cycle : Cycle) (record : TopicRecord) : Call :=
  ⟨cycle.fuel record, record.key, record.value, ⟨relayTopic, record.partition, record.offset⟩,
    cycle.replies record⟩

/-- The body of the loop. -/
def eachRecord (cycle : Cycle) (loop : Loop) (record : TopicRecord) : Loop :=
  if loop.firstErr.isSome then loop
  else
    let outcome := (cycle.call record).outcome loop.db
    let loop := { loop with
      db := (cycle.call record).after loop.db
      out := { loop.out with fetched := loop.out.fetched + 1 }
      acknowledged := if outcome.result.shouldAck then loop.acknowledged ++ [record]
        else loop.acknowledged }
    let withheld := { loop.out with
      skipped := loop.out.skipped + 1
      ackWithheld := loop.out.ackWithheld + 1 }
    if outcome.error.isSome && !outcome.result.shouldAck then
      { loop with out := withheld, firstErr := outcome.error }
    else if !outcome.result.shouldAck then
      { loop with out := { withheld with processed := loop.out.processed + 1 } }
    else
      { loop with
        out := { loop.out with processed := loop.out.processed + 1 }
        toCommit := loop.toCommit ++ [record] }

def consumeOnce (topic : Topic) (cycle : Cycle) (state : ConsumerState) :
    ConsumeResult × Option ConsumeError × ConsumerState :=
  let (fetches, polled) := pollFetches topic cycle.takes state.polled
  match cycle.fetchErrors with
  | error :: _ => ({}, some (fetchFailure error), { state with polled })
  | [] =>
      let out := fetches.foldl observeLag {}
      let loop := (fetches.flatMap FetchTopicPartition.records).foldl (eachRecord cycle)
        { db := state.db, out, acknowledged := state.acknowledged }
      let after : ConsumerState := ⟨loop.db, polled, state.committed, loop.acknowledged⟩
      if loop.toCommit.isEmpty then (loop.out, loop.firstErr.map .process, after)
      else
        match cycle.commitFailure with
        | some landed =>
            ({ loop.out with ackCommitFail := true }, some .commitOffsets,
              { after with committed := commitRecords loop.toCommit landed state.committed })
        | none =>
            ({ loop.out with acked := loop.toCommit.length }, loop.firstErr.map .process,
              { after with
                committed := commitRecords loop.toCommit (fun _ => true) state.committed })

/-- A new client of a group that has not committed anything. -/
def ConsumerState.start (db : Database) : ConsumerState := ⟨db, fun _ => 0, fun _ => none, []⟩

/-- The cycles of the consumer worker, one after the other on one client. -/
def consume (topic : Topic) (cycles : List Cycle) (state : ConsumerState) : ConsumerState :=
  cycles.foldl (fun state cycle => (consumeOnce topic cycle state).2.2) state

/-! ### What a cycle commits -/

/-- A call is acknowledged exactly when it returns no error. -/
theorem Call.shouldAck_eq (call : Call) (db : Database) :
    (call.outcome db).result.shouldAck = (call.outcome db).error.isNone := by
  obtain ⟨processes, -⟩ := call.processes db true (by simp)
  generalize call.outcome db = outcome at processes
  generalize call.sent db = sent at processes
  generalize (call.after db).platform = final at processes
  cases processes <;> rfl

theorem eachRecord_of_stopped (cycle : Cycle) (records : List TopicRecord) {loop : Loop}
    (stopped : loop.firstErr.isSome = true) : records.foldl (eachRecord cycle) loop = loop := by
  induction records with
  | nil => rfl
  | cons record rest hypothesis =>
    rw [List.foldl_cons, eachRecord, if_pos stopped]
    exact hypothesis

/-- The loop acknowledges and commits the same front part of the records. -/
theorem eachRecord_foldl (cycle : Cycle) (records : List TopicRecord) (loop : Loop)
    (running : loop.firstErr = none) :
    ∃ done, done <+: records ∧
      (records.foldl (eachRecord cycle) loop).toCommit = loop.toCommit ++ done ∧
      (records.foldl (eachRecord cycle) loop).acknowledged = loop.acknowledged ++ done := by
  induction records generalizing loop with
  | nil => exact ⟨[], List.nil_prefix, by simp, by simp⟩
  | cons record rest hypothesis =>
    have acks := (cycle.call record).shouldAck_eq loop.db
    rw [List.foldl_cons]
    cases failed : ((cycle.call record).outcome loop.db).error with
    | some error =>
      have withheld : ((cycle.call record).outcome loop.db).result.shouldAck = false := by
        rw [acks, failed]
        rfl
      refine ⟨[], List.nil_prefix, ?_⟩
      rw [eachRecord_of_stopped]
      · simp [eachRecord, running, failed, withheld]
      · simp [eachRecord, running, failed, withheld]
    | none =>
      have acked : ((cycle.call record).outcome loop.db).result.shouldAck = true := by
        rw [acks, failed]
        rfl
      obtain ⟨done, front, commits, acknowledges⟩ := hypothesis
        (eachRecord cycle loop record) (by simp [eachRecord, running, failed, acked])
      refine ⟨record :: done, (List.prefix_cons_inj record).mpr front, ?_, ?_⟩
      · rw [commits]
        simp [eachRecord, running, failed, acked]
      · rw [acknowledges]
        simp [eachRecord, running, failed, acked]

/-- The polled records of a partition are the next ones of it. -/
theorem pollFetches_records (topic : Topic) (takes : List Take) (polled : Int → Nat)
    (partition : Int) :
    (((pollFetches topic takes polled).1.flatMap FetchTopicPartition.records).filter
      (·.partition == partition)) <+: (topic.records partition).drop (polled partition) := by
  induction takes generalizing polled with
  | nil => exact List.nil_prefix
  | cons take rest hypothesis =>
    simp only [pollFetches, List.flatMap_cons, List.filter_append]
    set records := ((topic.records take.partition).drop (polled take.partition)).take take.count
      with chunk
    have later := hypothesis
      (Function.update polled take.partition (polled take.partition + records.length))
    by_cases same : take.partition = partition
    · subst same
      have own : records.filter (·.partition == take.partition) = records := by
        refine List.filter_eq_self.mpr fun record member => beq_iff_eq.mpr ?_
        exact topic.placed _ record (List.mem_of_mem_drop (List.mem_of_mem_take member))
      rw [Function.update_self, ← List.drop_drop] at later
      rw [own]
      have split : (topic.records take.partition).drop (polled take.partition) =
          records ++ ((topic.records take.partition).drop (polled take.partition)).drop
            records.length := (List.prefix_iff_eq_append.mp (List.take_prefix _ _)).symm
      rw [split]
      exact (List.prefix_append_right_inj records).mpr later
    · have foreign : records.filter (·.partition == partition) = [] := by
        refine List.filter_eq_nil_iff.mpr fun record member => ?_
        have placed := topic.placed _ record (List.mem_of_mem_drop (List.mem_of_mem_take member))
        simpa [placed] using same
      rw [Function.update_of_ne (Ne.symm same)] at later
      rw [foreign, List.nil_append]
      exact later

/-- The records of a partition that a cycle can only get from a take of the partition. -/
theorem pollFetches_mem (topic : Topic) (takes : List Take) (polled : Int → Nat)
    {record : TopicRecord}
    (member : record ∈ (pollFetches topic takes polled).1.flatMap FetchTopicPartition.records) :
    ∃ take ∈ takes, take.partition = record.partition := by
  induction takes generalizing polled with
  | nil => cases member
  | cons take rest hypothesis =>
    simp only [pollFetches, List.flatMap_cons, List.mem_append] at member
    rcases member with own | later
    · exact ⟨take, List.mem_cons_self, (topic.placed _ record
        (List.mem_of_mem_drop (List.mem_of_mem_take own))).symm⟩
    · obtain ⟨other, listed, same⟩ := hypothesis _ later
      exact ⟨other, List.mem_cons_of_mem take listed, same⟩

/-! ### Lost records -/

/-- No committed offset has passed a record that was never acknowledged. -/
def NoneLost (topic : Topic) (state : ConsumerState) : Prop :=
  ∀ partition, ∀ record ∈ topic.records partition, record ∉ state.acknowledged →
    ∀ offset, state.committed partition = some offset → offset ≤ record.offset

/-- Every record that was polled earlier from a partition of the cycle was acknowledged. -/
def CaughtUp (topic : Topic) (cycle : Cycle) (state : ConsumerState) : Prop :=
  ∀ take ∈ cycle.takes,
    ∀ record ∈ (topic.records take.partition).take (state.polled take.partition),
      record ∈ state.acknowledged

/-- A commit of records of which the polled ones of each partition are a front part. -/
theorem commitRecords_noneLost {topic : Topic} {cycle : Cycle} {state : ConsumerState}
    (safe : NoneLost topic state) (caughtUp : CaughtUp topic cycle state)
    {done : List TopicRecord}
    (front : done <+: (pollFetches topic cycle.takes state.polled).1.flatMap
      FetchTopicPartition.records)
    (db : Database) (polled : Int → Nat) (landed : Int → Bool) :
    NoneLost topic ⟨db, polled, commitRecords done landed state.committed,
      state.acknowledged ++ done⟩ := by
  intro partition record member missed offset committed
  have unacknowledged : record ∉ state.acknowledged ∧ record ∉ done := by
    simpa [not_or] using missed
  have kept := safe partition record member unacknowledged.1 offset
  simp only [commitRecords] at committed
  split at committed
  · rename_i highest greatest
    split_ifs at committed
    · obtain rfl : highest + 1 = offset := Option.some.inj committed
      obtain ⟨last, listed, rfl⟩ := List.mem_map.mp (List.max?_mem greatest)
      obtain ⟨isDone, itsPartition⟩ := List.mem_filter.mp listed
      obtain ⟨take, fetched, same⟩ := pollFetches_mem topic _ _ (front.subset isDone)
      obtain rfl : take.partition = partition := same.trans (beq_iff_eq.mp itsPartition)
      obtain ⟨behind, next⟩ := (front.filter _).trans
        (pollFetches_records topic cycle.takes state.polled take.partition)
      -- The record is polled already, committed by this cycle, or behind what it commits.
      have place := member
      rw [← List.take_append_drop (state.polled take.partition) (topic.records take.partition),
        ← next, List.mem_append, List.mem_append] at place
      rcases place with earlier | now | later
      · exact absurd (caughtUp take fetched record earlier) unacknowledged.1
      · exact absurd (List.mem_filter.mp now).1 unacknowledged.2
      · have increasing : ((topic.records take.partition).drop
            (state.polled take.partition)).Pairwise _ := (topic.increasing take.partition).drop
        rw [← next, List.pairwise_append] at increasing
        exact increasing.2.2 last listed record later
    · exact kept committed
  · exact kept committed

/-- A cycle that has caught up loses no record. -/
theorem consumeOnce_noneLost {topic : Topic} {cycle : Cycle} {state : ConsumerState}
    (safe : NoneLost topic state) (caughtUp : CaughtUp topic cycle state) :
    NoneLost topic (consumeOnce topic cycle state).2.2 := by
  unfold consumeOnce
  cases cycle.fetchErrors with
  | cons error rest => exact safe
  | nil =>
    dsimp only
    obtain ⟨done, front, commits, acknowledges⟩ := eachRecord_foldl cycle
      ((pollFetches topic cycle.takes state.polled).1.flatMap FetchTopicPartition.records)
      { db := state.db
        out := (pollFetches topic cycle.takes state.polled).1.foldl observeLag {}
        acknowledged := state.acknowledged } rfl
    simp only [List.nil_append] at commits
    rw [commits]
    split_ifs
    · intro partition record member missed
      rw [acknowledges] at missed
      exact safe partition record member fun early => missed (List.mem_append_left done early)
    · rw [acknowledges]
      cases cycle.commitFailure with
      | some | none => exact commitRecords_noneLost safe caughtUp front _ _ _

/-- A condition on every cycle of a run, in the state that the cycle meets. -/
def EachCycle (topic : Topic) (holds : Cycle → ConsumerState → Prop) :
    List Cycle → ConsumerState → Prop
  | [], _ => True
  | cycle :: rest, state =>
      holds cycle state ∧ EachCycle topic holds rest (consumeOnce topic cycle state).2.2

theorem consume_noneLost {topic : Topic} (cycles : List Cycle) {state : ConsumerState}
    (safe : NoneLost topic state) (caughtUp : EachCycle topic (CaughtUp topic) cycles state) :
    NoneLost topic (consume topic cycles state) := by
  induction cycles generalizing state with
  | nil => exact safe
  | cons cycle rest hypothesis =>
    exact hypothesis (consumeOnce_noneLost safe caughtUp.1) caughtUp.2

/-- A run whose cycles poll a partition only after everything polled from it before was
acknowledged loses no record. -/
theorem no_record_lost (topic : Topic) (cycles : List Cycle) (db : Database)
    (caughtUp : EachCycle topic (CaughtUp topic) cycles (.start db)) :
    NoneLost topic (consume topic cycles (.start db)) := by
  refine consume_noneLost cycles ?_ caughtUp
  rintro partition record member missed offset ⟨⟩

/-- A topic with two records, neither of them an event, in its first partition. -/
def sampleTopic : Topic where
  records partition := if partition = 0 then [⟨0, 0, [], []⟩, ⟨0, 1, [], []⟩] else []
  placed partition record member := by
    split_ifs at member with first
    · simp only [List.mem_cons, List.not_mem_nil, or_false] at member
      rcases member with rfl | rfl <;> exact first.symm
    · cases member
  increasing partition := by
    split_ifs
    · simp
    · exact List.Pairwise.nil

/-- A cycle that polls some records of the first partition. -/
def sampleCycle (count : Nat) (replies : List Reply) : Cycle where
  takes := [⟨0, count, 2⟩]
  fuel _ := 1
  replies _ := replies

set_option maxRecDepth 20000 in
theorem sampleCycle_run :
    let first := (consumeOnce sampleTopic (sampleCycle 1 []) (.start ⟨.empty, .empty⟩)).2.2
    first.polled 0 = 1 ∧ first.acknowledged = [⟨0, 0, [], []⟩] ∧
    (consume sampleTopic [sampleCycle 1 [], sampleCycle 1 []]
      (.start ⟨.empty, .empty⟩)).committed 0 = some 2 := by
  decide +kernel

/-- The second cycle polls behind the record that the first one acknowledged. -/
theorem no_record_lost_sample :
    let first := (consumeOnce sampleTopic (sampleCycle 1 []) (.start ⟨.empty, .empty⟩)).2.2
    let state := consume sampleTopic [sampleCycle 1 [], sampleCycle 1 []] (.start ⟨.empty, .empty⟩)
    first.polled 0 = 1 ∧ first.acknowledged = [⟨0, 0, [], []⟩] ∧ state.committed 0 = some 2 ∧
      NoneLost sampleTopic state := by
  obtain ⟨polled, acknowledged, committed⟩ := sampleCycle_run
  refine ⟨polled, acknowledged, committed, no_record_lost sampleTopic
    [sampleCycle 1 [], sampleCycle 1 []] ⟨.empty, .empty⟩ ⟨?_, ?_, trivial⟩⟩
  · rintro take - record ⟨⟩
  · intro take listed record member
    obtain rfl := List.mem_singleton.mp listed
    rw [polled] at member
    rw [acknowledged]
    exact member

set_option maxRecDepth 20000 in
/-- A record whose call meets a lost request is not polled again, and the commit behind the next
record passes it. -/
theorem failed_record_passed :
    ¬ ∀ (topic : Topic) (cycles : List Cycle) (db : Database),
      NoneLost topic (consume topic cycles (.start db)) := by
  intro safe
  obtain ⟨committed, missed⟩ : (consume sampleTopic [sampleCycle 1 [.lost], sampleCycle 1 []]
      (.start ⟨.empty, .empty⟩)).committed 0 = some 2 ∧
      (⟨0, 0, [], []⟩ : TopicRecord) ∉ (consume sampleTopic
        [sampleCycle 1 [.lost], sampleCycle 1 []] (.start ⟨.empty, .empty⟩)).acknowledged := by
    decide +kernel
  have bound := safe sampleTopic [sampleCycle 1 [.lost], sampleCycle 1 []] ⟨.empty, .empty⟩ 0
    ⟨0, 0, [], []⟩ (by decide) missed 2 committed
  exact absurd bound (by decide)

end SeshatOps
