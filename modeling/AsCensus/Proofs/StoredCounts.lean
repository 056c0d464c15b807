import AsCensus.Proofs.StatsWrites
import Mathlib.Order.Bounds.Basic

namespace AsCensus
namespace Store

open Std

/-!
# Counts of many calls

A call stores counts of one role and family at one time, in batches of some size.  It
sets two columns of a row and leaves the others to calls for other roles and families, so
the rows of a table are shared by all of them.

In a table that was empty, a system has a row for each time at which some call mentions
it.  A count in this row is the last one that was given for its role and family at this
time, and a flag tells whether any call of its role mentions the system at this time
(`HoldsCounts`).  Each call keeps this up (`HoldsCounts.put`).  The latest of the rows of
a system is the one that is read back (`latest_of_holds`).
-/

/-- A call that stores counts. -/
structure CountsCall where
  role : Role
  family : AddressFamily
  counts : List (Asn × Nat)
  timestamp : Int
  batchSize : Nat

namespace CountsCall

/-- The call with all its counts in batches of another size. -/
def inBatchesOf (call : CountsCall) (size : Nat) : CountsCall :=
  { call with batchSize := size }

/-- Whether a call gives a count of a system at a time. -/
def Mentions (call : CountsCall) (asn : Asn) (timestamp : Int) : Prop :=
  call.timestamp = timestamp ∧ asn ∈ call.counts.map Prod.fst

instance (call : CountsCall) (asn : Asn) (timestamp : Int) :
    Decidable (call.Mentions asn timestamp) :=
  inferInstanceAs (Decidable (_ ∧ _))

/-- A table after a call. -/
def put (table : StatsTable) (call : CountsCall) : StatsTable :=
  call.counts.foldl (StatsTable.write call.role call.family call.timestamp) table

/-- The last count that a call gives for a row. -/
def lastAt (call : CountsCall) (key : StatsKey) : Option Nat :=
  lastOf (call.counts.map fun entry => (StatsKey.at entry.1 call.timestamp, entry.2)) key

end CountsCall

/-- A database after calls, and what each of them returns. -/
def storeAll (db : Database) : List CountsCall -> Database × List (Option Nat)
  | [] => (db, [])
  | call :: rest =>
      let stored :=
        db.storeCounts call.role call.family call.counts call.timestamp call.batchSize
      let others := storeAll stored.1 rest
      (others.1, stored.2 :: others.2)

section

variable (calls : List CountsCall) (role : Role) (family : AddressFamily) (asn : Asn)
  (timestamp : Int)

/-- Whether some call mentions a system at a time. -/
def Mentioned : Prop :=
  exists call, call ∈ calls ∧ call.Mentions asn timestamp

/-- Whether some call of a role mentions a system at a time. -/
def MentionedAs : Prop :=
  exists call, call ∈ calls ∧ call.role = role ∧ call.Mentions asn timestamp

instance : Decidable (MentionedAs calls role asn timestamp) :=
  inferInstanceAs (Decidable (∃ call ∈ calls, _))

/-- The counts that calls give for a role and a family at a time. -/
def givenCounts : List (Asn × Nat) :=
  (calls.filter fun call =>
    call.role = role ∧ call.family = family ∧ call.timestamp = timestamp).flatMap
      CountsCall.counts

/-- The last count that calls give for a system, and zero if there is none. -/
def lastCount : Nat :=
  (lastOf (givenCounts calls role family timestamp) asn).getD 0

/-- The statistics of a system at a time that calls give. -/
def givenStats : Stats where
  asn := asn
  isTransit := decide (MentionedAs calls .transit asn timestamp)
  isOrigin := decide (MentionedAs calls .origin asn timestamp)
  transitV4 := lastCount calls .transit .ipv4 asn timestamp
  transitV6 := lastCount calls .transit .ipv6 asn timestamp
  originV4 := lastCount calls .origin .ipv4 asn timestamp
  originV6 := lastCount calls .origin .ipv6 asn timestamp
  timestamp := timestamp

end

/-- The row of a system at a time, and an empty row if there is none. -/
def rowAt (table : StatsTable) (asn : Asn) (timestamp : Int) : StatsRow :=
  table[StatsKey.at asn timestamp]?.getD {}

/-- A table holds what calls give if it has the rows of the systems that they mention,
with the last count of each column and the flags of the roles. -/
structure HoldsCounts (calls : List CountsCall) (table : StatsTable) : Prop where
  mem_iff : forall key, key ∈ table <->
    exists asn timestamp, key = StatsKey.at asn timestamp ∧ Mentioned calls asn timestamp
  count_eq : forall role family asn timestamp,
    (rowAt table asn timestamp).count role family =
      .ofInt (lastCount calls role family asn timestamp)
  flag_eq : forall role asn timestamp,
    (rowAt table asn timestamp).flag role =
      .integer (if MentionedAs calls role asn timestamp then 1 else 0)

variable {db : Database} {table : StatsTable} {calls : List CountsCall} {call : CountsCall}

/-! ## One call -/

namespace CountsCall

theorem lastAt_at (call : CountsCall) (asn : Asn) (timestamp : Int) :
    call.lastAt (StatsKey.at asn timestamp) =
      if call.timestamp = timestamp then lastOf call.counts asn else none := by
  rw [lastAt]
  induction call.counts using List.reverseRecOn with
  | nil => simp [lastOf_nil]
  | append_singleton counts entry ih =>
      rw [List.map_append, List.map_singleton, lastOf_concat, lastOf_concat, ih]
      by_cases sameTime : call.timestamp = timestamp
      · simp [sameTime, StatsKey.at_eq_at_iff]
      · simp [sameTime, StatsKey.at_eq_at_iff, Ne.symm sameTime]

/-- The rows that a call gives counts for are those of the systems that it mentions. -/
theorem lastAt_ne_none_iff {key : StatsKey} :
    call.lastAt key ≠ none <->
      exists asn timestamp, key = StatsKey.at asn timestamp ∧ call.Mentions asn timestamp := by
  rw [lastAt, Ne, lastOf_eq_none_iff, not_not, List.map_map]
  constructor
  · intro listed
    rcases List.mem_map.mp listed with ⟨entry, member, rfl⟩
    exact ⟨entry.1, call.timestamp, rfl, rfl, List.mem_map_of_mem member⟩
  · rintro ⟨asn, timestamp, rfl, rfl, mentioned⟩
    rcases List.mem_map.mp mentioned with ⟨entry, member, rfl⟩
    exact List.mem_map_of_mem member

theorem lastAt_at_ne_none_iff {asn : Asn} {timestamp : Int} :
    call.lastAt (StatsKey.at asn timestamp) ≠ none <-> call.Mentions asn timestamp := by
  rw [lastAt_ne_none_iff]
  constructor
  · rintro ⟨other, time, same, mentions⟩
    rcases StatsKey.at_eq_at_iff.mp same with ⟨rfl, rfl⟩
    exact mentions
  · exact fun mentions => ⟨asn, timestamp, rfl, mentions⟩

theorem getElem?_put (table : StatsTable) (call : CountsCall) (key : StatsKey) :
    (put table call)[key]? =
      match call.lastAt key with
      | none => table[key]?
      | some count =>
          some ((table[key]?.getD {}).record call.role call.family (.ofInt count)) := by
  by_cases inTime : exists asn, key = StatsKey.at asn call.timestamp
  · rcases inTime with ⟨asn, rfl⟩
    have last : call.lastAt (StatsKey.at asn call.timestamp) = lastOf call.counts asn := by
      rw [lastAt_at, if_pos rfl]
    rw [last]
    exact getElem?_foldl_write call.counts table asn
  · have other : forall asn, StatsKey.at asn call.timestamp ≠ key :=
      fun asn same => inTime ⟨asn, same.symm⟩
    have absent : call.lastAt key = none := by
      by_contra given
      rcases lastAt_ne_none_iff.mp given with ⟨asn, _, rfl, rfl, _⟩
      exact inTime ⟨asn, rfl⟩
    rw [put, getElem?_foldl_write_of_ne _ _ other, absent]

theorem rowAt_put (table : StatsTable) (call : CountsCall) (asn : Asn) (timestamp : Int) :
    rowAt (put table call) asn timestamp =
      match call.lastAt (StatsKey.at asn timestamp) with
      | none => rowAt table asn timestamp
      | some count =>
          (rowAt table asn timestamp).record call.role call.family (.ofInt count) := by
  rw [rowAt, getElem?_put]
  cases call.lastAt (StatsKey.at asn timestamp) <;> rfl

theorem mem_put_iff {key : StatsKey} :
    key ∈ put table call <-> key ∈ table ∨ call.lastAt key ≠ none := by
  rw [ExtTreeMap.mem_iff_isSome_getElem?, ExtTreeMap.mem_iff_isSome_getElem?, getElem?_put]
  cases call.lastAt key <;> simp

/-- A call that is repeated at once changes nothing. -/
theorem put_put (table : StatsTable) (call : CountsCall) :
    put (put table call) call = put table call := by
  apply ExtTreeMap.ext_getElem?
  intro key
  rw [getElem?_put, getElem?_put]
  cases call.lastAt key with
  | none => rfl
  | some count => simp [StatsRow.record_record]

/-- Calls for different columns, or for different times, may change places. -/
theorem put_comm (table : StatsTable) {first second : CountsCall}
    (apart : (first.role, first.family) ≠ (second.role, second.family) ∨
      first.timestamp ≠ second.timestamp) :
    put (put table first) second = put (put table second) first := by
  apply ExtTreeMap.ext_getElem?
  intro key
  rw [getElem?_put, getElem?_put, getElem?_put, getElem?_put]
  cases atFirst : first.lastAt key with
  | none => rfl
  | some count =>
      cases atSecond : second.lastAt key with
      | none => rfl
      | some other =>
          -- Both calls write the row, so they are for one time and for different columns.
          have sameTime : first.timestamp = second.timestamp := by
            rcases lastAt_ne_none_iff.mp (Option.ne_none_iff_exists'.mpr ⟨count, atFirst⟩) with
              ⟨asn, time, rfl, inFirst, _⟩
            rcases lastAt_ne_none_iff.mp (Option.ne_none_iff_exists'.mpr ⟨other, atSecond⟩) with
              ⟨system, later, same, inSecond, _⟩
            rw [inFirst, inSecond, (StatsKey.at_eq_at_iff.mp same).2]
          have columns := apart.resolve_right (not_not.mpr sameTime)
          simp [StatsRow.record_comm _ columns]

end CountsCall

/-! ## Calls one after the other -/

theorem storeAll_eq (hasStats : db.stats = some table) (calls : List CountsCall) :
    storeAll db calls =
      ({ db with stats := some (calls.foldl CountsCall.put table) },
        calls.map fun call => some call.counts.length) := by
  induction calls generalizing db table with
  | nil =>
      have here : { db with stats := some table } = db := by rw [← hasStats]
      rw [storeAll, List.foldl_nil, here]
      rfl
  | cons call rest ih =>
      rw [storeAll, storeCounts_eq hasStats]
      dsimp only
      rw [ih rfl]
      rfl

/-- The sizes of batches leave no trace. -/
theorem storeAll_eq_of_sameCounts (hasStats : db.stats = some table) {others : List CountsCall}
    {size : Nat} (sameCounts : others.map (·.inBatchesOf size) = calls.map (·.inBatchesOf size)) :
    storeAll db others = storeAll db calls := by
  have resized (calls : List CountsCall) :
      storeAll db calls = storeAll db (calls.map (·.inBatchesOf size)) := by
    rw [storeAll_eq hasStats, storeAll_eq hasStats, List.foldl_map, List.map_map]
    rfl
  rw [resized others, sameCounts, ← resized calls]

theorem mentioned_concat {asn : Asn} {timestamp : Int} :
    Mentioned (calls ++ [call]) asn timestamp <->
      Mentioned calls asn timestamp ∨ call.Mentions asn timestamp := by
  simp [Mentioned, or_and_right, exists_or]

theorem mentionedAs_concat {role : Role} {asn : Asn} {timestamp : Int} :
    MentionedAs (calls ++ [call]) role asn timestamp <->
      MentionedAs calls role asn timestamp ∨
        call.role = role ∧ call.Mentions asn timestamp := by
  simp [MentionedAs, or_and_right, exists_or]

/-- The last count is that of the last call, if it is for the column and gives one. -/
theorem lastCount_concat (calls : List CountsCall) (call : CountsCall) (role : Role)
    (family : AddressFamily) (asn : Asn) (timestamp : Int) :
    lastCount (calls ++ [call]) role family asn timestamp =
      if call.role = role ∧ call.family = family then
        (call.lastAt (StatsKey.at asn timestamp)).getD (lastCount calls role family asn timestamp)
      else lastCount calls role family asn timestamp := by
  have given : givenCounts (calls ++ [call]) role family timestamp =
      givenCounts calls role family timestamp ++
        if call.role = role ∧ call.family = family ∧ call.timestamp = timestamp then
          call.counts
        else [] := by
    rw [givenCounts, List.filter_append, List.flatMap_append, givenCounts]
    by_cases forColumn :
        call.role = role ∧ call.family = family ∧ call.timestamp = timestamp
    · simp [forColumn]
    · simp [forColumn]
  rw [lastCount, given, lastOf_append, CountsCall.lastAt_at]
  by_cases forColumn : call.role = role ∧ call.family = family
  · by_cases sameTime : call.timestamp = timestamp
    · rw [if_pos forColumn, if_pos sameTime, if_pos ⟨forColumn.1, forColumn.2, sameTime⟩]
      cases lastOf call.counts asn <;> rfl
    · rw [if_pos forColumn, if_neg sameTime, if_neg fun all => sameTime all.2.2]
      rfl
  · rw [if_neg forColumn, if_neg fun all => forColumn ⟨all.1, all.2.1⟩]
    rfl

namespace HoldsCounts

theorem empty : HoldsCounts [] ∅ where
  mem_iff := by simp [Mentioned]
  count_eq := by
    intro role family asn timestamp
    have noCount : lastCount [] role family asn timestamp = 0 := rfl
    rw [noCount, Datum.ofInt_eq_integer (by decide) (by decide)]
    cases role <;> cases family <;> rfl
  flag_eq := by
    intro role asn timestamp
    rw [if_neg (by simp [MentionedAs])]
    cases role <;> rfl

/-- A table holds what one more call gives after this call. -/
theorem put (holds : HoldsCounts calls table) (call : CountsCall) :
    HoldsCounts (calls ++ [call]) (CountsCall.put table call) where
  mem_iff := by
    intro key
    simp only [CountsCall.mem_put_iff, holds.mem_iff, CountsCall.lastAt_ne_none_iff,
      mentioned_concat, and_or_left, exists_or]
  count_eq := by
    intro role family asn timestamp
    -- Only a row that the call gives a count for changes, and there only the call's column.
    rw [CountsCall.rowAt_put, lastCount_concat]
    cases call.lastAt (StatsKey.at asn timestamp) with
    | none => simp [holds.count_eq]
    | some count =>
        dsimp only
        rw [StatsRow.count_record, holds.count_eq, Option.getD_some]
        split_ifs <;> rfl
  flag_eq := by
    intro role asn timestamp
    rw [CountsCall.rowAt_put]
    simp only [mentionedAs_concat, ← CountsCall.lastAt_at_ne_none_iff]
    cases call.lastAt (StatsKey.at asn timestamp) with
    | none => simp [holds.flag_eq]
    | some count =>
        dsimp only
        rw [StatsRow.flag_record, holds.flag_eq]
        by_cases ofRole : call.role = role <;> simp [ofRole]

end HoldsCounts

theorem holds_foldl_put (calls : List CountsCall) :
    HoldsCounts calls (calls.foldl CountsCall.put ∅) := by
  -- What was given last is known from the end of the calls.
  induction calls using List.reverseRecOn with
  | nil => exact HoldsCounts.empty
  | append_singleton calls call ih =>
      rw [List.foldl_append]
      exact ih.put call

/-! ## The latest row -/

/-- The rows of a system are listed by time. -/
theorem compare_at_lt_iff {asn : Asn} {s t : Int} :
    compare (StatsKey.at asn s) (StatsKey.at asn t) = .lt <-> s < t := by
  change (compare (Datum.integer asn.toInt) (Datum.integer asn.toInt)).then
    (compare (Datum.integer s) (Datum.integer t)) = .lt <-> s < t
  rw [compare_self, Datum.compare_integer]
  exact compare_eq_lt

theorem mem_statsOf_iff {asn : Asn} {key : StatsKey} {row : StatsRow} :
    (key, row) ∈ Database.statsOf table asn <->
      table[key]? = some row ∧ key.asn = .integer asn.toInt := by
  rw [Database.statsOf, List.mem_filter, ExtTreeMap.mem_toList_iff_getElem?_eq_some, beq_iff_eq]

/-- The last row of a system comes after all others. -/
theorem compare_of_getLast?_statsOf {asn : Asn} {last entry : StatsKey × StatsRow}
    (isLast : (Database.statsOf table asn).getLast? = some last)
    (member : entry ∈ Database.statsOf table asn) :
    entry = last ∨ compare entry.1 last.1 = .lt := by
  rcases List.getLast?_eq_some_iff.mp isLast with ⟨front, shape⟩
  have ordered : (front ++ [last]).Pairwise fun a b => compare a.1 b.1 = .lt := by
    rw [← shape]
    exact ExtTreeMap.ordered_keys_toList.filter _
  rw [shape] at member
  rcases List.mem_append.mp member with before | now
  · exact Or.inr ((List.pairwise_append.mp ordered).2.2 entry before last (by simp))
  · exact Or.inl (List.mem_singleton.mp now)

/-- The counts of a row can be read back. -/
def SmallCounts (calls : List CountsCall) : Prop :=
  forall call, call ∈ calls -> forall entry, entry ∈ call.counts -> (entry.2 : Int) < exactBound

theorem SmallCounts.ofInt_lastCount (small : SmallCounts calls) (role : Role)
    (family : AddressFamily) (asn : Asn) (timestamp : Int) :
    Datum.ofInt (lastCount calls role family asn timestamp) =
      .integer (lastCount calls role family asn timestamp) := by
  apply Datum.ofInt_eq_integer
  · have nonneg := Int.natCast_nonneg (lastCount calls role family asn timestamp)
    have low : -exactBound ≤ 0 := by decide
    omega
  · rw [lastCount]
    cases given : lastOf (givenCounts calls role family timestamp) asn with
    | none => decide
    | some count =>
        rcases List.mem_flatMap.mp (mem_of_lastOf_eq_some given) with ⟨call, selected, entry⟩
        have bounded := small call (List.mem_filter.mp selected).1 (asn, count) entry
        rw [Option.getD_some]
        exact bounded

theorem HoldsCounts.ofRow_rowAt (holds : HoldsCounts calls table) (small : SmallCounts calls)
    (asn : Asn) (timestamp : Int) :
    Stats.ofRow (StatsKey.at asn timestamp) (rowAt table asn timestamp) =
      some (givenStats calls asn timestamp) := by
  have count (role : Role) (family : AddressFamily) :
      readCount ((rowAt table asn timestamp).count role family) =
        some (lastCount calls role family asn timestamp) := by
    rw [holds.count_eq, small.ofInt_lastCount]
    simp [readCount, Datum.integer?]
  -- These are the columns as they are read back, one after the other.
  have transitV4 := count .transit .ipv4
  have transitV6 := count .transit .ipv6
  have originV4 := count .origin .ipv4
  have originV6 := count .origin .ipv6
  have isTransit := holds.flag_eq .transit asn timestamp
  have isOrigin := holds.flag_eq .origin asn timestamp
  have system : readAsn (StatsKey.at asn timestamp).asn = some asn := readAsn_eq_some_iff.mpr rfl
  have time : (StatsKey.at asn timestamp).timestamp.integer? = some timestamp := rfl
  simp only [StatsRow.count] at transitV4 transitV6 originV4 originV6
  simp only [StatsRow.flag] at isTransit isOrigin
  rw [Stats.ofRow, system, isTransit, isOrigin, transitV4, transitV6, originV4, originV6, time]
  by_cases transit : MentionedAs calls .transit asn timestamp <;>
    by_cases origin : MentionedAs calls .origin asn timestamp <;>
      simp [givenStats, Datum.integer?, transit, origin]

theorem HoldsCounts.getElem?_eq_some_iff (holds : HoldsCounts calls table)
    (small : SmallCounts calls) {key : StatsKey} {row : StatsRow} :
    table[key]? = some row <->
      exists asn timestamp, key = StatsKey.at asn timestamp ∧ Mentioned calls asn timestamp ∧
        (forall role family, row.count role family =
          .integer (lastCount calls role family asn timestamp)) ∧
        forall role, row.flag role =
          .integer (if MentionedAs calls role asn timestamp then 1 else 0) := by
  constructor
  · intro found
    have member : key ∈ table := ExtTreeMap.mem_iff_isSome_getElem?.mpr (by simp [found])
    rcases (holds.mem_iff key).mp member with ⟨asn, timestamp, rfl, mentioned⟩
    have here : rowAt table asn timestamp = row := by rw [rowAt, found, Option.getD_some]
    refine ⟨asn, timestamp, rfl, mentioned, ?_, ?_⟩
    · intro role family
      rw [← here, holds.count_eq, small.ofInt_lastCount]
    · intro role
      rw [← here, holds.flag_eq]
  · rintro ⟨asn, timestamp, rfl, mentioned, counts, flags⟩
    have member := (holds.mem_iff _).mpr ⟨asn, timestamp, rfl, mentioned⟩
    have same : rowAt table asn timestamp = row := by
      apply StatsRow.ext_columns
      · intro role family
        rw [holds.count_eq, small.ofInt_lastCount, counts]
      · intro role
        rw [holds.flag_eq, flags]
    rw [rowAt, ExtTreeMap.getElem?_eq_some_getElem member, Option.getD_some] at same
    rw [ExtTreeMap.getElem?_eq_some_getElem member, same]

/-- The latest row of a system is the one of the greatest time at which a call mentions it. -/
theorem latest_of_holds (hasStats : db.stats = some table) (holds : HoldsCounts calls table)
    (small : SmallCounts calls) (asn : Asn) :
    (forall timestamp, ¬ Mentioned calls asn timestamp) ∧ db.latest asn = none ∨
      exists timestamp, IsGreatest {time | Mentioned calls asn time} timestamp ∧
        db.latest asn = some (givenStats calls asn timestamp) := by
  have listed (time : Int) (mentioned : Mentioned calls asn time) :
      exists row, (StatsKey.at asn time, row) ∈ Database.statsOf table asn := by
    have member := (holds.mem_iff (StatsKey.at asn time)).mpr ⟨asn, time, rfl, mentioned⟩
    exact ⟨table[StatsKey.at asn time],
      mem_statsOf_iff.mpr ⟨ExtTreeMap.getElem?_eq_some_getElem member, rfl⟩⟩
  rw [Database.latest, hasStats]
  cases isLast : (Database.statsOf table asn).getLast? with
  | none =>
      left
      refine ⟨?_, by simp [isLast]⟩
      intro time mentioned
      rcases listed time mentioned with ⟨row, member⟩
      rw [List.getLast?_eq_none_iff.mp isLast] at member
      cases member
  | some last =>
      right
      have member : last ∈ Database.statsOf table asn := List.mem_of_getLast? isLast
      rcases mem_statsOf_iff.mp member with ⟨found, ofAsn⟩
      have present : last.1 ∈ table := ExtTreeMap.mem_iff_isSome_getElem?.mpr (by simp [found])
      rcases (holds.mem_iff last.1).mp present with ⟨system, timestamp, atKey, mentioned⟩
      have sameAsn : system = asn := by
        rw [atKey] at ofAsn
        exact Asn.toInt_inj (Datum.integer.inj ofAsn)
      subst sameAsn
      refine ⟨timestamp, ⟨mentioned, ?_⟩, ?_⟩
      · intro time earlier
        rcases listed time earlier with ⟨row, stored⟩
        rcases compare_of_getLast?_statsOf isLast stored with same | before
        · rw [← same] at atKey
          exact (StatsKey.at_eq_at_iff.mp atKey).2.le
        · rw [atKey, compare_at_lt_iff] at before
          exact before.le
      · have row : rowAt table system timestamp = last.2 := by
          rw [rowAt, ← atKey, found, Option.getD_some]
        rw [← holds.ofRow_rowAt small, row, ← atKey]
        simp [isLast]

/-- Calls that store counts in an empty table leave one row for each system and time that
they mention, which holds the last count that was given for each column.  So it does not
matter in which batches counts are stored, whether a call is repeated at once, or in which
order calls for different columns or times are made; and the latest row of a system is
read back. -/
theorem stored_counts_are_last_given (hasStats : db.stats = some ∅) (small : SmallCounts calls) :
    exists final : Database,
      storeAll db calls = (final, calls.map fun call => some call.counts.length) ∧
      (exists table, final = { db with stats := some table } ∧ forall key row,
        table[key]? = some row <->
          exists asn timestamp, key = StatsKey.at asn timestamp ∧
            Mentioned calls asn timestamp ∧
            (forall role family, row.count role family =
              .integer (lastCount calls role family asn timestamp)) ∧
            forall role, row.flag role =
              .integer (if MentionedAs calls role asn timestamp then 1 else 0)) ∧
      (forall others size, others.map (·.inBatchesOf size) = calls.map (·.inBatchesOf size) ->
        storeAll db others = storeAll db calls) ∧
      (forall before call after, calls = before ++ call :: after ->
        (storeAll db (before ++ call :: call :: after)).1 = final) ∧
      (forall before first second after, calls = before ++ first :: second :: after ->
        ((first.role, first.family) ≠ (second.role, second.family) ∨
          first.timestamp ≠ second.timestamp) ->
        (storeAll db (before ++ second :: first :: after)).1 = final) ∧
      forall asn,
        (forall timestamp, ¬ Mentioned calls asn timestamp) ∧ final.latest asn = none ∨
        exists timestamp, IsGreatest {time | Mentioned calls asn time} timestamp ∧
          final.latest asn = some (givenStats calls asn timestamp) := by
  have holds := holds_foldl_put calls
  refine ⟨_, storeAll_eq hasStats calls, ⟨_, rfl, ?_⟩, ?_, ?_, ?_, ?_⟩
  · intro key row
    exact holds.getElem?_eq_some_iff small
  · intro others size sameCounts
    exact storeAll_eq_of_sameCounts hasStats sameCounts
  · rintro before call after rfl
    rw [storeAll_eq hasStats]
    simp only [List.foldl_append, List.foldl_cons, CountsCall.put_put]
  · rintro before first second after rfl apart
    rw [storeAll_eq hasStats]
    simp only [List.foldl_append, List.foldl_cons, CountsCall.put_comm _ apart]
  · exact latest_of_holds rfl holds small

/-- Calls that count a system as an origin twice, and as a transit in between. -/
def callsAtTwoTimes : List CountsCall :=
  [⟨.origin, .ipv4, [(13335, 1), (13335, 2)], 100, 0⟩, ⟨.transit, .ipv6, [(13335, 5)], 100, 1⟩,
    ⟨.origin, .ipv4, [(13335, 7)], 200, 2⟩]

theorem stored_counts_at_two_times :
    SmallCounts callsAtTwoTimes ∧
      (storeAll { stats := some ∅ } callsAtTwoTimes).2 = [some 2, some 1, some 1] ∧
      (storeAll { stats := some ∅ } callsAtTwoTimes).1.latest 13335 =
        some ⟨13335, false, true, 0, 0, 7, 0, 200⟩ := by
  have small : SmallCounts callsAtTwoTimes := by
    unfold SmallCounts
    decide
  rcases @stored_counts_are_last_given { stats := some ∅ } _ rfl small with
    ⟨final, stored, _, _, _, _, latest⟩
  rw [stored]
  refine ⟨small, rfl, ?_⟩
  have mentioned : Mentioned callsAtTwoTimes 13335 200 := by
    simp [Mentioned, callsAtTwoTimes, CountsCall.Mentions]
  rcases latest 13335 with ⟨never, _⟩ | ⟨timestamp, greatest, read⟩
  · exact absurd mentioned (never 200)
  · have late : timestamp = 200 := by
      have atLeast : 200 ≤ timestamp := greatest.2 mentioned
      have known := greatest.1
      simp [Mentioned, callsAtTwoTimes, CountsCall.Mentions] at known
      omega
    rw [late] at read
    rw [read]
    decide

end Store
end AsCensus
