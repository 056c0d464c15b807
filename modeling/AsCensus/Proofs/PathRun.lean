import AsCensus.Job.Statistics
import AsCensus.Proofs.StatsWrites

namespace AsCensus
namespace Job

open Std
open Store

/-!
# A run that conditions paths

A run in the path mode takes four steps over one table of statistics.  Each step counts
what the source tables announce, which no step changes, and records its exact counts in a
column of its own.  The steps therefore do not disturb each other: the row of a system is
worked on by one step after the other (`runSteps_path`), and in the end it holds the four
numbers of the system.

Because a step records the same count whenever it is taken, a second run with the same
timestamp finds every row as it would leave it.
-/

variable {db : Database} {rib : RibTable} {paths : PathTable} {table : StatsTable}

/-- The numbers of a system, by role and family. -/
noncomputable def numbersOf (rib : RibTable) (paths : PathTable) (asn : Asn) (role : Role)
    (family : AddressFamily) : Nat :=
  announcedCount rib paths role family asn

/-- What a step makes of the row of a system that has given numbers. -/
def recordNumber (asn : Asn) (number : Role -> AddressFamily -> Nat) (row : Option StatsRow)
    (step : Step) : Option StatsRow :=
  if asn.isReserved = false ∧ 0 < number step.role step.family then
    some ((row.getD {}).record step.role step.family (.ofInt (number step.role step.family)))
  else row

variable (settings : StatisticsSettings) (timestamp : Int)

/-- A step in the path mode stores exact counts. -/
theorem Step.run_path_counts (hasRib : db.rib = some rib) (hasPaths : db.paths = some paths)
    (hasStats : db.stats = some table)
    (readable : forall family, ReadableOrigins rib paths family) (step : Step) :
    exists counts, ExactCounts counts (announcedCount rib paths step.role step.family) ∧
      step.run settings .path timestamp db =
        ({ db with
            stats := some (counts.foldl (StatsTable.write step.role step.family timestamp) table) },
          some counts.length) := by
  rcases step with ⟨role, family⟩
  cases role with
  | origin =>
      rcases originCounts_eq hasRib hasPaths (readable family) with ⟨counts, counted, exactly⟩
      refine ⟨counts, exactly, ?_⟩
      simp only [Step.run, refreshOrigins, counted]
      exact storeCounts_eq hasStats .origin family counts timestamp settings.batchSize
  | transit =>
      rcases transitCounts_eq hasRib hasPaths (readable family) Tally.empty with
        ⟨tally, counted, get, _⟩
      refine ⟨tally.toList.filter fun entry => 0 < entry.2, ?_, ?_⟩
      · apply exactCounts_of_get
        · intro asn
          rw [get, Tally.get_empty, Nat.zero_add]
        · intro asn positive
          exact not_reserved_of_transit_pos positive
      · simp only [Step.run, refreshTransit, transitTally, counted]
        exact storeCounts_eq hasStats .transit family _ timestamp settings.batchSize

/-- A step works on the row of each system, and on no other row. -/
theorem Step.run_path (hasRib : db.rib = some rib) (hasPaths : db.paths = some paths)
    (hasStats : db.stats = some table)
    (readable : forall family, ReadableOrigins rib paths family) (step : Step) :
    exists after written,
      step.run settings .path timestamp db = ({ db with stats := some after }, some written) ∧
      (forall asn, after[StatsKey.at asn timestamp]? =
        recordNumber asn (numbersOf rib paths asn) table[StatsKey.at asn timestamp]? step) ∧
      (forall key, (forall asn, StatsKey.at asn timestamp ≠ key) -> after[key]? = table[key]?) := by
  rcases step.run_path_counts settings timestamp hasRib hasPaths hasStats readable with
    ⟨counts, exactly, ran⟩
  refine ⟨_, _, ran, ?_, ?_⟩
  · intro asn
    exact getElem?_write_exact exactly table asn
  · intro key other
    exact getElem?_foldl_write_of_ne counts table other

/-- Steps work on the row of each system one after the other. -/
theorem runSteps_path (hasRib : db.rib = some rib) (hasPaths : db.paths = some paths)
    (hasStats : db.stats = some table)
    (readable : forall family, ReadableOrigins rib paths family) (steps : List Step) :
    exists after,
      (runSteps settings .path timestamp db steps).1 = { db with stats := some after } ∧
      (forall report, report ∈ (runSteps settings .path timestamp db steps).2 ->
        report.rows.isSome) ∧
      (forall asn, after[StatsKey.at asn timestamp]? =
        steps.foldl (recordNumber asn (numbersOf rib paths asn)) table[StatsKey.at asn timestamp]?) ∧
      (forall key, (forall asn, StatsKey.at asn timestamp ≠ key) -> after[key]? = table[key]?) := by
  induction steps generalizing db table with
  | nil =>
      refine ⟨table, ?_, ?_, ?_, ?_⟩
      · simp [runSteps, ← hasStats]
      · simp [runSteps]
      · intro asn
        rfl
      · intro key _
        rfl
  | cons step rest ih =>
      rcases step.run_path settings timestamp hasRib hasPaths hasStats readable with
        ⟨middle, written, ran, rows, frame⟩
      rcases @ih { db with stats := some middle } middle hasRib hasPaths rfl with
        ⟨after, final, succeeded, laterRows, laterFrame⟩
      refine ⟨after, ?_, ?_, ?_, ?_⟩
      · simp only [runSteps, ran]
        exact final
      · intro report member
        simp only [runSteps, ran, List.mem_cons] at member
        rcases member with rfl | later
        · rfl
        · exact succeeded report later
      · intro asn
        rw [laterRows, rows, List.foldl_cons]
      · intro key other
        rw [laterFrame key other, frame key other]

/-! ## The row of a system -/

/-- The row that holds the numbers of a system.  A role is marked where one of its
numbers is positive. -/
def rowOfNumbers (number : Role -> AddressFamily -> Nat) : StatsRow where
  isTransit := .integer (if 0 < number .transit .ipv4 + number .transit .ipv6 then 1 else 0)
  isOrigin := .integer (if 0 < number .origin .ipv4 + number .origin .ipv6 then 1 else 0)
  transitV4 := .ofInt (number .transit .ipv4)
  transitV6 := .ofInt (number .transit .ipv6)
  originV4 := .ofInt (number .origin .ipv4)
  originV6 := .ofInt (number .origin .ipv6)

/-- A count that is an integer of 64 bits is stored as it is. -/
theorem count_rowOfNumbers {number : Role -> AddressFamily -> Nat} {role : Role}
    {family : AddressFamily} (small : (number role family : Int) < exactBound) :
    (rowOfNumbers number).count role family = .integer (number role family) := by
  have columns (stored : Role -> AddressFamily -> Datum) (transit origin : Datum) :
      StatsRow.count ⟨transit, origin, stored .transit .ipv4, stored .transit .ipv6,
        stored .origin .ipv4, stored .origin .ipv6⟩ role family = stored role family := by
    cases role <;> cases family <;> rfl
  have stored := Datum.ofInt_eq_integer (by unfold exactBound; omega) small
  rw [← stored]
  exact columns (fun role family => .ofInt (number role family)) _ _

theorem Step.all_eq : Step.all =
    [⟨.origin, .ipv4⟩, ⟨.origin, .ipv6⟩, ⟨.transit, .ipv4⟩, ⟨.transit, .ipv6⟩] := rfl

/-- Whether one of the numbers of a system is positive. -/
def isCounted (number : Role -> AddressFamily -> Nat) : Bool :=
  0 < number .origin .ipv4 || 0 < number .origin .ipv6 || 0 < number .transit .ipv4 ||
    0 < number .transit .ipv6

/-- The steps together make a row of the numbers of a public system, if one is positive. -/
theorem foldl_recordNumber_none (asn : Asn) (number : Role -> AddressFamily -> Nat) :
    Step.all.foldl (recordNumber asn number) none =
      if asn.isReserved = false ∧ isCounted number then some (rowOfNumbers number) else none := by
  have zero : Datum.ofInt ((0 : Nat) : Int) = .integer 0 :=
    Datum.ofInt_eq_integer (by decide) (by decide)
  simp only [Step.all_eq, List.foldl_cons, List.foldl_nil, recordNumber, isCounted, rowOfNumbers]
  cases asn.isReserved with
  | true => simp
  | false =>
      rcases Nat.eq_zero_or_pos (number .origin .ipv4) with o4 | o4 <;>
        rcases Nat.eq_zero_or_pos (number .origin .ipv6) with o6 | o6 <;>
          rcases Nat.eq_zero_or_pos (number .transit .ipv4) with t4 | t4 <;>
            rcases Nat.eq_zero_or_pos (number .transit .ipv6) with t6 | t6 <;>
              simp only [o4, o6, t4, t6, zero] <;> simp [StatsRow.record, *]

/-- Taking the steps again leaves a row as it is. -/
theorem foldl_recordNumber_twice (asn : Asn) (number : Role -> AddressFamily -> Nat)
    (row : Option StatsRow) :
    Step.all.foldl (recordNumber asn number) (Step.all.foldl (recordNumber asn number) row) =
      Step.all.foldl (recordNumber asn number) row := by
  simp only [Step.all_eq, List.foldl_cons, List.foldl_nil, recordNumber]
  split_ifs <;> simp only [StatsRow.record, Option.getD_some]

/-! ## The run -/

/-- A second run with the same timestamp changes nothing. -/
theorem runStatistics_twice (hasRib : db.rib = some rib) (hasPaths : db.paths = some paths)
    (hasStats : db.stats = some table)
    (readable : forall family, ReadableOrigins rib paths family) :
    (runStatistics settings .path timestamp (runStatistics settings .path timestamp db).1).1 =
      (runStatistics settings .path timestamp db).1 := by
  rcases runSteps_path settings timestamp hasRib hasPaths hasStats readable Step.all with
    ⟨after, ran, _, rows, _⟩
  rcases @runSteps_path { db with stats := some after } rib paths after settings timestamp hasRib
    hasPaths rfl readable Step.all with ⟨again, ranAgain, _, rowsAgain, frameAgain⟩
  have same : again = after := by
    apply ExtTreeMap.ext_getElem?
    intro key
    by_cases ofSystem : exists asn, StatsKey.at asn timestamp = key
    · rcases ofSystem with ⟨asn, rfl⟩
      rw [rowsAgain, rows, foldl_recordNumber_twice]
    · exact frameAgain key fun asn same => ofSystem ⟨asn, same⟩
  change (runSteps settings .path timestamp (runSteps settings .path timestamp db Step.all).1
    Step.all).1 = (runSteps settings .path timestamp db Step.all).1
  rw [ran, ranAgain, same]

/-- A run in the path mode, with a timestamp that no row has yet, stores the numbers of
each public system that has a positive one.  It leaves rows with other timestamps and
the other tables as they are, no step of it fails, and a second run changes nothing. -/
theorem path_run_stores_exact_numbers (db : Database) (hasRib : db.rib = some rib)
    (hasPaths : db.paths = some paths) (hasStats : db.stats = some table)
    (readable : forall (id : PathId) (path : PathRow), paths[id]? = some path ->
      (readAsn path.origin).isSome)
    (unused : forall (key : StatsKey) (row : StatsRow), table[key]? = some row ->
      key.timestamp ≠ .integer timestamp) :
    exists after : StatsTable,
      (runStatistics settings .path timestamp db).1 = { db with stats := some after } ∧
      (forall asn, after[StatsKey.at asn timestamp]? =
        if asn.isReserved = false ∧ isCounted (numbersOf rib paths asn) then
          some (rowOfNumbers (numbersOf rib paths asn))
        else none) ∧
      (forall asn role family, (numbersOf rib paths asn role family : Int) < exactBound ->
        (rowOfNumbers (numbersOf rib paths asn)).count role family =
          .integer (numbersOf rib paths asn role family)) ∧
      (forall (key : StatsKey) (row : StatsRow), after[key]? = some row ->
        key.timestamp = .integer timestamp -> exists asn, key = StatsKey.at asn timestamp) ∧
      (forall key : StatsKey, key.timestamp ≠ .integer timestamp -> after[key]? = table[key]?) ∧
      (runStatistics settings .path timestamp db).2.failures = 0 ∧
      (runStatistics settings .path timestamp (runStatistics settings .path timestamp db).1).1 =
        (runStatistics settings .path timestamp db).1 := by
  have readsOrigins (family : AddressFamily) : ReadableOrigins rib paths family :=
    readableOrigins_of_paths rib family readable
  rcases runSteps_path settings timestamp hasRib hasPaths hasStats readsOrigins Step.all with
    ⟨after, ran, succeeded, rows, frame⟩
  have fresh (asn : Asn) : table[StatsKey.at asn timestamp]? = none := by
    cases present : table[StatsKey.at asn timestamp]? with
    | none => rfl
    | some row => exact absurd rfl (unused _ row present)
  have elsewhere (key : StatsKey) (otherTime : key.timestamp ≠ .integer timestamp) (asn : Asn) :
      StatsKey.at asn timestamp ≠ key := by
    rintro rfl
    exact otherTime rfl
  refine ⟨after, ran, ?_, ?_, ?_, ?_, ?_, ?_⟩
  · intro asn
    rw [rows, fresh, foldl_recordNumber_none]
  · intro asn role family small
    exact count_rowOfNumbers small
  · intro key row stored atTime
    by_contra noSystem
    have untouched := frame key fun asn same => noSystem ⟨asn, same.symm⟩
    rw [untouched] at stored
    exact unused key row stored atTime
  · intro key otherTime
    exact frame key (elsewhere key otherTime)
  · have noFailure : forall report,
        report ∈ (runSteps settings .path timestamp db Step.all).2 -> ¬ report.rows.isNone := by
      intro report member
      simpa [Option.isSome_iff_ne_none] using succeeded report member
    exact List.countP_eq_zero.mpr noFailure
  · exact runStatistics_twice settings timestamp hasRib hasPaths hasStats readsOrigins

/-- For a network that two peers report, the run stores that the system between them
and the origin is counted twice. -/
theorem path_run_stores_transit_of_two_peers :
    exists after : StatsTable,
      (runStatistics ⟨.shared, 1, 1⟩ .path 7 twoPeers).1 = { twoPeers with stats := some after } ∧
      after[StatsKey.at 3356 7]? =
        some (rowOfNumbers (numbersOf twoPeersRib twoPeersPaths 3356)) ∧
      (rowOfNumbers (numbersOf twoPeersRib twoPeersPaths 3356)).count .transit .ipv4 =
        .integer 2 := by
  have number : numbersOf twoPeersRib twoPeersPaths 3356 .transit .ipv4 = 2 :=
    announcedCount_twoPeers
  have unused : forall (key : StatsKey) (row : StatsRow),
      (∅ : StatsTable)[key]? = some row -> key.timestamp ≠ .integer 7 := by
    intro key row stored
    simp at stored
  rcases path_run_stores_exact_numbers ⟨.shared, 1, 1⟩ 7 twoPeers rfl rfl rfl
    readable_twoPeersPaths unused with ⟨after, ran, rows, columns, _⟩
  refine ⟨after, ran, ?_, ?_⟩
  · rw [rows, if_pos]
    exact ⟨by decide, by simp [isCounted, number]⟩
  · have stored := columns 3356 .transit .ipv4 (by rw [number]; decide)
    rw [stored, number]
    rfl

end Job
end AsCensus
