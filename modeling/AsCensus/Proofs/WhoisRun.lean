import AsCensus.Job.WhoisWalk
import AsCensus.Proofs.BatchedWrites
import AsCensus.Proofs.WhoisColumns

namespace AsCensus

open Std

/-!
# A walk for WHOIS details

A walk visits systems one after the other.  What it has done after some of them depends on
these alone and not on its pauses: the rows that their lookups found are stored in order, all
queries of the lookups were made, and every system is counted once (`Job.Visited`).  Each
visit keeps to this.

A system that is walked twice is looked up twice with the same result, so that a row is
replaced by itself.  For the same reason a second walk changes nothing
(`Job.storeFound_twice`), also when it leaves out the systems that have a name by then.
-/

namespace Store
namespace Database

/-- Numbers that are all read as systems are the stored forms of these. -/
theorem mapM_readAsn_eq_some_iff {numbers : List Datum} {systems : List Asn} :
    numbers.mapM readAsn = some systems <->
      numbers = systems.map fun asn => Datum.integer asn.toInt := by
  induction numbers generalizing systems with
  | nil => cases systems <;> simp
  | cons number rest ih =>
      cases systems with
      | nil =>
          rw [List.mapM_cons]
          cases readAsn number <;> cases rest.mapM readAsn <;> simp
      | cons asn systems =>
          rw [List.mapM_cons, List.map_cons, List.cons.injEq, ← readAsn_eq_some_iff, ← ih]
          cases readAsn number <;> cases rest.mapM readAsn <;> simp

theorem mem_publicSystems_iff {numbers : List Datum} {systems : List Asn}
    (read : publicSystems numbers = some systems) {asn : Asn} :
    asn ∈ systems <-> Datum.integer asn.toInt ∈ numbers ∧ asn.isReserved = false := by
  rcases Option.map_eq_some_iff.mp read with ⟨all, readAll, rfl⟩
  have listed : Datum.integer asn.toInt ∈ numbers <-> asn ∈ all := by
    rw [mapM_readAsn_eq_some_iff.mp readAll, List.mem_map]
    constructor
    · rintro ⟨other, member, same⟩
      rw [← Asn.toInt_inj (Datum.integer.inj same)]
      exact member
    · intro member
      exact ⟨asn, member, rfl⟩
  rw [listed, List.mem_filter, Bool.not_eq_true']

/-- Of numbers that can be read, any part can be read. -/
theorem publicSystems_filter {numbers : List Datum} {systems : List Asn}
    (read : publicSystems numbers = some systems) (keep : Datum -> Bool) :
    publicSystems (numbers.filter keep) =
      some (systems.filter fun asn => keep (.integer asn.toInt)) := by
  rcases Option.map_eq_some_iff.mp read with ⟨all, readAll, rfl⟩
  have shape := mapM_readAsn_eq_some_iff.mp readAll
  have readKept : (numbers.filter keep).mapM readAsn =
      some (all.filter fun asn => keep (.integer asn.toInt)) := by
    rw [mapM_readAsn_eq_some_iff, shape, List.filter_map]
    rfl
  rw [publicSystems, readKept, Option.map_some, List.filter_comm]

theorem unnamedSystems_eq_some_iff {db : Database} {systems : List Asn} :
    db.unnamedSystems = some systems <->
      exists stats whois, db.stats = some stats ∧ db.whois = some whois ∧
        publicSystems ((countedNumbers stats).filter fun asn => !isNamed whois asn) =
          some systems := by
  simp [unnamedSystems, Option.bind_eq_some_iff]

theorem countedSystems_eq_some_iff {db : Database} {systems : List Asn} :
    db.countedSystems = some systems <->
      exists stats, db.stats = some stats ∧
        publicSystems (countedNumbers stats) = some systems := by
  simp [countedSystems, Option.bind_eq_some_iff]

end Database
end Store

namespace Job

open Store

section
variable {client : Whois.Client} {db : Database} {table : WhoisTable} {asns : List Asn}
variable {total : Nat} {state : WalkState}

/-- Whether the lookup of a system finds a record. -/
def isFound (client : Whois.Client) (asn : Asn) : Bool :=
  (client.lookup asn).record.isSome

/-- Whether the lookup of a system finds a record that has a name which is not empty. -/
def givesName (client : Whois.Client) (asn : Asn) : Bool :=
  (client.lookup asn).record.any fun record => (WhoisRow.ofRecord record).isNamed

/-- The row that the lookup of a system finds, under its key. -/
def foundRow (client : Whois.Client) (asn : Asn) : Option (Int × WhoisRow) :=
  (client.lookup asn).record.map fun record => (asn.toInt, .ofRecord record)

/-- A table after the record of a system is stored, if there is one. -/
def storeRecord (table : WhoisTable) (asn : Asn) (found : Option Whois.Record) : WhoisTable :=
  match found with
  | some record => table.insert asn.toInt (.ofRecord record)
  | none => table

/-- A table after the rows that the lookups of systems find are stored. -/
def storeFound (client : Whois.Client) (table : WhoisTable) (asns : List Asn) : WhoisTable :=
  (asns.filterMap (foundRow client)).foldl (fun table row => table.insert row.1 row.2) table

/-- The database after a walk through systems. -/
def afterWalk (client : Whois.Client) (db : Database) (asns : List Asn) : Database :=
  { db with whois := db.whois.map fun table => storeFound client table asns }

/-- The queries that the lookups of systems make. -/
def queriesOf (client : Whois.Client) (asns : List Asn) : List (Whois.Source × Asn) :=
  asns.flatMap fun asn => (client.lookup asn).asked.map fun source => (source, asn)

/-- The summary after lookups of systems, where rows can be stored or not. -/
def summaryOf (client : Whois.Client) (storable : Bool) (total : Nat) (asns : List Asn) :
    WalkSummary where
  total := total
  updated := if storable then asns.countP (isFound client) else 0
  notFound := asns.countP fun asn => !isFound client asn
  failedWrites := if storable then 0 else asns.countP (isFound client)

/-! ## What is stored -/

theorem mem_foundRows {key : Int} {row : WhoisRow} :
    (key, row) ∈ asns.filterMap (foundRow client) <->
      exists asn, asn ∈ asns ∧ asn.toInt = key ∧
        exists record, (client.lookup asn).record = some record ∧ .ofRecord record = row := by
  rw [List.mem_filterMap]
  refine exists_congr fun asn => and_congr_right fun _ => ?_
  rw [foundRow, Option.map_eq_some_iff]
  constructor
  · rintro ⟨record, found, same⟩
    cases same
    exact ⟨rfl, record, found, rfl⟩
  · rintro ⟨rfl, record, found, rfl⟩
    exact ⟨record, found, rfl⟩

/-- A system whose lookup finds a record has the row of this record. -/
theorem storeFound_of_found (table : WhoisTable) {asn : Asn} {record : Whois.Record}
    (member : asn ∈ asns) (found : (client.lookup asn).record = some record) :
    (storeFound client table asns)[asn.toInt]? = some (.ofRecord record) := by
  rw [storeFound, getElem?_foldl_insert]
  cases last : lastOf (asns.filterMap (foundRow client)) asn.toInt with
  | none =>
      have listed : (asn.toInt, WhoisRow.ofRecord record) ∈ asns.filterMap (foundRow client) :=
        mem_foundRows.mpr ⟨asn, member, rfl, record, found, rfl⟩
      exact absurd (List.mem_map_of_mem listed) (lastOf_eq_none_iff.mp last)
  | some row =>
      -- Whichever visit came last, it found the same record.
      rcases mem_foundRows.mp (mem_of_lastOf_eq_some last) with
        ⟨other, _, key, again, foundAgain, rfl⟩
      rw [Asn.toInt_inj key, found] at foundAgain
      cases foundAgain
      rfl

/-- Where no lookup finds anything, the table keeps its row. -/
theorem storeFound_of_not_found (table : WhoisTable) {key : Int}
    (none : forall asn, asn ∈ asns -> asn.toInt = key -> (client.lookup asn).record = none) :
    (storeFound client table asns)[key]? = table[key]? := by
  rw [storeFound, getElem?_foldl_insert]
  cases last : lastOf (asns.filterMap (foundRow client)) key with
  | none => rfl
  | some row =>
      rcases mem_foundRows.mp (mem_of_lastOf_eq_some last) with
        ⟨asn, member, same, record, found, _⟩
      rw [none asn member same] at found
      cases found

/-- Storing again what some of the lookups find changes nothing. -/
theorem storeFound_twice (table : WhoisTable) {fewer : List Asn} (among : fewer ⊆ asns) :
    storeFound client (storeFound client table asns) fewer = storeFound client table asns := by
  apply ExtTreeMap.ext_getElem?
  intro key
  by_cases visited : exists asn, asn ∈ fewer ∧ asn.toInt = key ∧ isFound client asn = true
  · rcases visited with ⟨asn, member, rfl, isFound⟩
    rcases Option.isSome_iff_exists.mp isFound with ⟨record, found⟩
    rw [storeFound_of_found _ member found, storeFound_of_found _ (among member) found]
  · refine storeFound_of_not_found _ ?_
    intro asn member same
    by_contra some
    exact visited ⟨asn, member, same, Option.isSome_iff_ne_none.mpr some⟩

/-! ## One system -/

theorem storeFound_concat (table : WhoisTable) (asns : List Asn) (asn : Asn) :
    storeFound client table (asns ++ [asn]) =
      storeRecord (storeFound client table asns) asn (client.lookup asn).record := by
  rw [storeFound, List.filterMap_append, List.foldl_append]
  cases found : (client.lookup asn).record with
  | none =>
      have nothing : foundRow client asn = none := by rw [foundRow, found]; rfl
      rw [List.filterMap_cons_none nothing]
      rfl
  | some record =>
      have row : foundRow client asn = some (asn.toInt, .ofRecord record) := by
        rw [foundRow, found]
        rfl
      rw [List.filterMap_cons_some row]
      rfl

theorem isSome_whois_afterWalk (client : Whois.Client) (db : Database) (asns : List Asn) :
    (afterWalk client db asns).whois.isSome = db.whois.isSome := by
  rw [afterWalk, Option.isSome_map]

theorem afterWalk_concat (client : Whois.Client) (db : Database) (asns : List Asn) (asn : Asn) :
    afterWalk client db (asns ++ [asn]) =
      { afterWalk client db asns with
        whois := (afterWalk client db asns).whois.map fun table =>
          storeRecord table asn (client.lookup asn).record } := by
  simp only [afterWalk, storeFound_concat, Option.map_map]
  rfl

/-- What a lookup found is stored if there is a table for it, and counted once: as updated, as
failed to write, or as not found. -/
theorem store_eq (state : WalkState) (asn : Asn) (found : Option Whois.Record) :
    state.store asn found =
      { state with
        db := { state.db with
          whois := state.db.whois.map fun table => storeRecord table asn found }
        summary := { state.summary with
          updated := state.summary.updated + if found.isSome && state.db.whois.isSome then 1 else 0
          notFound := state.summary.notFound + if found.isSome then 0 else 1
          failedWrites :=
            state.summary.failedWrites + if found.isSome && !state.db.whois.isSome then 1 else 0 } } := by
  rcases state with ⟨⟨rib, paths, analysis, stats, whois, routes⟩, summary, queries⟩
  cases found with
  | none => cases whois <;> rfl
  | some record =>
      rw [WalkState.store, Database.replaceWhois_eq]
      cases whois <;> rfl

/-! ## One visit after the other -/

/-- What a walk has done after visiting systems. -/
structure Visited (client : Whois.Client) (db : Database) (total : Nat) (asns : List Asn)
    (state : WalkState) : Prop where
  stored : state.db = afterWalk client db asns
  summary : state.summary = summaryOf client db.whois.isSome total asns
  queries : state.queries = queriesOf client asns
  progress : state.progress = (List.range asns.length).map fun i => (i + 1, total)

theorem visited_nil (client : Whois.Client) (db : Database) (total : Nat) :
    Visited client db total [] { db := db, summary := { total := total } } where
  stored := by
    rcases db with ⟨rib, paths, analysis, stats, whois, routes⟩
    cases whois <;> rfl
  summary := by
    cases storable : db.whois.isSome <;> rfl
  queries := rfl
  progress := rfl

/-- A pause changes nothing. -/
theorem Visited.throttle (visited : Visited client db total asns state) (interval : Nat) :
    Visited client db total asns (state.throttle interval) := by
  rw [WalkState.throttle]
  split
  · exact ⟨visited.stored, visited.summary, visited.queries, visited.progress⟩
  · exact ⟨visited.stored, visited.summary, visited.queries, visited.progress⟩

/-- Visiting a system stores and counts what its lookup finds. -/
theorem Visited.visit (visited : Visited client db total asns state) (interval : Nat) (asn : Asn) :
    Visited client db total (asns ++ [asn]) (state.visit client interval asn) := by
  rw [WalkState.visit]
  apply Visited.throttle
  have length : state.progress.length = asns.length := by simp [visited.progress]
  have storable : state.db.whois.isSome = db.whois.isSome := by
    rw [visited.stored, isSome_whois_afterWalk]
  refine ⟨?_, ?_, ?_, ?_⟩
  · simp only [WalkState.report, store_eq, visited.stored, afterWalk_concat]
  · simp only [WalkState.report, store_eq, visited.summary, storable]
    cases found : (client.lookup asn).record <;> cases db.whois.isSome <;>
      simp [summaryOf, isFound, found]
  · rw [queriesOf, List.flatMap_append, List.flatMap_singleton]
    simp only [WalkState.report, store_eq, visited.queries]
    rfl
  · have sameTotal : state.summary.total = total := by rw [visited.summary]; rfl
    rw [List.length_append, List.length_singleton, List.range_succ, List.map_append,
      ← visited.progress]
    simp only [WalkState.report, store_eq, length, sameTotal]
    rfl

theorem visited_foldl (client : Whois.Client) (interval : Nat) (db : Database) (total : Nat)
    (asns : List Asn) :
    Visited client db total asns
      (asns.foldl (WalkState.visit client interval) { db := db, summary := { total := total } }) := by
  -- From the end, since `Visited` is about all visits so far.
  induction asns using List.reverseRecOn with
  | nil => exact visited_nil client db total
  | append_singleton asns asn ih =>
      rw [List.foldl_append]
      exact ih.visit interval asn

theorem visited_walk (client : Whois.Client) (interval : Nat) (db : Database) (asns : List Asn) :
    Visited client db asns.length asns (walk client interval db asns) :=
  visited_foldl client interval db asns.length asns

theorem runWalk_eq {interval : Nat} {options : WalkOptions}
    (listed : walkList db options = .ok asns) :
    runWalk client interval options db = .ok (walk client interval db asns) := by
  rw [runWalk, listed]
  rfl

/-! ## The systems of a walk -/

theorem walkList_eq_ok_iff {options : WalkOptions} :
    walkList db options = .ok asns <->
      if options.asns = [] then
        (if options.missingOnly then db.unnamedSystems else db.countedSystems) = some asns
      else (options.asns.filter fun asn => !asn.isReserved) = asns := by
  rw [walkList]
  by_cases given : options.asns = []
  · rw [if_pos given, if_pos (List.isEmpty_iff.mpr given)]
    cases if options.missingOnly then db.unnamedSystems else db.countedSystems <;> simp
  · rw [if_neg given, if_neg (by simpa using given), Except.ok.injEq]

/-- No reserved system is on a walk. -/
theorem not_reserved_of_walkList {options : WalkOptions} (listed : walkList db options = .ok asns)
    {asn : Asn} (member : asn ∈ asns) : asn.isReserved = false := by
  rw [walkList_eq_ok_iff] at listed
  split_ifs at listed with given missing
  · rcases Database.unnamedSystems_eq_some_iff.mp listed with ⟨stats, whois, _, _, read⟩
    exact ((Database.mem_publicSystems_iff read).mp member).2
  · rcases Database.countedSystems_eq_some_iff.mp listed with ⟨stats, _, read⟩
    exact ((Database.mem_publicSystems_iff read).mp member).2
  · subst listed
    simpa using (List.mem_filter.mp member).2

/-- A walk through unnamed systems leaves the row of a named one. -/
theorem isNamed_storeFound {number : Datum}
    (unnamed : forall asn, asn ∈ asns -> Database.isNamed table (.integer asn.toInt) = false)
    (named : Database.isNamed table number = true) :
    Database.isNamed (storeFound client table asns) number = true := by
  cases number with
  | integer key =>
      have kept : (storeFound client table asns)[key]? = table[key]? := by
        refine storeFound_of_not_found table ?_
        rintro asn member rfl
        rw [unnamed asn member] at named
        cases named
      simp only [Database.isNamed, Datum.integer?, Option.bind_some] at named ⊢
      rw [kept]
      exact named
  | _ => exact named

/-- A system that is walked without a name has one afterwards if its lookup gives it one. -/
theorem isNamed_storeFound_of_mem {asn : Asn} (member : asn ∈ asns)
    (unnamed : Database.isNamed table (.integer asn.toInt) = false) :
    Database.isNamed (storeFound client table asns) (.integer asn.toInt) =
      givesName client asn := by
  simp only [Database.isNamed, Datum.integer?, Option.bind_some] at unnamed ⊢
  cases found : (client.lookup asn).record with
  | some record =>
      rw [storeFound_of_found table member found, givesName, found]
      rfl
  | none =>
      have kept : (storeFound client table asns)[asn.toInt]? = table[asn.toInt]? := by
        refine storeFound_of_not_found table ?_
        intro other _ same
        rw [Asn.toInt_inj same]
        exact found
      rw [kept, unnamed, givesName, found]
      rfl

/-- After a walk through the unnamed systems those are still unnamed whose lookups give them
no name. -/
theorem unnamedSystems_afterWalk (listed : db.unnamedSystems = some asns) :
    (afterWalk client db asns).unnamedSystems =
      some (asns.filter fun asn => !givesName client asn) := by
  rcases Database.unnamedSystems_eq_some_iff.mp listed with
    ⟨stats, table, hasStats, hasTable, read⟩
  let unnamedBy (whois : WhoisTable) (number : Datum) : Bool := !Database.isNamed whois number
  have unnamed : forall asn, asn ∈ asns ->
      Database.isNamed table (.integer asn.toInt) = false := by
    intro asn member
    have kept := (List.mem_filter.mp ((Database.mem_publicSystems_iff read).mp member).1).2
    simpa using kept
  have remaining :
      (Database.countedNumbers stats).filter (unnamedBy (storeFound client table asns)) =
        ((Database.countedNumbers stats).filter (unnamedBy table)).filter
          (unnamedBy (storeFound client table asns)) := by
    rw [List.filter_filter]
    refine List.filter_congr fun number _ => ?_
    cases named : Database.isNamed table number with
    | false => simp [unnamedBy, named]
    | true => simp [unnamedBy, isNamed_storeFound unnamed named]
  have fewer := Database.publicSystems_filter read (unnamedBy (storeFound client table asns))
  rw [← remaining] at fewer
  have named : (asns.filter fun asn => unnamedBy (storeFound client table asns) (.integer asn.toInt)) =
      asns.filter fun asn => !givesName client asn := by
    refine List.filter_congr fun asn member => ?_
    rw [← isNamed_storeFound_of_mem member (unnamed asn member)]
  rw [named] at fewer
  rw [Database.unnamedSystems_eq_some_iff]
  refine ⟨stats, storeFound client table asns, hasStats, ?_, fewer⟩
  rw [afterWalk, hasTable, Option.map_some]

/-- After a walk the same systems are on it, except those that have a name by then if only
systems without a name are wanted. -/
theorem walkList_afterWalk {options : WalkOptions} (listed : walkList db options = .ok asns) :
    exists again, walkList (afterWalk client db asns) options = .ok again ∧ again.Sublist asns ∧
      (options.asns ≠ [] ∨ options.missingOnly = false -> again = asns) := by
  simp only [walkList_eq_ok_iff] at listed ⊢
  by_cases given : options.asns = []
  · cases missing : options.missingOnly with
    | false =>
        -- The numbers with statistics do not depend on the table of WHOIS rows.
        simp only [given, missing, if_true, Bool.false_eq_true, if_false] at listed ⊢
        exact ⟨asns, listed, List.Sublist.refl asns, fun _ => rfl⟩
    | true =>
        simp only [given, missing, if_true] at listed ⊢
        exact ⟨_, unnamedSystems_afterWalk listed, List.filter_sublist, by simp⟩
  · simp only [given, if_false] at listed ⊢
    exact ⟨asns, listed, List.Sublist.refl asns, fun _ => rfl⟩

theorem afterWalk_twice {fewer : List Asn} (among : fewer ⊆ asns) :
    afterWalk client (afterWalk client db asns) fewer = afterWalk client db asns := by
  simp only [afterWalk, Option.map_map]
  congr 1
  exact Option.map_congr fun table _ => storeFound_twice table among

/-! ## Whole walks -/

theorem summaryOf_accounts (client : Whois.Client) (storable : Bool) (asns : List Asn) :
    (summaryOf client storable asns.length asns).updated +
        (summaryOf client storable asns.length asns).notFound +
        (summaryOf client storable asns.length asns).failedWrites = asns.length := by
  have accounts : asns.length =
      asns.countP (isFound client) + asns.countP fun asn => !isFound client asn := by
    simpa using List.length_eq_countP_add_countP (isFound client) (l := asns)
  cases storable with
  | true =>
      simp only [summaryOf, if_true, Nat.add_zero]
      exact accounts.symm
  | false =>
      simp only [summaryOf, Bool.false_eq_true, if_false, Nat.zero_add]
      rw [Nat.add_comm]
      exact accounts.symm

/-- A walk looks up its systems in order and asks nothing else, so that no reserved system is
ever asked about.  It stores exactly the record of every system whose lookup finds one, and
no other row changes; without a table for the records it stores nothing.  It counts every
system once and reports after each of them.  Its pauses change none of this, and after it a
second walk changes nothing more. -/
theorem walk_stores_found_records {client : Whois.Client} {db : Database} {options : WalkOptions}
    {asns : List Asn} (listed : walkList db options = .ok asns) (interval : Nat) :
    exists final, runWalk client interval options db = .ok final ∧
      final.queries =
        (asns.flatMap fun asn => (client.lookup asn).asked.map fun source => (source, asn)) ∧
      (forall query, query ∈ final.queries -> query.2.isReserved = false) ∧
      final.progress = ((List.range asns.length).map fun i => (i + 1, asns.length)) ∧
      final.summary.total = asns.length ∧
      final.summary.notFound = (asns.countP fun asn => (client.lookup asn).record.isNone) ∧
      final.summary.updated + final.summary.notFound + final.summary.failedWrites =
        final.summary.total ∧
      (forall table, db.whois = some table ->
        final.summary.updated = (asns.countP fun asn => (client.lookup asn).record.isSome) ∧
        final.summary.failedWrites = 0 ∧
        exists stored, final.db = { db with whois := some stored } ∧
          (forall asn record, asn ∈ asns -> (client.lookup asn).record = some record ->
            stored[asn.toInt]? = some (.ofRecord record)) ∧
          (forall key,
            (forall asn, asn ∈ asns -> asn.toInt = key -> (client.lookup asn).record = none) ->
              stored[key]? = table[key]?)) ∧
      (db.whois = none ->
        final.db = db ∧ final.summary.updated = 0 ∧
        final.summary.failedWrites =
          (asns.countP fun asn => (client.lookup asn).record.isSome)) ∧
      (forall otherInterval, exists other,
        runWalk client otherInterval options db = .ok other ∧ other.db = final.db ∧
          other.summary = final.summary ∧ other.queries = final.queries ∧
          other.progress = final.progress) ∧
      runWalk client 0 options db = runWalk client 1 options db ∧
      (forall laterInterval, exists later,
        runWalk client laterInterval options final.db = .ok later ∧ later.db = final.db ∧
          later.queries.Sublist final.queries ∧
          (options.asns ≠ [] ∨ options.missingOnly = false ->
            later.summary = final.summary ∧ later.queries = final.queries)) := by
  have visited := visited_walk client interval db asns
  refine ⟨walk client interval db asns, runWalk_eq listed, visited.queries, ?_,
    visited.progress, ?_, ?_, ?_, ?_, ?_, ?_, rfl, ?_⟩
  · intro query member
    rw [visited.queries] at member
    rcases List.mem_flatMap.mp member with ⟨asn, onWalk, asked⟩
    rcases List.mem_map.mp asked with ⟨source, _, rfl⟩
    exact not_reserved_of_walkList listed onWalk
  · rw [visited.summary]
    rfl
  · rw [visited.summary, summaryOf]
    simp [isFound]
  · rw [visited.summary]
    exact summaryOf_accounts client db.whois.isSome asns
  · intro table hasTable
    rw [visited.summary, visited.stored, afterWalk, hasTable]
    refine ⟨rfl, rfl, storeFound client table asns, rfl, ?_, ?_⟩
    · intro asn record member found
      exact storeFound_of_found table member found
    · intro key nothing
      exact storeFound_of_not_found table nothing
  · intro noTable
    rw [visited.summary, visited.stored, afterWalk, noTable]
    refine ⟨?_, rfl, rfl⟩
    rcases db with ⟨rib, paths, analysis, stats, whois, routes⟩
    cases noTable
    rfl
  · intro otherInterval
    have other := visited_walk client otherInterval db asns
    exact ⟨walk client otherInterval db asns, runWalk_eq listed,
      other.stored.trans visited.stored.symm, other.summary.trans visited.summary.symm,
      other.queries.trans visited.queries.symm, other.progress.trans visited.progress.symm⟩
  · intro laterInterval
    -- The second walk may be shorter, but it only finds what the first one has stored.
    rcases @walkList_afterWalk client db asns options listed with ⟨again, relisted, sublist, same⟩
    have later := visited_walk client laterInterval (afterWalk client db asns) again
    rw [visited.stored]
    refine ⟨walk client laterInterval (afterWalk client db asns) again, runWalk_eq relisted,
      ?_, ?_, ?_⟩
    · rw [later.stored, afterWalk_twice sublist.subset]
    · rw [later.queries, visited.queries]
      exact sublist.flatMap _
    · intro fixed
      rw [later.summary, later.queries, visited.summary, visited.queries,
        isSome_whois_afterWalk, same fixed]
      exact ⟨rfl, rfl⟩

end

/-- A client of registries that know one system.  ARIN also begins to answer about another
one, but the connection fails. -/
def clientOfOne : Whois.Client := fun source asn =>
  if source = .arin ∧ asn = 13335 then ⟨["ASName: CLOUDFLARENET"], none⟩
  else if source = .arin ∧ asn = 3356 then ⟨["ASName: LEVEL3"], some (.refused "timed out")⟩
  else ⟨[], none⟩

/-- The record that the client finds. -/
def recordOfOne : Whois.Record :=
  ({ raw := "ASName: CLOUDFLARENET" } : Whois.Record).set .asName "CLOUDFLARENET"
    |>.set .source "arin"

/-- The known system is walked twice and stored.  The reserved one is left out, and an answer
that is cut short does not count. -/
theorem walk_stores_one_of_two :
    walkList { whois := some ∅ } { asns := [13335, 64512, 3356, 13335] } =
        .ok [13335, 3356, 13335] ∧
      exists final stored,
        runWalk clientOfOne 0 { asns := [13335, 64512, 3356, 13335] } { whois := some ∅ } =
            .ok final ∧
          final.summary = ⟨3, 2, 1, 0⟩ ∧ final.db = { whois := some stored } ∧
          stored[(13335 : Int)]? = some (.ofRecord recordOfOne) ∧
          stored[(3356 : Int)]? = none := by
  have listed : walkList { whois := some ∅ } { asns := [13335, 64512, 3356, 13335] } =
      .ok [13335, 3356, 13335] := by decide
  refine ⟨listed, ?_⟩
  rcases @walk_stores_found_records clientOfOne _ _ _ listed 0 with
    ⟨final, ran, _, _, _, total, notFound, _, withTable, _, _, _, _⟩
  rcases withTable ∅ rfl with ⟨updated, failedWrites, stored, after, found, others⟩
  refine ⟨final, stored, ran, ?_, after, ?_, ?_⟩
  · have counted : final.summary = ⟨final.summary.total, final.summary.updated,
        final.summary.notFound, final.summary.failedWrites⟩ := rfl
    rw [counted, total, updated, notFound, failedWrites]
    decide
  · exact found 13335 recordOfOne (by decide) (by decide)
  · refine others (Asn.toInt 3356) ?_
    intro asn _ same
    rw [Asn.toInt_inj same]
    decide

end Job
end AsCensus
