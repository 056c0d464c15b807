import AsCensus.Proofs.AnalysisCounts
import AsCensus.Proofs.StatsWrites

namespace AsCensus
namespace Job

open Std
open Store

/-!
# The two ways to count transit

Conditioning the paths counts announcements, and a network counts again for each further
path or origin it is announced with.  The analysis counts networks, each of them once.  So
the first count is never below the second, and the two are the same exactly where no
network is announced twice on the paths of a system (`transit_methods_agree_iff`).

A network that two peers report over paths of their own is announced twice, and the
methods store different counts for it (`transit_methods_differ`).
-/

variable {db : Database} {rib : RibTable} {paths : PathTable} {analysis : AnalysisTable}
variable {table : StatsTable}

/-- How many networks of a family a system provides transit for. -/
noncomputable def transitNetworkCount (rib : RibTable) (paths : PathTable)
    (family : AddressFamily) (asn : Asn) : Nat :=
  (Announcement.network '' transitAnnouncements rib paths family asn).ncard

/-- Whether no network is announced twice on the paths of a system. -/
def AnnouncedOnce (rib : RibTable) (paths : PathTable) (family : AddressFamily) (asn : Asn) :
    Prop :=
  Set.InjOn Announcement.network (transitAnnouncements rib paths family asn)

section
variable (rib : RibTable) (paths : PathTable) (family : AddressFamily) (asn : Asn)

theorem transitNetworkCount_le :
    transitNetworkCount rib paths family asn ≤ announcedCount rib paths .transit family asn :=
  Set.ncard_image_le (finite_transitAnnouncements rib paths family asn)

theorem transitNetworkCount_eq_iff :
    transitNetworkCount rib paths family asn = announcedCount rib paths .transit family asn <->
      AnnouncedOnce rib paths family asn :=
  Set.ncard_image_iff (finite_transitAnnouncements rib paths family asn)

theorem transitNetworkCount_pos_iff :
    0 < transitNetworkCount rib paths family asn <->
      0 < announcedCount rib paths .transit family asn := by
  have finite := finite_transitAnnouncements rib paths family asn
  rw [transitNetworkCount, announcedCount, Set.ncard_pos finite,
    Set.ncard_pos (finite.image Announcement.network), Set.image_nonempty]

theorem transit_counts_of_reserved (reserved : ¬ asn.isReserved = false) :
    announcedCount rib paths .transit family asn = 0 ∧
      transitNetworkCount rib paths family asn = 0 := by
  have none : announcedCount rib paths .transit family asn = 0 := by
    by_contra some
    exact reserved (not_reserved_of_transit_pos (Nat.pos_of_ne_zero some))
  have least := transitNetworkCount_le rib paths family asn
  exact ⟨none, by omega⟩

end

/-- What a step in the analysis mode counts. -/
theorem analysisTally_get {settings : StatisticsSettings} (hasRib : db.rib = some rib)
    (hasAnalysis : db.analysis = some analysis) (systems : ReadableSystems analysis)
    (faithful : FaithfulAnalysis paths analysis) (shared : settings.target = .shared)
    (family : AddressFamily) :
    exists tally, transitTally settings db family .analysis = some tally ∧
      forall asn, tally.get asn = transitNetworkCount rib paths family asn := by
  rcases analysisTally_eq hasRib hasAnalysis systems shared family with ⟨tally, counted, get⟩
  refine ⟨tally, counted, ?_⟩
  intro asn
  rw [get]
  split_ifs with notReserved
  · exact length_transitNetworks faithful notReserved
  · exact (transit_counts_of_reserved rib paths family asn notReserved).2.symm

/-- A step stores the positive entries of its tally. -/
theorem refreshTransit_eq {settings : StatisticsSettings} {mode : TransitMethod}
    {family : AddressFamily} {tally : Tally} (hasStats : db.stats = some table)
    (counted : transitTally settings db family mode = some tally) (timestamp : Int) :
    refreshTransit settings db family mode timestamp =
      ({ db with
          stats := some ((tally.toList.filter fun entry => 0 < entry.2).foldl
            (StatsTable.write .transit family timestamp) table) },
        some (tally.toList.filter fun entry => 0 < entry.2).length) := by
  rw [refreshTransit, counted]
  exact storeCounts_eq hasStats .transit family _ timestamp settings.batchSize

/-- Two lists of exact counts that write the same table agree on small positive counts. -/
theorem counts_eq_of_write_eq {family : AddressFamily} {timestamp : Int}
    {counts others : List (Asn × Nat)} {number other : Asn -> Nat}
    (exactly : ExactCounts counts number) (exactlyOther : ExactCounts others other)
    (same : counts.foldl (StatsTable.write .transit family timestamp) table =
      others.foldl (StatsTable.write .transit family timestamp) table)
    {asn : Asn} (notReserved : asn.isReserved = false) (positive : 0 < number asn)
    (positiveOther : 0 < other asn) (small : (number asn : Int) < exactBound)
    (smallOther : (other asn : Int) < exactBound) : number asn = other asn := by
  have rows := congrArg (fun table : StatsTable => table[StatsKey.at asn timestamp]?) same
  simp only [getElem?_write_exact exactly, getElem?_write_exact exactlyOther] at rows
  rw [if_pos ⟨notReserved, positive⟩, if_pos ⟨notReserved, positiveOther⟩] at rows
  have stored := congrArg (fun row => StatsRow.count row .transit family) (Option.some.inj rows)
  simp only [StatsRow.count_record, and_self, if_true] at stored
  rw [Datum.ofInt_eq_integer (by unfold exactBound; omega) small,
    Datum.ofInt_eq_integer (by unfold exactBound; omega) smallOther] at stored
  exact Int.ofNat.inj (Datum.integer.inj stored)

section
variable {family : AddressFamily} {tally asked : Tally}

theorem get_eq_of_announcedOnce
    (get : forall asn, tally.get asn = announcedCount rib paths .transit family asn)
    (getAsked : forall asn, asked.get asn = transitNetworkCount rib paths family asn)
    (once : forall asn, asn.isReserved = false -> AnnouncedOnce rib paths family asn) (asn : Asn) :
    tally.get asn = asked.get asn := by
  rw [get, getAsked]
  by_cases notReserved : asn.isReserved = false
  · exact ((transitNetworkCount_eq_iff rib paths family asn).mpr (once asn notReserved)).symm
  · have none := transit_counts_of_reserved rib paths family asn notReserved
    rw [none.1, none.2]

/-- Where the methods store the same, no network is announced twice. -/
theorem announcedOnce_of_write_eq {timestamp : Int}
    (get : forall asn, tally.get asn = announcedCount rib paths .transit family asn)
    (getAsked : forall asn, asked.get asn = transitNetworkCount rib paths family asn)
    (same : (tally.toList.filter fun entry => 0 < entry.2).foldl
        (StatsTable.write .transit family timestamp) table =
      (asked.toList.filter fun entry => 0 < entry.2).foldl
        (StatsTable.write .transit family timestamp) table)
    {asn : Asn} (notReserved : asn.isReserved = false)
    (small : (tally.get asn : Int) < exactBound) : AnnouncedOnce rib paths family asn := by
  rw [get] at small
  have least := transitNetworkCount_le rib paths family asn
  have both := transitNetworkCount_pos_iff rib paths family asn
  rw [← transitNetworkCount_eq_iff]
  by_cases positive : 0 < announcedCount rib paths .transit family asn
  · -- Both methods store the system, and what a row holds tells its count.
    have exactly := exactCounts_of_get get fun _ => not_reserved_of_transit_pos
    have exactlyAsked := exactCounts_of_get getAsked fun asn positive =>
      not_reserved_of_transit_pos ((transitNetworkCount_pos_iff rib paths family asn).mp positive)
    have equal := counts_eq_of_write_eq exactly exactlyAsked same notReserved positive
      (both.mpr positive) small (by omega)
    exact equal.symm
  · omega

end

/-- With a faithful analysis the methods count the same for a system exactly when no
network is announced twice on its paths; otherwise conditioning counts more.  If this
holds of every public system the methods store the same.  If they store the same, it
holds of every public system whose count is an integer of 64 bits. -/
theorem transit_methods_agree_iff (db : Database) (hasRib : db.rib = some rib)
    (hasPaths : db.paths = some paths) (hasAnalysis : db.analysis = some analysis)
    (hasStats : db.stats = some table)
    (origins : forall (id : PathId) (path : PathRow), paths[id]? = some path ->
      (readAsn path.origin).isSome)
    (systems : ReadableSystems analysis) (faithful : FaithfulAnalysis paths analysis)
    (family : AddressFamily) :
    exists tally, db.transitCounts family Tally.empty = some tally ∧
      (forall asn, asn.isReserved = false ->
        exists count, db.transitCountOf asn family = some count ∧
          count = transitNetworkCount rib paths family asn ∧ count ≤ tally.get asn ∧
          (count = tally.get asn <-> AnnouncedOnce rib paths family asn)) ∧
      (forall settings timestamp, settings.target = .shared ->
        ((forall asn, asn.isReserved = false -> AnnouncedOnce rib paths family asn) ->
          refreshTransit settings db family .path timestamp =
            refreshTransit settings db family .analysis timestamp) ∧
        (refreshTransit settings db family .path timestamp =
            refreshTransit settings db family .analysis timestamp ->
          forall asn, asn.isReserved = false -> (tally.get asn : Int) < exactBound ->
            AnnouncedOnce rib paths family asn)) := by
  have readable := readableOrigins_of_paths rib family origins
  rcases transitCounts_eq hasRib hasPaths readable Tally.empty with ⟨tally, counted, get, _⟩
  have get (asn : Asn) : tally.get asn = announcedCount rib paths .transit family asn := by
    rw [get, Tally.get_empty, Nat.zero_add]
  refine ⟨tally, counted, ?_, ?_⟩
  · intro asn notReserved
    refine ⟨transitNetworkCount rib paths family asn, ?_, rfl, ?_, ?_⟩
    · rw [transitCountOf_eq hasRib hasAnalysis, length_transitNetworks faithful notReserved]
      rfl
    · rw [get]
      exact transitNetworkCount_le rib paths family asn
    · rw [get]
      exact transitNetworkCount_eq_iff rib paths family asn
  · intro settings timestamp shared
    rcases analysisTally_get hasRib hasAnalysis systems faithful shared family with
      ⟨asked, countedAsked, getAsked⟩
    have conditioned : transitTally settings db family .path = some tally := counted
    rw [refreshTransit_eq hasStats conditioned, refreshTransit_eq hasStats countedAsked]
    constructor
    · intro once
      rw [Tally.filter_toList_congr (get_eq_of_announcedOnce get getAsked once)]
    · intro same asn notReserved small
      have written := Option.some.inj (congrArg (fun result => result.1.stats) same)
      exact announcedOnce_of_write_eq get getAsked written notReserved small

/-! ## A network that two peers report -/

/-- The neighbours of each system on the paths of the two peers. -/
def twoPeersNeighbours : List (AnalysisKey × AnalysisRow) :=
  [(⟨.integer 174, ⟨"long", "174"⟩⟩, { right := .integer 3356 }),
    (⟨.integer 3356, ⟨"long", "174"⟩⟩, { left := .integer 174, right := .integer 13335 }),
    (⟨.integer 13335, ⟨"long", "174"⟩⟩, { left := .integer 3356 }),
    (⟨.integer 2914, ⟨"short", "2914"⟩⟩, { right := .integer 3356 }),
    (⟨.integer 3356, ⟨"short", "2914"⟩⟩, { left := .integer 2914, right := .integer 13335 }),
    (⟨.integer 13335, ⟨"short", "2914"⟩⟩, { left := .integer 3356 })]

/-- The analysis of the paths of the two peers. -/
def twoPeersAnalysis : AnalysisTable :=
  ExtTreeMap.ofList twoPeersNeighbours

/-- The database of the two peers with the analysis of their paths. -/
def analysedTwoPeers : Database :=
  { twoPeers with analysis := some twoPeersAnalysis }

theorem twoPeersPaths_cases {id : PathId} {path : PathRow}
    (stored : twoPeersPaths[id]? = some path) :
    id = ⟨"long", "174"⟩ ∧ path = ⟨"174 3356 13335", .integer 13335⟩ ∨
      id = ⟨"short", "2914"⟩ ∧ path = ⟨"2914 3356 13335", .integer 13335⟩ := by
  have listed := ExtTreeMap.mem_toList_iff_getElem?_eq_some.mpr stored
  have all : twoPeersPaths.toList =
      [(⟨"long", "174"⟩, ⟨"174 3356 13335", .integer 13335⟩),
        (⟨"short", "2914"⟩, ⟨"2914 3356 13335", .integer 13335⟩)] := by decide
  simpa [all] using listed

theorem twoPeersAnalysis_cases {key : AnalysisKey} {row : AnalysisRow}
    (stored : twoPeersAnalysis[key]? = some row) :
    (readAsn key.asn).isSome ∧ (row.isTransit = true -> key.asn = .integer 3356) ∧
      (key.path = ⟨"long", "174"⟩ ∨ key.path = ⟨"short", "2914"⟩) := by
  have listed := ExtTreeMap.mem_toList_iff_getElem?_eq_some.mpr stored
  have all : forall entry, entry ∈ twoPeersAnalysis.toList ->
      (readAsn entry.1.asn).isSome ∧ (entry.2.isTransit = true -> entry.1.asn = .integer 3356) ∧
        (entry.1.path = ⟨"long", "174"⟩ ∨ entry.1.path = ⟨"short", "2914"⟩) := by decide
  exact all (key, row) listed

theorem seenBetween_twoPeers {id : PathId} {path : PathRow} (asn : Asn)
    (stored : twoPeersPaths[id]? = some path) :
    SeenBetween twoPeersAnalysis asn id <-> asn = 3356 := by
  constructor
  · rintro ⟨row, found, between⟩
    have same := (twoPeersAnalysis_cases found).2.1 between
    exact Asn.toInt_inj (Datum.integer.inj same)
  · rintro rfl
    rcases twoPeersPaths_cases stored with ⟨rfl, _⟩ | ⟨rfl, _⟩
    · exact ⟨{ left := .integer 174, right := .integer 13335 }, by decide, by decide⟩
    · exact ⟨{ left := .integer 2914, right := .integer 13335 }, by decide, by decide⟩

theorem providesTransit_twoPeers {id : PathId} {path : PathRow} (asn : Asn)
    (stored : twoPeersPaths[id]? = some path) : ProvidesTransit path asn <-> asn = 3356 := by
  have same : path.origin = .integer 13335 ∧
      AsPath.transitOf path.asPath 13335 true = [3356] := by
    rcases twoPeersPaths_cases stored with ⟨_, rfl⟩ | ⟨_, rfl⟩
    · exact ⟨rfl, by decide⟩
    · exact ⟨rfl, by decide⟩
  constructor
  · rintro ⟨origin, isOrigin, provides⟩
    rw [same.1] at isOrigin
    have value : Asn.toInt 13335 = origin.toInt := Datum.integer.inj isOrigin
    rw [← Asn.toInt_inj value, same.2] at provides
    exact List.mem_singleton.mp provides
  · rintro rfl
    exact ⟨13335, same.1, by rw [same.2]; exact List.mem_singleton_self 3356⟩

theorem faithful_twoPeers : FaithfulAnalysis twoPeersPaths twoPeersAnalysis where
  known key row stored := by
    rcases (twoPeersAnalysis_cases stored).2.2 with same | same
    · rw [same]
      exact ⟨⟨"174 3356 13335", .integer 13335⟩, by decide⟩
    · rw [same]
      exact ⟨⟨"2914 3356 13335", .integer 13335⟩, by decide⟩
  seen_iff id path stored asn _ := by
    rw [seenBetween_twoPeers asn stored, providesTransit_twoPeers asn stored]

theorem readableSystems_twoPeers : ReadableSystems twoPeersAnalysis := by
  intro key row stored
  exact (twoPeersAnalysis_cases stored).1

theorem transit_methods_compare_two_peers :
    exists tally, analysedTwoPeers.transitCounts .ipv4 Tally.empty = some tally ∧
      exists count, analysedTwoPeers.transitCountOf 3356 .ipv4 = some count ∧
        count ≤ tally.get 3356 := by
  rcases transit_methods_agree_iff analysedTwoPeers rfl rfl rfl rfl readable_twoPeersPaths
    readableSystems_twoPeers faithful_twoPeers .ipv4 with ⟨tally, counted, compare, _⟩
  rcases compare 3356 (by decide) with ⟨count, asked, _, least, _⟩
  exact ⟨tally, counted, count, asked, least⟩

/-- The analysis of the two paths is faithful, and yet the methods count and store
different numbers. -/
theorem transit_methods_differ :
    FaithfulAnalysis twoPeersPaths twoPeersAnalysis ∧ ReadableSystems twoPeersAnalysis ∧
      (forall (id : PathId) (path : PathRow), twoPeersPaths[id]? = some path ->
        (readAsn path.origin).isSome) ∧
      (analysedTwoPeers.transitCounts .ipv4 Tally.empty).map (·.get 3356) = some 2 ∧
      analysedTwoPeers.transitCountOf 3356 .ipv4 = some 1 ∧
      (refreshTransit ⟨.shared, 1, 1⟩ analysedTwoPeers .ipv4 .path 7).1 ≠
        (refreshTransit ⟨.shared, 1, 1⟩ analysedTwoPeers .ipv4 .analysis 7).1 := by
  refine ⟨faithful_twoPeers, readableSystems_twoPeers, readable_twoPeersPaths, ?_, ?_, ?_⟩
  · decide
  · decide
  · decide

end Job
end AsCensus
