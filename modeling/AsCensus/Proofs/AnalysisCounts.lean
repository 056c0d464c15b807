import AsCensus.Job.Statistics
import AsCensus.Proofs.Announced
import AsCensus.Proofs.WorkerShares

namespace AsCensus

open Std

/-!
# Transit counted from the analysis

The analysis says of a system and a path whether the system has neighbours on both sides.
It is faithful when it says so of a public system exactly where conditioning the path
finds that the system provides transit, and is about no other paths.

From a faithful analysis one counts the networks that are announced on the paths of a
system, each of them once (`length_transitNetworks`).  A pool of workers counts every
system that the analysis mentions in this position, and its tally does not depend on the
number of workers (`countTransit_eq`, `analysisTally_eq`).
-/

namespace Store

variable {db : Database} {rib : RibTable} {paths : PathTable} {analysis : AnalysisTable}
variable {family : AddressFamily} {asn : Asn}

/-- Whether a system provides transit on a stored path. -/
def ProvidesTransit (path : PathRow) (asn : Asn) : Prop :=
  exists origin : Asn, path.origin = .integer origin.toInt ∧
    asn ∈ AsPath.transitOf path.asPath origin true

/-- Whether the analysis sees a system between its neighbours on a path. -/
def SeenBetween (analysis : AnalysisTable) (asn : Asn) (id : PathId) : Prop :=
  exists row : AnalysisRow, analysis[AnalysisKey.mk (.integer asn.toInt) id]? = some row ∧
    row.isTransit = true

/-- An analysis that tells of public systems what conditioning the paths tells. -/
structure FaithfulAnalysis (paths : PathTable) (analysis : AnalysisTable) : Prop where
  known : forall (key : AnalysisKey) (row : AnalysisRow), analysis[key]? = some row ->
    exists path : PathRow, paths[key.path]? = some path
  seen_iff : forall (id : PathId) (path : PathRow), paths[id]? = some path ->
    forall asn : Asn, asn.isReserved = false ->
      (SeenBetween analysis asn id <-> ProvidesTransit path asn)

/-- Whether every system in an analysis can be read. -/
def ReadableSystems (analysis : AnalysisTable) : Prop :=
  forall (key : AnalysisKey) (row : AnalysisRow), analysis[key]? = some row ->
    (readAsn key.asn).isSome

theorem mem_transitNetworks {network : StoredNetwork} :
    network ∈ Database.transitNetworks rib analysis asn family <->
      exists (id : String) (row : RibRow), rib[id]? = some row ∧ row.isLive family = true ∧
        SeenBetween analysis asn row.path ∧ row.network = network := by
  rw [Database.transitNetworks, List.mem_eraseDups]
  simp only [List.mem_map, List.mem_filter, Prod.exists, ExtTreeMap.mem_toList_iff_getElem?_eq_some]
  constructor
  · rintro ⟨id, row, ⟨⟨stored, live⟩, seen⟩, same⟩
    refine ⟨id, row, stored, live, ?_, same⟩
    split at seen
    · next entry found => exact ⟨entry, found, seen⟩
    · cases seen
  · rintro ⟨id, row, stored, live, ⟨entry, found, between⟩, same⟩
    refine ⟨id, row, ⟨⟨stored, live⟩, ?_⟩, same⟩
    rw [found]
    exact between

/-- The analysis leads to the networks of the announcements that a system provides
transit for. -/
theorem mem_transitNetworks_iff_image (faithful : FaithfulAnalysis paths analysis)
    (notReserved : asn.isReserved = false) {network : StoredNetwork} :
    network ∈ Database.transitNetworks rib analysis asn family <->
      network ∈ Announcement.network '' transitAnnouncements rib paths family asn := by
  rw [mem_transitNetworks]
  constructor
  · rintro ⟨id, row, stored, live, seen, rfl⟩
    have ⟨_, found, _⟩ := seen
    rcases faithful.known _ _ found with ⟨path, attributes⟩
    rw [RibRow.isLive, Bool.and_eq_true, beq_iff_eq, beq_iff_eq] at live
    refine ⟨⟨path.asPath, path.origin, row.network⟩, ⟨?_, ?_⟩, rfl⟩
    · exact ⟨id, row, path, stored, live.1, live.2, attributes, rfl⟩
    · exact (faithful.seen_iff row.path path attributes asn notReserved).mp seen
  · rintro ⟨announcement, ⟨⟨id, row, path, stored, inFamily, live, attributes, rfl⟩, provides⟩, rfl⟩
    refine ⟨id, row, stored, ?_, ?_, rfl⟩
    · rw [RibRow.isLive, inFamily, live]
      simp
    · exact (faithful.seen_iff row.path path attributes asn notReserved).mpr provides

theorem length_transitNetworks (faithful : FaithfulAnalysis paths analysis)
    (notReserved : asn.isReserved = false) :
    (Database.transitNetworks rib analysis asn family).length =
      (Announcement.network '' transitAnnouncements rib paths family asn).ncard := by
  have members := @mem_transitNetworks_iff_image rib paths analysis family asn faithful notReserved
  unfold Database.transitNetworks at members ⊢
  rw [length_eraseDups]
  congr 1
  ext network
  rw [← members, List.mem_eraseDups]
  rfl

theorem transitCountOf_eq (hasRib : db.rib = some rib) (hasAnalysis : db.analysis = some analysis)
    (asn : Asn) (family : AddressFamily) :
    db.transitCountOf asn family =
      some (Database.transitNetworks rib analysis asn family).length := by
  rw [Database.transitCountOf, hasAnalysis, hasRib]
  rfl

/-- The systems to count are the public ones that the analysis sees on some path. -/
theorem transitSystems_eq (hasAnalysis : db.analysis = some analysis)
    (readable : ReadableSystems analysis) :
    exists systems, db.transitSystems = some systems ∧ systems.Nodup ∧
      forall asn, asn ∈ systems <->
        asn.isReserved = false ∧ exists id, SeenBetween analysis asn id := by
  let seen := (analysis.toList.filter fun entry => entry.2.isTransit).map fun entry => entry.1.asn
  have mem_seen {stored : Datum} : stored ∈ seen <->
      exists (key : AnalysisKey) (row : AnalysisRow), analysis[key]? = some row ∧
        row.isTransit = true ∧ key.asn = stored := by
    simp [seen, ExtTreeMap.mem_toList_iff_getElem?_eq_some, and_assoc]
  have reads : forall stored, stored ∈ seen.eraseDups ->
      readAsn stored = some (readOrigin stored) := by
    intro stored member
    rcases mem_seen.mp (List.mem_eraseDups.mp member) with ⟨key, row, found, _, rfl⟩
    rcases Option.isSome_iff_exists.mp (readable key row found) with ⟨asn, read⟩
    rw [readOrigin, read]
    rfl
  refine ⟨(seen.eraseDups.map readOrigin).filter fun asn => !asn.isReserved, ?_, ?_, ?_⟩
  · rw [Database.transitSystems, hasAnalysis]
    change (seen.eraseDups.mapM readAsn).bind _ = _
    rw [mapM_of_forall reads]
    rfl
  · apply List.Nodup.filter
    apply List.Nodup.map_on _ (nodup_eraseDups seen)
    intro a first b second same
    rw [readAsn_eq_some_iff.mp (reads a first), readAsn_eq_some_iff.mp (reads b second), same]
  · intro asn
    rw [List.mem_filter, List.mem_map, and_comm, Bool.not_eq_true']
    refine and_congr_right fun _ => ?_
    constructor
    · rintro ⟨stored, member, rfl⟩
      rcases mem_seen.mp (List.mem_eraseDups.mp member) with ⟨key, row, found, between, rfl⟩
      refine ⟨key.path, row, ?_, between⟩
      rw [← readAsn_eq_some_iff.mp (reads key.asn member)]
      exact found
    · rintro ⟨id, row, found, between⟩
      have member : Datum.integer asn.toInt ∈ seen := mem_seen.mpr ⟨_, row, found, between, rfl⟩
      refine ⟨_, List.mem_eraseDups.mpr member, ?_⟩
      rw [readOrigin, readAsn_eq_some_iff.mpr rfl]
      rfl

end Store

namespace Job

open Store

/-- The answers that the workers get are the answers about the whole list, in its order. -/
theorem flatMap_countChunk (connection : Option Database) (family : AddressFamily)
    (asns : List Asn) (workers : Nat) :
    (batches (chunkSize asns.length workers) asns).flatMap (countChunk connection family) =
      countChunk connection family asns :=
  flatMap_map_batches (chunkSize_pos _ _)
    (fun asn => (asn, connection.bind fun db => db.transitCountOf asn family)) asns

/-- The batches of the workers leave no trace: it is as if one asked for all systems. -/
theorem countTransit_eq_gather (connection : Option Database) (family : AddressFamily)
    (asns : List Asn) (workers : Nat) :
    countTransit connection family asns workers = gather (countChunk connection family asns) := by
  rw [countTransit, flatMap_countChunk]

/-- Workers find what one finds who asks for the systems one by one. -/
theorem countTransit_eq (connection : Database) (family : AddressFamily) (asns : List Asn)
    (workers : Nat) {number : Asn -> Nat}
    (counts : forall asn, connection.transitCountOf asn family = some (number asn)) :
    countTransit (some connection) family asns workers =
      ⟨Tally.ofList (asns.map fun asn => (asn, number asn)), []⟩ := by
  have results : countChunk (some connection) family asns =
      asns.map fun asn => (asn, some (number asn)) := by
    simp [countChunk, counts]
  rw [countTransit_eq_gather, results, gather]
  simp [List.filterMap_map, List.filter_map, Function.comp_def]

/-- A run on a stored database counts the networks of every public system. -/
theorem analysisTally_eq {db : Database} {rib : RibTable} {analysis : AnalysisTable}
    {settings : StatisticsSettings} (hasRib : db.rib = some rib)
    (hasAnalysis : db.analysis = some analysis) (readable : ReadableSystems analysis)
    (shared : settings.target = .shared) (family : AddressFamily) :
    exists tally, transitTally settings db family .analysis = some tally ∧
      forall asn, tally.get asn =
        if asn.isReserved = false then
          (Database.transitNetworks rib analysis asn family).length
        else 0 := by
  rcases transitSystems_eq hasAnalysis readable with ⟨systems, listed, distinct, mem_iff⟩
  let number (asn : Asn) := (Database.transitNetworks rib analysis asn family).length
  have counted := countTransit_eq db family systems settings.workers
    (transitCountOf_eq hasRib hasAnalysis · family)
  refine ⟨Tally.ofList (systems.map fun asn => (asn, number asn)), ?_, ?_⟩
  · rw [transitTally, listed, shared]
    change (if (countTransit (some db) family systems settings.workers).failed.isEmpty then
      some (countTransit (some db) family systems settings.workers).tally else none) = _
    rw [counted]
    rfl
  · intro asn
    refine (Tally.get_addAll_map .empty distinct number asn).trans ?_
    rw [Tally.get_empty, Nat.zero_add]
    by_cases notReserved : asn.isReserved = false
    · rw [if_pos notReserved]
      by_cases seen : exists id, SeenBetween analysis asn id
      · rw [if_pos ((mem_iff asn).mpr ⟨notReserved, seen⟩)]
      · have nowhere : Database.transitNetworks rib analysis asn family = [] := by
          apply List.eq_nil_iff_forall_not_mem.mpr
          intro network member
          rcases mem_transitNetworks.mp member with ⟨_, row, _, _, between, _⟩
          exact seen ⟨row.path, between⟩
        rw [if_neg fun member => seen ((mem_iff asn).mp member).2, nowhere]
        rfl
    · rw [if_neg notReserved, if_neg fun member => notReserved ((mem_iff asn).mp member).1]

end Job
end AsCensus
