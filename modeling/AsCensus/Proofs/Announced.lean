import AsCensus.Proofs.Distinct
import AsCensus.Proofs.TallyCounts
import AsCensus.Store.AsnStats

namespace AsCensus
namespace Store

open Std

/-!
# What is announced

A table announces a network over a path when it has a row of the family that is not
withdrawn, and the path of the row has attributes.  The statistics of a system are sizes
of sets of such announcements:

* the networks that are announced with the system as their origin;
* the announcements on whose path the system provides transit, where a network counts
  once for each text of a path and each origin.

The tallies that are computed from the tables are these sizes (`originCounts_eq`,
`transitCounts_eq`), provided that every origin can be read as a system.
-/

variable {db : Database} {rib : RibTable} {paths : PathTable}

/-- Whether a table makes an announcement of a family. -/
def Announces (rib : RibTable) (paths : PathTable) (family : AddressFamily)
    (announcement : Announcement) : Prop :=
  exists (id : String) (row : RibRow) (path : PathRow), rib[id]? = some row ∧ row.ipv4 = family.flag ∧
    row.withdrawn = .integer 0 ∧ paths[row.path]? = some path ∧
    announcement = ⟨path.asPath, path.origin, row.network⟩

/-- The networks of a family that a system is the origin of. -/
def originNetworks (rib : RibTable) (paths : PathTable) (family : AddressFamily) (asn : Asn) :
    Set StoredNetwork :=
  {network | exists announcement, Announces rib paths family announcement ∧
    announcement.origin = .integer asn.toInt ∧ announcement.network = network}

/-- The announcements of a family on whose path a system provides transit. -/
def transitAnnouncements (rib : RibTable) (paths : PathTable) (family : AddressFamily)
    (asn : Asn) : Set Announcement :=
  {announcement | Announces rib paths family announcement ∧
    exists origin : Asn, announcement.origin = .integer origin.toInt ∧
      asn ∈ AsPath.transitOf announcement.asPath origin true}

/-- Whether the origin of everything that is announced can be read as a system. -/
def ReadableOrigins (rib : RibTable) (paths : PathTable) (family : AddressFamily) : Prop :=
  forall announcement, Announces rib paths family announcement ->
    (readAsn announcement.origin).isSome

theorem readAsn_eq_some_iff {stored : Datum} {asn : Asn} :
    readAsn stored = some asn <-> stored = .integer asn.toInt := by
  rw [readAsn, Option.bind_eq_some_iff]
  constructor
  · rintro ⟨value, isInteger, inRange⟩
    rw [Datum.integer?_eq_some_iff.mp isInteger, Asn.ofInt?_eq_some_iff.mp inRange]
  · rintro rfl
    exact ⟨asn.toInt, rfl, Asn.ofInt?_toInt asn⟩

theorem mem_announcementsOf {family : AddressFamily} {announcement : Announcement} :
    announcement ∈ announcementsOf rib paths family <-> Announces rib paths family announcement := by
  simp only [announcementsOf, List.mem_filterMap, List.mem_filter, Prod.exists,
    ExtTreeMap.mem_toList_iff_getElem?_eq_some, RibRow.announcement, Option.map_eq_some_iff,
    RibRow.isLive, Bool.and_eq_true, beq_iff_eq]
  constructor
  · rintro ⟨id, row, ⟨stored, inFamily, live⟩, path, attributes, rfl⟩
    exact ⟨id, row, path, stored, inFamily, live, attributes, rfl⟩
  · rintro ⟨id, row, path, stored, inFamily, live, attributes, rfl⟩
    exact ⟨id, row, ⟨stored, inFamily, live⟩, path, attributes, rfl⟩

theorem announcements_eq (hasRib : db.rib = some rib) (hasPaths : db.paths = some paths)
    (family : AddressFamily) :
    db.announcements family = some (announcementsOf rib paths family) := by
  rw [Database.announcements, hasRib, hasPaths]
  rfl

theorem finite_announces (rib : RibTable) (paths : PathTable) (family : AddressFamily) :
    {announcement | Announces rib paths family announcement}.Finite := by
  refine (List.finite_toSet (announcementsOf rib paths family)).subset ?_
  intro announcement announced
  exact mem_announcementsOf.mpr announced

theorem finite_transitAnnouncements (rib : RibTable) (paths : PathTable)
    (family : AddressFamily) (asn : Asn) : (transitAnnouncements rib paths family asn).Finite :=
  (finite_announces rib paths family).subset fun _ member => member.1

theorem readableOrigins_of_paths (rib : RibTable) (family : AddressFamily)
    (readable : forall (id : PathId) (path : PathRow), paths[id]? = some path ->
      (readAsn path.origin).isSome) : ReadableOrigins rib paths family := by
  rintro announcement ⟨id, row, path, _, _, _, attributes, rfl⟩
  exact readable row.path path attributes

/-- The system that is read as an origin. -/
def readOrigin (stored : Datum) : Asn :=
  (readAsn stored).getD 0

theorem readAsn_origin {family : AddressFamily} (readable : ReadableOrigins rib paths family)
    {announcement : Announcement} (announced : Announces rib paths family announcement) :
    readAsn announcement.origin = some (readOrigin announcement.origin) := by
  rcases Option.isSome_iff_exists.mp (readable announcement announced) with ⟨asn, read⟩
  simp [readOrigin, read]

/-! ## Counts -/

/-- How many networks, or announcements, of a family count for a system in a role. -/
noncomputable def announcedCount (rib : RibTable) (paths : PathTable) (role : Role)
    (family : AddressFamily) (asn : Asn) : Nat :=
  match role with
  | .origin => (originNetworks rib paths family asn).ncard
  | .transit => (transitAnnouncements rib paths family asn).ncard

/-- A list of counts is exact when it has one entry for each public system with a
positive number, which is the number of the entry. -/
structure ExactCounts (counts : List (Asn × Nat)) (number : Asn -> Nat) : Prop where
  distinct : (counts.map Prod.fst).Nodup
  mem_iff : forall asn count, (asn, count) ∈ counts <->
    asn.isReserved = false ∧ 0 < count ∧ number asn = count

/-- The entries of a tally above zero are exact, if it counts no reserved system. -/
theorem exactCounts_of_get {tally : Tally} {number : Asn -> Nat}
    (get : forall asn, tally.get asn = number asn)
    (notReserved : forall asn, 0 < number asn -> asn.isReserved = false) :
    ExactCounts (tally.toList.filter fun entry => 0 < entry.2) number := by
  constructor
  · exact tally.nodup_systems.sublist (List.filter_sublist.map Prod.fst)
  · intro asn count
    rw [List.mem_filter, Tally.mem_toList, get, decide_eq_true_eq]
    constructor
    · rintro ⟨⟨_, rfl⟩, positive⟩
      exact ⟨notReserved asn positive, positive, rfl⟩
    · rintro ⟨_, positive, rfl⟩
      refine ⟨⟨?_, rfl⟩, positive⟩
      by_contra absent
      rw [← get, Tally.get_of_not_mem absent] at positive
      exact Nat.lt_irrefl 0 positive

/-- A network is stored once for each of its origins, however it was announced. -/
theorem countP_originPairs (rib : RibTable) (paths : PathTable) (family : AddressFamily)
    (asn : Asn) :
    ((announcementsOf rib paths family).map fun a => OriginNetwork.mk a.origin a.network).eraseDups.countP
        (fun pair => readAsn pair.origin == some asn) =
      announcedCount rib paths .origin family asn := by
  rw [countP_eraseDups]
  refine Set.ncard_congr (fun pair _ => pair.network) ?_ ?_ ?_
  · rintro pair ⟨listed, isOrigin⟩
    rcases List.mem_map.mp listed with ⟨announcement, announced, rfl⟩
    refine ⟨announcement, mem_announcementsOf.mp announced, ?_, rfl⟩
    exact readAsn_eq_some_iff.mp (beq_iff_eq.mp isOrigin)
  · rintro ⟨origin, network⟩ ⟨otherOrigin, otherNetwork⟩ ⟨_, isOrigin⟩ ⟨_, isOther⟩ same
    have first := readAsn_eq_some_iff.mp (beq_iff_eq.mp isOrigin)
    have second := readAsn_eq_some_iff.mp (beq_iff_eq.mp isOther)
    simp only at first second same
    rw [first, second, same]
  · rintro network ⟨announcement, announced, isOrigin, rfl⟩
    refine ⟨⟨announcement.origin, announcement.network⟩, ⟨?_, ?_⟩, rfl⟩
    · exact List.mem_map.mpr ⟨announcement, mem_announcementsOf.mpr announced, rfl⟩
    · simpa using readAsn_eq_some_iff.mpr isOrigin

/-- The origins of the distinct pairs are tallied, and the public ones are listed. -/
theorem originCounts_eq_toList (hasRib : db.rib = some rib) (hasPaths : db.paths = some paths)
    {family : AddressFamily} (readable : ReadableOrigins rib paths family) :
    exists tally : Tally,
      db.originCounts family = some (tally.toList.filter fun entry => !entry.1.isReserved) ∧
      (forall asn, tally.get asn = announcedCount rib paths .origin family asn) ∧
      (forall asn, asn ∈ tally.counts <-> 0 < announcedCount rib paths .origin family asn) := by
  let pairs := ((announcementsOf rib paths family).map
    fun a => OriginNetwork.mk a.origin a.network).eraseDups
  let origins := pairs.map fun pair => readOrigin pair.origin
  have reads : forall pair, pair ∈ pairs ->
      readAsn pair.origin = some (readOrigin pair.origin) := by
    intro pair member
    rcases List.mem_map.mp (List.mem_eraseDups.mp member) with ⟨a, listed, rfl⟩
    exact readAsn_origin readable (mem_announcementsOf.mp listed)
  have count (asn : Asn) : origins.count asn = announcedCount rib paths .origin family asn := by
    rw [← countP_originPairs, List.count_eq_countP, List.countP_map]
    apply List.countP_congr
    intro pair member
    rw [reads pair member]
    simp
  refine ⟨Tally.ofList (origins.map fun origin => (origin, 1)), ?_, ?_, ?_⟩
  · rw [Database.originCounts, announcements_eq hasRib hasPaths]
    change ((pairs.mapM fun pair => readAsn pair.origin).bind _) = _
    rw [mapM_of_forall reads]
    rfl
  · intro asn
    rw [← count]
    exact (Tally.get_addAll_ones .empty origins asn).trans (by rw [Tally.get_empty, Nat.zero_add])
  · intro asn
    rw [← count, List.count_pos_iff]
    refine (Tally.mem_addAll .empty _ asn).trans ?_
    simp [Tally.not_mem_empty]

theorem originCounts_eq (hasRib : db.rib = some rib) (hasPaths : db.paths = some paths)
    {family : AddressFamily} (readable : ReadableOrigins rib paths family) :
    exists counts, db.originCounts family = some counts ∧
      ExactCounts counts (announcedCount rib paths .origin family) := by
  rcases originCounts_eq_toList hasRib hasPaths readable with ⟨tally, counted, get, mentions⟩
  refine ⟨tally.toList.filter fun entry => !entry.1.isReserved, counted, ?_, ?_⟩
  · exact (tally.nodup_systems).sublist (List.filter_sublist.map Prod.fst)
  · intro asn number
    rw [List.mem_filter, Tally.mem_toList, mentions, get]
    constructor
    · rintro ⟨⟨positive, rfl⟩, notReserved⟩
      exact ⟨by simpa using notReserved, positive, rfl⟩
    · rintro ⟨notReserved, positive, rfl⟩
      exact ⟨⟨positive, rfl⟩, by simp [notReserved]⟩

/-- The tally of an announcement whose origin can be read. -/
def addAnnouncement (tally : Tally) (announcement : Announcement) : Tally :=
  tally.addTransit announcement.asPath (readOrigin announcement.origin) true

theorem get_foldl_addAnnouncement (announcements : List Announcement) (tally : Tally)
    (asn : Asn) :
    (announcements.foldl addAnnouncement tally).get asn =
      tally.get asn + announcements.countP fun announcement =>
        decide (asn ∈ AsPath.transitOf announcement.asPath (readOrigin announcement.origin) true) := by
  induction announcements generalizing tally with
  | nil => rfl
  | cons announcement rest ih =>
      rw [List.foldl_cons, ih, addAnnouncement, Tally.get_addTransit, List.countP_cons]
      simp only [decide_eq_true_eq]
      omega

theorem mem_foldl_addAnnouncement (announcements : List Announcement) (tally : Tally)
    (asn : Asn) :
    asn ∈ (announcements.foldl addAnnouncement tally).counts <->
      asn ∈ tally.counts ∨ exists announcement, announcement ∈ announcements ∧
        asn ∈ AsPath.transitOf announcement.asPath (readOrigin announcement.origin) true := by
  induction announcements generalizing tally with
  | nil => simp
  | cons announcement rest ih =>
      rw [List.foldl_cons, ih, addAnnouncement, Tally.mem_addTransit]
      simp only [List.mem_cons, or_and_right, exists_or, exists_eq_left]
      rw [or_assoc, or_left_comm]

/-- A tally of transit adds, for each system, the number of announcements on whose path
it provides transit, and mentions it if there is one. -/
theorem transitCounts_eq (hasRib : db.rib = some rib) (hasPaths : db.paths = some paths)
    {family : AddressFamily} (readable : ReadableOrigins rib paths family) (tally : Tally) :
    exists result, db.transitCounts family tally = some result ∧
      (forall asn, result.get asn =
        tally.get asn + announcedCount rib paths .transit family asn) ∧
      (forall asn, asn ∈ result.counts <->
        asn ∈ tally.counts ∨ 0 < announcedCount rib paths .transit family asn) := by
  let distinct := (announcementsOf rib paths family).eraseDups
  have reads : forall a, a ∈ distinct -> readAsn a.origin = some (readOrigin a.origin) := by
    intro a member
    exact readAsn_origin readable (mem_announcementsOf.mp (List.mem_eraseDups.mp member))
  have provides (asn : Asn) (a : Announcement) :
      a ∈ distinct ∧ asn ∈ AsPath.transitOf a.asPath (readOrigin a.origin) true <->
        a ∈ transitAnnouncements rib paths family asn := by
    constructor
    · rintro ⟨member, provided⟩
      refine ⟨mem_announcementsOf.mp (List.mem_eraseDups.mp member), readOrigin a.origin, ?_, provided⟩
      exact readAsn_eq_some_iff.mp (reads a member)
    · rintro ⟨announced, origin, isOrigin, provided⟩
      refine ⟨List.mem_eraseDups.mpr (mem_announcementsOf.mpr announced), ?_⟩
      rw [readOrigin, readAsn_eq_some_iff.mpr isOrigin]
      exact provided
  refine ⟨distinct.foldl addAnnouncement tally, ?_, ?_, ?_⟩
  · rw [Database.transitCounts, announcements_eq hasRib hasPaths]
    apply foldlM_of_forall
    intro state a member
    rw [Database.tallyAnnouncement, reads a member]
    rfl
  · intro asn
    rw [get_foldl_addAnnouncement, countP_eraseDups]
    congr 2
    ext a
    rw [← provides, List.mem_eraseDups]
    simp
  · intro asn
    rw [mem_foldl_addAnnouncement]
    have positive := Set.ncard_pos (finite_transitAnnouncements rib paths family asn)
    simp only [provides, announcedCount, positive]
    rfl

/-- A system with transit is public. -/
theorem not_reserved_of_transit_pos {family : AddressFamily} {asn : Asn}
    (positive : 0 < announcedCount rib paths .transit family asn) : asn.isReserved = false := by
  rcases (Set.ncard_pos (finite_transitAnnouncements rib paths family asn)).mp positive with
    ⟨_, _, _, _, provides⟩
  exact Tally.not_reserved_of_mem_transitOf provides

/-! ## A network that two peers report -/

/-- The network that is reported. -/
def reportedNetwork : StoredNetwork :=
  ⟨"1.0.0.0", .integer 24⟩

/-- A table in which two peers report one network. -/
def twoPeersRib : RibTable :=
  ((∅ : RibTable).insert "first" { path := ⟨"long", "174"⟩, network := reportedNetwork }).insert
    "second" { path := ⟨"short", "2914"⟩, network := reportedNetwork }

/-- The paths on which the network is reported. -/
def twoPeersPaths : PathTable :=
  ((∅ : PathTable).insert ⟨"long", "174"⟩ ⟨"174 3356 13335", .integer 13335⟩).insert
    ⟨"short", "2914"⟩ ⟨"2914 3356 13335", .integer 13335⟩

/-- A database with these tables and no statistics yet. -/
def twoPeers : Database :=
  { rib := some twoPeersRib, paths := some twoPeersPaths, stats := some ∅ }

theorem readable_twoPeersPaths (id : PathId) (path : PathRow)
    (stored : twoPeersPaths[id]? = some path) : (readAsn path.origin).isSome := by
  have listed := ExtTreeMap.mem_toList_iff_getElem?_eq_some.mpr stored
  have all : forall entry, entry ∈ twoPeersPaths.toList ->
      (readAsn entry.2.origin).isSome := by decide
  exact all (id, path) listed

theorem announces_twoPeers {announcement : Announcement} :
    Announces twoPeersRib twoPeersPaths .ipv4 announcement <->
      announcement = ⟨"174 3356 13335", .integer 13335, reportedNetwork⟩ ∨
        announcement = ⟨"2914 3356 13335", .integer 13335, reportedNetwork⟩ := by
  have listed : announcementsOf twoPeersRib twoPeersPaths .ipv4 =
      [⟨"174 3356 13335", .integer 13335, reportedNetwork⟩,
        ⟨"2914 3356 13335", .integer 13335, reportedNetwork⟩] := by decide
  rw [← mem_announcementsOf, listed]
  simp

/-- The two paths count apart, although they lead to the same network. -/
theorem announcedCount_twoPeers :
    announcedCount twoPeersRib twoPeersPaths .transit .ipv4 3356 = 2 := by
  have both : transitAnnouncements twoPeersRib twoPeersPaths .ipv4 3356 =
      {⟨"174 3356 13335", .integer 13335, reportedNetwork⟩,
        ⟨"2914 3356 13335", .integer 13335, reportedNetwork⟩} := by
    ext announcement
    constructor
    · rintro ⟨announced, _⟩
      exact announces_twoPeers.mp announced
    · rintro (rfl | rfl)
      · exact ⟨announces_twoPeers.mpr (Or.inl rfl), 13335, rfl, by decide⟩
      · exact ⟨announces_twoPeers.mpr (Or.inr rfl), 13335, rfl, by decide⟩
  rw [announcedCount, both, Set.ncard_pair (by decide)]

end Store
end AsCensus
