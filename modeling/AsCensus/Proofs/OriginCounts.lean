import AsCensus.Proofs.AnnouncedRows

namespace AsCensus
namespace Store

open Std

/-!
# Counting origins

All that an origin count knows of the tables is which networks are announced with which
origins (`Originates`).  Whether the origins can be read at all is known from these pairs, and
so is the number of networks of each origin, so that tables with the same pairs have the same
counts (`originCounts_congr`).

It is not enough to look at the list of counts, which leaves out reserved origins: the tallies
behind two lists are compared instead, and the lists follow.
-/

variable {db : Database} {rib : RibTable} {paths : PathTable} {family : AddressFamily}

theorem originCounts_eq_none_iff : db.originCounts family = none <-> Uncountable db family := by
  apply eq_none_iff_uncountable
  · intro unlisted
    rw [Database.originCounts, unlisted]
    rfl
  · intro announcements announcement listed member unread
    have network := List.mem_map_of_mem (f := fun a => OriginNetwork.mk a.origin a.network) member
    rw [Database.originCounts, listed]
    change ((List.mapM (fun pair : OriginNetwork => readAsn pair.origin) _).bind _) = _
    rw [mapM_of_mem (List.mem_eraseDups.mpr network) unread]
    rfl
  · intro rib paths hasRib hasPaths readable
    rcases originCounts_eq hasRib hasPaths readable with ⟨counts, counted, _⟩
    rw [counted]
    rfl

theorem readableOrigins_iff :
    ReadableOrigins rib paths family <->
      forall pair, Originates rib paths family pair -> (readAsn pair.origin).isSome := by
  constructor
  · rintro readable pair ⟨announcement, announced, rfl⟩
    exact readable announcement announced
  · intro readable announcement announced
    exact readable ⟨announcement.origin, announcement.network⟩ ⟨announcement, announced, rfl⟩

theorem mem_originNetworks_iff {asn : Asn} {network : StoredNetwork} :
    network ∈ originNetworks rib paths family asn <->
      Originates rib paths family ⟨.integer asn.toInt, network⟩ := by
  constructor
  · rintro ⟨announcement, announced, isOrigin, isNetwork⟩
    exact ⟨announcement, announced, by rw [isOrigin, isNetwork]⟩
  · rintro ⟨announcement, announced, same⟩
    rw [OriginNetwork.mk.injEq] at same
    exact ⟨announcement, announced, same⟩

theorem finite_originNetworks (rib : RibTable) (paths : PathTable) (family : AddressFamily)
    (asn : Asn) : (originNetworks rib paths family asn).Finite := by
  refine ((finite_announces rib paths family).image Announcement.network).subset ?_
  rintro network ⟨announcement, announced, _, rfl⟩
  exact ⟨announcement, announced, rfl⟩

/-- Tables that announce the same networks with the same origins have the same counts. -/
theorem originCounts_congr {other : Database} {otherRib : RibTable} {otherPaths : PathTable}
    (hasRib : db.rib = some rib) (hasPaths : db.paths = some paths)
    (hasOtherRib : other.rib = some otherRib) (hasOtherPaths : other.paths = some otherPaths)
    (same : forall pair, Originates otherRib otherPaths family pair <->
      Originates rib paths family pair) :
    other.originCounts family = db.originCounts family := by
  have readable_iff : ReadableOrigins otherRib otherPaths family <->
      ReadableOrigins rib paths family := by
    simp only [readableOrigins_iff, same]
  have networks (asn : Asn) : announcedCount otherRib otherPaths .origin family asn =
      announcedCount rib paths .origin family asn := by
    apply congrArg Set.ncard
    ext network
    rw [mem_originNetworks_iff, mem_originNetworks_iff, same]
  by_cases readable : ReadableOrigins rib paths family
  · rcases originCounts_eq_toList hasRib hasPaths readable with ⟨tally, counted, get, mentions⟩
    rcases originCounts_eq_toList hasOtherRib hasOtherPaths (readable_iff.mpr readable) with
      ⟨otherTally, otherCounted, otherGet, otherMentions⟩
    have tallies : otherTally = tally := by
      apply Tally.ext_of_get
      · intro asn
        rw [otherMentions, mentions, networks]
      · intro asn
        rw [otherGet, get, networks]
    rw [counted, otherCounted, tallies]
  · have unread := uncountable_of_not_readable hasRib hasPaths readable
    have otherUnread := uncountable_of_not_readable hasOtherRib hasOtherPaths
      (fun otherReadable => readable (readable_iff.mp otherReadable))
    rw [originCounts_eq_none_iff.mpr unread, originCounts_eq_none_iff.mpr otherUnread]

/-- The systems that are listed are the public ones that something is announced for. -/
theorem mem_systems_iff {counts : List (Asn × Nat)}
    (exactly : ExactCounts counts fun asn => (originNetworks rib paths family asn).ncard)
    {asn : Asn} :
    asn ∈ counts.map Prod.fst <->
      asn.isReserved = false ∧ (originNetworks rib paths family asn).Nonempty := by
  rw [← Set.ncard_pos (finite_originNetworks rib paths family asn), List.mem_map]
  constructor
  · rintro ⟨⟨system, count⟩, listed, rfl⟩
    rcases (exactly.mem_iff system count).mp listed with ⟨notReserved, positive, same⟩
    exact ⟨notReserved, by rw [same]; exact positive⟩
  · rintro ⟨notReserved, positive⟩
    exact ⟨(asn, _), (exactly.mem_iff asn _).mpr ⟨notReserved, positive, rfl⟩, rfl⟩

/-- Origins are counted unless a table is missing or an announced origin cannot be read.  Then
each public origin of something that is announced is listed once, with the number of networks
that are announced with it.  Nothing else counts: tables in which the same networks have the
same origins are counted the same, and so a row that announces nothing, or a network that its
origin has already, changes nothing, nor do attributes that no live row joins, whatever their
origin is, nor the origins that are noted in the rows themselves. -/
theorem origin_counts_are_numbers_of_networks (db : Database) (family : AddressFamily) :
    (db.originCounts family = none <-> Uncountable db family) ∧
      forall (rib : RibTable) (paths : PathTable), db.rib = some rib -> db.paths = some paths ->
        (ReadableOrigins rib paths family ->
          exists counts, db.originCounts family = some counts ∧
            ExactCounts counts (fun asn => (originNetworks rib paths family asn).ncard) ∧
            forall asn, asn ∈ counts.map Prod.fst <->
              asn.isReserved = false ∧ (originNetworks rib paths family asn).Nonempty) ∧
        (forall otherRib otherPaths,
          (forall pair, Originates otherRib otherPaths family pair <->
            Originates rib paths family pair) ->
          ({ db with rib := some otherRib, paths := some otherPaths } : Database).originCounts
            family = db.originCounts family) ∧
        (forall id row, rib[id]? = none ->
          AddsNothing (fun a => Originates rib paths family ⟨a.origin, a.network⟩) paths family
            row ->
          ({ db with rib := some (ExtTreeMap.insert rib id row) } : Database).originCounts family =
            db.originCounts family) ∧
        (forall id path,
          (forall (key : String) (row : RibRow), rib[key]? = some row ->
            row.isLive family = true -> row.path ≠ id) ->
          ({ db with paths := some (ExtTreeMap.insert paths id path) } : Database).originCounts
            family = db.originCounts family) ∧
        forall noted,
          ({ db with rib := some (rib.restate noted) } : Database).originCounts family =
            db.originCounts family := by
  refine ⟨originCounts_eq_none_iff, ?_⟩
  intro rib paths hasRib hasPaths
  refine ⟨?_, ?_, ?_, ?_, ?_⟩
  · intro readable
    rcases originCounts_eq hasRib hasPaths readable with ⟨counts, counted, exactly⟩
    exact ⟨counts, counted, exactly, fun asn => mem_systems_iff exactly⟩
  · intro otherRib otherPaths same
    exact originCounts_congr hasRib hasPaths rfl rfl same
  · intro id row fresh nothing
    exact originCounts_congr hasRib hasPaths rfl hasPaths
      (originates_insert_of_addsNothing fresh nothing)
  · intro id path unused
    exact originCounts_congr hasRib hasPaths hasRib rfl
      (originates_congr (announces_insert_path path unused))
  · intro noted
    exact originCounts_congr hasRib hasPaths rfl hasPaths
      (originates_congr (announces_restate noted))

/-- The network that the two peers report, on two paths, counts once for its origin, and a row
that was withdrawn changes nothing. -/
theorem network_of_two_peers_counts_once :
    (exists counts, twoPeers.originCounts .ipv4 = some counts ∧ (13335, 1) ∈ counts) ∧
      ({ twoPeers with
          rib := some (ExtTreeMap.insert twoPeersRib "third"
            { path := ⟨"long", "174"⟩, network := reportedNetwork, withdrawn := .integer 1 }) } :
        Database).originCounts .ipv4 = twoPeers.originCounts .ipv4 := by
  rcases origin_counts_are_numbers_of_networks twoPeers .ipv4 with ⟨_, counted⟩
  rcases counted twoPeersRib twoPeersPaths rfl rfl with ⟨exactly, _, inserted, _⟩
  constructor
  · rcases exactly (readableOrigins_of_paths twoPeersRib .ipv4 readable_twoPeersPaths) with
      ⟨counts, listed, numbers, _⟩
    refine ⟨counts, listed, (numbers.mem_iff 13335 1).mpr ⟨by decide, by decide, ?_⟩⟩
    have only : originNetworks twoPeersRib twoPeersPaths .ipv4 13335 = {reportedNetwork} := by
      ext network
      constructor
      · rintro ⟨announcement, announced, _, rfl⟩
        rcases announces_twoPeers.mp announced with rfl | rfl <;> rfl
      · rintro rfl
        exact ⟨_, announces_twoPeers.mpr (Or.inl rfl), rfl, rfl⟩
    rw [only, Set.ncard_singleton]
  · exact inserted "third" _ (by decide) (.withdrawn (by decide))

end Store
end AsCensus
