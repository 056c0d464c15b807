import AsCensus.Proofs.AnnouncedRows
import AsCensus.Proofs.StoredRows

namespace AsCensus
namespace Store

open Std

/-!
# Tallying transit

A transit tally visits each distinct announcement once and adds what it finds to the tally it
was given.  It may break off in the middle, at an origin that cannot be read.  Which visit that
happens at depends on their order, but not whether it happens, and visits that succeed can be
exchanged, since all they do is to add to counts (`tallyAnnouncement_exchange`).  The tally is
therefore the same for every order of the visits (`foldlM_tallyAnnouncement`), and tables that
announce the same have the same tally (`transitCounts_congr`).
-/

variable {db : Database} {rib : RibTable} {paths : PathTable} {family : AddressFamily}

theorem tallyAnnouncement_eq (tally : Tally) (announcement : Announcement) :
    Database.tallyAnnouncement tally announcement =
      (readAsn announcement.origin).map fun origin =>
        tally.addTransit announcement.asPath origin true := by
  rw [Database.tallyAnnouncement]
  cases readAsn announcement.origin <;> rfl

theorem addTransit_comm (tally : Tally) (path other : String) (origin otherOrigin : Asn) :
    (tally.addTransit path origin true).addTransit other otherOrigin true =
      (tally.addTransit other otherOrigin true).addTransit path origin true := by
  apply Tally.ext_of_get
  · intro asn
    simp only [Tally.mem_addTransit]
    exact or_left_comm
  · intro asn
    simp only [Tally.get_addTransit]
    omega

/-- Two announcements that are visited one after the other can be exchanged. -/
theorem tallyAnnouncement_exchange (tally : Tally) (first second : Announcement) :
    (Database.tallyAnnouncement tally first).bind
        (fun next => Database.tallyAnnouncement next second) =
      (Database.tallyAnnouncement tally second).bind
        fun next => Database.tallyAnnouncement next first := by
  simp only [tallyAnnouncement_eq]
  cases readAsn first.origin with
  | none => simp only [Option.map_none, Option.bind_none, Option.bind_fun_none]
  | some origin =>
      cases readAsn second.origin with
      | none => simp only [Option.map_none, Option.bind_none, Option.bind_fun_none]
      | some otherOrigin => exact congrArg some (addTransit_comm tally _ _ origin otherOrigin)

/-- Announcements may be visited in any order. -/
theorem foldlM_tallyAnnouncement (hasRib : db.rib = some rib) (hasPaths : db.paths = some paths)
    {visited : List Announcement} (distinct : visited.Nodup)
    (all : forall announcement, announcement ∈ visited <->
      Announces rib paths family announcement) (tally : Tally) :
    visited.foldlM Database.tallyAnnouncement tally = db.transitCounts family tally := by
  have reordered : visited.Perm (announcementsOf rib paths family).eraseDups := by
    rw [List.perm_ext_iff_of_nodup distinct (nodup_eraseDups _)]
    intro announcement
    rw [all, List.mem_eraseDups, mem_announcementsOf]
  rw [Database.transitCounts, announcements_eq hasRib hasPaths]
  apply foldlM_perm _ reordered
  intro state first second _ _
  exact tallyAnnouncement_exchange state first second

/-- Tables that announce the same have the same tally. -/
theorem transitCounts_congr {other : Database} {otherRib : RibTable} {otherPaths : PathTable}
    (hasRib : db.rib = some rib) (hasPaths : db.paths = some paths)
    (hasOtherRib : other.rib = some otherRib) (hasOtherPaths : other.paths = some otherPaths)
    (same : forall announcement, Announces otherRib otherPaths family announcement <->
      Announces rib paths family announcement) (tally : Tally) :
    other.transitCounts family tally = db.transitCounts family tally := by
  have visits : forall announcement,
      announcement ∈ (announcementsOf otherRib otherPaths family).eraseDups <->
        Announces rib paths family announcement := by
    intro announcement
    rw [List.mem_eraseDups, mem_announcementsOf, same]
  rw [← foldlM_tallyAnnouncement hasRib hasPaths (nodup_eraseDups _) visits tally,
    Database.transitCounts, announcements_eq hasOtherRib hasOtherPaths]
  rfl

theorem transitCounts_eq_none_iff {tally : Tally} :
    db.transitCounts family tally = none <-> Uncountable db family := by
  apply eq_none_iff_uncountable
  · intro unlisted
    rw [Database.transitCounts, unlisted]
    rfl
  · intro announcements announcement listed member unread
    rw [Database.transitCounts, listed]
    apply foldlM_of_mem (List.mem_eraseDups.mpr member)
    intro state
    rw [tallyAnnouncement_eq, unread]
    rfl
  · intro rib paths hasRib hasPaths readable
    rcases transitCounts_eq hasRib hasPaths readable tally with ⟨result, counted, _⟩
    rw [counted]
    rfl

/-- Transit is tallied unless a table is missing or an announced origin cannot be read.  Then
each system gets, on top of what it had, the number of distinct announcements on whose path it
provides transit, and the systems that are mentioned are those that were mentioned before and
those that get something.  One announcement gives a system one, however often its path repeats
the system.  Neither the order in which the rows were stored nor the order in which the
announcements are visited leaves a trace, and tables that announce the same have the same
tally.  So a row changes nothing that is withdrawn, of the other family or without attributes,
or that repeats an announcement under another key or from another peer. -/
theorem transit_tally_counts_announcements (db : Database) (family : AddressFamily)
    (start : Tally) :
    (db.transitCounts family start = none <-> Uncountable db family) ∧
      (forall (tally : Tally) (announcement : Announcement) (origin : Asn),
        readAsn announcement.origin = some origin ->
        exists next, Database.tallyAnnouncement tally announcement = some next ∧
          forall asn, next.get asn = tally.get asn +
            if asn ∈ (AsPath.condition announcement.asPath origin true).transit then 1 else 0) ∧
      (forall rows others : List (TableId × List Cell),
        (forall row, row ∈ rows -> row.1 ∈ TableId.sources) -> rows.Perm others ->
        ((db.storeRows rows).bind fun stored => stored.transitCounts family start) =
          (db.storeRows others).bind fun stored => stored.transitCounts family start) ∧
      forall (rib : RibTable) (paths : PathTable), db.rib = some rib -> db.paths = some paths ->
        (ReadableOrigins rib paths family ->
          exists result, db.transitCounts family start = some result ∧
            (forall asn, result.get asn =
              start.get asn + (transitAnnouncements rib paths family asn).ncard) ∧
            forall asn, asn ∈ result.counts <->
              asn ∈ start.counts ∨ 0 < (transitAnnouncements rib paths family asn).ncard) ∧
        (forall visited : List Announcement, visited.Nodup ->
          (forall announcement, announcement ∈ visited <->
            Announces rib paths family announcement) ->
          visited.foldlM Database.tallyAnnouncement start = db.transitCounts family start) ∧
        (forall otherRib otherPaths,
          (forall announcement, Announces otherRib otherPaths family announcement <->
            Announces rib paths family announcement) ->
          ({ db with rib := some otherRib, paths := some otherPaths } : Database).transitCounts
            family start = db.transitCounts family start) ∧
        forall id row, rib[id]? = none ->
          AddsNothing (Announces rib paths family) paths family row ->
          ({ db with rib := some (ExtTreeMap.insert rib id row) } : Database).transitCounts family
            start = db.transitCounts family start := by
  refine ⟨transitCounts_eq_none_iff, ?_, ?_, ?_⟩
  · intro tally announcement origin read
    refine ⟨tally.addTransit announcement.asPath origin true, ?_, ?_⟩
    · rw [tallyAnnouncement_eq, read]
      rfl
    · intro asn
      simp only [Tally.get_addTransit, Tally.mem_transitOf_iff]
  · intro rows others collected reordered
    have numbered : forall row, row ∈ rows -> row.1 ≠ .whois := by
      intro row member isWhois
      have source := collected row member
      rw [isWhois] at source
      exact absurd source (by decide)
    rw [db.storeRows_perm numbered reordered]
  · intro rib paths hasRib hasPaths
    refine ⟨?_, ?_, ?_, ?_⟩
    · intro readable
      exact transitCounts_eq hasRib hasPaths readable start
    · intro visited distinct all
      exact foldlM_tallyAnnouncement hasRib hasPaths distinct all start
    · intro otherRib otherPaths same
      exact transitCounts_congr hasRib hasPaths rfl rfl same start
    · intro id row fresh nothing
      have same := announces_insert_of_addsNothing fresh nothing
      refine transitCounts_congr hasRib hasPaths rfl ?_ same start
      exact hasPaths

/-- The two paths to the reported network add to a count that was there before, and the first
of them counts no second time under another key. -/
theorem transit_of_two_peers_is_added :
    (exists result, twoPeers.transitCounts .ipv4 (Tally.empty.add 3356 5) = some result ∧
      result.get 3356 = 7) ∧
      ({ twoPeers with
          rib := some (ExtTreeMap.insert twoPeersRib "again"
            { path := ⟨"long", "174"⟩, network := reportedNetwork }) } :
        Database).transitCounts .ipv4 (Tally.empty.add 3356 5) =
        twoPeers.transitCounts .ipv4 (Tally.empty.add 3356 5) := by
  rcases transit_tally_counts_announcements twoPeers .ipv4 (Tally.empty.add 3356 5) with
    ⟨_, _, _, tallied⟩
  rcases tallied twoPeersRib twoPeersPaths rfl rfl with ⟨counted, _, _, inserted⟩
  constructor
  · rcases counted (readableOrigins_of_paths twoPeersRib .ipv4 readable_twoPeersPaths) with
      ⟨result, isResult, get, _⟩
    refine ⟨result, isResult, ?_⟩
    have before : (Tally.empty.add 3356 5).get 3356 = 5 := by decide
    have number := announcedCount_twoPeers
    rw [announcedCount] at number
    rw [get, before, number]
  · exact inserted "again" _ (by decide)
      (@AddsNothing.repeated _ _ _ _ ⟨"174 3356 13335", .integer 13335, reportedNetwork⟩
        (by decide) (announces_twoPeers.mpr (Or.inl rfl)))

end Store
end AsCensus
