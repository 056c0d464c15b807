import AsCensus.Proofs.Announced

namespace AsCensus
namespace Store

open Std

/-!
# Rows and what they announce

What the tables announce is a set, and many rows leave no trace in it.  A row that is
withdrawn, of the other family or without attributes announces nothing, and one that repeats
an announcement announces nothing new, whatever its key and its peer are (`AddsNothing`,
`announces_insert`).  Attributes that no live row joins and the origins that are noted in the
rows themselves are not looked at (`announces_insert_path`, `announces_restate`).

Announcements cannot be counted if a table is missing or if one of their origins cannot be
read (`Uncountable`).  For whatever is counted of them, nothing else makes it fail
(`eq_none_iff_uncountable`).
-/

variable {db : Database} {rib : RibTable} {paths : PathTable} {family : AddressFamily}

/-- Why the announcements of a family cannot be counted. -/
inductive Uncountable (db : Database) (family : AddressFamily) : Prop
  | noRib (missing : db.rib = none)
  | noPaths (missing : db.paths = none)
  /-- The origin of something that is announced is no system. -/
  | unreadable {rib : RibTable} {paths : PathTable} {announcement : Announcement}
      (hasRib : db.rib = some rib) (hasPaths : db.paths = some paths)
      (announced : Announces rib paths family announcement)
      (unread : readAsn announcement.origin = none)

/-- Why a row tells nothing that is not known. -/
inductive AddsNothing (known : Announcement -> Prop) (paths : PathTable)
    (family : AddressFamily) (row : RibRow) : Prop
  | otherFamily (other : row.ipv4 ≠ family.flag)
  | withdrawn (gone : row.withdrawn ≠ .integer 0)
  | unjoined (alone : paths[row.path]? = none)
  | repeated {announcement : Announcement} (told : row.announcement paths = some announcement)
      (already : known announcement)

/-- The pairs of an origin and a network that are announced. -/
def Originates (rib : RibTable) (paths : PathTable) (family : AddressFamily)
    (pair : OriginNetwork) : Prop :=
  exists announcement, Announces rib paths family announcement ∧
    OriginNetwork.mk announcement.origin announcement.network = pair

/-- Rows with the origins that are noted in them replaced. -/
def RibTable.restate (rib : RibTable) (noted : String -> RibRow -> Datum) : RibTable :=
  ExtTreeMap.map (fun id row => { row with origin := noted id row }) rib

theorem announcements_of_no_rib (missing : db.rib = none) (family : AddressFamily) :
    db.announcements family = none := by
  rw [Database.announcements, missing]
  rfl

theorem announcements_of_no_paths (missing : db.paths = none) (family : AddressFamily) :
    db.announcements family = none := by
  rw [Database.announcements, missing]
  cases db.rib <;> rfl

theorem countable_or_not (db : Database) (family : AddressFamily) :
    Uncountable db family ∨
      exists rib paths, db.rib = some rib ∧ db.paths = some paths ∧
        ReadableOrigins rib paths family := by
  cases hasRib : db.rib with
  | none => exact Or.inl (.noRib hasRib)
  | some rib =>
      cases hasPaths : db.paths with
      | none => exact Or.inl (.noPaths hasPaths)
      | some paths =>
          by_cases readable : ReadableOrigins rib paths family
          · exact Or.inr ⟨rib, paths, rfl, rfl, readable⟩
          · left
            simp only [ReadableOrigins, not_forall] at readable
            rcases readable with ⟨announcement, announced, unread⟩
            exact .unreadable hasRib hasPaths announced (by simpa using unread)

/-- A count fails exactly if the announcements cannot be counted, if it has nothing to count when
they cannot be listed, is stopped by an origin that cannot be read, and by nothing else. -/
theorem eq_none_iff_uncountable {count : Option X}
    (unlisted : db.announcements family = none -> count = none)
    (stopped : forall announcements announcement, db.announcements family = some announcements ->
      announcement ∈ announcements -> readAsn announcement.origin = none -> count = none)
    (counted : forall rib paths, db.rib = some rib -> db.paths = some paths ->
      ReadableOrigins rib paths family -> count.isSome) :
    count = none <-> Uncountable db family := by
  constructor
  · intro failed
    rcases countable_or_not db family with fails | ⟨rib, paths, hasRib, hasPaths, readable⟩
    · exact fails
    · have counts := counted rib paths hasRib hasPaths readable
      rw [failed] at counts
      cases counts
  · intro fails
    cases fails with
    | noRib missing => exact unlisted (announcements_of_no_rib missing family)
    | noPaths missing => exact unlisted (announcements_of_no_paths missing family)
    | unreadable hasRib hasPaths announced unread =>
        exact stopped _ _ (announcements_eq hasRib hasPaths family)
          (mem_announcementsOf.mpr announced) unread

theorem uncountable_of_not_readable (hasRib : db.rib = some rib) (hasPaths : db.paths = some paths)
    (unreadable : ¬ ReadableOrigins rib paths family) : Uncountable db family := by
  rcases countable_or_not db family with fails | ⟨otherRib, otherPaths, isRib, isPaths, readable⟩
  · exact fails
  · rw [hasRib] at isRib
    rw [hasPaths] at isPaths
    cases isRib
    cases isPaths
    exact absurd readable unreadable

/-! ## Single rows -/

theorem isLive_iff {row : RibRow} :
    row.isLive family = true <-> row.ipv4 = family.flag ∧ row.withdrawn = .integer 0 := by
  rw [RibRow.isLive, Bool.and_eq_true, beq_iff_eq, beq_iff_eq]

theorem announces_iff {announcement : Announcement} :
    Announces rib paths family announcement <->
      exists (id : String) (row : RibRow), rib[id]? = some row ∧ row.isLive family = true ∧
        row.announcement paths = some announcement := by
  simp only [Announces, isLive_iff, RibRow.announcement, Option.map_eq_some_iff]
  constructor
  · rintro ⟨id, row, path, stored, inFamily, live, attributes, rfl⟩
    exact ⟨id, row, stored, ⟨inFamily, live⟩, path, attributes, rfl⟩
  · rintro ⟨id, row, stored, ⟨inFamily, live⟩, path, attributes, rfl⟩
    exact ⟨id, row, path, stored, inFamily, live, attributes, rfl⟩

theorem AddsNothing.known {known : Announcement -> Prop} {row : RibRow}
    {announcement : Announcement} (nothing : AddsNothing known paths family row)
    (live : row.isLive family = true) (told : row.announcement paths = some announcement) :
    known announcement := by
  rw [isLive_iff] at live
  cases nothing with
  | otherFamily other => exact absurd live.1 other
  | withdrawn gone => exact absurd live.2 gone
  | unjoined alone =>
      rw [RibRow.announcement, alone] at told
      cases told
  | repeated other already =>
      rw [other] at told
      cases told
      exact already

/-- A row under a new key announces what it tells, if it is live, and nothing else changes. -/
theorem announces_insert {id : String} (fresh : rib[id]? = none) (row : RibRow)
    {announcement : Announcement} :
    Announces (ExtTreeMap.insert rib id row) paths family announcement <->
      Announces rib paths family announcement ∨
        row.isLive family = true ∧ row.announcement paths = some announcement := by
  simp only [announces_iff, ExtTreeMap.getElem?_insert, LawfulEqCmp.compare_eq_iff_eq]
  constructor
  · rintro ⟨key, stored, found, told⟩
    by_cases same : id = key
    · rw [if_pos same] at found
      cases found
      exact Or.inr told
    · rw [if_neg same] at found
      exact Or.inl ⟨key, stored, found, told⟩
  · rintro (⟨key, stored, found, told⟩ | told)
    · refine ⟨key, stored, ?_, told⟩
      have different : id ≠ key := by
        rintro rfl
        rw [fresh] at found
        cases found
      rw [if_neg different]
      exact found
    · exact ⟨id, row, by rw [if_pos rfl], told⟩

theorem announces_insert_of_addsNothing {id : String} (fresh : rib[id]? = none) {row : RibRow}
    (nothing : AddsNothing (Announces rib paths family) paths family row)
    (announcement : Announcement) :
    Announces (ExtTreeMap.insert rib id row) paths family announcement <->
      Announces rib paths family announcement := by
  rw [announces_insert fresh]
  constructor
  · rintro (announced | ⟨live, told⟩)
    · exact announced
    · exact nothing.known live told
  · exact Or.inl

theorem originates_insert_of_addsNothing {id : String} (fresh : rib[id]? = none) {row : RibRow}
    (nothing : AddsNothing
      (fun announcement => Originates rib paths family ⟨announcement.origin, announcement.network⟩)
      paths family row)
    (pair : OriginNetwork) :
    Originates (ExtTreeMap.insert rib id row) paths family pair <->
      Originates rib paths family pair := by
  constructor
  · rintro ⟨announcement, announced, rfl⟩
    rcases (announces_insert fresh row).mp announced with before | ⟨live, told⟩
    · exact ⟨announcement, before, rfl⟩
    · exact nothing.known live told
  · rintro ⟨announcement, announced, same⟩
    exact ⟨announcement, (announces_insert fresh row).mpr (Or.inl announced), same⟩

/-- Attributes that no live row joins are not looked at. -/
theorem announces_insert_path {id : PathId} (path : PathRow)
    (unused : forall (key : String) (row : RibRow), rib[key]? = some row ->
      row.isLive family = true -> row.path ≠ id) (announcement : Announcement) :
    Announces rib (ExtTreeMap.insert paths id path) family announcement <->
      Announces rib paths family announcement := by
  have same {key : String} {row : RibRow} (stored : rib[key]? = some row)
      (live : row.isLive family = true) :
      row.announcement (ExtTreeMap.insert paths id path) = row.announcement paths := by
    have different : ¬ compare id row.path = .eq := by
      intro equal
      exact unused key row stored live (LawfulEqOrd.eq_of_compare equal).symm
    rw [RibRow.announcement, RibRow.announcement, ExtTreeMap.getElem?_insert, if_neg different]
  simp only [announces_iff]
  constructor
  · rintro ⟨key, row, stored, live, told⟩
    exact ⟨key, row, stored, live, by rw [← same stored live]; exact told⟩
  · rintro ⟨key, row, stored, live, told⟩
    exact ⟨key, row, stored, live, by rw [same stored live]; exact told⟩

/-- The origins that are noted in the rows are not looked at. -/
theorem announces_restate (noted : String -> RibRow -> Datum) (announcement : Announcement) :
    Announces (rib.restate noted) paths family announcement <->
      Announces rib paths family announcement := by
  simp only [announces_iff, RibTable.restate, ExtTreeMap.getElem?_map, Option.map_eq_some_iff]
  constructor
  · rintro ⟨id, _, ⟨row, stored, rfl⟩, told⟩
    exact ⟨id, row, stored, told⟩
  · rintro ⟨id, row, stored, told⟩
    exact ⟨id, _, ⟨row, stored, rfl⟩, told⟩

theorem originates_congr {otherRib : RibTable} {otherPaths : PathTable}
    (same : forall announcement, Announces otherRib otherPaths family announcement <->
      Announces rib paths family announcement) (pair : OriginNetwork) :
    Originates otherRib otherPaths family pair <-> Originates rib paths family pair := by
  simp only [Originates, same]

end Store
end AsCensus
