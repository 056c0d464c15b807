import AsCensus.Proofs.WhoisRun

namespace AsCensus

open Std

/-!
# The systems of a walk

A walk that is given no systems goes through those with statistics, or through those of them
that have no name.  The numbers in the table of statistics come in the order of its keys, so a
number that has rows for several times comes several times in a row, and leaving out repetitions
makes the list strictly ascending (`Store.Database.ascending_countedNumbers`).

Both lists arise in one way: numbers are selected, then all that are selected are read as systems,
and then the reserved ones are left out.  So a number that is no system makes a list fail if it
is selected, and only then.  A number beyond the range that has a name is such a case: it makes
the list of all systems fail and not the list of those without a name.
-/

namespace Store

/-- Whether a system has statistics, at whatever time. -/
def HasStatistics (stats : StatsTable) (asn : Asn) : Prop :=
  exists timestamp, StatsKey.mk (.integer asn.toInt) timestamp ∈ stats

/-- Whether a stored number is the number of a system. -/
def IsSystem (number : Datum) : Prop :=
  exists asn : Asn, number = .integer asn.toInt

/-- Whether a stored number has a row with a name that is not empty. -/
def HasName (whois : WhoisTable) (number : Datum) : Prop :=
  exists key row name, number = .integer key ∧ whois[key]? = some row ∧
    row.fields[Whois.Field.asName]? = some name ∧ name ≠ ""

/-- A strictly ascending list of exactly the systems with some property. -/
structure Lists (list : List Asn) (wanted : Asn -> Prop) : Prop where
  ascending : list.Pairwise (· < ·)
  members : forall asn, asn ∈ list <-> wanted asn

namespace Database

variable {db : Database} {stats : StatsTable} {whois : WhoisTable}

theorem isNamed_eq_true_iff {number : Datum} :
    isNamed whois number = true <-> HasName whois number := by
  cases number with
  | integer key =>
      cases found : whois[key]? with
      | none => simp [isNamed, HasName, Datum.integer?, found]
      | some row =>
          cases named : row.fields[Whois.Field.asName]? <;>
            simp [isNamed, HasName, Datum.integer?, found, named, WhoisRow.isNamed]
  | real whole part => simp [isNamed, HasName, Datum.integer?]
  | text value => simp [isNamed, HasName, Datum.integer?]

/-! ## The numbers with statistics -/

theorem countedNumbers_eq (stats : StatsTable) :
    countedNumbers stats = ((ExtTreeMap.keys stats).map StatsKey.asn).eraseDups := by
  rw [countedNumbers, ← ExtTreeMap.map_fst_toList_eq_keys, List.map_map]
  rfl

theorem mem_countedNumbers_iff {number : Datum} :
    number ∈ countedNumbers stats <-> exists key, key ∈ stats ∧ key.asn = number := by
  simp only [countedNumbers_eq, List.mem_eraseDups, List.mem_map, ExtTreeMap.mem_keys]

theorem mem_countedNumbers_integer_iff {asn : Asn} :
    Datum.integer asn.toInt ∈ countedNumbers stats <-> HasStatistics stats asn := by
  rw [mem_countedNumbers_iff]
  constructor
  · rintro ⟨⟨number, timestamp⟩, member, rfl⟩
    exact ⟨timestamp, member⟩
  · rintro ⟨timestamp, member⟩
    exact ⟨_, member, rfl⟩

/-- Keys are listed by their numbers first. -/
theorem ascending_countedNumbers (stats : StatsTable) :
    (countedNumbers stats).Pairwise fun a b => compare a b = .lt := by
  have ordered : ((ExtTreeMap.keys stats).map StatsKey.asn).Pairwise
      fun a b => compare a b = .lt ∨ a = b := by
    rw [List.pairwise_map]
    refine ExtTreeMap.ordered_keys.imp ?_
    intro first second smaller
    rcases Ordering.then_eq_lt.mp smaller with numbers | ⟨same, _⟩
    · exact Or.inl numbers
    · exact Or.inr (LawfulEqOrd.eq_of_compare same)
  -- Neighbours may be equal, for a number can have rows for several times; without repetitions
  -- they are smaller.
  have distinct := nodup_eraseDups ((ExtTreeMap.keys stats).map StatsKey.asn)
  rw [countedNumbers_eq]
  refine ((ordered.sublist (eraseDups_sublist _)).and distinct).imp ?_
  rintro first second ⟨smaller | same, different⟩
  · exact smaller
  · exact absurd same different

/-! ## Reading what is selected -/

theorem isSome_publicSystems_iff {numbers : List Datum} :
    (publicSystems numbers).isSome = true <->
      forall number, number ∈ numbers -> IsSystem number := by
  rw [publicSystems, Option.isSome_map]
  constructor
  · intro readAll number member
    rcases Option.isSome_iff_exists.mp readAll with ⟨systems, read⟩
    rw [mapM_readAsn_eq_some_iff.mp read] at member
    rcases List.mem_map.mp member with ⟨asn, _, rfl⟩
    exact ⟨asn, rfl⟩
  · intro systems
    have readable : forall number, number ∈ numbers ->
        readAsn number = some ((readAsn number).getD 0) := by
      intro number member
      rcases systems number member with ⟨asn, rfl⟩
      rw [readAsn_eq_some_iff.mpr rfl, Option.getD_some]
    rw [mapM_of_forall readable]
    rfl

/-- The selected numbers are read if they are numbers of systems. -/
theorem isSome_selected_iff (keep : Datum -> Bool) :
    (publicSystems ((countedNumbers stats).filter keep)).isSome = true <->
      forall key, key ∈ stats -> keep key.asn = true -> IsSystem key.asn := by
  simp only [isSome_publicSystems_iff, List.mem_filter, mem_countedNumbers_iff]
  constructor
  · intro systems key member kept
    exact systems key.asn ⟨⟨key, member, rfl⟩, kept⟩
  · rintro systems number ⟨⟨key, member, rfl⟩, kept⟩
    exact systems key member kept

/-- What is read of the selected numbers is the list of the public systems among them. -/
theorem lists_selected {keep : Datum -> Bool} {systems : List Asn}
    (read : publicSystems ((countedNumbers stats).filter keep) = some systems) :
    Lists systems fun asn =>
      HasStatistics stats asn ∧ asn.isReserved = false ∧ keep (.integer asn.toInt) = true where
  ascending := by
    rcases Option.map_eq_some_iff.mp read with ⟨all, readAll, rfl⟩
    have shape := mapM_readAsn_eq_some_iff.mp readAll
    have ordered := (ascending_countedNumbers stats).filter keep
    rw [shape, List.pairwise_map] at ordered
    refine (ordered.imp ?_).filter _
    intro first second smaller
    rw [Datum.compare_integer] at smaller
    exact Int.ofNat_lt.mp (compare_eq_lt.mp smaller)
  members := by
    intro asn
    rw [mem_publicSystems_iff read, List.mem_filter, mem_countedNumbers_integer_iff]
    tauto

theorem unnamedSystems_eq (hasStats : db.stats = some stats) (hasWhois : db.whois = some whois) :
    db.unnamedSystems =
      publicSystems ((countedNumbers stats).filter fun number => !isNamed whois number) := by
  rw [unnamedSystems, hasStats, hasWhois]
  rfl

theorem countedSystems_eq (hasStats : db.stats = some stats) :
    db.countedSystems = publicSystems ((countedNumbers stats).filter fun _ => true) := by
  rw [countedSystems, hasStats, List.filter_true]
  rfl

/-- The systems without a name are the listed ones without those that have one. -/
theorem unnamedSystems_eq_filter {all : List Asn} (hasWhois : db.whois = some whois)
    (listed : db.countedSystems = some all) :
    db.unnamedSystems = some (all.filter fun asn => !isNamed whois (.integer asn.toInt)) := by
  rcases countedSystems_eq_some_iff.mp listed with ⟨stats, hasStats, read⟩
  rw [unnamedSystems_eq hasStats hasWhois]
  exact publicSystems_filter read _

theorem not_isNamed_iff {number : Datum} :
    (!isNamed whois number) = true <-> ¬ HasName whois number := by
  rw [← isNamed_eq_true_iff, Bool.not_eq_true', Bool.not_eq_true]

end Database
end Store

namespace Job

open Store

/-- The list of all systems and the list of those without a name hold exactly these systems, in
strictly ascending order, and fail exactly if a number that they select is no system or a table is
missing.  The second list is the first one without the systems that have a name.  A walk through
given systems takes the public ones among these as they come, whatever the database holds. -/
theorem walk_lists_public_systems (db : Database) :
    (db.countedSystems.isSome = true <->
      exists stats, db.stats = some stats ∧ forall key, key ∈ stats -> IsSystem key.asn) ∧
    (db.unnamedSystems.isSome = true <->
      exists stats whois, db.stats = some stats ∧ db.whois = some whois ∧
        forall key, key ∈ stats -> ¬ HasName whois key.asn -> IsSystem key.asn) ∧
    (forall stats all, db.stats = some stats -> db.countedSystems = some all ->
      Lists all fun asn => HasStatistics stats asn ∧ asn.isReserved = false) ∧
    (forall stats whois missing, db.stats = some stats -> db.whois = some whois ->
      db.unnamedSystems = some missing ->
      Lists missing fun asn => HasStatistics stats asn ∧ asn.isReserved = false ∧
        ¬ HasName whois (.integer asn.toInt)) ∧
    (forall whois all missing, db.whois = some whois -> db.countedSystems = some all ->
      db.unnamedSystems = some missing -> missing.Sublist all ∧
        forall asn, asn ∈ all -> (asn ∉ missing <-> HasName whois (.integer asn.toInt))) ∧
    (forall missingOnly, walkList db { missingOnly := missingOnly } =
      match if missingOnly then db.unnamedSystems else db.countedSystems with
      | some asns => .ok asns
      | none => .error .noList) ∧
    (forall missingOnly asns, asns ≠ [] ->
      walkList db { missingOnly := missingOnly, asns := asns } =
        .ok (asns.filter fun asn => !asn.isReserved)) := by
  refine ⟨?_, ?_, ?_, ?_, ?_, fun _ => rfl, ?_⟩
  · cases hasStats : db.stats with
    | none => simp [Database.countedSystems, hasStats]
    | some stats =>
        rw [Database.countedSystems_eq hasStats, Database.isSome_selected_iff]
        simp
  · cases hasStats : db.stats with
    | none => simp [Database.unnamedSystems, hasStats]
    | some stats =>
        cases hasWhois : db.whois with
        | none => simp [Database.unnamedSystems, hasStats, hasWhois]
        | some whois =>
            rw [Database.unnamedSystems_eq hasStats hasWhois, Database.isSome_selected_iff]
            simp only [Database.not_isNamed_iff]
            constructor
            · intro systems
              exact ⟨stats, whois, rfl, rfl, systems⟩
            · rintro ⟨_, _, ⟨⟩, ⟨⟩, systems⟩
              exact systems
  · intro stats all hasStats listed
    rw [Database.countedSystems_eq hasStats] at listed
    simpa using Database.lists_selected listed
  · intro stats whois missing hasStats hasWhois listed
    rw [Database.unnamedSystems_eq hasStats hasWhois] at listed
    simpa only [Database.not_isNamed_iff] using Database.lists_selected listed
  · intro whois all missing hasWhois listed listedMissing
    rw [Database.unnamedSystems_eq_filter hasWhois listed, Option.some.injEq] at listedMissing
    subst listedMissing
    refine ⟨List.filter_sublist, fun asn member => ?_⟩
    rw [List.mem_filter, Database.not_isNamed_iff, not_and_not_right]
    exact ⟨fun named => named member, fun named _ => named⟩
  · intro missingOnly asns given
    rw [walkList_eq_ok_iff, if_neg given]

/-- A row with a name or without one. -/
def namedRow (name : Option String) : WhoisRow :=
  ⟨match name with
    | some name => (∅ : Whois.FieldTexts).insert .asName name
    | none => ∅, none⟩

/-- Statistics of two times and of a reserved system, and of systems with all kinds of names. -/
def namesOfAllKinds : Database :=
  let keys := [StatsKey.at 3356 100, .at 3356 200, .at 13335 100, .at 64512 100, .at 174 200,
    .at 1299 100]
  { stats := some (ExtTreeMap.ofList (keys.map fun key => (key, ({} : StatsRow))))
    whois := some (((∅ : WhoisTable).insert 3356 (namedRow (some "LEVEL3"))).insert 13335
      (namedRow (some "")) |>.insert 174 (namedRow none)) }

/-- The system with a name is the only one that is left out, and a system that has statistics of
two times is listed once.  Given systems are walked as they come. -/
theorem walk_lists_names_of_all_kinds :
    namesOfAllKinds.countedSystems = some [174, 1299, 3356, 13335] ∧
      namesOfAllKinds.unnamedSystems = some [174, 1299, 13335] ∧
      List.Sublist ([174, 1299, 13335] : List Asn) [174, 1299, 3356, 13335] ∧
      walkList namesOfAllKinds { asns := [3356, 64512, 174, 3356] } = .ok [3356, 174, 3356] := by
  have counted : namesOfAllKinds.countedSystems = some [174, 1299, 3356, 13335] := by decide
  have unnamed : namesOfAllKinds.unnamedSystems = some [174, 1299, 13335] := by decide
  rcases walk_lists_public_systems namesOfAllKinds with ⟨_, _, _, _, parts, _, given⟩
  exact ⟨counted, unnamed, (parts _ _ _ rfl counted unnamed).1,
    (given false [3356, 64512, 174, 3356] (by simp)).trans (by decide)⟩

end Job
end AsCensus
