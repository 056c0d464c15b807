import AsCensus.Proofs.LastObject
import AsCensus.Proofs.OwnerObject
import AsCensus.Proofs.WhoisRun

namespace AsCensus

open Std

/-!
# Names that a walk finds

A lookup ends with the first reply that has a name line in the part of it that is kept.  What
the line says does not matter for this, and a name of nothing but quotes is empty when it is
stored.  The list of systems without a name, on the other hand, takes an empty name for none.

So a system whose lookup found a record is on the list after the walk exactly when the reply
had a single name line and nothing is left of its value (`mem_unnamedSystems_afterWalk_iff`).
Such a system is updated by one walk and asked about again by the next one.
-/

namespace Text

theorem joinLines_eq_empty_iff {values : List String} (notNone : values ≠ []) :
    joinLines values = "" <-> values = [""] := by
  cases values with
  | nil => exact absurd rfl notNone
  | cons first rest =>
      cases rest with
      | nil => simp [joinLines, String.intercalate_singleton]
      | cons second rest =>
          -- The line feed after the first value is there in any case.
          have whole : joinLines (first :: second :: rest) =
              first ++ "\n" ++ joinLines (second :: rest) := by
            have parts := @String.intercalate_append_of_ne_nil [first] (second :: rest) "\n"
              (by simp) (by simp)
            rw [String.intercalate_singleton] at parts
            exact parts
          rw [whole]
          simp

end Text

namespace Whois

open Text

/-- The values of the name lines of a reply that are kept. -/
def keptNames (family : Family) (lines : List String) : List String :=
  valuesOf family .asName
    ((attributeLines (lastObject lines)).take (keptCount family (lastObject lines)))

/-! ## Names in a reply -/

/-- LACNIC has no name lines. -/
theorem valuesOf_asName_lacnicLike (entries : List AttributeLine) :
    valuesOf .lacnicLike .asName entries = [] := by
  have never (name : String) : Family.lacnicLike.fieldOf name ≠ some .asName := by
    intro fills
    rcases List.lookup_eq_some_iff.mp fills with ⟨before, after, shape, _⟩
    have listed : (name, Field.asName) ∈ Family.lacnicLike.attributes := by
      rw [shape]
      exact List.mem_append_right before List.mem_cons_self
    simp [Family.attributes] at listed
  rw [valuesOf, List.map_eq_nil_iff, List.filter_eq_nil_iff]
  intro entry _ fills
  exact never (String.ofList entry.name) (beq_iff_eq.mp fills)

theorem get_asName_feedAll (family : Family) (lines : List String) :
    (Reading.start.feedAll family lines).record.get .asName =
      fieldText .asName (keptNames family lines) := by
  have once := oneObject_lastObject lines
  rw [← feedAll_lastObject]
  cases family with
  | arin => exact (tracks_feedAll (Or.inl rfl) once).holds_kept .asName
  | ripeLike => exact (tracks_feedAll (Or.inr rfl) once).holds_kept .asName
  | lacnicLike =>
      have holds := (tracksOwner_feedAll once).holds_kept .asName
      rw [valuesOf_asName_lacnicLike] at holds
      rw [holds, keptNames, valuesOf_asName_lacnicLike]

/-- Filling gaps leaves a name as it is. -/
theorem get_asName_finish {reading : Reading} {name : String}
    (present : reading.record.get .asName = some name) :
    reading.finish.get .asName = some name := by
  have kept : ({ reading.record with raw := String.ofList (trim reading.kept.toList) } :
      Record).get .asName = some name := present
  simp [Reading.finish, Record.complete, Record.get_setMissing, kept]

section
variable {client : Client} {asn : Asn} {source : Source}

/-- A reply without failure is an answer as soon as it has a name line. -/
theorem isSome_answer_iff :
    (client.answer asn source).isSome = true <->
      (client source asn).failure = none ∧
        keptNames source.family (client source asn).lines ≠ [] := by
  have named : (client.query source asn).record.contains .asName = true <->
      keptNames source.family (client source asn).lines ≠ [] := by
    rw [Record.contains, Client.query, get_asName_feedAll, isSome_fieldText_iff]
  rw [← named, ← Option.isNone_iff_eq_none, ← Bool.and_eq_true, Client.answer]
  split
  · next answers => simp [answers]
  · next silent => simp [silent]

/-- The name of an answer is made of its name lines. -/
theorem get_asName_answer {record : Record} (answers : client.answer asn source = some record) :
    record.get .asName = some (joinLines (keptNames source.family (client source asn).lines)) := by
  have lines := (isSome_answer_iff.mp (Option.isSome_of_eq_some answers)).2
  have collected : (client.query source asn).record.get .asName =
      some (joinLines (keptNames source.family (client source asn).lines)) := by
    rw [Client.query, get_asName_feedAll, fieldText, if_neg (by decide), if_neg lines]
  rw [Client.answer] at answers
  split at answers
  · cases answers
    rw [Record.get_set, if_neg (by decide)]
    exact get_asName_finish collected
  · cases answers

/-- A lookup finds the answer of the first registry that gives one. -/
theorem record_lookupAmong (client : Client) (asn : Asn) (sources : List Source) :
    (client.lookupAmong asn sources).record = sources.findSome? (client.answer asn) := by
  induction sources with
  | nil => rfl
  | cons source rest ih =>
      rw [Client.lookupAmong, List.findSome?_cons]
      cases client.answer asn source with
      | some record => rfl
      | none => exact ih

end
end Whois

namespace Job

open Store
open Text

section
variable {client : Whois.Client} {db : Database} {stats : StatsTable} {table : WhoisTable}
variable {asns : List Asn}

/-- The name lines of the reply that a registry gives about a system. -/
def namesFrom (client : Whois.Client) (source : Whois.Source) (asn : Asn) : List String :=
  Whois.keptNames source.family (client source asn).lines

theorem isNamed_ofRecord {record : Whois.Record} {name : String}
    (named : record.get .asName = some name) :
    (WhoisRow.ofRecord record).isNamed = (name != "") := by
  have stored : (WhoisRow.ofRecord record).fields[Whois.Field.asName]? = some name := named
  rw [WhoisRow.isNamed, stored]

/-- A record that a lookup found has the name lines of the registry it is from. -/
theorem exists_namesFrom {asn : Asn} {record : Whois.Record}
    (found : (client.lookup asn).record = some record) :
    exists source, client.answer asn source = some record ∧ namesFrom client source asn ≠ [] ∧
      record.get .asName = some (joinLines (namesFrom client source asn)) := by
  rw [Whois.Client.lookup, Whois.record_lookupAmong] at found
  rcases List.exists_of_findSome?_eq_some found with ⟨source, _, answers⟩
  have lines := Whois.isSome_answer_iff.mp (Option.isSome_of_eq_some answers)
  exact ⟨source, answers, lines.2, Whois.get_asName_answer answers⟩

theorem givesName_eq_false_iff {asn : Asn} :
    givesName client asn = false <->
      forall record, (client.lookup asn).record = some record -> record.get .asName = some "" := by
  rw [givesName]
  cases found : (client.lookup asn).record with
  | none => simp
  | some record =>
      rcases exists_namesFrom found with ⟨source, _, _, named⟩
      rw [Option.any_some, isNamed_ofRecord named]
      simp [named]

theorem unnamedSystems_eq_of_walk (hasStats : db.stats = some stats)
    (hasWhois : db.whois = some table) :
    (afterWalk client db asns).unnamedSystems =
      Database.publicSystems ((Database.countedNumbers stats).filter fun number =>
        !Database.isNamed (storeFound client table asns) number) := by
  rw [Database.unnamedSystems, afterWalk, hasStats, hasWhois]
  rfl

/-- A system that was updated is asked about again exactly when its name came out empty. -/
theorem mem_unnamedSystems_afterWalk_iff (hasStats : db.stats = some stats)
    (hasWhois : db.whois = some table) {asn : Asn} (member : asn ∈ asns)
    (notReserved : asn.isReserved = false) {record : Whois.Record}
    (found : (client.lookup asn).record = some record) {names : List String}
    (hasLine : names ≠ []) (named : record.get .asName = some (joinLines names))
    {missing : List Asn} (listed : (afterWalk client db asns).unnamedSystems = some missing) :
    asn ∈ missing <->
      names = [""] ∧ Datum.integer asn.toInt ∈ Database.countedNumbers stats := by
  rw [unnamedSystems_eq_of_walk hasStats hasWhois] at listed
  have stored : Database.isNamed (storeFound client table asns) (.integer asn.toInt) =
      (joinLines names != "") := by
    rw [← isNamed_ofRecord named]
    simp only [Database.isNamed, Datum.integer?, Option.bind_some,
      storeFound_of_found table member found]
  rw [Database.mem_publicSystems_iff listed, List.mem_filter, stored,
    ← joinLines_eq_empty_iff hasLine]
  simp [notReserved, and_comm]

/-- After a walk, a system whose lookup found a record is without a name exactly when the reply
that was taken has a single name line with nothing left in it.  For a reply is taken as soon as
it has a name line.  A walk through the systems without a name leaves, for the next such walk,
those whose lookups found nothing or an empty name. -/
theorem updated_system_is_listed_iff {options : WalkOptions} (hasStats : db.stats = some stats)
    (hasWhois : db.whois = some table) (listed : walkList db options = .ok asns)
    (interval : Nat) :
    (forall asn, (client.lookup asn).record = Whois.Source.all.findSome? (client.answer asn)) ∧
    (forall asn source, (client.answer asn source).isSome = true <->
      (client source asn).failure = none ∧ namesFrom client source asn ≠ []) ∧
    exists final, runWalk client interval options db = .ok final ∧
      final.summary.updated = (asns.countP fun asn => (client.lookup asn).record.isSome) ∧
      (forall asn record, asn ∈ asns -> (client.lookup asn).record = some record ->
        exists source, client.answer asn source = some record ∧
          record.get .asName = some (joinLines (namesFrom client source asn)) ∧
          forall missing, walkList final.db { missingOnly := true } = .ok missing ->
            (asn ∈ missing <->
              namesFrom client source asn = [""] ∧
                Datum.integer asn.toInt ∈ Database.countedNumbers stats)) ∧
      (options.missingOnly = true -> options.asns = [] -> forall laterInterval,
        exists again later, runWalk client laterInterval options final.db = .ok later ∧
          later.queries = queriesOf client again ∧ again.Sublist asns ∧
          forall asn, asn ∈ again <-> asn ∈ asns ∧
            forall record, (client.lookup asn).record = some record ->
              record.get .asName = some "") := by
  have visited := visited_walk client interval db asns
  refine ⟨fun asn => Whois.record_lookupAmong client asn _,
    fun asn source => Whois.isSome_answer_iff, walk client interval db asns,
    runWalk_eq listed, ?_, ?_, ?_⟩
  · rw [visited.summary, hasWhois]
    rfl
  · intro asn record member found
    rcases exists_namesFrom found with ⟨source, answers, hasLine, named⟩
    refine ⟨source, answers, named, ?_⟩
    intro missing relisted
    rw [visited.stored, walkList_eq_ok_iff, if_pos rfl, if_pos rfl] at relisted
    exact mem_unnamedSystems_afterWalk_iff hasStats hasWhois member
      (not_reserved_of_walkList listed member) found hasLine named relisted
  · intro missingOnly given laterInterval
    rw [walkList_eq_ok_iff, if_pos given, if_pos missingOnly] at listed
    let again := asns.filter fun asn => !givesName client asn
    have relisted : walkList (afterWalk client db asns) options = .ok again := by
      rw [walkList_eq_ok_iff, if_pos given, if_pos missingOnly]
      exact unnamedSystems_afterWalk listed
    have later := visited_walk client laterInterval (afterWalk client db asns) again
    rw [visited.stored]
    refine ⟨again, _, runWalk_eq relisted, later.queries, List.filter_sublist, ?_⟩
    intro asn
    rw [List.mem_filter, Bool.not_eq_true', givesName_eq_false_iff]

end

/-- A client of registries of which the first one names a system by a quote alone. -/
def clientOfQuote : Whois.Client := fun source _ =>
  match source with
  | .arin => ⟨["ASName: '"], none⟩
  | .ripe => ⟨["as-name: CLOUDFLARENET"], none⟩
  | _ => ⟨[], none⟩

/-- A database with statistics of one system and no WHOIS rows yet. -/
def countedOne : Database :=
  { stats := some ((∅ : StatsTable).insert (StatsKey.at 13335 0) {}), whois := some ∅ }

/-- The quoted name counts as found in the first walk, and the second one asks again. -/
theorem quoted_name_is_listed :
    walkList countedOne { missingOnly := true } = .ok [13335] ∧
      exists final again later,
        runWalk clientOfQuote 1 { missingOnly := true } countedOne = .ok final ∧
        final.summary.updated = 1 ∧
        runWalk clientOfQuote 1 { missingOnly := true } final.db = .ok later ∧
        later.queries = queriesOf clientOfQuote again ∧ 13335 ∈ again := by
  have listed : walkList countedOne { missingOnly := true } = .ok [13335] := by decide
  have emptyName : (clientOfQuote.lookup 13335).record.bind (·.get .asName) = some "" := by decide
  refine ⟨listed, ?_⟩
  rcases @updated_system_is_listed_iff clientOfQuote countedOne _ _ _ _ rfl rfl listed 1 with
    ⟨_, _, final, ran, updated, _, repeated⟩
  rcases repeated rfl rfl 1 with ⟨again, later, ranAgain, asked, _, mem_again⟩
  refine ⟨final, again, later, ran, updated.trans (by decide), ranAgain, asked, ?_⟩
  rw [mem_again]
  refine ⟨by decide, ?_⟩
  intro record found
  rw [found] at emptyName
  exact emptyName

/-- The system is updated, although the second registry would name it, and it stays on the
list. -/
theorem quoted_name_is_asked_again :
    exists final, runWalk clientOfQuote 1 { missingOnly := true } countedOne = .ok final ∧
      final.summary = ⟨1, 1, 0, 0⟩ ∧ final.queries = [(.arin, 13335)] ∧
      ((clientOfQuote.lookup 13335).record.bind fun record => record.get .asName) = some "" ∧
      walkList final.db { missingOnly := true } = .ok [13335] := by
  refine ⟨walk clientOfQuote 1 countedOne [13335], ?_, ?_, ?_, ?_, ?_⟩
  · exact runWalk_eq (by decide)
  · decide
  · decide
  · decide
  · decide

end Job
end AsCensus
