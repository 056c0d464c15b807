import AsCensus.Proofs.BatchedWrites
import AsCensus.Store.Route

namespace AsCensus
namespace Store

open Std
open Rpsl

/-!
# Replacing route objects one by one

A route object replaces the row of its key, and one without the whole key replaces
nothing.  What a table holds under a key after many replacements is what the last of them
says (`getElem?_replaceAll`), so replacing the same objects again changes nothing
(`replaceAll_twice`).

Writing objects by statements of many rows comes to the same (`replaceRoutes_eq`).
-/

variable {db : Database} {table : RouteTable}

/-- Replace the row of an entry. -/
def RouteTable.replace (table : RouteTable) (entry : RouteEntry) : RouteTable :=
  match routeRow entry with
  | some row => table.insert row.1 row.2
  | none => table

/-- Replace the rows of entries one after the other. -/
def RouteTable.replaceAll (table : RouteTable) (entries : List RouteEntry) : RouteTable :=
  entries.foldl RouteTable.replace table

theorem replaceAll_eq (table : RouteTable) (entries : List RouteEntry) :
    table.replaceAll entries =
      (entries.filterMap routeRow).foldl (fun table row => table.insert row.1 row.2) table := by
  rw [List.foldl_filterMap, RouteTable.replaceAll]
  congr 1
  funext table entry
  rw [RouteTable.replace]
  cases routeRow entry <;> rfl

theorem replaceAll_concat (table : RouteTable) (entries : List RouteEntry) (entry : RouteEntry) :
    table.replaceAll (entries ++ [entry]) = (table.replaceAll entries).replace entry := by
  rw [RouteTable.replaceAll, List.foldl_append]
  rfl

theorem isSome_routeRow (entry : RouteEntry) : (routeRow entry).isSome = entry.isComplete := by
  rcases entry with ⟨address, length, origin, description⟩
  cases address <;> cases length <;> cases origin <;> rfl

/-- An entry without the whole key replaces nothing. -/
theorem replace_of_not_complete {entry : RouteEntry} (incomplete : entry.isComplete = false)
    (table : RouteTable) : table.replace entry = table := by
  rw [← isSome_routeRow, Option.isSome_eq_false_iff, Option.isNone_iff_eq_none] at incomplete
  rw [RouteTable.replace, incomplete]

theorem routeRow_eq_some_iff {entry : RouteEntry} {address : String} {length : UInt8}
    {origin : Asn} {description : Option String} :
    routeRow entry = some (.of address length origin, description) <->
      entry = ⟨some address, some length, some origin, description⟩ := by
  constructor
  · intro row
    rcases entry with ⟨_ | address', _ | length', _ | origin', description'⟩
    all_goals try cases row
    have same := Option.some.inj row
    rw [Prod.mk.injEq, RouteKey.of, RouteKey.of, RouteKey.mk.injEq, StoredNetwork.mk.injEq] at same
    rcases same with ⟨⟨⟨rfl, lengths⟩, origins⟩, rfl⟩
    have sameLength : length' = length := by
      have numbers := Datum.integer.inj lengths
      exact UInt8.toNat_inj.mp (by omega)
    rw [sameLength, Asn.toInt_inj (Datum.integer.inj origins)]
  · rintro rfl
    rfl

/-- Entries are stored by statements that replace their rows.  No batch is larger than a
statement may be, so that none of them fails. -/
theorem replaceRoutes_eq (hasRoutes : db.routes = some table) (entries : List RouteEntry) :
    db.replaceRoutes entries =
      ({ db with routes := some (table.replaceAll entries) },
        some (entries.countP RouteEntry.isComplete)) := by
  have written := writeBatches_eq Database.writeRoutes
    (fun table => { db with routes := some table }) (fun table row => table.insert row.1 row.2)
    (batches rowsPerStatement (entries.filterMap routeRow))
    (fun _ _ member => Database.writeRoutes_of_length_le (length_le_of_mem_batches member)) table
  have here : { db with routes := some table } = db := by rw [← hasRoutes]
  rw [flatten_batches (by decide), here, ← replaceAll_eq, List.length_filterMap_eq_countP,
    funext isSome_routeRow] at written
  exact written

/-! ## What a table holds -/

/-- The last entry of a key wins, and keys without an entry keep their row. -/
theorem getElem?_replaceAll (table : RouteTable) (entries : List RouteEntry) (key : RouteKey) :
    (table.replaceAll entries)[key]? =
      (lastOf (entries.filterMap routeRow) key).or table[key]? := by
  rw [replaceAll_eq, getElem?_foldl_insert]

theorem replaceAll_twice (table : RouteTable) (entries : List RouteEntry) :
    (table.replaceAll entries).replaceAll entries = table.replaceAll entries := by
  apply ExtTreeMap.ext_getElem?
  intro key
  rw [getElem?_replaceAll, getElem?_replaceAll]
  cases lastOf (entries.filterMap routeRow) key <;> rfl

/-! ## What is read back -/

theorem readLength_toNat (length : UInt8) :
    readLength (.integer length.toNat) = some length := by
  have inRange := length.toNat_lt
  simp [readLength, Datum.integer?]
  omega

theorem storedEntry_of (address : String) (length : UInt8) (origin : Asn)
    (description : Option String) :
    storedEntry (.of address length origin) description =
      some ⟨some address, some length, some origin, description⟩ := by
  have origins : readAsn (.integer origin.toInt) = some origin := Asn.ofInt?_toInt origin
  rw [storedEntry, RouteKey.of, readLength_toNat, origins]
  rfl

/-- Whether an entry has a given key. -/
def hasKey (address : String) (length : UInt8) (origin : Asn) (entry : RouteEntry) : Bool :=
  entry.address == some address && entry.length == some length && entry.origin == some origin

theorem entry_of_hasKey {entry : RouteEntry} {address : String} {length : UInt8} {origin : Asn}
    (has : hasKey address length origin entry = true) :
    entry = ⟨some address, some length, some origin, entry.description⟩ := by
  rcases entry with ⟨_, _, _, _⟩
  simp only [hasKey, Bool.and_eq_true, beq_iff_eq] at has
  rcases has with ⟨⟨rfl, rfl⟩, rfl⟩
  rfl

/-- The last entry of a list that has a given key. -/
def lastEntry (entries : List RouteEntry) (address : String) (length : UInt8) (origin : Asn) :
    Option RouteEntry :=
  entries.reverse.find? (hasKey address length origin)

theorem lastOf_filterMap_routeRow (entries : List RouteEntry) (address : String)
    (length : UInt8) (origin : Asn) :
    lastOf (entries.filterMap routeRow) (.of address length origin) =
      (lastEntry entries address length origin).map RouteEntry.description := by
  induction entries using List.reverseRecOn with
  | nil => rfl
  | append_singleton entries entry ih =>
      rw [lastEntry, List.reverse_append, List.reverse_singleton, List.singleton_append,
        List.find?_cons, List.filterMap_append]
      by_cases here : hasKey address length origin entry
      · have whole := entry_of_hasKey here
        have row := routeRow_eq_some_iff.mpr whole
        rw [List.filterMap_cons_some row, List.filterMap_nil, lastOf_concat, here]
        simp
      · rw [Bool.not_eq_true] at here
        rw [here]
        change _ = (lastEntry entries address length origin).map _
        rw [← ih]
        cases row : routeRow entry with
        | none => rw [List.filterMap_cons_none row, List.filterMap_nil, List.append_nil]
        | some found =>
            rw [List.filterMap_cons_some row, List.filterMap_nil, lastOf_concat, if_neg]
            intro same
            rw [beq_iff_eq] at same
            have whole := routeRow_eq_some_iff.mp (row.trans (by rw [same]))
            rw [whole] at here
            simp [hasKey] at here

/-- What is read back under a key is the last entry of that key, or what the table held. -/
theorem routeOf_replaceAll (hasRoutes : db.routes = some table) (entries : List RouteEntry)
    (address : String) (length : UInt8) (origin : Asn) :
    ({ db with routes := some (table.replaceAll entries) } : Database).routeOf
        address length origin =
      (lastEntry entries address length origin).or (db.routeOf address length origin) := by
  have read (table : RouteTable) (db : Database) (hasRoutes : db.routes = some table) :
      db.routeOf address length origin =
        table[RouteKey.of address length origin]?.map fun description =>
          ⟨some address, some length, some origin, description⟩ := by
    rw [Database.routeOf, hasRoutes]
    cases stored : table[RouteKey.of address length origin]? with
    | none => simp [stored]
    | some description => simp [stored, storedEntry_of]
  rw [read _ _ rfl, read _ _ hasRoutes, getElem?_replaceAll, lastOf_filterMap_routeRow]
  cases found : lastEntry entries address length origin with
  | none => rfl
  | some entry =>
      have has := List.find?_some found
      exact congrArg some (entry_of_hasKey has).symm

end Store
end AsCensus
