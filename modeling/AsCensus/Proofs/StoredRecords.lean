import AsCensus.Proofs.BatchedWrites
import AsCensus.Proofs.WhoisColumns

namespace AsCensus
namespace Store

open Std

/-!
# Stored records are read back

Records are stored one after the other, several of them perhaps for one system.  The columns
agree, so each statement inserts the row of its record, and what is read about a system in the
end is the last record that was stored for it (`queryWhois_storeRecords`).  Nothing of an earlier
record or of an earlier row is left in it, for a row is replaced as a whole: a field that the
last record does not have is empty.
-/

/-- The row of a record under its key. -/
def recordRow (entry : Asn × Whois.Record) : Int × WhoisRow :=
  (entry.1.toInt, .ofRecord entry.2)

/-- A table after records are stored in it. -/
def WhoisTable.withRecords (table : WhoisTable) (entries : List (Asn × Whois.Record)) :
    WhoisTable :=
  (entries.map recordRow).foldl (fun table row => table.insert row.1 row.2) table

namespace Database

/-- Store records one after the other.  Each statement tells how many rows it has written. -/
def storeRecords (db : Database) : List (Asn × Whois.Record) -> Database × List (Option Nat)
  | [] => (db, [])
  | (asn, record) :: rest =>
      let (after, written) := db.replaceWhois asn record
      let (final, others) := after.storeRecords rest
      (final, written :: others)

variable {db : Database} {table : WhoisTable}

theorem storeRecords_eq (hasTable : db.whois = some table)
    (entries : List (Asn × Whois.Record)) :
    db.storeRecords entries =
      ({ db with whois := some (table.withRecords entries) },
        List.replicate entries.length (some 1)) := by
  induction entries generalizing db table with
  | nil =>
      rcases db with ⟨rib, paths, analysis, stats, whois, routes⟩
      cases hasTable
      rfl
  | cons entry rest ih =>
      rcases entry with ⟨asn, record⟩
      rw [storeRecords, replaceWhois_eq, hasTable]
      dsimp only
      rw [ih rfl]
      rfl

theorem key_mem_recordRows {entries : List (Asn × Whois.Record)} {key : Int} :
    key ∈ (entries.map recordRow).map Prod.fst <->
      exists asn, asn ∈ entries.map Prod.fst ∧ asn.toInt = key := by
  simp [recordRow]

/-- Whoever reads a system afterwards finds the last record that was stored for it. -/
theorem getElem?_withRecords_of_last (table : WhoisTable) {front back : List (Asn × Whois.Record)}
    {asn : Asn} (record : Whois.Record) (last : asn ∉ back.map Prod.fst) :
    (table.withRecords (front ++ (asn, record) :: back))[asn.toInt]? =
      some (.ofRecord record) := by
  have later : lastOf (back.map recordRow) asn.toInt = none := by
    rw [lastOf_eq_none_iff, key_mem_recordRows]
    rintro ⟨other, member, same⟩
    exact last (Asn.toInt_inj same ▸ member)
  rw [WhoisTable.withRecords, getElem?_foldl_insert, List.append_cons, List.map_append,
    List.map_append, List.map_singleton, lastOf_append, later, Option.none_or, lastOf_concat]
  simp [recordRow]

theorem getElem?_withRecords_of_other (table : WhoisTable) {entries : List (Asn × Whois.Record)}
    {key : Int} (other : forall asn, asn ∈ entries.map Prod.fst -> asn.toInt ≠ key) :
    (table.withRecords entries)[key]? = table[key]? := by
  have absent : lastOf (entries.map recordRow) key = none := by
    rw [lastOf_eq_none_iff, key_mem_recordRows]
    rintro ⟨asn, member, same⟩
    exact other asn member same
  rw [WhoisTable.withRecords, getElem?_foldl_insert, absent, Option.none_or]

theorem mem_withRecords_iff (table : WhoisTable) (entries : List (Asn × Whois.Record)) (key : Int) :
    key ∈ table.withRecords entries <->
      key ∈ table ∨ exists asn, asn ∈ entries.map Prod.fst ∧ asn.toInt = key := by
  have stored : (lastOf (entries.map recordRow) key).isSome = true <->
      key ∈ (entries.map recordRow).map Prod.fst := by
    rw [← not_iff_not, Option.not_isSome_iff_eq_none, lastOf_eq_none_iff]
  rw [ExtTreeMap.mem_iff_isSome_getElem?, WhoisTable.withRecords, getElem?_foldl_insert,
    Option.isSome_or, Bool.or_eq_true, stored, key_mem_recordRows,
    ← ExtTreeMap.mem_iff_isSome_getElem?, or_comm]

/-- A table lists one row for each number, and the row starts with it. -/
theorem exists_rowsOf_whois (hasTable : db.whois = some table) :
    exists rows, db.rowsOf .whois = some rows ∧ rows.map List.head? =
      (ExtTreeMap.keys table).map fun number => some (some (Datum.integer number)) := by
  rw [rowsOf, hasTable]
  refine ⟨_, rfl, ?_⟩
  rw [← ExtTreeMap.map_fst_toList_eq_keys, List.map_map, List.map_map]
  rfl

theorem nodup_numbers (table : WhoisTable) :
    ((ExtTreeMap.keys table).map fun number => some (some (Datum.integer number))).Nodup := by
  apply ExtTreeMap.nodup_keys.map
  intro first second same
  exact Datum.integer.inj (Option.some.inj (Option.some.inj same))

/-- However many records are stored, and whatever is in them, each is stored as one row.  In the
end the row of a system holds, in the column of each field, what the last record that was stored
for it has there, and nothing in the other columns; all other systems have the row they had.
The table lists one row for each number. -/
theorem stored_records_read_back (hasTable : db.whois = some table)
    (entries : List (Asn × Whois.Record)) :
    exists final, db.storeRecords entries = (final, List.replicate entries.length (some 1)) ∧
      (forall front asn record back, entries = front ++ (asn, record) :: back ->
        asn ∉ back.map Prod.fst ->
        exists row, final.queryWhois asn = some (asn, row) ∧
          (forall field, row.fields[field]? = record.get field) ∧ row.raw = some record.raw) ∧
      (forall asn, asn ∉ entries.map Prod.fst -> final.queryWhois asn = db.queryWhois asn) ∧
      (exists rows, final.rowsOf .whois = some rows ∧ (rows.map List.head?).Nodup) ∧
      final.rowCount .whois =
        some {key | key ∈ table ∨ exists asn, asn ∈ entries.map Prod.fst ∧ asn.toInt = key}.ncard ∧
      exists stored, final = { db with whois := some stored } := by
  refine ⟨_, storeRecords_eq hasTable entries, ?_, ?_, ?_, ?_, _, rfl⟩
  · intro front asn record back shape last
    subst shape
    refine ⟨.ofRecord record, ?_, fun field => rfl, rfl⟩
    rw [queryWhois_eq, Option.bind_some, getElem?_withRecords_of_last table record last]
    rfl
  · intro asn other
    have kept : (table.withRecords entries)[asn.toInt]? = table[asn.toInt]? := by
      apply getElem?_withRecords_of_other
      intro stored member same
      exact other (Asn.toInt_inj same ▸ member)
    rw [queryWhois_eq, queryWhois_eq, hasTable, Option.bind_some, Option.bind_some, kept]
  · rcases @exists_rowsOf_whois { db with whois := some (table.withRecords entries) } _ rfl with
      ⟨rows, listed, numbers⟩
    exact ⟨rows, listed, numbers ▸ nodup_numbers _⟩
  · rw [rowCount, Option.map_some, size_eq_ncard]
    simp only [mem_withRecords_iff]

/-- A record with a city. -/
def firstRecord : Whois.Record :=
  ({ raw := "ASName: FIRST" } : Whois.Record).set .asName "FIRST" |>.set .city "Somewhere"

/-- A record without one, and with an organisation that would end a statement. -/
def secondRecord : Whois.Record :=
  ({ raw := "as-name: SECOND" } : Whois.Record).set .asName "SECOND"
    |>.set .orgName "O'Neill\n\x00'; DROP TABLE gen_whois_asn"

/-- The second record of a system leaves no city of the first one behind, and its texts are the
same when they are read back.  A system without a record has no row. -/
theorem second_record_is_read_back :
    exists final row,
      Database.storeRecords { whois := some ∅ }
          [(64496, firstRecord), (1, secondRecord), (64496, secondRecord)] =
        (final, [some 1, some 1, some 1]) ∧
      final.queryWhois 64496 = some (64496, row) ∧ row.fields[Whois.Field.city]? = none ∧
      row.fields[Whois.Field.orgName]? = some "O'Neill\n\x00'; DROP TABLE gen_whois_asn" ∧
      final.queryWhois 2 = none := by
  rcases @stored_records_read_back { whois := some ∅ } _ rfl
      [(64496, firstRecord), (1, secondRecord), (64496, secondRecord)] with
    ⟨final, stored, last, others, _⟩
  rcases last [(64496, firstRecord), (1, secondRecord)] 64496 secondRecord [] rfl (by simp) with
    ⟨row, found, texts, _⟩
  refine ⟨final, row, stored, found, (texts .city).trans (by decide),
    (texts .orgName).trans (by decide), ?_⟩
  rw [others 2 (by decide)]
  decide

end Database
end Store
end AsCensus
