import AsCensus.Proofs.Announced
import AsCensus.Store.WhoisAsn

namespace AsCensus
namespace Store

open Std

/-!
# The columns of WHOIS details agree

A record passes through three lists of columns: the names in the statement that stores it, the
columns of the table, and the names in the query that reads it back, which are known by their
places from then on.  If two of these lists differed in a name or in a place, texts would change
their fields, and no single list would look wrong.

Both ways are therefore followed through the names.  Storing a record makes the row of the
record (`replace_namedCells`), and the query for any row, whoever stored it, finds this row
(`ofCells?_cells`).  Nothing else has to look at columns: what is stored and what is read are
the rows themselves (`Database.replaceWhois_eq`, `Database.queryWhois_eq`).
-/

/-- The columns that a record is given to. -/
def textCells (record : Whois.Record) (fields : List Whois.Field) : List (WhoisColumn × Cell) :=
  fields.map fun field => (.text field, (record.get field).map Datum.text)

/-- The columns of the statement that stores a record, once their names are resolved. -/
def storedCells (asn : Asn) (record : Whois.Record) : List (WhoisColumn × Cell) :=
  (.number, some (.integer asn.toInt)) :: textCells record Whois.Field.all ++
    [(.lines, some (.text record.raw))]

/-- A row after something is put into some of its columns. -/
def WhoisRow.putAll (row : WhoisRow) (cells : List (WhoisColumn × Cell)) : WhoisRow :=
  cells.foldl (fun row (column, cell) => row.put column cell) row

/-- The columns of the query for a row, once their names are resolved. -/
def queriedColumns : List WhoisColumn :=
  .number :: Whois.Field.all.map .text ++ [.lines]

theorem WhoisColumn.ofName?_name (column : WhoisColumn) : ofName? column.name = some column := by
  cases column with
  | number => decide
  | lines => decide
  | text field => cases field <;> decide

theorem textIn_text (text : Option String) : textIn (text.map Datum.text) = text := by
  cases text <;> rfl

theorem readText_text (text : Option String) : readText (text.map Datum.text) = some text := by
  cases text <;> rfl

/-! ## Storing a record -/

theorem resolve_namedCells (asn : Asn) (record : Whois.Record) :
    ((namedCells asn record).mapM fun (name, cell) =>
      (WhoisColumn.ofName? name).map fun column => (column, cell)) =
      some (storedCells asn record) := by
  have named : namedCells asn record =
      (storedCells asn record).map fun (column, cell) => (column.name, cell) := rfl
  rw [named, List.mapM_map, ← List.map_id (storedCells asn record)]
  refine mapM_of_forall fun cell _ => ?_
  simp [WhoisColumn.ofName?_name]

theorem getElem?_putAll_textCells (record : Whois.Record) (fields : List Whois.Field)
    (row : WhoisRow) (field : Whois.Field) :
    (row.putAll (textCells record fields)).fields[field]? =
      if field ∈ fields then record.get field else row.fields[field]? := by
  induction fields generalizing row with
  | nil => rfl
  | cons first rest ih =>
      let next := row.put (.text first) ((record.get first).map Datum.text)
      change (next.putAll (textCells record rest)).fields[field]? = _
      rw [ih]
      by_cases later : field ∈ rest
      · simp [later]
      · by_cases same : first = field
        · subst same
          simp [later, next, WhoisRow.put, textIn_text]
        · simp [later, next, WhoisRow.put, ExtTreeMap.getElem?_alter, same, Ne.symm same]

theorem putAll_storedCells (asn : Asn) (record : Whois.Record) :
    WhoisRow.putAll {} (storedCells asn record) = .ofRecord record := by
  have texts : (WhoisRow.putAll {} (textCells record Whois.Field.all)).fields = record.fields := by
    apply ExtTreeMap.ext_getElem?
    intro field
    rw [getElem?_putAll_textCells, if_pos (Whois.Field.mem_all field)]
    rfl
  rw [WhoisRow.putAll, storedCells, List.foldl_append, List.foldl_cons, List.foldl_cons,
    List.foldl_nil]
  change WhoisRow.mk (WhoisRow.putAll {} (textCells record Whois.Field.all)).fields
    (some record.raw) = _
  rw [texts]
  rfl

/-- A record is stored as its row. -/
theorem replace_namedCells (table : WhoisTable) (asn : Asn) (record : Whois.Record) :
    WhoisTable.replace table (namedCells asn record) =
      some (table.insert asn.toInt (.ofRecord record)) := by
  rw [WhoisTable.replace, resolve_namedCells, ← putAll_storedCells asn record]
  rfl

/-! ## Reading a row -/

theorem resolve_queriedNames (row : WhoisRow) (number : Int) :
    (queriedNames.mapM fun name => (WhoisColumn.ofName? name).map (row.cell number)) =
      some (queriedColumns.map (row.cell number)) := by
  have named : queriedNames = queriedColumns.map WhoisColumn.name := rfl
  rw [named, List.mapM_map]
  refine mapM_of_forall fun column _ => ?_
  simp [WhoisColumn.ofName?_name]

/-- The texts of all fields are the whole content of a row. -/
theorem presentTexts_all (texts : Whois.FieldTexts) :
    presentTexts (Whois.Field.all.map fun field => (field, texts[field]?)) = texts := by
  have distinct : Whois.Field.all.Nodup := by decide
  apply ExtTreeMap.ext_getElem?
  intro field
  rw [presentTexts, List.filterMap_map]
  cases found : texts[field]? with
  | some text =>
      apply ExtTreeMap.getElem?_ofList_of_mem ReflCmp.compare_self
      · rw [List.pairwise_filterMap]
        refine distinct.imp fun different first isFirst second isSecond same => ?_
        simp only [Function.comp_apply, Option.map_eq_some_iff] at isFirst isSecond
        rcases isFirst with ⟨_, _, rfl⟩
        rcases isSecond with ⟨_, _, rfl⟩
        exact different (LawfulEqOrd.eq_of_compare same)
      · rw [List.mem_filterMap]
        exact ⟨field, Whois.Field.mem_all field, by simp [found]⟩
  | none =>
      apply ExtTreeMap.getElem?_ofList_of_contains_eq_false
      rw [Bool.eq_false_iff]
      intro listed
      simp only [List.contains_iff_mem, List.mem_map, List.mem_filterMap, Function.comp_apply,
        Option.map_eq_some_iff] at listed
      rcases listed with ⟨_, ⟨_, _, _, present, rfl⟩, rfl⟩
      rw [found] at present
      cases present

/-- The query for a row finds the row. -/
theorem ofCells?_cells (row : WhoisRow) (asn : Asn) :
    WhoisRow.ofCells? (queriedColumns.map (row.cell asn.toInt)) = some (asn, row) := by
  have number : (row.cell asn.toInt .number).bind readAsn = some asn :=
    readAsn_eq_some_iff.mpr rfl
  have text (field : Whois.Field) :
      readText (row.cell asn.toInt (.text field)) = some row.fields[field]? := readText_text _
  have lines : readText (row.cell asn.toInt .lines) = some row.raw := readText_text _
  simp only [queriedColumns, Whois.Field.all, List.map_cons, List.map_nil, List.cons_append,
    List.nil_append, WhoisRow.ofCells?, number, text, lines, Option.bind_eq_bind, Option.bind_some]
  have whole := presentTexts_all row.fields
  simp only [Whois.Field.all, List.map_cons, List.map_nil] at whole
  rw [whole]

/-! ## The database -/

namespace Database

theorem replaceWhois_eq (db : Database) (asn : Asn) (record : Whois.Record) :
    db.replaceWhois asn record =
      match db.whois with
      | some table =>
          ({ db with whois := some (table.insert asn.toInt (.ofRecord record)) }, some 1)
      | none => (db, none) := by
  rw [replaceWhois]
  cases db.whois with
  | none => rfl
  | some table => rw [Option.bind_some, replace_namedCells]

theorem queryWhois_eq (db : Database) (asn : Asn) :
    db.queryWhois asn =
      (db.whois.bind fun table => table[asn.toInt]?).map fun row => (asn, row) := by
  rw [queryWhois]
  cases db.whois with
  | none => rfl
  | some table =>
      simp only [Option.bind_eq_bind, Option.bind_some]
      cases table[asn.toInt]? with
      | none => rfl
      | some row =>
          simp only [Option.bind_some, resolve_queriedNames, ofCells?_cells, Option.map_some]

end Database
end Store
end AsCensus
