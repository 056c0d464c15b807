import AsCensus.Store.Cell

namespace AsCensus
namespace Store

open Std

/-!
# Stored WHOIS records

There is at most one row for a system.  Storing a record replaces the whole row,
so that no field of an earlier record is left.

The table, the statement that stores a record and the query for a row list the
columns in three different orders.  The statement names a column for each thing
that it stores.  The query names columns too, but what it finds is known by its
place among the others.

The systems to look up are those with statistics, or only those of them that
have no AS name stored yet.
-/

/-- The row of a record. -/
def WhoisRow.ofRecord (record : Whois.Record) : WhoisRow :=
  ⟨record.fields, some record.raw⟩

/-- What a column holds.  Whatever has been stored in a column of texts is a text. -/
inductive WhoisColumn
  | number
  | text (field : Whois.Field)
  | lines
  deriving DecidableEq, Repr

namespace WhoisColumn

/-- The columns in the order in which the table lists them.  A last one for the time of the
row is left out: the clock fills it in, and nothing names it or reads it. -/
def all : List WhoisColumn :=
  [number, text .asName, text .orgId, text .orgName, text .remarks, text .address, text .city,
    text .stateProv, text .postalCode, text .country, lines, text .source]

/-- The name of a column. -/
def name : WhoisColumn -> String
  | number => "asn"
  | text field => field.name
  | lines => "raw_output"

/-- The column with a given name. -/
def ofName? (name : String) : Option WhoisColumn :=
  all.find? fun column => column.name == name

end WhoisColumn

/-- What a row with a number holds in a column. -/
def WhoisRow.cell (row : WhoisRow) (number : Int) : WhoisColumn -> Cell
  | .number => some (.integer number)
  | .text field => row.fields[field]?.map Datum.text
  | .lines => row.raw.map Datum.text

/-- Put something into a column of a row.  The number of a row is not a part of it. -/
def WhoisRow.put (row : WhoisRow) (column : WhoisColumn) (cell : Cell) : WhoisRow :=
  match column with
  | .number => row
  | .text field => { row with fields := row.fields.alter field fun _ => textIn cell }
  | .lines => { row with raw := textIn cell }

/-- Replace a row by what is given for columns of some names.  The other columns are
left empty.  There is no result if there is no column of a name, or no number. -/
def WhoisTable.replace (table : WhoisTable) (given : List (String × Cell)) :
    Option WhoisTable := do
  let cells ← given.mapM fun (name, cell) =>
    (WhoisColumn.ofName? name).map fun column => (column, cell)
  let number ← (cells.lookup .number).join.bind Datum.integer?
  let row := cells.foldl (fun row (column, cell) => WhoisRow.put row column cell) {}
  some (ExtTreeMap.insert table number row)

/-- What is stored of a record, under the names of the columns. -/
def namedCells (asn : Asn) (record : Whois.Record) : List (String × Cell) :=
  ("asn", some (.integer asn.toInt)) ::
    (Whois.Field.all.map fun field => (field.name, (record.get field).map Datum.text)) ++
      [("raw_output", some (.text record.raw))]

/-- The names of the columns in the query for a row. -/
def queriedNames : List String :=
  ["asn", "as_name", "org_id", "org_name", "remarks", "address", "city", "state_prov",
    "postal_code", "country", "source", "raw_output"]

/-- The text that is read from a cell, if it holds one.  A cell that holds something
else cannot be read. -/
def readText : Cell -> Option (Option String)
  | none => some none
  | some (.text text) => some (some text)
  | some _ => none

/-- The texts that are there, by their fields. -/
def presentTexts (texts : List (Whois.Field × Option String)) : Whois.FieldTexts :=
  ExtTreeMap.ofList (texts.filterMap fun (field, text) => text.map fun text => (field, text))

/-- The row with its number that the query for a row finds, by the places of the cells. -/
def WhoisRow.ofCells? : List Cell -> Option (Asn × WhoisRow)
  | [asn, asName, orgId, orgName, remarks, address, city, stateProv, postalCode, country,
      source, lines] => do
      let number ← asn.bind readAsn
      let texts :=
        [(Whois.Field.asName, ← readText asName), (.orgId, ← readText orgId),
          (.orgName, ← readText orgName), (.remarks, ← readText remarks),
          (.address, ← readText address), (.city, ← readText city),
          (.stateProv, ← readText stateProv), (.postalCode, ← readText postalCode),
          (.country, ← readText country), (.source, ← readText source)]
      some (number, ⟨presentTexts texts, ← readText lines⟩)
  | _ => none

/-- Whether a row holds an AS name. -/
def WhoisRow.isNamed (row : WhoisRow) : Bool :=
  match row.fields[Whois.Field.asName]? with
  | some name => name != ""
  | none => false

namespace Database

/-- Store the record of a system.  The result tells the number of rows written. -/
def replaceWhois (db : Database) (asn : Asn) (record : Whois.Record) : Database × Option Nat :=
  match db.whois.bind fun table => WhoisTable.replace table (namedCells asn record) with
  | some table => ({ db with whois := some table }, some 1)
  | none => (db, none)

/-- The stored row of a system with its number. -/
def queryWhois (db : Database) (asn : Asn) : Option (Asn × WhoisRow) := do
  let table ← db.whois
  let row ← table[asn.toInt]?
  let cells ← queriedNames.mapM fun name => (WhoisColumn.ofName? name).map (row.cell asn.toInt)
  WhoisRow.ofCells? cells

/-- The stored row of a system. -/
def whoisOf (db : Database) (asn : Asn) : Option WhoisRow :=
  (db.queryWhois asn).map Prod.snd

/-- Whether a table holds an AS name for a stored number. -/
def isNamed (whois : WhoisTable) (stored : Datum) : Bool :=
  match stored.integer?.bind fun asn => whois[asn]? with
  | some row => row.isNamed
  | none => false

/-- The numbers that have statistics, in ascending order. -/
def countedNumbers (stats : StatsTable) : List Datum :=
  (stats.toList.map fun entry => entry.1.asn).eraseDups

/-- The public systems among stored numbers, if all of these are read as systems. -/
def publicSystems (numbers : List Datum) : Option (List Asn) :=
  (numbers.mapM readAsn).map fun systems => systems.filter fun asn => !asn.isReserved

/-- The public systems that have statistics, in ascending order. -/
def countedSystems (db : Database) : Option (List Asn) :=
  db.stats.bind fun stats => publicSystems (countedNumbers stats)

/-- The public systems that have statistics but no stored AS name. -/
def unnamedSystems (db : Database) : Option (List Asn) := do
  let stats ← db.stats
  let whois ← db.whois
  publicSystems ((countedNumbers stats).filter fun asn => !isNamed whois asn)

end Database
end Store
end AsCensus
