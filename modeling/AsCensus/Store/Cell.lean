import AsCensus.Store.AsnStats
import AsCensus.Text.Numeral

namespace AsCensus
namespace Store

open Std
open Text

/-!
# Rows as cells

Seen from outside, a row is a list of cells in the order of its columns, each of which
holds something or nothing.  Every table can be listed in this form, in the order of
its keys, and rows in this form can be inserted.

A cell takes the kind of its column where it can: in a column of texts a number becomes
its decimal text, and in a column of numbers the text of a number becomes that number.
Columns at the end of a row may be left out if they have a default.  Inserting never
replaces a row.
-/

/-- The content of one column of a row, if there is any. -/
abbrev Cell := Option Datum

/-- The number that a cell puts into a column of numbers. -/
def numberIn (cell : Cell) : Option Datum :=
  cell.map Datum.numeric

/-- The text that a cell puts into a column of texts. -/
def textIn (cell : Cell) : Option String :=
  cell.bind Datum.text?

/-- The default of a column of numbers. -/
def defaultNumber (value : Int) : Option Cell :=
  some (some (.integer value))

/-- The defaults of the columns of a table.  A column without one must be given. -/
def TableId.defaults : TableId -> List (Option Cell)
  | .rib => List.replicate 5 none ++ [defaultNumber 0, defaultNumber 1, defaultNumber 0]
  | .paths => List.replicate 4 none
  | .analysis => [none, defaultNumber 0, defaultNumber 0, none, none]
  | .stats => none :: List.replicate 6 (defaultNumber 0) ++ [none]
  | .whois => none :: List.replicate 11 (some none)
  | .routes => [none, none, none, some none]

/-- Put defaults in place of the cells that are left out at the end of a row. -/
def completeRow : List (Option Cell) -> List Cell -> Option (List Cell)
  | [], [] => some []
  | [], _ :: _ => none
  | _ :: defaults, cell :: cells => (completeRow defaults cells).map fun rest => cell :: rest
  | absent :: defaults, [] => do
      let cell ← absent
      let rest ← completeRow defaults []
      some (cell :: rest)

/-- An announcement with its key. -/
def ribEntry : List Cell -> Option (String × RibRow)
  | [id, attributes, peer, address, length, origin, ipv4, withdrawn] => do
      let path : PathId := ⟨← textIn attributes, ← textIn peer⟩
      let network : StoredNetwork := ⟨← textIn address, ← numberIn length⟩
      some (← textIn id, ⟨path, network, ← numberIn origin, ← numberIn ipv4, ← numberIn withdrawn⟩)
  | _ => none

/-- The attributes of a path with their key. -/
def pathEntry : List Cell -> Option (PathId × PathRow)
  | [attributes, peer, path, origin] => do
      some (⟨← textIn attributes, ← textIn peer⟩, ⟨← textIn path, ← numberIn origin⟩)
  | _ => none

/-- The neighbours of a system on a path with their key. -/
def analysisEntry : List Cell -> Option (AnalysisKey × AnalysisRow)
  | [asn, left, right, attributes, peer] => do
      let path : PathId := ⟨← textIn attributes, ← textIn peer⟩
      some (⟨← numberIn asn, path⟩, ⟨← numberIn left, ← numberIn right⟩)
  | _ => none

/-- The statistics of a system with their key. -/
def statsEntry : List Cell -> Option (StatsKey × StatsRow)
  | [asn, isTransit, isOrigin, transitV4, transitV6, originV4, originV6, timestamp] => do
      let row : StatsRow :=
        { isTransit := ← numberIn isTransit
          isOrigin := ← numberIn isOrigin
          transitV4 := ← numberIn transitV4
          transitV6 := ← numberIn transitV6
          originV4 := ← numberIn originV4
          originV6 := ← numberIn originV6 }
      some (⟨← numberIn asn, ← numberIn timestamp⟩, row)
  | _ => none

/-- The next free number of a table, for a row that comes without one. -/
def WhoisTable.nextNumber (table : WhoisTable) : Int :=
  match ExtTreeMap.maxKey? table with
  | some greatest => greatest + 1
  | none => 1

/-- The WHOIS details of a system with their key, which must be an integer. -/
def whoisEntry (table : WhoisTable) : List Cell -> Option (Int × WhoisRow)
  | asn :: cells => do
      let number ← if asn.isNone then some table.nextNumber else (numberIn asn).bind Datum.integer?
      let texts := cells.map textIn
      let fields := (Whois.Field.all.zip texts).filterMap fun (field, text) =>
        text.map fun text => (field, text)
      let raw := texts[Whois.Field.all.length]?.join
      some (number, ⟨ExtTreeMap.ofList fields, raw⟩)
  | [] => none

/-- A route object with its key. -/
def routeEntry : List Cell -> Option (RouteKey × Option String)
  | [address, length, origin, description] => do
      let network : StoredNetwork := ⟨← textIn address, ← numberIn length⟩
      some (⟨network, ← numberIn origin⟩, textIn description)
  | _ => none

/-- Insert a row unless its key is taken. -/
def insertNew [Ord K] [TransOrd K] (table : ExtTreeMap K V) (entry : K × V) :
    Option (ExtTreeMap K V) :=
  if table.contains entry.1 then none else some (table.insert entry.1 entry.2)

namespace Database

/-- Insert a row.  There is no result if the table is missing, the key is taken, or
the cells are no row of the table. -/
def insertRow (db : Database) (table : TableId) (given : List Cell) : Option Database := do
  let cells ← completeRow table.defaults given
  match table with
  | .rib =>
      let rows ← insertNew (← db.rib) (← ribEntry cells)
      some { db with rib := some rows }
  | .paths =>
      let rows ← insertNew (← db.paths) (← pathEntry cells)
      some { db with paths := some rows }
  | .analysis =>
      let rows ← insertNew (← db.analysis) (← analysisEntry cells)
      some { db with analysis := some rows }
  | .stats =>
      let rows ← insertNew (← db.stats) (← statsEntry cells)
      some { db with stats := some rows }
  | .whois =>
      let rows ← insertNew (← db.whois) (← whoisEntry (← db.whois) cells)
      some { db with whois := some rows }
  | .routes =>
      let rows ← insertNew (← db.routes) (← routeEntry cells)
      some { db with routes := some rows }

/-- Insert rows up to the first one that cannot be inserted.  The result tells how
many were inserted. -/
def insertRows (db : Database) (table : TableId) : List (List Cell) -> Database × Nat
  | [] => (db, 0)
  | cells :: rest =>
      match db.insertRow table cells with
      | none => (db, 0)
      | some after =>
          let (final, inserted) := after.insertRows table rest
          (final, inserted + 1)

/-- The rows of a table in the order of their keys, if it exists. -/
def rowsOf (db : Database) : TableId -> Option (List (List Cell))
  | .rib => db.rib.map fun table => table.toList.map fun (id, row) =>
      [some (.text id), some (.text row.path.attributes), some (.text row.path.peer),
        some (.text row.network.address), some row.network.length, some row.origin,
        some row.ipv4, some row.withdrawn]
  | .paths => db.paths.map fun table => table.toList.map fun (id, row) =>
      [some (.text id.attributes), some (.text id.peer), some (.text row.asPath),
        some row.origin]
  | .analysis => db.analysis.map fun table => table.toList.map fun (key, row) =>
      [some key.asn, some row.left, some row.right, some (.text key.path.attributes),
        some (.text key.path.peer)]
  | .stats => db.stats.map fun table => table.toList.map fun (key, row) =>
      [some key.asn, some row.isTransit, some row.isOrigin, some row.transitV4,
        some row.transitV6, some row.originV4, some row.originV6, some key.timestamp]
  | .whois => db.whois.map fun table => table.toList.map fun (asn, row) =>
      some (.integer asn) ::
        (Whois.Field.all.map fun field => row.fields[field]?.map Datum.text) ++
          [row.raw.map Datum.text]
  | .routes => db.routes.map fun table => table.toList.map fun (key, description) =>
      [some (.text key.network.address), some key.network.length, some key.origin,
        description.map Datum.text]

end Database
end Store
end AsCensus
