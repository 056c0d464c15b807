import AsCensus.Store.Reference
import AsCensus.Store.Row

namespace AsCensus
namespace Store

open Std

/-!
# The database

A database has up to six tables.  A table that does not exist is different from
one without rows: whatever reads or writes it fails.

Tables are created by statements that leave an existing table alone.  Creating a
table by name may drop the table of that name first, which is a statement of its own:
the name may be any text that a statement reads as one.  The two steps are separate,
so that a creation that cannot be executed leaves the table dropped.
-/

abbrev RibTable := ExtTreeMap String RibRow
abbrev PathTable := ExtTreeMap PathId PathRow
abbrev AnalysisTable := ExtTreeMap AnalysisKey AnalysisRow
abbrev StatsTable := ExtTreeMap StatsKey StatsRow
abbrev WhoisTable := ExtTreeMap Int WhoisRow

/-- The route objects.  What is kept of a row is its key and its description, which is a
text if there is one.  The table has one column more, which the clock fills in when a row
is written; nothing reads it, and it is left out. -/
abbrev RouteTable := ExtTreeMap RouteKey (Option String)

/-- The tables that exist and their rows. -/
structure Database where
  rib : Option RibTable := none
  paths : Option PathTable := none
  analysis : Option AnalysisTable := none
  stats : Option StatsTable := none
  whois : Option WhoisTable := none
  routes : Option RouteTable := none
  deriving DecidableEq

namespace Database

/-- The database without tables. -/
def bare : Database := {}

/-- Whether a table exists. -/
def has (db : Database) : TableId -> Bool
  | .rib => db.rib.isSome
  | .paths => db.paths.isSome
  | .analysis => db.analysis.isSome
  | .stats => db.stats.isSome
  | .whois => db.whois.isSome
  | .routes => db.routes.isSome

/-- How many rows a table has, if it exists. -/
def rowCount (db : Database) : TableId -> Option Nat
  | .rib => db.rib.map ExtTreeMap.size
  | .paths => db.paths.map ExtTreeMap.size
  | .analysis => db.analysis.map ExtTreeMap.size
  | .stats => db.stats.map ExtTreeMap.size
  | .whois => db.whois.map ExtTreeMap.size
  | .routes => db.routes.map ExtTreeMap.size

/-- Create a table unless it exists. -/
def create (db : Database) : TableId -> Database
  | .rib => { db with rib := db.rib.or (some ∅) }
  | .paths => { db with paths := db.paths.or (some ∅) }
  | .analysis => { db with analysis := db.analysis.or (some ∅) }
  | .stats => { db with stats := db.stats.or (some ∅) }
  | .whois => { db with whois := db.whois.or (some ∅) }
  | .routes => { db with routes := db.routes.or (some ∅) }

/-- Drop a table if it exists. -/
def drop (db : Database) : TableId -> Database
  | .rib => { db with rib := none }
  | .paths => { db with paths := none }
  | .analysis => { db with analysis := none }
  | .stats => { db with stats := none }
  | .whois => { db with whois := none }
  | .routes => { db with routes := none }

/-- Create the tables of a list that do not exist. -/
def createAll (db : Database) (tables : List TableId) : Database :=
  tables.foldl create db

/-- Create the tables that hold results. -/
def createOutputs (db : Database) : Database :=
  db.createAll TableId.outputs

/-- Create the tables that the collector fills. -/
def createSources (db : Database) : Database :=
  db.createAll TableId.sources

/-- Why a table was not ensured. -/
inductive SchemaError
  /-- There is no table of this name. -/
  | unknownTable (name : String)
  deriving DecidableEq, Repr

/-- The message of a failure. -/
def SchemaError.message : SchemaError -> String
  | unknownTable name => "Unknown table: " ++ name

/-- Create the table of a name unless it exists. -/
def ensure (db : Database) (name : String) : Except SchemaError Database :=
  match TableId.ofName? name with
  | some table => .ok (db.create table)
  | none => .error (.unknownTable name)

/-- A statement that is meant to create a table. -/
inductive Creation
  /-- It creates a table unless that exists. -/
  | table (table : TableId)
  /-- It cannot be executed. -/
  | broken
  deriving DecidableEq, Repr

/-- Execute a creation statement. -/
def execute (db : Database) : Creation -> Option Database
  | .table table => some (db.create table)
  | .broken => none

/-- Execute the statement that drops the table of a name, if there is one.  There is
no result if the text reads as no name, or names a catalogue. -/
def dropNamed (db : Database) (name : String) : Option Database := do
  match (← TableName.alone? name).relation? with
  | none => some db
  | some (.table table) => some (db.drop table)
  | some _ => none

/-- Create a table, after dropping the one of a name on demand.  The table may be created by
any statement: what this makes of the database, or nothing where it cannot be executed.  The
creation is a single statement, so that it has no effect at all where it fails.  The database
is one that can be written to.  The result tells whether the statements were executed. -/
def createBy (db : Database) (name : String) (creation : Database -> Option Database)
    (dropFirst : Bool) : Bool × Database :=
  match if dropFirst then db.dropNamed name else some db with
  | none => (false, db)
  | some cleared =>
      match creation cleared with
      | some created => (true, created)
      | none => (false, cleared)

/-- Create one of the tables by a statement, after dropping the one of a name on demand. -/
def createTable (db : Database) (name : String) (statement : Creation) (dropFirst : Bool) :
    Bool × Database :=
  db.createBy name (fun cleared => cleared.execute statement) dropFirst

/-- How many rows a relation has, if it exists. -/
def relationCount (db : Database) : Relation -> Option Nat
  | .table table => db.rowCount table
  | .catalogue => some (((TableId.all.filter db.has).map TableId.catalogueRows).foldl (· + ·) 0)
  | .temporaryCatalogue => some 0

/-- How many rows can be selected from what a text names.  Several relations are
combined row by row. -/
def countRows (db : Database) (text : String) : Option Nat := do
  let source ← Source.read? text
  let relations ← source.names.mapM TableName.relation?
  let counts ← relations.mapM db.relationCount
  if source.limit = some 0 then none
  else some (if source.isKept then counts.foldl (· * ·) 1 else 0)

/-- Whether a table of exactly this name exists. -/
def exists? (db : Database) (name : String) : Bool :=
  ((TableId.ofName? name).map db.has).getD false

end Database
end Store
end AsCensus
