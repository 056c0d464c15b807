import AsCensus.CommandLine.Report
import AsCensus.Settings.Load
import AsCensus.Store.Connection

namespace AsCensus
namespace CommandLine

open Job
open Store

/-!
# Running the program

A run depends on its arguments and on the host: the files, the variables, the
clients behind commands, the dumps of registries, what compressed dumps give and the
time.  It gives an exit code, the text that is printed, the errors that are
reported, and the files as they are afterwards.

The exit code is 2 for arguments that are not well formed and for a database that
cannot be connected to, and 1 for settings that cannot be loaded, for tables that
cannot be created and for a job that failed.
-/

/-- What a run finds around it. -/
structure Host where
  tree : FileTree
  home : String
  environment : Environment
  /-- The client of a command. -/
  clientOf : String -> Whois.Client
  /-- The dump of a registry, or why there is none. -/
  fetch : Rpsl.Registry -> Except String (List UInt8)
  /-- What a compressed dump gives. -/
  decompress : Decompressor := noDecompressor
  /-- The time in seconds. -/
  now : Int

/-- What a run leaves behind. -/
structure Outcome where
  exitCode : UInt8
  output : String := ""
  errors : List String := []
  tree : FileTree

/-- The name of the file of variables. -/
def variablesFile : String := ".env"

/-- The variables of a run. -/
def Host.variables (host : Host) : Environment :=
  match host.tree.find variablesFile with
  | .file bytes => host.environment.addFile bytes
  | _ => host.environment

/-- The paths that a request may read or write. -/
def Request.paths (request : Request) (home : String) : List String :=
  let dump :=
    match request.command with
    | .routes options => options.file.toList
    | _ => []
  let settings := request.settingsPath.getD (Settings.homeFile home)
  let beside := (Path.withEnding? settings ".toml").toList
  [variablesFile, settings, request.database] ++ beside ++ dump

/-- The error that is reported for a database that cannot be connected to. -/
def connectFailureLine : ConnectFailure -> String
  | .accessDenied path =>
      "ERROR: access denied to '" ++ path ++ "', check the user and password"
  | .unknownDatabase path => "ERROR: '" ++ path ++ "' is not an OpenBMP database"
  | error => "ERROR: " ++ error.message

/-- Why a run has no database to work on. -/
inductive OpenFailure
  | notConnected (failure : ConnectFailure)
  /-- A table that the collector fills could not be created. -/
  | noSources (table : String)
  /-- A table that holds results could not be created. -/
  | noOutputs (table : String)
  deriving DecidableEq, Repr

/-- The error that is reported for a database that cannot be worked on. -/
def OpenFailure.line : OpenFailure -> String
  | notConnected failure => connectFailureLine failure
  | noSources table =>
      "ERROR: failed to create source tables: Failed to create table " ++ table
  | noOutputs table =>
      "ERROR: failed to create output tables: Failed to create table " ++ table

/-- The exit code for a database that cannot be worked on. -/
def OpenFailure.exitCode : OpenFailure -> UInt8
  | notConnected _ => 2
  | noSources _ => 1
  | noOutputs _ => 1

/-- Connect to a database, with the tables that hold results, and on demand with
those that the collector fills. -/
def openRequested (tree : FileTree) (request : Request) : Except OpenFailure Connection := do
  let connection ← (Connection.connect tree request.database).mapError .notConnected
  let sources := if request.initSchema then TableId.sources else []
  let sourced ← (connection.ensureAll sources).mapError .noSources
  (sourced.ensureAll TableId.outputs).mapError .noOutputs

/-- What the connections of workers lead to. -/
def targetOf (connection : Connection) : Target :=
  if connection.isShared then .shared else .privateMemory

/-- What a job leaves behind: its exit code, its report, its errors, and the database
and the files after it. -/
structure JobOutcome where
  exitCode : UInt8 := 0
  output : String := ""
  errors : List String := []
  db : Database
  tree : FileTree

/-- The table that a job writes. -/
def Command.written : Command -> TableId
  | .statistics _ _ => .stats
  | .walk _ => .whois
  | .routes _ => .routes

/-- Do a job.  The systems to walk through are read before anything is written. -/
def runJob (host : Host) (settings : Settings) (request : Request) (connection : Connection)
    (tree : FileTree) : JobOutcome :=
  let db := connection.forWriting request.command.written
  let report (text : String) (value : Wire.Value) : String :=
    if request.json then printed value else text
  match request.command with
  | .statistics options workers =>
      let (after, summary) :=
        runStatistics
          ⟨targetOf connection, settings.bulkInsertSize, workers.getD settings.workers⟩
          options.mode (options.timestamp.getD host.now) db
      { exitCode := if 0 < summary.failures then 1 else 0
        output := report (statisticsText summary) (statisticsValue summary)
        db := after
        tree := tree }
  | .walk options =>
      let client := host.clientOf settings.whoisCommand
      match walkList connection.db options with
      | .error error =>
          { exitCode := 1, errors := ["ERROR: " ++ error.message], db := db, tree := tree }
      | .ok asns =>
          let state := walk client settings.requestsPerInterval db asns
          { output := report (walkText state.summary) (walkValue state.summary)
            db := state.db
            tree := tree }
  | .routes options =>
      match runImport ⟨settings.bulkInsertSize, settings.downloadDirectory, host.fetch⟩ options
          ⟨db, tree⟩ host.decompress with
      | .error error =>
          { exitCode := 1, errors := ["ERROR: " ++ error.message], db := db, tree := tree }
      | .ok (summary, after) =>
          let allFailed := 0 < summary.failed ∧ summary.failed = summary.imports.length
          { exitCode := if allFailed then 1 else 0
            output := report (importText summary) (importValue summary)
            db := after.db
            tree := after.tree }

/-- Do what a request asks for with given settings. -/
def runRequest (host : Host) (settings : Settings) (request : Request) (tree : FileTree) :
    Outcome :=
  match openRequested tree request with
  | .error error => { exitCode := error.exitCode, errors := [error.line], tree := tree }
  | .ok connection =>
      let done := runJob host settings request connection tree
      { exitCode := done.exitCode
        output := done.output
        errors := done.errors
        tree := { connection with db := done.db }.save done.tree }

/-- Run the program. -/
def run (host : Host) (arguments : List String) : Outcome :=
  match parse arguments with
  | .error .usage => { exitCode := 2, tree := host.tree }
  | .error .help => { exitCode := 0, output := helpText, tree := host.tree }
  | .error (.version job) => { exitCode := 0, output := versionText job, tree := host.tree }
  | .ok request =>
      match Settings.load host.tree host.home host.variables request.settingsPath with
      | (tree, .error error) =>
          { exitCode := 1
            errors := ["Failed to load configuration: " ++ error.message]
            tree := tree }
      | (tree, .ok settings) => runRequest host settings request tree

end CommandLine
end AsCensus
