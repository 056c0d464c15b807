import AsCensus.Job.WorkerPool
import AsCensus.Store.AsnStats

namespace AsCensus
namespace Job

open Store

/-!
# Refreshing the statistics

A run counts, for IPv4 and then for IPv6, the networks that each system is the
origin of, and after that the networks that it provides transit for.  All counts
of a run are stored under one timestamp.  A step that fails writes nothing and
does not stop the run.

Transit is counted in one of two ways: by conditioning the path of every
announcement, or by asking the path analysis about each system.
-/

/-- The ways to count transit. -/
inductive TransitMethod
  | path
  | analysis
  deriving DecidableEq, Repr

namespace TransitMethod

/-- All ways to count transit. -/
def all : List TransitMethod := [path, analysis]

/-- The name of a way to count transit. -/
def name : TransitMethod -> String
  | path => "path"
  | analysis => "analysis"

/-- The way to count transit with a given name. -/
def ofName? (name : String) : Option TransitMethod :=
  all.find? fun mode => mode.name == name

end TransitMethod

/-- How a run is carried out. -/
structure StatisticsSettings where
  target : Target
  batchSize : Nat
  workers : Nat

/-- A step of a run. -/
structure Step where
  role : Role
  family : AddressFamily
  deriving DecidableEq, Repr

/-- The steps of a run in their order. -/
def Step.all : List Step :=
  Role.all.flatMap fun role => AddressFamily.all.map fun family => ⟨role, family⟩

/-- Count and store the networks of origins. -/
def refreshOrigins (settings : StatisticsSettings) (db : Database) (family : AddressFamily)
    (timestamp : Int) : Database × Option Nat :=
  match db.originCounts family with
  | none => (db, none)
  | some counts => db.storeCounts .origin family counts timestamp settings.batchSize

/-- The transit of all systems.  There is none if a table is missing or a system was not
counted.  It is taken for granted that the pool of the analysis can be started; where it
cannot, there is none either. -/
def transitTally (settings : StatisticsSettings) (db : Database) (family : AddressFamily)
    (mode : TransitMethod) : Option Tally :=
  match mode with
  | .path => db.transitCounts family Tally.empty
  | .analysis => do
      let asns ← db.transitSystems
      let result := countTransit (settings.target.view db) family asns settings.workers
      if result.failed.isEmpty then some result.tally else none

/-- Count and store transit.  A system without transit is not stored. -/
def refreshTransit (settings : StatisticsSettings) (db : Database) (family : AddressFamily)
    (mode : TransitMethod) (timestamp : Int) : Database × Option Nat :=
  match transitTally settings db family mode with
  | none => (db, none)
  | some tally =>
      db.storeCounts .transit family (tally.toList.filter fun entry => 0 < entry.2) timestamp
        settings.batchSize

/-- Carry out one step.  The result tells the number of rows written. -/
def Step.run (step : Step) (settings : StatisticsSettings) (mode : TransitMethod)
    (timestamp : Int) (db : Database) : Database × Option Nat :=
  match step.role with
  | .origin => refreshOrigins settings db step.family timestamp
  | .transit => refreshTransit settings db step.family mode timestamp

/-- What a step did. -/
structure StepReport where
  column : String
  rows : Option Nat
  deriving DecidableEq, Repr

/-- What a run did. -/
structure StatisticsSummary where
  timestamp : Int
  mode : TransitMethod
  steps : List StepReport
  deriving DecidableEq, Repr

/-- How many steps failed. -/
def StatisticsSummary.failures (summary : StatisticsSummary) : Nat :=
  summary.steps.countP fun step => step.rows.isNone

/-- Carry out steps one after the other. -/
def runSteps (settings : StatisticsSettings) (mode : TransitMethod) (timestamp : Int)
    (db : Database) : List Step -> Database × List StepReport
  | [] => (db, [])
  | step :: rest =>
      let (after, rows) := step.run settings mode timestamp db
      let (final, outcomes) := runSteps settings mode timestamp after rest
      (final, ⟨step.role.column step.family, rows⟩ :: outcomes)

/-- Refresh the statistics. -/
def runStatistics (settings : StatisticsSettings) (mode : TransitMethod) (timestamp : Int)
    (db : Database) : Database × StatisticsSummary :=
  let (after, outcomes) := runSteps settings mode timestamp db Step.all
  (after, ⟨timestamp, mode, outcomes⟩)

end Job
end AsCensus
