import AsCensus.CommandLine.Arguments
import AsCensus.Job.RouteImport
import AsCensus.Job.Statistics
import AsCensus.Job.WhoisWalk
import AsCensus.Wire.Value

namespace AsCensus
namespace CommandLine

open Job
open Store
open Text
open Wire

/-!
# Reports

The summary of a job is reported as lines for a reader or as structured data.
Names are padded to a column on the right and numbers on the left.  How long a step
took is not part of its outcome; a report has a mark in its place.
-/

/-- The mark in place of a time. -/
def timeMark : String := "_"

/-- A text with blanks after it, up to a width. -/
def padRight (width : Nat) (text : String) : String :=
  text ++ String.ofList (List.replicate (width - text.length) ' ')

/-- A number with blanks before it, up to a width. -/
def padLeft (width number : Nat) : String :=
  let shown := decimal number
  String.ofList (List.replicate (width - shown.length) ' ') ++ shown

/-- A text of lines that all end with a line feed. -/
def ofLines (lines : List String) : String :=
  String.join (lines.map fun line => line ++ "\n")

/-- The line of a step. -/
def stepLine (step : StepReport) : String :=
  let shown :=
    match step.rows with
    | some rows => " " ++ padLeft 8 rows ++ " rows "
    | none => "   FAILED "
  "  " ++ padRight 22 step.column ++ shown ++ timeMark ++ " ms"

/-- The report of a statistics run. -/
def statisticsText (summary : StatisticsSummary) : String :=
  ofLines
    (("ASN statistics at " ++ decimalInt summary.timestamp ++ " (transit mode: " ++
        summary.mode.name ++ ")") ::
      summary.steps.map stepLine)

/-- A statistics run as data. -/
def statisticsValue (summary : StatisticsSummary) : Value :=
  .object
    [("timestamp", .integer summary.timestamp),
      ("transit_mode", .text summary.mode.name),
      ("steps", .list (summary.steps.map fun step =>
        .object
          [("step", .text step.column), ("rows", .ofNat? step.rows), ("elapsed_ms", .withheld)]))]

/-- The report of a walk. -/
def walkText (summary : WalkSummary) : String :=
  ofLines
    ["Looked up " ++ decimal summary.total ++ " ASNs: " ++ decimal summary.updated ++
      " updated, " ++ decimal summary.notFound ++ " not found, " ++
      decimal summary.failedWrites ++ " failed writes"]

/-- A walk as data. -/
def walkValue (summary : WalkSummary) : Value :=
  .object
    [("total", .ofNat summary.total),
      ("updated", .ofNat summary.updated),
      ("not_found", .ofNat summary.notFound),
      ("failed_writes", .ofNat summary.failedWrites)]

/-- The line of a dump. -/
def importLine (outcome : ImportReport) : String :=
  let shown :=
    match outcome.result with
    | .ok stats =>
        padLeft 9 stats.written ++ " routes written (" ++ decimal stats.failedBatches ++
          " failed batches)"
    | .error error => "FAILED: " ++ error.message
  "  " ++ padRight 12 outcome.source ++ " " ++ shown

/-- The report of an import. -/
def importText (summary : ImportSummary) : String :=
  ofLines
    (summary.imports.map importLine ++
      ["Imported " ++ decimal summary.written ++ " route objects from " ++
        decimal summary.imports.length ++ " dumps"])

/-- What a writer did as data. -/
def statsValue (stats : WriteStats) : Value :=
  .object
    [("queued", .ofNat stats.queued),
      ("written", .ofNat stats.written),
      ("failed_batches", .ofNat stats.failedBatches)]

/-- The outcome of a dump as data. -/
def outcomeValue (outcome : ImportReport) : Value :=
  let result :=
    match outcome.result with
    | .ok stats => ("stats", statsValue stats)
    | .error error => ("error", .text error.message)
  .object [("source", .text outcome.source), result]

/-- An import as data. -/
def importValue (summary : ImportSummary) : Value :=
  .object [("imports", .list (summary.imports.map outcomeValue))]

/-- The text of data that is printed. -/
def printed (value : Value) : String :=
  value.pretty 0 ++ "\n"

/-- The name of the program. -/
def programName : String := "obmp-cron"

/-- The text of the version. -/
def versionText (job : Option JobName) : String :=
  let name :=
    match job with
    | some job => programName ++ "-" ++ job.name
    | none => programName
  name ++ " 0.3.0\n"

/-- The text of the help. -/
def helpText : String :=
  ofLines
    ["Usage: " ++ programName ++ " [--config FILE] [--debug] [--json] JOB [OPTIONS] DATABASE",
      "",
      "Jobs:",
      "  asn-stats    count origin and transit prefixes of each system",
      "               [--transit-mode path|analysis] [--timestamp SECONDS] [--workers N]",
      "  whois-asn    look systems up at the registries",
      "               [--missing-only] [--asn ASN]... [--quiet]",
      "  whois-route  import route objects from dumps of routing registries",
      "               [--source NAME]... [--file PATH] [--keep-files]",
      "",
      "Options of every job: [--user NAME] [--password TEXT] [--init-schema]"]

end CommandLine
end AsCensus
