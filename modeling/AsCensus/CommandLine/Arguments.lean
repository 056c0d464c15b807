import AsCensus.Job.RouteImport
import AsCensus.Job.WhoisWalk
import AsCensus.Text.Scan
import AsCensus.Wire.Options

namespace AsCensus
namespace CommandLine

open Job
open Text

/-!
# Arguments

The first argument that is no option names a job.  Options of every job may stand
before and after it, the options of the job only after it.  A job works on one
database, which is the only other argument.

An option has a long name after two hyphens, and perhaps one letter after a single
hyphen; letters may be put together.  The value of an option is the next argument,
or follows its name after an equals sign, or follows its letter directly.  The next
argument is no value if it starts with a hyphen and goes on.  After two hyphens
alone no argument is an option.

An option may be given once, unless it lists things.  Arguments are read from left
to right, and the first one that is out of place ends the reading; asking for help
or for the version ends it as well.
-/

/-- An option: its names, and what it expects. -/
structure OptionSpec where
  long : String
  short : Option Char := none
  takesValue : Bool := true
  repeats : Bool := false
  /-- Whether a value is of use. -/
  accepts : String -> Bool := fun _ => true

/-- The number of 64 bits with a sign that a value writes. -/
def readTimestamp (value : String) : Option Int :=
  readInteger 9223372036854775808 value.toList

/-- The system that a value names. -/
def readSystem (value : String) : Option Asn :=
  (readTimestamp value).bind Asn.ofInt?

/-- The number of workers that a value writes. -/
def readWorkers (value : String) : Option Nat :=
  readNatural 18446744073709551616 value.toList

/-- The options of every job. -/
def generalOptions : List OptionSpec :=
  [{ long := "config", short := some 'c' },
    { long := "debug", takesValue := false },
    { long := "json", takesValue := false }]

/-- The options about the database. -/
def databaseOptions : List OptionSpec :=
  [{ long := "user", short := some 'u' },
    { long := "password", short := some 'p' },
    { long := "init-schema", takesValue := false }]

/-- The jobs. -/
inductive JobName
  | statistics
  | walk
  | routes
  deriving DecidableEq, Repr

namespace JobName

/-- All jobs. -/
def all : List JobName := [statistics, walk, routes]

/-- The name of a job. -/
def name : JobName -> String
  | statistics => "asn-stats"
  | walk => "whois-asn"
  | routes => "whois-route"

/-- The job with a given name. -/
def ofName? (name : String) : Option JobName :=
  all.find? fun job => job.name == name

/-- The options of a job alone. -/
def ownOptions : JobName -> List OptionSpec
  | statistics =>
      [{ long := "transit-mode", accepts := fun value => (TransitMethod.ofName? value).isSome },
        { long := "timestamp", accepts := fun value => (readTimestamp value).isSome },
        { long := "workers", short := some 'w',
          accepts := fun value => (readWorkers value).isSome }]
  | walk =>
      [{ long := "missing-only", takesValue := false },
        { long := "asn", repeats := true, accepts := fun value => (readSystem value).isSome },
        { long := "quiet", short := some 'q', takesValue := false }]
  | routes =>
      [{ long := "source", repeats := true },
        { long := "file" },
        { long := "keep-files", takesValue := false }]

/-- The options that may follow the name of a job. -/
def options (job : JobName) : List OptionSpec :=
  generalOptions ++ databaseOptions ++ job.ownOptions

end JobName

/-- Why the arguments tell of no job to be done. -/
inductive Refusal
  /-- The arguments are not well formed. -/
  | usage
  /-- Help was asked for. -/
  | help
  /-- The version was asked for, of the program or of a job. -/
  | version (job : Option JobName)
  deriving DecidableEq, Repr

/-- What was found among arguments: options with their values, and other arguments. -/
structure Found where
  options : List (String × String) := []
  others : List String := []
  deriving DecidableEq, Repr

namespace Found

/-- Whether an option was given. -/
def has (found : Found) (long : String) : Bool :=
  (found.options.lookup long).isSome

/-- The values of an option. -/
def valuesOf (found : Found) (long : String) : List String :=
  (found.options.filter fun entry => entry.1 == long).map Prod.snd

/-- The value of an option, if it was given. -/
def valueOf? (found : Found) (long : String) : Option String :=
  found.options.lookup long

/-- Add an option, unless it was given before or its value is of no use. -/
def add (found : Found) (spec : OptionSpec) (value : String) : Except Refusal Found :=
  if (found.has spec.long && !spec.repeats) || !spec.accepts value then
    .error .usage
  else
    .ok { found with options := found.options ++ [(spec.long, value)] }

end Found

/-- What one argument is, seen with the options that may stand there. -/
inductive Reading
  /-- No option. -/
  | other
  /-- The argument after which nothing is an option. -/
  | allOthers
  /-- Options that are complete. -/
  | complete (found : Found)
  /-- Options of which the last waits for its value. -/
  | waiting (found : Found) (spec : OptionSpec)

/-- Read the letters after a single hyphen. -/
def readLetters (job : Option JobName) (specs : List OptionSpec) (found : Found) :
    List Char -> Except Refusal Reading
  | [] => .ok (.complete found)
  | letter :: rest =>
      match specs.find? fun spec => spec.short == some letter with
      | none =>
          if letter = 'h' then .error .help
          else if letter = 'V' then .error (.version job)
          else .error .usage
      | some spec =>
          if spec.takesValue then
            match rest with
            | [] => .ok (.waiting found spec)
            | '=' :: value => (found.add spec (String.ofList value)).map .complete
            | value => (found.add spec (String.ofList value)).map .complete
          else do
            let found ← found.add spec ""
            readLetters job specs found rest

/-- Read what stands after two hyphens. -/
def readLong (job : Option JobName) (specs : List OptionSpec) (found : Found)
    (text : List Char) : Except Refusal Reading :=
  let (name, value) :=
    match cut ['='] text with
    | some (name, value) => (String.ofList name, some (String.ofList value))
    | none => (String.ofList text, none)
  match specs.find? fun spec => spec.long == name with
  | none =>
      if name = "help" ∧ value = none then .error .help
      else if name = "version" ∧ value = none then .error (.version job)
      else .error .usage
  | some spec =>
      match spec.takesValue, value with
      | true, some value => (found.add spec value).map .complete
      | true, none => .ok (.waiting found spec)
      | false, some _ => .error .usage
      | false, none => (found.add spec "").map .complete

/-- Read one argument. -/
def readArgument (job : Option JobName) (specs : List OptionSpec) (found : Found)
    (argument : String) : Except Refusal Reading :=
  match argument.toList with
  | ['-', '-'] => .ok .allOthers
  | '-' :: '-' :: text => readLong job specs found text
  | ['-'] => .ok .other
  | '-' :: letters => readLetters job specs found letters
  | _ => .ok .other

/-- Whether an argument cannot be the value of the option before it. -/
def isOption (argument : String) : Bool :=
  argument.toList.head? == some '-' && argument != "-"

/-- Read the arguments after the name of a job. -/
def readJobArguments (job : JobName) (found : Found) (waiting : Option OptionSpec) :
    List String -> Except Refusal Found
  | [] => if waiting.isNone then .ok found else .error .usage
  | argument :: rest =>
      match waiting with
      | some spec =>
          if isOption argument then
            .error .usage
          else do
            let found ← found.add spec argument
            readJobArguments job found none rest
      | none => do
          match ← readArgument (some job) job.options found argument with
          | .complete found => readJobArguments job found none rest
          | .waiting found spec => readJobArguments job found (some spec) rest
          | .allOthers => .ok { found with others := found.others ++ rest }
          | .other =>
              if found.others.isEmpty then
                readJobArguments job { found with others := [argument] } none rest
              else
                .error .usage

/-- What arguments tell, before and after the name of a job. -/
structure Parts where
  general : Found
  job : JobName
  own : Found

/-- Whether the arguments after the word `help` name something there is help on. -/
def isHelpTopic : List String -> Bool
  | [] => true
  | [topic] => topic == "help" || (JobName.ofName? topic).isSome
  | _ => false

/-- Read all arguments. -/
def readArguments (found : Found) (waiting : Option OptionSpec) :
    List String -> Except Refusal Parts
  | [] => .error .usage
  | argument :: rest =>
      match waiting with
      | some spec =>
          if isOption argument then
            .error .usage
          else do
            let found ← found.add spec argument
            readArguments found none rest
      | none =>
          match JobName.ofName? argument with
          | some job => do
              let own ← readJobArguments job {} none rest
              .ok ⟨found, job, own⟩
          | none =>
              if argument = "help" then
                .error (if isHelpTopic rest then .help else .usage)
              else do
                match ← readArgument none generalOptions found argument with
                | .complete found => readArguments found none rest
                | .waiting found spec => readArguments found (some spec) rest
                | .allOthers => .error .usage
                | .other => .error .usage

/-- A job with its options. -/
inductive Command
  | statistics (options : Wire.StatisticsOptions) (workers : Option Nat)
  | walk (options : WalkOptions)
  | routes (options : ImportOptions)
  deriving DecidableEq, Repr

/-- What the arguments ask for. -/
structure Request where
  settingsPath : Option String
  json : Bool
  database : String
  initSchema : Bool
  command : Command
  deriving DecidableEq, Repr

/-- The job that options tell of. -/
def commandOf (job : JobName) (own : Found) : Command :=
  match job with
  | .statistics =>
      .statistics
        ⟨((own.valueOf? "transit-mode").bind TransitMethod.ofName?).getD .path,
          (own.valueOf? "timestamp").bind readTimestamp⟩
        ((own.valueOf? "workers").bind readWorkers)
  | .walk => .walk ⟨own.has "missing-only", (own.valuesOf "asn").filterMap readSystem⟩
  | .routes => .routes ⟨own.valuesOf "source", own.valueOf? "file", own.has "keep-files"⟩

/-- What arguments ask for.  An option that is given before and after the name of the
job counts as it is given after it. -/
def parse (arguments : List String) : Except Refusal Request := do
  let parts ← readArguments {} none arguments
  match parts.own.others with
  | [database] =>
      .ok
        { settingsPath := (parts.own.valueOf? "config").or (parts.general.valueOf? "config")
          json := parts.general.has "json" || parts.own.has "json"
          database := database
          initSchema := parts.own.has "init-schema"
          command := commandOf parts.job parts.own }
  | _ => .error .usage

end CommandLine
end AsCensus
