import AsCensus.Path
import AsCensus.Text.Cut
import AsCensus.Text.Numeral

namespace AsCensus

open Text

/-!
# Settings

Six settings control the jobs.  Each is given by a text under a key of its own,
and has a default that is also used where its text is of no use: a number that
cannot be read, a zero where at least one is needed, a blank command.

A data directory that starts with `~/` lies in the home directory.
-/

/-- The settings of the jobs. -/
structure Settings where
  /-- The directory that dumps are fetched into. -/
  dataDirectory : String
  /-- How many rows are written at a time. -/
  bulkInsertSize : Nat := 2000
  /-- The command that asks registries. -/
  whoisCommand : String := "whois"
  /-- After how many lookups a walk pauses. -/
  requestsPerInterval : Nat := 200
  /-- How long a walk pauses, in seconds. -/
  pauseSeconds : Nat := 5
  /-- How many workers count transit. -/
  workers : Nat := 4
  deriving DecidableEq, Repr

namespace Settings

/-- One more than the greatest number that a setting may have. -/
def numberBound : Nat := 18446744073709551616

/-- The number that a text writes. -/
def readNumber (text : String) : Option Nat :=
  readNatural numberBound text.toList

/-- The number that a text writes, if it is not zero. -/
def readPositive (text : String) : Option Nat :=
  (readNumber text).filter fun number => 0 < number

/-- A command, if it is not blank. -/
def readCommand (text : String) : Option String :=
  if isAllBlank text.toList then none else some text

/-- The start of a path in the home directory. -/
def homeMark : List Char := ['~', '/']

/-- A path with the home directory in place of its mark. -/
def expandHome (home path : String) : String :=
  match after? homeMark path.toList with
  | some rest => Path.join home (String.ofList rest)
  | none => path

/-- The directory of the program in the home directory. -/
def homeDirectory (home : String) : String :=
  home ++ "/.obmp-cron"

/-- The settings that all have their defaults. -/
def defaults (home : String) : Settings :=
  { dataDirectory := homeDirectory home }

/-- The keys of the settings. -/
def keys : List String :=
  ["data_dir", "bulk_insert_size", "whois_command", "max_requests_per_interval",
    "throttle_pause_secs", "workers"]

/-- The settings that the texts under their keys give. -/
def ofTexts (home dataDirectory : String) (textOf : String -> Option String) : Settings :=
  let standard : Settings := { dataDirectory := dataDirectory }
  { dataDirectory := ((textOf "data_dir").map (expandHome home)).getD standard.dataDirectory
    bulkInsertSize :=
      ((textOf "bulk_insert_size").bind readPositive).getD standard.bulkInsertSize
    whoisCommand := ((textOf "whois_command").bind readCommand).getD standard.whoisCommand
    requestsPerInterval :=
      ((textOf "max_requests_per_interval").bind readPositive).getD standard.requestsPerInterval
    pauseSeconds := ((textOf "throttle_pause_secs").bind readNumber).getD standard.pauseSeconds
    workers := ((textOf "workers").bind readPositive).getD standard.workers }

/-- The directory that dumps are fetched into. -/
def downloadDirectory (settings : Settings) : String :=
  Path.withoutFinalSlashes settings.dataDirectory ++ "/rr_dbase"

/-- The settings as they are shown. -/
def summary (settings : Settings) : String :=
  joinLines
    ["Data Directory:        " ++ settings.dataDirectory,
      "Bulk Insert Size:      " ++ decimal settings.bulkInsertSize,
      "WHOIS Command:         " ++ settings.whoisCommand,
      "Requests per Interval: " ++ decimal settings.requestsPerInterval,
      "Throttle Pause:        " ++ decimal settings.pauseSeconds ++ " seconds",
      "Workers:               " ++ decimal settings.workers]

theorem pos_of_readPositive {text : String} {number : Nat}
    (read : readPositive text = some number) : 0 < number := by
  have found := Option.filter_eq_some_iff.mp read
  exact of_decide_eq_true found.2

theorem not_blank_of_readCommand {text command : String}
    (read : readCommand text = some command) : isAllBlank command.toList = false := by
  unfold readCommand at read
  split at read
  · cases read
  · next notBlank =>
      cases read
      exact Bool.eq_false_iff.mpr notBlank

end Settings
end AsCensus
