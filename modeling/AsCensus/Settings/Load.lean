import AsCensus.Files.Tree
import AsCensus.Path
import AsCensus.Settings.Ini
import AsCensus.Settings.Json
import AsCensus.Settings.Layer

namespace AsCensus
namespace Settings

open Text

/-!
# Loading settings

The settings file is the one that is asked for, or else one in the home directory,
which is made together with its directory if it is not there.  A file that is asked
for but does not exist is made as well.  A new file holds comments only, so that it
sets nothing.

The ending of its name tells how a settings file is written.
-/

/-- The content of a new settings file. -/
def emptyFile : String :=
  joinLines
    ["### obmp-cron configuration file",
      "",
      "### directory for downloaded routing registry dumps",
      "# data_dir = \"~/.obmp-cron\"",
      "",
      "### rows per bulk insert statement",
      "# bulk_insert_size = 2000",
      "",
      "### whois lookups",
      "# whois_command = \"whois\"",
      "# max_requests_per_interval = 200",
      "# throttle_pause_secs = 5",
      "",
      "### worker threads for transit counting in analysis mode",
      "# workers = 4",
      ""]

/-- The settings file in the home directory. -/
def homeFile (home : String) : String :=
  homeDirectory home ++ "/obmp-cron.toml"

/-- Why settings were not loaded. -/
inductive LoadError
  | directoryNotCreated (cause : PathError)
  | fileNotCreated (cause : PathError)
  | homeFileNotCreated (path : String) (cause : PathError)
  /-- The file is not of a known kind, or not well formed. -/
  | notBuilt (cause : String)
  /-- A key is left without a text. -/
  | notPlain
  deriving DecidableEq, Repr

/-- The message of a failure. -/
def LoadError.message : LoadError -> String
  | directoryNotCreated cause => "Unable to create obmp-cron directory: " ++ cause.message
  | fileNotCreated cause => "Unable to create config file: " ++ cause.message
  | homeFileNotCreated path cause =>
      "Unable to create config file " ++ path ++ ": " ++ cause.message
  | notBuilt cause => "Failed to build configuration: " ++ cause
  | notPlain => "Failed to deserialize configuration: invalid type, expected a string"

/-- How a settings file is written.  These are the kinds that are read here; YAML, RON and
JSON5 are not among them, and a file of such a kind counts as one of no known kind. -/
inductive FileKind
  | toml
  | json
  | ini
  deriving DecidableEq, Repr

namespace FileKind

/-- All kinds of settings files. -/
def all : List FileKind := [toml, json, ini]

/-- How the names of files of a kind end. -/
def ending : FileKind -> String
  | toml => ".toml"
  | json => ".json"
  | ini => ".ini"

/-- The kind that the name of a file tells.  There has to be a name before the ending. -/
def ofName? (name : List Char) : Option FileKind :=
  all.find? fun kind => kind.ending.toList.isSuffixOf name && kind.ending.length < name.length

/-- What the keys of a file name, if it is well formed. -/
def read (kind : FileKind) (text : List Char) : Option Members :=
  match kind with
  | toml => readDocument text
  | json => Json.readDocument text
  | ini => Ini.readDocument text

end FileKind

/-- What is the matter with a settings file that cannot be used. -/
def fileFault (path trouble : String) : String :=
  "configuration file \"" ++ path ++ "\" " ++ trouble

/-- A settings file with its kind. -/
structure SettingsFile where
  kind : FileKind
  bytes : List UInt8

/-- The file of a kind beside a directory that has its name with the ending. -/
def besideDirectory? (tree : FileTree) (path : String) (kind : FileKind) : Option SettingsFile := do
  match tree.find (← Path.withEnding? path kind.ending) with
  | .file bytes => some ⟨kind, bytes⟩
  | _ => none

/-- The settings file that a path leads to.  A directory stands for a file beside it. -/
def settingsFile (tree : FileTree) (path : String) : Except LoadError SettingsFile :=
  match tree.find path with
  | .file bytes =>
      match FileKind.ofName? (Path.lastName path) with
      | some kind => .ok ⟨kind, bytes⟩
      | none => .error (.notBuilt (fileFault path "is not of a registered file format"))
  | _ =>
      match FileKind.all.findSome? (besideDirectory? tree path) with
      | some file => .ok file
      | none => .error (.notBuilt (fileFault path "not found"))

/-- The layer of the settings file that a path leads to. -/
def readFile (tree : FileTree) (path : String) : Except LoadError Layer := do
  let file ← settingsFile tree path
  match file.kind.read (withoutMark (decode file.bytes)) with
  | some members => .ok (.ofMembers members)
  | none => .error (.notBuilt "the file is not well formed")

/-- The layer of a settings file, which is made if it does not exist. -/
def openFile (tree : FileTree) (path : String) (notCreated : PathError -> LoadError) :
    FileTree × Except LoadError Layer :=
  match tree.find path with
  | .missing =>
      match tree.write path (encode emptyFile) with
      | .ok after => (after, .ok [])
      | .error cause => (tree, .error (notCreated cause))
  | _ => (tree, readFile tree path)

/-- The layer of the settings file that is asked for, or of the one in the home
directory. -/
def openChosen (tree : FileTree) (home : String) (path : Option String) :
    FileTree × Except LoadError Layer :=
  match path with
  | some path => openFile tree path .fileNotCreated
  | none =>
      match tree.makeDirectories (homeDirectory home) with
      | .error cause => (tree, .error (.directoryNotCreated cause))
      | .ok tree => openFile tree (homeFile home) (.homeFileNotCreated (homeFile home))

/-- Load the settings.  The files after it may include a new settings file. -/
def load (tree : FileTree) (home : String) (environment : Environment) (path : Option String) :
    FileTree × Except LoadError Settings :=
  let (after, opened) := openChosen tree home path
  let settings := do
    let layer ← opened
    match ofLayers? home (homeDirectory home) [layer, .ofEnvironment environment] with
    | some settings => .ok settings
    | none => .error .notPlain
  (after, settings)

end Settings
end AsCensus
