import AsCensus.Job.RouteImport
import AsCensus.Job.Statistics
import AsCensus.Job.WhoisWalk
import AsCensus.Wire.Value

namespace AsCensus
namespace Wire

open Job

/-!
# Options as data

The options of each job can be given as structured data and are written back as
objects with all their members.  A member that is missing has its default; a
member that the job does not know is passed over.  The members may also be given
as a list in their order.

A choice between names is a text, or an object that has the name as its only
member, with the value null.
-/

/-- A choice between names. -/
def readChoice (ofName? : String -> Option X) : Value -> Option X
  | .text name => ofName? name
  | .object [(name, .null)] => ofName? name
  | _ => none

/-- A truth value. -/
def readBool : Value -> Option Bool
  | .bool value => some value
  | _ => none

/-- A text. -/
def readText : Value -> Option String
  | .text value => some value
  | _ => none

/-- An integer of 64 bits with a sign. -/
def readTimestamp : Value -> Option Int
  | .integer value =>
      if -9223372036854775808 ≤ value ∧ value < 9223372036854775808 then some value else none
  | _ => none

/-- The number of a system. -/
def readAsn : Value -> Option Asn
  | .integer value => Asn.ofInt? value
  | _ => none

/-- A list whose items are all of one kind. -/
def readList (readItem : Value -> Option X) : Value -> Option (List X)
  | .list values => values.mapM readItem
  | _ => none

/-- A value that null stands for the absence of. -/
def readOptional (readSome : Value -> Option X) : Value -> Option (Option X)
  | .null => some none
  | value => (readSome value).map some

/-- The members of an object by name, or those of a list by their order.  A list may
leave out members at its end if these may be missing there, but has no more. -/
def membersOf (names : List String) (needed : Nat) : Value -> Option (List (String × Value))
  | .object members => some members
  | .list values =>
      if needed ≤ values.length ∧ values.length ≤ names.length then
        some (names.zip values)
      else
        none
  | _ => none

/-- A member, or its default if it is missing. -/
def readMember (members : List (String × Value)) (name : String)
    (readValue : Value -> Option X) (absent : X) : Option X :=
  match Value.member? members name with
  | none => some absent
  | some value => readValue value

/-- The options of a statistics run. -/
structure StatisticsOptions where
  mode : TransitMethod := .path
  /-- The timestamp to store; the time when the run starts if there is none. -/
  timestamp : Option Int := none
  deriving DecidableEq, Repr

namespace StatisticsOptions

/-- Read options. -/
def ofValue? (value : Value) : Option StatisticsOptions := do
  let members ← membersOf ["transit_mode", "timestamp"] 2 value
  let mode ← readMember members "transit_mode" (readChoice TransitMethod.ofName?) .path
  let timestamp ← readMember members "timestamp" (readOptional readTimestamp) none
  some ⟨mode, timestamp⟩

/-- Write options. -/
def toValue (options : StatisticsOptions) : Value :=
  .object
    [("transit_mode", .text options.mode.name),
      ("timestamp", match options.timestamp with
        | some timestamp => .integer timestamp
        | none => .null)]

end StatisticsOptions

/-- Read the options of a walk. -/
def walkOptionsOfValue? (value : Value) : Option WalkOptions := do
  let members ← membersOf ["missing_only", "asns"] 0 value
  let missingOnly ← readMember members "missing_only" readBool false
  let asns ← readMember members "asns" (readList readAsn) []
  some ⟨missingOnly, asns⟩

/-- Write the options of a walk. -/
def walkOptionsToValue (options : WalkOptions) : Value :=
  .object
    [("missing_only", .bool options.missingOnly),
      ("asns", .list (options.asns.map fun asn => .integer asn.toInt))]

/-- Read the options of an import. -/
def importOptionsOfValue? (value : Value) : Option ImportOptions := do
  let members ← membersOf ["sources", "file", "keep_files"] 2 value
  let sources ← readMember members "sources" (readList readText) []
  let file ← readMember members "file" (readOptional readText) none
  let keepFiles ← readMember members "keep_files" readBool false
  some ⟨sources, file, keepFiles⟩

/-- Write the options of an import. -/
def importOptionsToValue (options : ImportOptions) : Value :=
  .object
    [("sources", .list (options.sources.map .text)),
      ("file", .ofText? options.file),
      ("keep_files", .bool options.keepFiles)]

end Wire
end AsCensus
