import AsCensus.Store.WhoisAsn
import AsCensus.Whois.Lookup

namespace AsCensus
namespace Job

open Store

/-!
# Walking the systems for WHOIS details

A walk looks systems up one after the other and stores what it finds.  It goes
through given systems, or else through those with statistics, on demand only
through those without a stored AS name.  Reserved systems are never looked up.

After a number of lookups the walk pauses.  The pauses change nothing but the
time that a walk takes; they are part of its report.
-/

/-- Which systems a walk goes through. -/
structure WalkOptions where
  /-- Only systems that have no stored AS name. -/
  missingOnly : Bool := false
  /-- These systems, if there are any. -/
  asns : List Asn := []
  deriving DecidableEq, Repr

/-- What a walk did. -/
structure WalkSummary where
  total : Nat := 0
  updated : Nat := 0
  notFound : Nat := 0
  failedWrites : Nat := 0
  deriving DecidableEq, Repr

/-- Why a walk did not start. -/
inductive WalkError
  /-- The systems to look up could not be read from the database. -/
  | noList
  deriving DecidableEq, Repr

/-- The message of a failure. -/
def WalkError.message : WalkError -> String
  | noList => "Failed to load the ASN list"

/-- The systems that a walk goes through. -/
def walkList (db : Database) (options : WalkOptions) : Except WalkError (List Asn) :=
  if options.asns.isEmpty then
    match if options.missingOnly then db.unnamedSystems else db.countedSystems with
    | some asns => .ok asns
    | none => .error .noList
  else
    .ok (options.asns.filter fun asn => !asn.isReserved)

/-- What has happened on a walk. -/
structure WalkState where
  db : Database
  summary : WalkSummary
  /-- The queries, in the order in which they were made. -/
  queries : List (Whois.Source × Asn) := []
  /-- After each lookup, how many systems were done and how many there are. -/
  progress : List (Nat × Nat) := []
  /-- Lookups since the last pause. -/
  requests : Nat := 0
  /-- After how many systems the walk paused. -/
  pauses : List Nat := []
  deriving DecidableEq

namespace WalkState

/-- Store what a lookup found. -/
def store (state : WalkState) (asn : Asn) (found : Option Whois.Record) : WalkState :=
  match found with
  | none =>
      { state with summary := { state.summary with notFound := state.summary.notFound + 1 } }
  | some record =>
      match state.db.replaceWhois asn record with
      | (after, some _) =>
          { state with
            db := after
            summary := { state.summary with updated := state.summary.updated + 1 } }
      | (after, none) =>
          { state with
            db := after
            summary := { state.summary with failedWrites := state.summary.failedWrites + 1 } }

/-- Report that one more system is done. -/
def report (state : WalkState) : WalkState :=
  { state with progress := state.progress ++ [(state.progress.length + 1, state.summary.total)] }

/-- Pause if there were enough lookups since the last pause. -/
def throttle (interval : Nat) (state : WalkState) : WalkState :=
  if max interval 1 ≤ state.requests + 1 then
    { state with requests := 0, pauses := state.pauses ++ [state.progress.length] }
  else
    { state with requests := state.requests + 1 }

/-- Look one system up. -/
def visit (client : Whois.Client) (interval : Nat) (state : WalkState) (asn : Asn) : WalkState :=
  let lookup := client.lookup asn
  let asked := { state with
    queries := state.queries ++ lookup.asked.map fun source => (source, asn) }
  ((asked.store asn lookup.record).report).throttle interval

end WalkState

/-- Walk through systems. -/
def walk (client : Whois.Client) (interval : Nat) (db : Database) (asns : List Asn) : WalkState :=
  asns.foldl (WalkState.visit client interval) { db := db, summary := { total := asns.length } }

/-- Look up the systems that the options tell. -/
def runWalk (client : Whois.Client) (interval : Nat) (options : WalkOptions) (db : Database) :
    Except WalkError WalkState := do
  let asns ← walkList db options
  .ok (walk client interval db asns)

end Job
end AsCensus
