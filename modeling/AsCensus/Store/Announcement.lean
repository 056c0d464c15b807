import AsCensus.Tally
import AsCensus.Store.Database

namespace AsCensus
namespace Store

open Std

/-!
# Announcements and prefix counts

An announcement joins a row of the routing information base that is not
withdrawn with the attributes of its path; a row without attributes announces
nothing.  The origin of an announcement is the one of the path.

Origin counts and path-wise transit counts are tallies over announcements.  For
an origin a network counts once, however it was announced; for transit a network
counts once for each pair of a path text and an origin.  The analysis table gives
transit counts in another way: the networks that have a path on which the system
has a neighbour on both sides.

A query has no result if a table is missing, or if something that it has to read as a
system is no integer or out of range.
-/

/-- The families of addresses that are counted apart. -/
inductive AddressFamily
  | ipv4
  | ipv6
  deriving DecidableEq, Repr

namespace AddressFamily

/-- The families in the order in which they are counted. -/
def all : List AddressFamily := [ipv4, ipv6]

/-- Whether this is the family of IPv4. -/
def isIpv4 : AddressFamily -> Bool
  | ipv4 => true
  | ipv6 => false

/-- The value of the family flag of a stored row. -/
def flag : AddressFamily -> Datum
  | ipv4 => .integer 1
  | ipv6 => .integer 0

/-- The name of a family as it is shown. -/
def label : AddressFamily -> String
  | ipv4 => "IPv4"
  | ipv6 => "IPv6"

/-- The name of a family as it is written in data. -/
def name : AddressFamily -> String
  | ipv4 => "Ipv4"
  | ipv6 => "Ipv6"

/-- The part of a column name that tells the family. -/
def columnPart : AddressFamily -> String
  | ipv4 => "v4"
  | ipv6 => "v6"

/-- The family that is written with a given name in data. -/
def ofName? (name : String) : Option AddressFamily :=
  all.find? fun family => family.name == name

end AddressFamily

/-- The system that a stored number is read as. -/
def readAsn (stored : Datum) : Option Asn :=
  stored.integer?.bind Asn.ofInt?

/-- Whether a stored announcement is of a family and not withdrawn. -/
def RibRow.isLive (row : RibRow) (family : AddressFamily) : Bool :=
  row.ipv4 == family.flag && row.withdrawn == .integer 0

/-- A network announced over a path. -/
structure Announcement where
  asPath : String
  origin : Datum
  network : StoredNetwork
  deriving DecidableEq, Repr

/-- A network announced by an origin. -/
structure OriginNetwork where
  origin : Datum
  network : StoredNetwork
  deriving DecidableEq, Repr

/-- The announcement of a stored row, if its path has attributes. -/
def RibRow.announcement (row : RibRow) (paths : PathTable) : Option Announcement :=
  paths[row.path]?.map fun path => ⟨path.asPath, path.origin, row.network⟩

/-- The announcements of a family, one for each row that has one. -/
def announcementsOf (rib : RibTable) (paths : PathTable) (family : AddressFamily) :
    List Announcement :=
  (rib.toList.filter fun entry => entry.2.isLive family).filterMap fun entry =>
    entry.2.announcement paths

/-- Whether a system has neighbours on both sides of a path.  Whatever is stored in
place of zero counts as a neighbour. -/
def AnalysisRow.isTransit (row : AnalysisRow) : Bool :=
  row.right != .integer 0 && row.left != .integer 0

namespace Database

/-- The announcements of a family. -/
def announcements (db : Database) (family : AddressFamily) : Option (List Announcement) := do
  let rib ← db.rib
  let paths ← db.paths
  some (announcementsOf rib paths family)

/-- How many networks each public system is the origin of, in ascending order of
the systems. -/
def originCounts (db : Database) (family : AddressFamily) : Option (List (Asn × Nat)) := do
  let announcements ← db.announcements family
  let pairs := (announcements.map fun a => OriginNetwork.mk a.origin a.network).eraseDups
  let origins ← pairs.mapM fun pair => readAsn pair.origin
  let tally := Tally.ofList (origins.map fun origin => (origin, 1))
  some (tally.toList.filter fun entry => !entry.1.isReserved)

/-- Add the systems that provide transit for an announcement to a tally. -/
def tallyAnnouncement (tally : Tally) (announcement : Announcement) : Option Tally := do
  let origin ← readAsn announcement.origin
  some (tally.addTransit announcement.asPath origin true)

/-- A tally with the transit of all announcements of a family added. -/
def transitCounts (db : Database) (family : AddressFamily) (tally : Tally) : Option Tally := do
  let announcements ← db.announcements family
  announcements.eraseDups.foldlM tallyAnnouncement tally

/-- The public systems that the analysis sees in a transit position, in ascending
order. -/
def transitSystems (db : Database) : Option (List Asn) := do
  let analysis ← db.analysis
  let seen := (analysis.toList.filter fun entry => entry.2.isTransit).map fun entry => entry.1.asn
  let systems ← seen.eraseDups.mapM readAsn
  some (systems.filter fun asn => !asn.isReserved)

/-- The networks of a family that a system provides transit for, according to the
analysis. -/
def transitNetworks (rib : RibTable) (analysis : AnalysisTable) (asn : Asn)
    (family : AddressFamily) : List StoredNetwork :=
  let live := rib.toList.filter fun entry => entry.2.isLive family
  let through := live.filter fun entry =>
    match analysis[AnalysisKey.mk (.integer asn.toInt) entry.2.path]? with
    | some row => row.isTransit
    | none => false
  (through.map fun entry => entry.2.network).eraseDups

/-- How many networks of a family a system provides transit for, according to the
analysis. -/
def transitCountOf (db : Database) (asn : Asn) (family : AddressFamily) : Option Nat := do
  let analysis ← db.analysis
  let rib ← db.rib
  some (transitNetworks rib analysis asn family).length

end Database
end Store
end AsCensus
