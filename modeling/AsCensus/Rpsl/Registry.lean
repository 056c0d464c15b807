import AsCensus.Text.Blank
import AsCensus.Text.Case

namespace AsCensus
namespace Rpsl

open Text

/-!
# Routing registries

The routing registries whose dumps are imported, and where each one publishes
its dump.  Names are compared without regard to the case of ASCII letters and to
blank characters around them.
-/

/-- A routing registry and the place of its dump. -/
structure Registry where
  name : String
  site : String
  path : String
  filename : String
  deriving DecidableEq, Repr

namespace Registry

/-- The address of the dump. -/
def url (registry : Registry) : String :=
  "ftp://" ++ registry.site ++ registry.path ++ registry.filename

/-- The ending of the name of a compressed file. -/
def compressedEnding : List Char := ".gz".toList

/-- The name of the dump once it is stored, when it is no longer compressed. -/
def storedName (registry : Registry) : String :=
  let name := registry.filename.toList
  if compressedEnding.isSuffixOf name then
    String.ofList (name.take (name.length - compressedEnding.length))
  else
    registry.filename

/-- The routing registries in the order in which they are imported. -/
def all : List Registry :=
  [⟨"nttcom", "rr1.ntt.net", "/nttcomRR/", "nttcom.db.gz"⟩,
    ⟨"level3", "rr.Level3.net", "/pub/rr/", "level3.db.gz"⟩,
    ⟨"savvis", "ftp.radb.net", "/radb/dbase/", "savvis.db.gz"⟩,
    ⟨"radb", "ftp.radb.net", "/radb/dbase/", "radb.db.gz"⟩,
    ⟨"arin", "ftp.arin.net", "/pub/rr/", "arin.db"⟩,
    ⟨"afrinic", "ftp.afrinic.net", "/pub/dbase/", "afrinic.db.gz"⟩,
    ⟨"apnic", "ftp.apnic.net", "/pub/apnic/whois/", "apnic.db.route.gz"⟩,
    ⟨"jpirr", "ftp.radb.net", "/radb/dbase/", "jpirr.db.gz"⟩,
    ⟨"apnic_v6", "ftp.apnic.net", "/pub/apnic/whois/", "apnic.db.route6.gz"⟩,
    ⟨"ripe", "ftp.ripe.net", "/ripe/dbase/split/", "ripe.db.route.gz"⟩,
    ⟨"ripe_v6", "ftp.ripe.net", "/ripe/dbase/split/", "ripe.db.route6.gz"⟩]

/-- The registry that a name means. -/
def find? (name : String) : Option Registry :=
  all.find? fun registry => foldCase registry.name.toList == foldCase (trim name.toList)

/-- Why registries were not selected. -/
inductive SelectionError
  /-- No registry has this name. -/
  | unknown (name : String)
  deriving DecidableEq, Repr

/-- The message of a failure. -/
def SelectionError.message : SelectionError -> String
  | unknown name => "Unknown RR source '" ++ name ++ "'"

/-- The registries that names mean, or all of them if there is no name. -/
def select (names : List String) : Except SelectionError (List Registry) :=
  match names with
  | [] => .ok all
  | names => names.mapM fun name =>
      match find? name with
      | some registry => .ok registry
      | none => .error (.unknown name)

end Registry
end Rpsl
end AsCensus
