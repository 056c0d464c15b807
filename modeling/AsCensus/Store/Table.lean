import AsCensus.Text.Case

namespace AsCensus
namespace Store

/-!
# Tables

A database has up to six tables, each with a fixed name.  Three of them hold results,
and the collector fills the other three.
-/

/-- The tables that a database may have. -/
inductive TableId
  | rib
  | paths
  | analysis
  | stats
  | whois
  | routes
  deriving DecidableEq, Repr

namespace TableId

/-- The name of a table. -/
def name : TableId -> String
  | rib => "rib"
  | paths => "path_attrs"
  | analysis => "as_path_analysis"
  | stats => "gen_asn_stats"
  | whois => "gen_whois_asn"
  | routes => "gen_whois_route"

/-- The tables that hold results. -/
def outputs : List TableId := [stats, whois, routes]

/-- The tables that the collector fills. -/
def sources : List TableId := [rib, paths, analysis]

/-- All tables. -/
def all : List TableId := outputs ++ sources

/-- The table with exactly this name. -/
def ofName? (name : String) : Option TableId :=
  all.find? fun table => table.name == name

/-- The table of a name without regard to letter case. -/
def ofFoldedName? (name : List Char) : Option TableId :=
  all.find? fun table => table.name.toList == Text.foldCase name

end TableId
end Store
end AsCensus
