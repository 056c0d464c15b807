import AsCensus.Whois.Field

namespace AsCensus
namespace Whois

/-!
# WHOIS registries

The registries that are asked about a system, in the order in which they are
asked, with their servers and the family of their answers.
-/

/-- A registry that answers WHOIS queries. -/
inductive Source
  | arin
  | ripe
  | apnic
  | afrinic
  | lacnic
  | ntt
  deriving DecidableEq, Repr

namespace Source

/-- The registries in the order in which they are asked. -/
def all : List Source := [arin, ripe, apnic, afrinic, lacnic, ntt]

/-- The name of a registry. -/
def name : Source -> String
  | arin => "arin"
  | ripe => "ripe"
  | apnic => "apnic"
  | afrinic => "afrinic"
  | lacnic => "lacnic"
  | ntt => "ntt"

/-- The registry with a given name. -/
def ofName? (name : String) : Option Source :=
  all.find? fun source => source.name == name

/-- The server of a registry. -/
def host : Source -> String
  | arin => "whois.arin.net"
  | ripe => "whois.ripe.net"
  | apnic => "whois.apnic.net"
  | afrinic => "whois.afrinic.net"
  | lacnic => "whois.lacnic.net"
  | ntt => "rr.ntt.net"

/-- The family of the answers of a registry. -/
def family : Source -> Family
  | arin => .arin
  | lacnic => .lacnicLike
  | ripe => .ripeLike
  | apnic => .ripeLike
  | afrinic => .ripeLike
  | ntt => .ripeLike

end Source
end Whois
end AsCensus
