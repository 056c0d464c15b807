import AsCensus.Net.Address

namespace AsCensus
namespace Net

open Text

/-!
# Networks

A network is an address and the number of its leading bits that are fixed.  The
other bits of the address are kept as they are written.  The length is written
after a slash, with at most two digits for IPv4 and three for IPv6.
-/

/-- An address with a length that its family allows. -/
inductive Network
  | v4 (address : Ipv4) (length : Fin 33)
  | v6 (address : Ipv6) (length : Fin 129)
  deriving DecidableEq, Repr

namespace Network

/-- Scan a length after a slash. -/
def scanLength (most limit : Nat) (positive : 0 < limit) : Scanner (Fin limit) := fun text => do
  let text ← after? ['/'] text
  let (length, text) ← scanNumber 10 most limit text
  some (⟨length % limit, Nat.mod_lt length positive⟩, text)

/-- Scan an IPv4 network. -/
def scanV4 : Scanner Network := fun text => do
  let (address, text) ← Ipv4.scan text
  let (length, text) ← scanLength 2 33 (by decide) text
  some (v4 address length, text)

/-- Scan an IPv6 network. -/
def scanV6 : Scanner Network := fun text => do
  let (address, text) ← Ipv6.scan text
  let (length, text) ← scanLength 3 129 (by decide) text
  some (v6 address length, text)

/-- The network that a whole text writes. -/
def read (text : List Char) : Option Network :=
  match (scanV4 text).or (scanV6 text) with
  | some (network, []) => some network
  | _ => none

/-- The text of the address. -/
def addressText : Network -> String
  | v4 address _ => String.ofList address.print
  | v6 address _ => String.ofList address.print

/-- The number of fixed bits. -/
def length : Network -> UInt8
  | v4 _ length => .ofNat length.val
  | v6 _ length => .ofNat length.val

end Network
end Net
end AsCensus
