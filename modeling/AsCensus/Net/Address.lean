import AsCensus.Text.Numeral
import AsCensus.Text.Scan

namespace AsCensus
namespace Net

open Text

/-!
# Internet addresses

An IPv4 address is four bytes and is written as four decimal numbers with
points between them.  An IPv6 address is eight groups of sixteen bits, written
in hexadecimal with colons between them.

An IPv6 address has many spellings: the letter case, leading zeros, one run of
zero groups left out as `::`, and the last two groups as an IPv4 address.  The
scanner accepts all of these and the printer writes one: lower case, no leading
zeros, the first of the longest runs of two or more zero groups left out, and an
IPv4 tail exactly for the addresses that stand for an IPv4 address.
-/

/-- An IPv4 address. -/
structure Ipv4 where
  first : UInt8
  second : UInt8
  third : UInt8
  fourth : UInt8
  deriving DecidableEq, Repr

/-- An IPv6 address. -/
structure Ipv6 where
  groups : List UInt16
  length_groups : groups.length = 8
  deriving DecidableEq, Repr

/-- Scan a number below `bound` that is written with at most `most` digits. -/
def scanNumber (radix most bound : Nat) : Scanner Nat := fun text =>
  let digits := text.takeWhile (isDigit radix)
  if digits ≠ [] ∧ digits.length ≤ most ∧ ofDigits radix digits < bound then
    some (ofDigits radix digits, text.dropWhile (isDigit radix))
  else
    none

namespace Ipv4

/-- Scan an address.  Each number has at most three digits. -/
def scan : Scanner Ipv4 := fun text => do
  let (first, text) ← scanNumber 10 3 256 text
  let text ← after? ['.'] text
  let (second, text) ← scanNumber 10 3 256 text
  let text ← after? ['.'] text
  let (third, text) ← scanNumber 10 3 256 text
  let text ← after? ['.'] text
  let (fourth, text) ← scanNumber 10 3 256 text
  some (⟨.ofNat first, .ofNat second, .ofNat third, .ofNat fourth⟩, text)

/-- The text of an address. -/
def print (address : Ipv4) : List Char :=
  ['.'].intercalate
    [digits 10 address.first.toNat, digits 10 address.second.toNat,
      digits 10 address.third.toNat, digits 10 address.fourth.toNat]

/-- The two groups that hold an IPv4 address. -/
def toGroups (address : Ipv4) : List UInt16 :=
  [address.first.toUInt16 * 256 + address.second.toUInt16,
    address.third.toUInt16 * 256 + address.fourth.toUInt16]

/-- The IPv4 address that two groups hold. -/
def ofGroups (high low : UInt16) : Ipv4 :=
  ⟨(high / 256).toUInt8, (high % 256).toUInt8, (low / 256).toUInt8, (low % 256).toUInt8⟩

end Ipv4

namespace Ipv6

/-- Scan up to `most` groups with colons between them.  Where two or more groups
may still come, an IPv4 address stands for two of them and ends the scan.  The
result tells the groups, whether an IPv4 address ended them, and the rest. -/
def scanGroups (leading : Bool) : Nat -> List Char -> List UInt16 × Bool × List Char
  | 0, text => ([], false, text)
  | most + 1, text =>
      match if leading then some text else after? [':'] text with
      | none => ([], false, text)
      | some body =>
          match if 0 < most then Ipv4.scan body else none with
          | some (address, rest) => (address.toGroups, true, rest)
          | none =>
              match scanNumber 16 4 65536 body with
              | none => ([], false, text)
              | some (group, rest) =>
                  let (groups, dotted, rest) := scanGroups false most rest
                  (.ofNat group :: groups, dotted, rest)

/-- The address of eight groups. -/
def ofGroups? (groups : List UInt16) : Option Ipv6 :=
  if eight : groups.length = 8 then some ⟨groups, eight⟩ else none

/-- Scan an address.  Fewer than eight groups in front need `::` after them,
which stands for the groups that are missing, possibly none. -/
def scan : Scanner Ipv6 := fun text => do
  let (front, dotted, text) := scanGroups true 8 text
  if front.length = 8 then
    (ofGroups? front).map fun address => (address, text)
  else if dotted then
    none
  else
    let text ← after? [':', ':'] text
    let (back, _, text) := scanGroups true (8 - front.length) text
    let missing := List.replicate (8 - front.length - back.length) 0
    (ofGroups? (front ++ missing ++ back)).map fun address => (address, text)

/-- Groups in hexadecimal with colons between them. -/
def printGroups (groups : List UInt16) : List Char :=
  [':'].intercalate (groups.map fun group => digits 16 group.toNat)

/-- How many zero groups stand at the front. -/
def zeroRun (groups : List UInt16) : Nat :=
  (groups.takeWhile (· == 0)).length

/-- Where the first of the longest runs of zero groups starts, and its length. -/
def longestZeroRun (groups : List UInt16) : Nat × Nat :=
  (List.range groups.length).foldl
    (fun best start =>
      let run := zeroRun (groups.drop start)
      if best.2 < run then (start, run) else best)
    (0, 0)

/-- The text of an address. -/
def print (address : Ipv6) : List Char :=
  match address.groups with
  | [0, 0, 0, 0, 0, 0xffff, high, low] => "::ffff:".toList ++ (Ipv4.ofGroups high low).print
  | groups =>
      let (start, run) := longestZeroRun groups
      if 1 < run then
        printGroups (groups.take start) ++ [':', ':'] ++ printGroups (groups.drop (start + run))
      else
        printGroups groups

end Ipv6
end Net
end AsCensus
