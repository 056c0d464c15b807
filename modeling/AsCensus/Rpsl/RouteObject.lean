import AsCensus.Asn
import AsCensus.Net.Network
import AsCensus.Rpsl.Line

namespace AsCensus
namespace Rpsl

open Text
open Net

/-!
# Route objects

A dump of a routing registry is a row of objects with blank lines between them.
An object that has a `route` or `route6` attribute says which system may
announce a network.  The other objects of a dump are passed over.

Within an object the last readable network and the last readable origin count,
and the descriptions are joined.  A line that starts with a space, a tab or a
plus sign goes on with the attribute line before it and is of interest only
after a description.  A value that cannot be read sets nothing.

An object is given out by the blank line that ends it, or by the end of the
dump, and nothing of it is remembered afterwards.
-/

/-- What is known of a route object.  A dump always gives the address and the
length together, but an entry made elsewhere need not have both. -/
structure RouteEntry where
  address : Option String := none
  length : Option UInt8 := none
  origin : Option Asn := none
  description : Option String := none
  deriving DecidableEq, Repr

/-- Whether an entry has all parts of the key that it is stored under. -/
def RouteEntry.isComplete (entry : RouteEntry) : Bool :=
  entry.address.isSome && entry.length.isSome && entry.origin.isSome

/-- The attributes of an object that matter for a route. -/
inductive RouteAttribute
  | network
  | origin
  | description
  deriving DecidableEq, Repr

/-- The meaning of an attribute name. -/
def RouteAttribute.ofName (name : List Char) : Option RouteAttribute :=
  if name = "route".toList ∨ name = "route6".toList then some network
  else if name = "origin".toList then some origin
  else if name = "descr".toList then some description
  else none

/-- The system that the value of an origin names.  The letters `AS` before the
number are optional, in either case. -/
def readOrigin (value : List Char) : Option Asn :=
  match value with
  | a :: s :: number =>
      if (a = 'A' ∨ a = 'a') ∧ (s = 'S' ∨ s = 's') then
        Asn.read (trim number)
      else
        Asn.read (trim value)
  | _ => Asn.read (trim value)

/-- The object that is being read. -/
structure RouteBlock where
  entry : RouteEntry := {}
  /-- Whether the last attribute line was a description. -/
  describing : Bool := false
  deriving DecidableEq, Repr

namespace RouteBlock

/-- The block that no line has been read of. -/
def fresh : RouteBlock := {}

/-- Add a line to a description. -/
def describe (present : Option String) (line : String) : String :=
  match present with
  | none => line
  | some text => text ++ "\n" ++ line

/-- Go on with the attribute line before, if that is a description. -/
def continuationLine (block : RouteBlock) (value : List Char) : RouteBlock :=
  match block.describing, block.entry.description with
  | true, some text =>
      { block with entry := { block.entry with
          description := some (describe (some text) (sanitized value)) } }
  | _, _ => block

/-- Read the value of an attribute. -/
def attributeLine (block : RouteBlock) (name value : List Char) : RouteBlock :=
  let entry := block.entry
  match RouteAttribute.ofName (trim name) with
  | none => ⟨entry, false⟩
  | some .network =>
      match Network.read (sanitize value) with
      | none => ⟨entry, false⟩
      | some network =>
          ⟨{ entry with address := some network.addressText, length := some network.length },
            false⟩
  | some .origin =>
      match readOrigin (sanitize value) with
      | none => ⟨entry, false⟩
      | some origin => ⟨{ entry with origin := some origin }, false⟩
  | some .description =>
      ⟨{ entry with description := some (describe entry.description (sanitized value)) }, true⟩

/-- Whether a line goes on with the attribute line before it. -/
def isContinuationMark (c : Char) : Bool :=
  c == ' ' || c == '\t' || c == '+'

/-- Read a line that is neither blank nor a comment. -/
def contentLine (block : RouteBlock) (line : List Char) : RouteBlock :=
  match line with
  | [] => block
  | mark :: value =>
      if isContinuationMark mark then
        block.continuationLine value
      else
        match cut [':'] line with
        | none => block
        | some (name, value) => block.attributeLine name value

/-- The entry of a block that ends here, if it is a route. -/
def close (block : RouteBlock) : Option RouteEntry :=
  if block.entry.address.isSome then some block.entry else none

/-- Read a line: the block after it, and the entry that it gives out. -/
def step (block : RouteBlock) (line : String) : RouteBlock × Option RouteEntry :=
  let text := trimLineEnd line.toList
  if isComment text then (block, none)
  else if isAllBlank text then (fresh, block.close)
  else (block.contentLine text, none)

end RouteBlock

/-- An entry and the number of lines that were read when it was given out. -/
structure RouteEmission where
  entry : RouteEntry
  linesRead : Nat
  deriving DecidableEq, Repr

/-- The entries given out by the lines that are left, after `read` lines. -/
def emissionsFrom (block : RouteBlock) (read : Nat) : List String -> List RouteEmission
  | [] => (block.close.map fun entry => ⟨entry, read⟩).toList
  | line :: rest =>
      match (block.step line).2 with
      | some entry => ⟨entry, read + 1⟩ :: emissionsFrom (block.step line).1 (read + 1) rest
      | none => emissionsFrom (block.step line).1 (read + 1) rest

/-- The entries of the lines of a dump, and when each one is given out. -/
def routeEmissions (lines : List String) : List RouteEmission :=
  emissionsFrom .fresh 0 lines

/-- The entries of the lines of a dump. -/
def routeEntries (lines : List String) : List RouteEntry :=
  (routeEmissions lines).map RouteEmission.entry

end Rpsl
end AsCensus
