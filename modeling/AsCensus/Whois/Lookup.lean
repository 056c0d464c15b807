import AsCensus.Asn
import AsCensus.Text.Utf8
import AsCensus.Whois.Response
import AsCensus.Whois.Source

namespace AsCensus
namespace Whois

open Text

/-!
# Looking a system up

A client asks a registry about a system.  Its reply is a row of lines, which may
be cut short by a failure.  A lookup asks one registry after the other until one
replies without failure and with an AS name.  An organisation identifier alone
does not end a lookup, although it would fill in for the name in a record.
-/

/-- Why a query came to no end. -/
inductive QueryFailure
  /-- The command that asks could not be started. -/
  | notStarted (command cause : String)
  /-- The client gave up. -/
  | refused (reason : String)
  deriving DecidableEq, Repr

/-- The message of a failure. -/
def QueryFailure.message : QueryFailure -> String
  | notStarted command cause => "Failed to run '" ++ command ++ "': " ++ cause
  | refused reason => reason

/-- What comes back from a registry. -/
structure Reply where
  lines : List String
  failure : Option QueryFailure := none
  deriving DecidableEq, Repr

/-- A way to ask registries about systems. -/
abbrev Client := Source -> Asn -> Reply

/-- The client of a command that cannot be started. -/
def Client.missing (command cause : String) : Client := fun _ _ =>
  ⟨[], some (.notStarted command cause)⟩

/-- The client of a command that prints bytes.  Its exit status does not count. -/
def Client.printing (output : Source -> Asn -> List UInt8) : Client := fun source asn =>
  ⟨textLines (output source asn), none⟩

/-- The state of reading the reply of one registry. -/
def Client.query (client : Client) (source : Source) (asn : Asn) : Reading :=
  Reading.start.feedAll source.family (client source asn).lines

/-- The record of one registry, if it replies with an AS name. -/
def Client.answer (client : Client) (asn : Asn) (source : Source) : Option Record :=
  let reading := client.query source asn
  if (client source asn).failure.isNone && reading.record.contains .asName then
    some (reading.finish.set .source source.name)
  else
    none

/-- What a lookup found, and the registries that it asked. -/
structure Lookup where
  record : Option Record
  asked : List Source
  deriving DecidableEq

/-- Ask registries in turn until one answers. -/
def Client.lookupAmong (client : Client) (asn : Asn) : List Source -> Lookup
  | [] => ⟨none, []⟩
  | source :: rest =>
      match client.answer asn source with
      | some record => ⟨some record, [source]⟩
      | none =>
          let later := client.lookupAmong asn rest
          ⟨later.record, source :: later.asked⟩

/-- Look a system up at all registries. -/
def Client.lookup (client : Client) (asn : Asn) : Lookup :=
  client.lookupAmong asn Source.all

end Whois
end AsCensus
