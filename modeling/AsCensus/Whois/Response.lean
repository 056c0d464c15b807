import AsCensus.Rpsl.Line
import AsCensus.Whois.Record

namespace AsCensus
namespace Whois

open Text
open Rpsl

/-!
# Reading a WHOIS answer

An answer is read line by line.  It may hold several objects, and often contact
objects follow the one that is wanted.  A line whose attribute is `aut-num`
starts an object of its own, and the last such object is the one that is kept.

Fields are collected until a rule of the family says that the object has ended:

* ARIN and LACNIC: a country has been read when there is an address;
* RIPE and the like: the same, or a run of address lines has ended when there is
  a country or a blank line was passed;
* LACNIC: an attribute line comes after a blank line when there is an owner.

Lines are kept as raw text whether or not fields are still collected.
-/

/-- The attribute that starts an object. -/
def objectStart : List Char := "aut-num".toList

/-- Whether fields are still collected. -/
inductive Phase
  /-- Fields are collected; `afterBreak` tells whether a blank line was passed. -/
  | collecting (afterBreak : Bool)
  /-- The object has ended. -/
  | stopped
  deriving DecidableEq, Repr

/-- What a line of an answer is. -/
inductive Line
  | comment
  | blank
  | entry (name value : List Char)
  | other
  deriving DecidableEq, Repr

/-- Tell what a line is, its line end left out. -/
def Line.classify (text : List Char) : Line :=
  if isComment text then
    comment
  else if isAllBlank text then
    blank
  else
    match cut [':', ' '] (trim text) with
    | some (name, value) => entry (trim name) value
    | none => other

namespace Family

/-- Whether an attribute line after a break is no longer part of the object. -/
def endsBefore (family : Family) (record : Record) (afterBreak : Bool) : Bool :=
  match family with
  | lacnicLike => afterBreak && record.contains .orgName
  | arin => false
  | ripeLike => false

/-- Whether the attribute line just read ends the object.  `field` is the field
that it filled and `previous` the one of the attribute line before it. -/
def endsAfter (family : Family) (field previous : Option Field) (record : Record)
    (afterBreak : Bool) : Bool :=
  let hasAddress := record.contains .address
  let countryWithAddress := field == some .country && hasAddress
  match family with
  | arin => countryWithAddress
  | lacnicLike => countryWithAddress
  | ripeLike =>
      countryWithAddress ||
        (hasAddress && previous == some .address && field != some .address &&
          (record.contains .country || afterBreak))

end Family

/-- The state of reading an answer. -/
structure Reading where
  /-- The fields collected so far. -/
  record : Record := .empty
  /-- The lines kept so far, each with a line feed. -/
  kept : String := ""
  /-- The field of the attribute line before. -/
  previous : Option Field := none
  phase : Phase := .collecting false
  deriving DecidableEq

namespace Reading

/-- The state before the first line. -/
def start : Reading := {}

/-- Keep a line. -/
def keep (reading : Reading) (text : List Char) : Reading :=
  { reading with kept := reading.kept ++ String.ofList text ++ "\n" }

/-- Pass a blank line. -/
def passBlank (reading : Reading) : Reading :=
  match reading.phase with
  | .collecting _ => { reading with phase := .collecting true }
  | .stopped => reading

/-- Collect the value of an attribute, if fields are still collected. -/
def collect (family : Family) (reading : Reading) (name value : List Char) : Reading :=
  match reading.phase with
  | .stopped => reading
  | .collecting afterBreak =>
      if family.endsBefore reading.record afterBreak then
        { reading with phase := .stopped }
      else
        let field := family.fieldOf (String.ofList name)
        let record :=
          match field with
          | some field => reading.record.collect field (sanitized value)
          | none => reading.record
        let stops := family.endsAfter field reading.previous record afterBreak
        { reading with
          record := record
          previous := field
          phase := if stops then .stopped else .collecting afterBreak }

/-- Read a line. -/
def feed (family : Family) (reading : Reading) (line : String) : Reading :=
  let text := trimLineEnd line.toList
  match Line.classify text with
  | .comment => reading
  | .blank => reading.passBlank.keep text
  | .other => reading.keep text
  | .entry name value =>
      let current := if name = objectStart then start else reading
      (current.keep text).collect family name value

/-- Read many lines. -/
def feedAll (family : Family) (reading : Reading) (lines : List String) : Reading :=
  lines.foldl (feed family) reading

/-- The fields collected so far, before any gap is filled. -/
def collected (reading : Reading) : List Field :=
  Field.all.filter reading.record.contains

/-- The record of what was read. -/
def finish (reading : Reading) : Record :=
  { reading.record with raw := String.ofList (trim reading.kept.toList) }.complete

end Reading

/-- The record of a complete answer. -/
def parse (family : Family) (lines : List String) : Record :=
  (Reading.start.feedAll family lines).finish

end Whois
end AsCensus
