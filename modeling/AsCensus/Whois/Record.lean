import AsCensus.Text.Cut
import AsCensus.Whois.Field

namespace AsCensus
namespace Whois

open Std
open Text

/-!
# WHOIS records

A record holds at most one text for each field, and the unmodified lines of the
object that it was read from.  An attribute that is repeated adds a line to its
field, except the country, where the last one counts.

Completing a record fills gaps from fields that are present: the last line of an
address is normally the country and the line before it the state or province,
and an organisation identifier serves for a missing AS name.

`getElem?_set` says what setting a field does; the other facts follow from it.
-/

/-- The texts of the fields that are present. -/
abbrev FieldTexts := ExtTreeMap Field String

/-- A WHOIS record. -/
structure Record where
  fields : FieldTexts := ∅
  /-- The lines of the object that was kept. -/
  raw : String := ""
  deriving DecidableEq

namespace Record

/-- The record without fields and lines. -/
def empty : Record := {}

/-- The text of a field, if it is present. -/
def get (record : Record) (field : Field) : Option String :=
  record.fields[field]?

/-- Whether a field is present. -/
def contains (record : Record) (field : Field) : Bool :=
  (record.get field).isSome

/-- Give a field a text, in place of the one it had. -/
def set (record : Record) (field : Field) (text : String) : Record :=
  { record with fields := record.fields.insert field text }

/-- Give a field a text if it has none. -/
def setMissing (record : Record) (field : Field) (text : Option String) : Record :=
  match record.get field, text with
  | none, some text => record.set field text
  | _, _ => record

/-- The fields that are present, in order, with their texts. -/
def toList (record : Record) : List (Field × String) :=
  record.fields.toList

/-- Whether no field is present. -/
def isEmpty (record : Record) : Bool :=
  record.fields.isEmpty

/-- The text of a field after one more value for it. -/
def collectedText (field : Field) (present : Option String) (value : String) : String :=
  match present with
  | none => value
  | some text => if field = .country then value else text ++ "\n" ++ value

/-- Add a value that was read for a field. -/
def collect (record : Record) (field : Field) (value : String) : Record :=
  record.set field (collectedText field (record.get field) value)

/-- The line at a distance from the end of a text, `0` for the last one. -/
def lineFromEnd (distance : Nat) (text : String) : Option String :=
  (lines text).reverse[distance]?

/-- Fill in the fields that others give a hint of. -/
def complete (record : Record) : Record :=
  let address := record.get .address
  let withCountry := record.setMissing .country (address.bind (lineFromEnd 0))
  let withState := withCountry.setMissing .stateProv (address.bind (lineFromEnd 1))
  withState.setMissing .asName (withState.get .orgId)

theorem ext {a b : Record} (sameFields : forall field, a.get field = b.get field)
    (sameRaw : a.raw = b.raw) : a = b := by
  cases a
  cases b
  cases sameRaw
  exact congrArg (Record.mk · _) (ExtTreeMap.ext_getElem? sameFields)

theorem get_set (record : Record) (field other : Field) (text : String) :
    (record.set field text).get other = if field = other then some text else record.get other := by
  simp [get, set, ExtTreeMap.getElem?_insert]

theorem raw_set (record : Record) (field : Field) (text : String) :
    (record.set field text).raw = record.raw := rfl

theorem get_setMissing (record : Record) (field other : Field) (text : Option String) :
    (record.setMissing field text).get other =
      if field = other then (record.get field).or text else record.get other := by
  unfold setMissing
  cases present : record.get field with
  | none =>
      cases text with
      | none =>
          by_cases same : field = other
          · subst same
            simp [present]
          · simp [same]
      | some text => simp [get_set]
  | some old =>
      by_cases same : field = other
      · subst same
        simp [present]
      · simp [same]

theorem raw_setMissing (record : Record) (field : Field) (text : Option String) :
    (record.setMissing field text).raw = record.raw := by
  unfold setMissing
  split <;> rfl

theorem raw_complete (record : Record) : record.complete.raw = record.raw := by
  simp only [complete, raw_setMissing]

end Record
end Whois
end AsCensus
