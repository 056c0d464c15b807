import AsCensus.Proofs.AttributeLines

namespace AsCensus
namespace Whois

open Text
open Rpsl

/-!
# Collected values

A record that collects the values of attribute lines, one after the other, holds for each
field the values of the lines that fill it: each on a line of its own, or only the last one
for the country (`Holds.concat`).
-/

variable {family : Family}

/-- The field that an attribute line fills. -/
def AttributeLine.field (family : Family) (entry : AttributeLine) : Option Field :=
  family.fieldOf (String.ofList entry.name)

/-- The values of the attribute lines that fill a field. -/
def valuesOf (family : Family) (field : Field) (entries : List AttributeLine) : List String :=
  (entries.filter fun entry => entry.field family == some field).map AttributeLine.value

/-- The text of a field with given values: the last one for the country, and otherwise all of
them, each on a line of its own. -/
def fieldText (field : Field) (values : List String) : Option String :=
  if field = .country then values.getLast?
  else if values = [] then none
  else some (joinLines values)

/-- A record with the value of an attribute line collected, if that fills a field. -/
def collectFor (record : Record) (field : Option Field) (value : String) : Record :=
  match field with
  | some field => record.collect field value
  | none => record

/-- Whether a record holds the values of attribute lines and nothing else. -/
def Holds (family : Family) (record : Record) (entries : List AttributeLine) : Prop :=
  forall field, record.get field = fieldText field (valuesOf family field entries)

theorem fieldText_concat (field : Field) (values : List String) (value : String) :
    fieldText field (values ++ [value]) =
      some (Record.collectedText field (fieldText field values) value) := by
  by_cases country : field = .country
  · rw [fieldText, fieldText, if_pos country, if_pos country, List.getLast?_concat]
    cases values.getLast? with
    | none => rfl
    | some last => simp [Record.collectedText, country]
  · rw [fieldText, fieldText, if_neg country, if_neg country, if_neg (by simp)]
    by_cases empty : values = []
    · subst empty
      rfl
    · rw [if_neg empty, Record.collectedText, joinLines, joinLines,
        String.intercalate_append_of_ne_nil empty (by simp)]
      simp [country, String.intercalate_singleton]

theorem valuesOf_concat (field : Field) (entries : List AttributeLine) (entry : AttributeLine) :
    valuesOf family field (entries ++ [entry]) =
      if entry.field family = some field then valuesOf family field entries ++ [entry.value]
      else valuesOf family field entries := by
  rw [valuesOf, valuesOf, List.filter_append, List.map_append]
  by_cases fills : entry.field family = some field
  · simp [fills]
  · simp [fills]

theorem isSome_fieldText_iff {field : Field} {values : List String} :
    (fieldText field values).isSome = true <-> values ≠ [] := by
  rw [fieldText]
  split_ifs with country empty
  · simp
  · simp [empty]
  · simp [empty]

theorem holds_empty : Holds family .empty [] := by
  intro field
  rw [Record.get, Record.empty]
  cases field <;> simp [fieldText, valuesOf]

/-- A record that collects the value of a further attribute line holds that line too. -/
theorem Holds.concat {record : Record} {entries : List AttributeLine} {entry : AttributeLine}
    (holds : Holds family record entries) :
    Holds family (collectFor record (entry.field family) entry.value) (entries ++ [entry]) := by
  intro other
  rw [valuesOf_concat]
  cases fills : entry.field family with
  | none =>
      rw [if_neg (by simp)]
      exact holds other
  | some field =>
      simp only [collectFor, Record.collect, Record.get_set, Option.some.injEq]
      by_cases same : field = other
      · subst same
        rw [if_pos rfl, if_pos rfl, fieldText_concat, ← holds field]
      · rw [if_neg same, if_neg same]
        exact holds other

theorem Holds.contains_iff {record : Record} {entries : List AttributeLine} {field : Field}
    (holds : Holds family record entries) :
    record.contains field = true <->
      exists entry, entry ∈ entries ∧ entry.field family = some field := by
  rw [Record.contains, holds field, isSome_fieldText_iff, valuesOf, ne_eq, List.map_eq_nil_iff,
    List.filter_eq_nil_iff]
  simp

end Whois
end AsCensus
