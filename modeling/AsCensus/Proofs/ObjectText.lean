import AsCensus.Proofs.AttributeLines
import Mathlib.Data.List.Induction

namespace AsCensus
namespace Whois

open Text
open Rpsl

/-!
# The text of the object that is kept

Every line that is no comment is kept as it is, without its line end.  A line that starts
an object makes the reader forget the lines before it, so what is kept in the end is the
text of the last object (`kept_feedAll`).  Whether fields are still collected does not
matter for this, and neither does the state that the reader started in, apart from the lines
kept before an object that goes on (`kept_feedAll_from`).

The raw text of a record is that text without the blank characters at its ends.
-/

/-- The lines from the last one on that starts an object, or all lines if there is none. -/
def lastObject : List String -> List String
  | [] => []
  | line :: rest => if rest.any isObjectStart then lastObject rest else line :: rest

/-- What is kept of a line. -/
def keptLine (line : String) : List Char :=
  if isComment line.toList then [] else trimLineEnd line.toList ++ ['\n']

/-- What is kept of an answer. -/
def keptText (lines : List String) : List Char :=
  (lastObject lines).flatMap keptLine

theorem lastObject_concat (lines : List String) (line : String) :
    lastObject (lines ++ [line]) =
      if isObjectStart line then [line] else lastObject lines ++ [line] := by
  induction lines with
  | nil => simp [lastObject]
  | cons first rest ih =>
      rw [List.cons_append, lastObject, ih, lastObject, List.any_append]
      cases starts : isObjectStart line with
      | true => simp [starts]
      | false => cases later : rest.any isObjectStart <;> simp [starts]

theorem kept_collect (family : Family) (reading : Reading) (name value : List Char) :
    (reading.collect family name value).kept = reading.kept := by
  rw [Reading.collect]
  split
  · rfl
  · split
    · rfl
    · rfl

theorem kept_passBlank (reading : Reading) : reading.passBlank.kept = reading.kept := by
  rw [Reading.passBlank]
  split
  · rfl
  · rfl

theorem kept_keep (reading : Reading) (text : List Char) :
    (reading.keep text).kept.toList = reading.kept.toList ++ (text ++ ['\n']) := by
  simp [Reading.keep]

theorem kept_feed (family : Family) (reading : Reading) (line : String) :
    (reading.feed family line).kept.toList =
      if isObjectStart line then keptLine line else reading.kept.toList ++ keptLine line := by
  cases found : attributeOf line with
  | none =>
      have notStart := isObjectStart_of_none found
      rw [feed_of_none family reading found, notStart, keptLine]
      have passed : (if isBlankLine line then reading.passBlank else reading).kept =
          reading.kept := by
        split
        · exact kept_passBlank reading
        · rfl
      by_cases comment : isComment line.toList = true
      · simp [comment, passed]
      · simp [comment, kept_keep, passed]
  | some pair =>
      rcases pair with ⟨name, value⟩
      have content := not_isComment_of_attributeOf found
      rw [feed_of_attributeOf family reading found, kept_collect, kept_keep, keptLine,
        if_neg content, isObjectStart, found, Option.any_some]
      by_cases starts : name = objectStart
      · simp [starts, Reading.start]
      · simp [starts]

/-- What is kept does not depend on the phase or on the record that a reader starts with. -/
theorem kept_feedAll_from (family : Family) (reading : Reading) (lines : List String) :
    (reading.feedAll family lines).kept.toList =
      (if lines.any isObjectStart then [] else reading.kept.toList) ++ keptText lines := by
  -- Line by line from the front; a line that starts an object empties what came before it.
  induction lines using List.reverseRecOn with
  | nil => exact (List.append_nil _).symm
  | append_singleton lines line ih =>
      rw [Reading.feedAll, List.foldl_append, List.foldl_cons, List.foldl_nil, kept_feed]
      rw [Reading.feedAll] at ih
      rw [ih, keptText, keptText, lastObject_concat, List.any_append, List.any_cons, List.any_nil]
      cases isObjectStart line with
      | true => simp
      | false =>
          rw [Bool.or_self, Bool.or_false, List.append_assoc]
          simp

theorem kept_feedAll (family : Family) (lines : List String) :
    (Reading.start.feedAll family lines).kept.toList = keptText lines := by
  rw [kept_feedAll_from, Reading.start]
  simp

/-! ## The raw text of a record -/

theorem raw_finish (reading : Reading) :
    reading.finish.raw = String.ofList (trim reading.kept.toList) := by
  rw [Reading.finish, Record.raw_complete]

theorem raw_parse (family : Family) (lines : List String) :
    (parse family lines).raw = String.ofList (trim (keptText lines)) := by
  rw [parse, raw_finish, kept_feedAll]

theorem lastObject_of_none {lines : List String} (none : lines.any isObjectStart = false) :
    lastObject lines = lines := by
  cases lines with
  | nil => rfl
  | cons line rest =>
      rw [List.any_cons, Bool.or_eq_false_iff] at none
      rw [lastObject, none.2, if_neg (by decide)]

theorem lastObject_append {line : String} (starts : isObjectStart line = true)
    {after : List String} (none : after.any isObjectStart = false) (before : List String) :
    lastObject (before ++ line :: after) = line :: after := by
  induction before with
  | nil => rw [List.nil_append, lastObject, none, if_neg (by decide)]
  | cons first before ih =>
      have later : (before ++ line :: after).any isObjectStart = true := by
        simp [starts]
      rw [List.cons_append, lastObject, if_pos later, ih]

/-- The raw text of a record is the text of the lines that are no comments, each without its
line end and with a line feed, from the last line on that starts an object, or of all of them
if none does.  The state that a reader is in when an object starts leaves no trace in it, and
of a reader that goes on with its object only the lines that it kept do. -/
theorem raw_is_text_of_last_object (family : Family) :
    (forall lines, lines.any isObjectStart = false ->
      (parse family lines).raw = String.ofList (trim (lines.flatMap keptLine))) ∧
    (forall before line after, isObjectStart line = true -> after.any isObjectStart = false ->
      (parse family (before ++ line :: after)).raw =
        String.ofList (trim ((line :: after).flatMap keptLine))) ∧
    (forall (reading : Reading) lines, (reading.feedAll family lines).finish.raw =
      String.ofList (trim ((if lines.any isObjectStart then [] else reading.kept.toList) ++
        (lastObject lines).flatMap keptLine))) := by
  refine ⟨?_, ?_, ?_⟩
  · intro lines none
    rw [raw_parse, keptText, lastObject_of_none none]
  · intro before line after starts none
    rw [raw_parse, keptText, lastObject_append starts none]
  · intro reading lines
    rw [raw_finish, kept_feedAll_from, keptText]

/-- An object that its country ends, with blank lines and a line without an attribute after
its end. -/
def objectWithTail : List String :=
  ["address: Montevideo\r\n", "country: UY\r\n", "\r\n", "% note\r\n", "no attribute  \r\n",
    "owner:  EXAMPLE \r\n", "\n"]

/-- All lines after the object start are kept, although fields are collected up to the country
only, and nothing of the object before is. -/
theorem raw_text_after_country :
    isObjectStart "aut-num: AS28000\r\n" = true ∧ objectWithTail.any isObjectStart = false ∧
      (parse .lacnicLike (["owner: OLD", ""] ++ "aut-num: AS28000\r\n" :: objectWithTail)).raw =
        "aut-num: AS28000\naddress: Montevideo\ncountry: UY\n\nno attribute  \nowner:  EXAMPLE" ∧
      (parse .lacnicLike (["owner: OLD", ""] ++ "aut-num: AS28000\r\n" :: objectWithTail)).get
        .orgName = none := by
  have starts : isObjectStart "aut-num: AS28000\r\n" = true := by decide
  have once : objectWithTail.any isObjectStart = false := by decide
  refine ⟨starts, once, ?_, by decide⟩
  rw [(raw_is_text_of_last_object .lacnicLike).2.1 _ _ _ starts once]
  decide

end Whois
end AsCensus
