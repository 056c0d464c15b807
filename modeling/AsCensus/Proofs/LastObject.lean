import AsCensus.Proofs.ObjectText

namespace AsCensus
namespace Whois

open Text
open Rpsl

/-!
# The last object of an answer

A line that starts an object makes the reader forget all that it knows: the fields, the kept
lines, the field of the line before, and whether fields are still collected.  What it knows
after such a line does not depend on what it knew before (`feed_of_isObjectStart`), so no
later line can tell two histories apart.

An answer is therefore read as if it consisted of its last object alone
(`feedAll_lastObject`), and in that one no later line starts an object
(`oneObject_lastObject`).
-/

theorem isObjectStart_of_cut {line : String} {name value : List Char}
    (content : isComment line.toList = false)
    (found : cut [':', ' '] (trim line.toList) = some (name, value))
    (starts : trim name = objectStart) : isObjectStart line = true := by
  rw [isObjectStart, attributeOf, content, found]
  simpa using starts

/-- A line that starts an object is read from scratch. -/
theorem feed_of_isObjectStart (family : Family) (reading : Reading) {line : String}
    (starts : isObjectStart line = true) :
    reading.feed family line = Reading.start.feed family line := by
  cases found : attributeOf line with
  | none =>
      rw [isObjectStart_of_none found] at starts
      cases starts
  | some pair =>
      rw [isObjectStart_of_attributeOf found] at starts
      have named : pair.1 = objectStart := of_decide_eq_true starts
      rw [feed_of_attributeOf family reading found, feed_of_attributeOf family .start found,
        if_pos named, if_pos named]

theorem feedAll_append (family : Family) (reading : Reading) (front back : List String) :
    reading.feedAll family (front ++ back) = (reading.feedAll family front).feedAll family back :=
  List.foldl_append

theorem feedAll_of_isObjectStart (family : Family) (reading : Reading) {line : String}
    (starts : isObjectStart line = true) (rest : List String) :
    reading.feedAll family (line :: rest) = Reading.start.feedAll family (line :: rest) := by
  have same := feed_of_isObjectStart family reading starts
  exact congrArg (fun state => Reading.feedAll family state rest) same

/-- Two runs over lines of which one starts an object end in the same state. -/
theorem feedAll_of_any_isObjectStart (family : Family) (reading : Reading) {lines : List String}
    (starts : lines.any isObjectStart = true) :
    reading.feedAll family lines = Reading.start.feedAll family lines := by
  rcases List.any_eq_true.mp starts with ⟨line, member, startsHere⟩
  rcases List.append_of_mem member with ⟨before, after, rfl⟩
  rw [feedAll_append, feedAll_append, feedAll_of_isObjectStart family _ startsHere]
  exact (feedAll_of_isObjectStart family _ startsHere after).symm

/-! ## The whole answer -/

theorem feedAll_lastObject (family : Family) (lines : List String) :
    Reading.start.feedAll family (lastObject lines) = Reading.start.feedAll family lines := by
  induction lines with
  | nil => rfl
  | cons line rest ih =>
      rw [lastObject]
      by_cases later : rest.any isObjectStart = true
      · rw [if_pos later, ih]
        exact (feedAll_of_any_isObjectStart family (Reading.start.feed family line) later).symm
      · rw [if_neg later]

/-- Attribute lines after the first one are attribute lines of the lines after the first one. -/
theorem exists_line_of_mem_tail {line : String} {rest : List String} {entry : AttributeLine}
    (member : entry ∈ (attributeLines (line :: rest)).tail) :
    exists later, later ∈ rest ∧ (attributeOf later).map Prod.fst = some entry.name := by
  have inRest : entry ∈ (rest.zipIdx 1).filterMap fun pair => attributeLineAt pair.1 pair.2 := by
    rw [attributeLines, List.zipIdx_cons, List.filterMap_cons] at member
    split at member
    · exact List.mem_of_mem_tail member
    · exact member
  rcases List.mem_filterMap.mp inRest with ⟨⟨later, position⟩, listed, found⟩
  refine ⟨later, List.fst_mem_of_mem_zipIdx listed, ?_⟩
  rcases Option.map_eq_some_iff.mp found with ⟨pair, isPair, rfl⟩
  rw [isPair]
  rfl

theorem oneObject_lastObject (lines : List String) : OneObject (lastObject lines) := by
  induction lines with
  | nil =>
      intro entry member
      cases member
  | cons line rest ih =>
      rw [lastObject]
      by_cases later : rest.any isObjectStart = true
      · rw [if_pos later]
        exact ih
      · rw [if_neg later]
        intro entry member starts
        rcases exists_line_of_mem_tail member with ⟨other, inRest, named⟩
        apply later
        refine List.any_eq_true.mpr ⟨other, inRest, ?_⟩
        rcases Option.map_eq_some_iff.mp named with ⟨pair, found, isName⟩
        rw [isObjectStart, found, Option.any_some, isName, starts]
        exact beq_self_eq_true objectStart

/-- From a line that starts an object on, an answer is read the same after all lines before
it, in whatever state these left the reader: the record and its raw text are those of the
lines from there on, and so are the fields collected after each line. -/
theorem object_start_forgets_lines_before (family : Family) (before : List String) {line : String}
    {name value : List Char} (content : isComment line.toList = false)
    (found : cut [':', ' '] (trim line.toList) = some (name, value))
    (starts : trim name = objectStart) (after : List String) :
    (forall reading : Reading,
        reading.feedAll family (line :: after) = Reading.start.feedAll family (line :: after)) ∧
      parse family (before ++ line :: after) = parse family (line :: after) ∧
      (forall seen, seen <+: after ->
        (Reading.start.feedAll family (before ++ line :: seen)).collected =
          (Reading.start.feedAll family (line :: seen)).collected) := by
  have isStart := isObjectStart_of_cut content found starts
  have forgets (reading : Reading) (rest : List String) :=
    feedAll_of_isObjectStart family reading isStart rest
  refine ⟨fun reading => forgets reading after, ?_, ?_⟩
  · rw [parse, parse, feedAll_append, forgets]
  · intro seen _
    rw [feedAll_append, forgets]

/-- The lines of an object that ends at its country. -/
def endedObject : List String :=
  ["owner: OLD", "address: Montevideo", "country: UY", "ownerid: OLD-ID"]

/-- A reader that has stopped starts again with the next object. -/
theorem parse_object_after_ended_object :
    (Reading.start.feedAll .lacnicLike endedObject).phase = .stopped ∧
      parse .lacnicLike (endedObject ++ "aut-num: AS28000" :: ["owner: NEW"]) =
        parse .lacnicLike ("aut-num: AS28000" :: ["owner: NEW"]) ∧
      (Reading.start.feedAll .lacnicLike
        (endedObject ++ "aut-num: AS28000" :: ["owner: NEW"])).collected = [.orgName] := by
  have restart := @object_start_forgets_lines_before .lacnicLike endedObject "aut-num: AS28000"
    "aut-num".toList "AS28000".toList (by decide) (by decide) (by decide) ["owner: NEW"]
  refine ⟨by decide, restart.2.1, ?_⟩
  rw [restart.2.2 ["owner: NEW"] (List.prefix_refl _)]
  decide

end Whois
end AsCensus
