import AsCensus.Whois.Response
import Mathlib.Data.List.TakeWhile

namespace AsCensus

/-!
# The lines of an answer

What a line of an answer is does not depend on the characters that end it.  A line that is
no comment and that can be cut at a colon and a space gives an attribute and its value
(`attributeOf`); all that else matters of a line is whether it is blank
(`classify_trimLineEnd`).

The attribute lines of an answer are numbered by their places among all lines, so that one
can tell whether a blank line stands between two of them.
-/

namespace Text

theorem isBlank_of_isLineEnd {c : Char} (ends : isLineEnd c = true) : isBlank c = true := by
  rw [isLineEnd, Bool.or_eq_true, beq_iff_eq, beq_iff_eq] at ends
  rcases ends with rfl | rfl
  · decide
  · decide

theorem dropEndWhile_append_of_all {p : X -> Bool} (values : List X) {tail : List X}
    (all : forall x, x ∈ tail -> p x = true) :
    dropEndWhile p (values ++ tail) = dropEndWhile p values := by
  rw [dropEndWhile, List.reverse_append, List.dropWhile_append_of_pos]
  · rfl
  · intro x member
    exact all x (List.mem_reverse.mp member)

/-- Blank characters after a text are trimmed away. -/
theorem trim_append_of_blank (text : List Char) {tail : List Char}
    (blank : forall c, c ∈ tail -> isBlank c = true) : trim (text ++ tail) = trim text := by
  rw [trim, trim, List.dropWhile_append]
  split
  · next none =>
      have gone : tail.dropWhile isBlank = [] := List.dropWhile_eq_nil_iff.mpr blank
      rw [List.isEmpty_iff.mp none, gone]
  · exact dropEndWhile_append_of_all _ blank

theorem exists_lineEnd (text : List Char) :
    exists tail, text = trimLineEnd text ++ tail ∧ forall c, c ∈ tail -> isLineEnd c = true := by
  refine ⟨_, (dropEndWhile_append_dropped isLineEnd text).symm, ?_⟩
  intro c member
  exact List.mem_takeWhile_imp (List.mem_reverse.mp member)

theorem trim_trimLineEnd (text : List Char) : trim (trimLineEnd text) = trim text := by
  rcases exists_lineEnd text with ⟨tail, whole, ends⟩
  have same := trim_append_of_blank (trimLineEnd text) fun c member =>
    isBlank_of_isLineEnd (ends c member)
  rw [← whole] at same
  exact same.symm

theorem isAllBlank_trimLineEnd (text : List Char) :
    isAllBlank (trimLineEnd text) = isAllBlank text := by
  rcases exists_lineEnd text with ⟨tail, whole, ends⟩
  have blank : tail.all isBlank = true :=
    List.all_eq_true.mpr fun c member => isBlank_of_isLineEnd (ends c member)
  conv => rhs; rw [whole]
  rw [isAllBlank, isAllBlank, List.all_append, blank, Bool.and_true]

theorem trim_eq_nil_of_isAllBlank {text : List Char} (blank : isAllBlank text = true) :
    trim text = [] := by
  have gone : text.dropWhile isBlank = [] :=
    List.dropWhile_eq_nil_iff.mpr (List.all_eq_true.mp blank)
  rw [trim, gone]
  rfl

end Text

namespace Rpsl

open Text

theorem isComment_cons (first : Char) (rest : List Char) :
    isComment (first :: rest) = (first == '#' || first == '%') := by
  by_cases hash : first = '#'
  · subst hash
    rfl
  · by_cases percent : first = '%'
    · subst percent
      rfl
    · simp [isComment, hash, percent]

/-- A text does not start like a comment if its first character has a property that the marks of
comments lack. -/
theorem isComment_cons_of_not_mark {p : Char -> Bool} (hash : p '#' = false)
    (percent : p '%' = false) {first : Char} (holds : p first = true) (rest : List Char) :
    isComment (first :: rest) = false := by
  rw [isComment_cons, Bool.or_eq_false_iff, beq_eq_false_iff_ne, beq_eq_false_iff_ne]
  refine ⟨?_, ?_⟩
  · rintro rfl
    rw [hash] at holds
    cases holds
  · rintro rfl
    rw [percent] at holds
    cases holds

/-- What is dropped at the end of a line does not make it a comment. -/
theorem isComment_dropEndWhile {p : Char -> Bool} (hash : p '#' = false) (percent : p '%' = false)
    (text : List Char) : isComment (dropEndWhile p text) = isComment text := by
  have whole := dropEndWhile_append_dropped p text
  cases kept : dropEndWhile p text with
  | cons first rest =>
      rw [kept] at whole
      rw [← whole, List.cons_append, isComment_cons, isComment_cons]
  | nil =>
      rw [kept, List.nil_append] at whole
      cases text with
      | nil => rfl
      | cons first rest =>
          have dropped : p first = true := by
            apply @List.mem_takeWhile_imp _ p (first :: rest).reverse first
            rw [← List.mem_reverse, whole]
            exact List.mem_cons_self
          rw [isComment_cons_of_not_mark hash percent dropped]
          rfl

theorem isComment_trimLineEnd (text : List Char) :
    isComment (trimLineEnd text) = isComment text :=
  isComment_dropEndWhile rfl rfl text

end Rpsl

namespace Whois

open Text
open Rpsl

/-- Whether a line consists of blank characters. -/
def isBlankLine (line : String) : Bool :=
  isAllBlank line.toList

/-- The attribute of a line and its value, if it is an attribute line. -/
def attributeOf (line : String) : Option (List Char × List Char) :=
  if isComment line.toList then none
  else (cut [':', ' '] (trim line.toList)).map fun (name, value) => (trim name, value)

/-- What a line is, told from its attribute and from whether it is blank. -/
theorem classify_trimLineEnd (line : String) :
    Line.classify (trimLineEnd line.toList) =
      if isComment line.toList then .comment
      else
        match attributeOf line with
        | some (name, value) => .entry name value
        | none => if isBlankLine line then .blank else .other := by
  rw [Line.classify, isComment_trimLineEnd, isAllBlank_trimLineEnd, trim_trimLineEnd, attributeOf]
  by_cases comment : isComment line.toList
  · simp [comment]
  · simp only [comment, isBlankLine]
    by_cases blank : isAllBlank line.toList
    · have empty := trim_eq_nil_of_isAllBlank blank
      simp [blank, empty, cut, after?]
    · cases found : cut [':', ' '] (trim line.toList) <;> simp [blank]

/-- An attribute line and its place among the lines of an answer. -/
structure AttributeLine where
  position : Nat
  name : List Char
  value : String
  deriving DecidableEq, Repr

/-- The attribute line that stands at a place, if it is one. -/
def attributeLineAt (line : String) (position : Nat) : Option AttributeLine :=
  (attributeOf line).map fun (name, value) => ⟨position, name, sanitized value⟩

/-- The attribute lines of an answer. -/
def attributeLines (lines : List String) : List AttributeLine :=
  lines.zipIdx.filterMap fun (line, position) => attributeLineAt line position

/-- Whether a line starts an object of its own. -/
def isObjectStart (line : String) : Bool :=
  (attributeOf line).any fun pair => pair.1 == objectStart

theorem attributeLines_concat (lines : List String) (line : String) :
    attributeLines (lines ++ [line]) =
      attributeLines lines ++ (attributeLineAt line lines.length).toList := by
  rw [attributeLines, List.zipIdx_append, List.filterMap_append]
  cases found : attributeLineAt line lines.length <;> simp [attributeLines, found]

theorem attributeLines_concat_of_none (lines : List String) {line : String}
    (none : attributeOf line = none) : attributeLines (lines ++ [line]) = attributeLines lines := by
  rw [attributeLines_concat, attributeLineAt, none]
  exact List.append_nil _

theorem attributeLines_concat_of_some (lines : List String) {line : String}
    {name value : List Char} (found : attributeOf line = some (name, value)) :
    attributeLines (lines ++ [line]) =
      attributeLines lines ++ [⟨lines.length, name, sanitized value⟩] := by
  rw [attributeLines_concat, attributeLineAt, found]
  rfl

theorem position_lt_length {lines : List String} {entry : AttributeLine}
    (member : entry ∈ attributeLines lines) : entry.position < lines.length := by
  rcases List.mem_filterMap.mp member with ⟨⟨line, position⟩, listed, found⟩
  rcases Option.map_eq_some_iff.mp found with ⟨_, _, rfl⟩
  have inRange := (List.mem_zipIdx listed).2.1
  rw [Nat.zero_add] at inRange
  exact inRange

theorem isBlankLine_of_attributeOf {line : String} {name value : List Char}
    (found : attributeOf line = some (name, value)) : isBlankLine line = false := by
  by_contra blank
  rw [Bool.not_eq_false, isBlankLine] at blank
  rw [attributeOf, trim_eq_nil_of_isAllBlank blank] at found
  simp [cut, after?] at found

theorem not_isComment_of_attributeOf {line : String} {name value : List Char}
    (found : attributeOf line = some (name, value)) : ¬ isComment line.toList = true := by
  intro comment
  rw [attributeOf, if_pos comment] at found
  cases found

theorem isBlankLine_of_isComment {line : String} (comment : isComment line.toList = true) :
    isBlankLine line = false := by
  rw [isBlankLine]
  cases shape : line.toList with
  | nil =>
      rw [shape] at comment
      cases comment
  | cons first rest =>
      by_cases hash : first = '#'
      · subst hash
        rfl
      · by_cases percent : first = '%'
        · subst percent
          rfl
        · simp [shape, isComment, hash, percent] at comment

theorem isObjectStart_of_none {line : String} (none : attributeOf line = none) :
    isObjectStart line = false := by
  rw [isObjectStart, none]
  rfl

theorem isObjectStart_of_attributeOf {line : String} {name value : List Char}
    (found : attributeOf line = some (name, value)) :
    isObjectStart line = decide (name = objectStart) := by
  rw [isObjectStart, found, Option.any_some, beq_eq_decide]

/-! ## Reading one line -/

theorem passBlank_of_stopped {reading : Reading} (stopped : reading.phase = .stopped) :
    reading.passBlank = reading := by
  rw [Reading.passBlank, stopped]

/-- A reader that has stopped collects nothing. -/
theorem collect_of_stopped (family : Family) {reading : Reading}
    (stopped : reading.phase = .stopped) (name value : List Char) :
    reading.collect family name value = reading := by
  rw [Reading.collect, stopped]

/-- A reader may stop before it collects a value. -/
theorem collect_of_endsBefore {family : Family} {reading : Reading} {afterBreak : Bool}
    (collecting : reading.phase = .collecting afterBreak)
    (ends : family.endsBefore reading.record afterBreak = true) (name value : List Char) :
    reading.collect family name value = { reading with phase := .stopped } := by
  rw [Reading.collect, collecting]
  exact if_pos ends

/-- A line that is no attribute line is kept, unless it is a comment, and may be a break. -/
theorem feed_of_none (family : Family) (reading : Reading) {line : String}
    (none : attributeOf line = none) :
    reading.feed family line =
      if isComment line.toList then if isBlankLine line then reading.passBlank else reading
      else (if isBlankLine line then reading.passBlank else reading).keep
        (trimLineEnd line.toList) := by
  rw [Reading.feed, classify_trimLineEnd, none]
  by_cases comment : isComment line.toList = true
  · rw [if_pos comment, if_pos comment, isBlankLine_of_isComment comment]
    rfl
  · rw [if_neg comment, if_neg comment]
    cases isBlankLine line <;> rfl

/-- An attribute line is kept and collected, by a new reader if it starts an object. -/
theorem feed_of_attributeOf (family : Family) (reading : Reading) {line : String}
    {name value : List Char} (found : attributeOf line = some (name, value)) :
    reading.feed family line =
      ((if name = objectStart then .start else reading).keep (trimLineEnd line.toList)).collect
        family name value := by
  rw [Reading.feed, classify_trimLineEnd, if_neg (not_isComment_of_attributeOf found), found]

/-! ## Answers with one object -/

/-- Whether no attribute line after the first one starts an object. -/
def OneObject (lines : List String) : Prop :=
  forall entry, entry ∈ (attributeLines lines).tail -> entry.name ≠ objectStart

theorem OneObject.of_concat {lines : List String} {line : String}
    (once : OneObject (lines ++ [line])) :
    OneObject lines ∧ (attributeLines lines ≠ [] -> isObjectStart line = false) := by
  rw [OneObject, attributeLines_concat] at once
  constructor
  · intro entry member
    cases shape : attributeLines lines with
    | nil =>
        rw [shape] at member
        cases member
    | cons first rest =>
        rw [shape] at member once
        exact once entry (List.mem_append_left _ member)
  · intro some
    cases shape : attributeLines lines with
    | nil => exact absurd shape some
    | cons first rest =>
        rw [shape] at once
        cases found : attributeOf line with
        | none => simp [isObjectStart, found]
        | some pair =>
            have other := once ⟨lines.length, pair.1, sanitized pair.2⟩
              (List.mem_append_right _ (by simp [attributeLineAt, found]))
            simpa [isObjectStart, found] using other

theorem attributeLines_eq_nil_of_isObjectStart {lines : List String} {line : String}
    (once : attributeLines lines ≠ [] -> isObjectStart line = false)
    (starts : isObjectStart line = true) : attributeLines lines = [] := by
  by_contra some
  rw [once some] at starts
  cases starts

/-! ## Blank lines -/

/-- Where the object starts in which blank lines count: after the first attribute line, if
that one starts an object, and with the first line otherwise. -/
def blockStart (lines : List String) : Nat :=
  match (attributeLines lines).head? with
  | some first => if first.name = objectStart then first.position + 1 else 0
  | none => 0

/-- Whether a blank line of the object stands before a place. -/
def blankBefore (lines : List String) (position : Nat) : Bool :=
  ((lines.take position).drop (blockStart lines)).any isBlankLine

theorem blockStart_le (lines : List String) : blockStart lines ≤ lines.length := by
  rw [blockStart]
  split
  · next first head =>
      have inRange := position_lt_length (List.mem_of_mem_head? head)
      split
      · omega
      · omega
  · omega

theorem blockStart_concat {lines : List String} {line : String}
    (once : attributeLines lines ≠ [] -> isObjectStart line = false) :
    blockStart (lines ++ [line]) =
      if isObjectStart line then lines.length + 1 else blockStart lines := by
  rw [blockStart, blockStart, attributeLines_concat]
  cases shape : attributeLines lines with
  | cons first rest =>
      rw [shape] at once
      rw [once (by simp)]
      rfl
  | nil =>
      cases found : attributeOf line with
      | none => simp [attributeLineAt, isObjectStart, found]
      | some pair =>
          by_cases starts : pair.1 = objectStart
          · simp [attributeLineAt, isObjectStart, found, starts]
          · simp [attributeLineAt, isObjectStart, found, starts]

/-- A line that starts an object leaves no blank line before it, and a blank line stays. -/
theorem blankBefore_concat {lines : List String} {line : String}
    (once : attributeLines lines ≠ [] -> isObjectStart line = false) :
    blankBefore (lines ++ [line]) (lines.length + 1) =
      (!isObjectStart line && (blankBefore lines lines.length || isBlankLine line)) := by
  have all : (lines ++ [line]).take (lines.length + 1) = lines ++ [line] :=
    List.take_of_length_le (by simp)
  rw [blankBefore, blankBefore, blockStart_concat once, all, List.take_length]
  cases isObjectStart line with
  | true =>
      rw [if_pos rfl, List.drop_of_length_le (by simp)]
      rfl
  | false =>
      rw [if_neg (by decide), List.drop_append_of_le_length (blockStart_le lines), List.any_append]
      simp

/-- A later line that starts no object does not matter. -/
theorem blankBefore_concat_of_le {lines : List String} {line : String} {position : Nat}
    (once : attributeLines lines ≠ [] -> isObjectStart line = false)
    (within : position ≤ lines.length) :
    blankBefore (lines ++ [line]) position =
      (!isObjectStart line && blankBefore lines position) := by
  rw [blankBefore, blankBefore, blockStart_concat once, List.take_append_of_le_length within]
  cases isObjectStart line with
  | true =>
      rw [if_pos rfl, List.drop_of_length_le (by rw [List.length_take]; omega)]
      rfl
  | false => rfl

end Whois
end AsCensus
