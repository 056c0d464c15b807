import AsCensus.Proofs.CollectedValues
import AsCensus.Proofs.ObjectText

namespace AsCensus
namespace Whois

open Text
open Rpsl

/-!
# Where an object ends

The reader of an answer goes line by line and remembers little: the fields so far, the field
of the attribute line before, whether a blank line was passed, and whether it has stopped.
Seen from outside, it cuts the attribute lines of the answer at the first one that ends the
object (`EndsAt`), and collects the values up to and including that one.

For ARIN an object ends at a country after an address.  For RIPE and the like it ends there
too, and at the line after a run of address lines when a country or a blank line came first.
-/

variable {family : Family}

/-- The field that the attribute line of an index fills. -/
def fieldAt (family : Family) (lines : List String) (k : Nat) : Option Field :=
  (attributeLines lines)[k]?.bind (AttributeLine.field family)

/-- Whether the object ends with the attribute line of an index, if it has not ended before. -/
def EndsAt (family : Family) (lines : List String) (k : Nat) : Prop :=
  (fieldAt family lines k = some .country ∧
      exists i, i < k ∧ fieldAt family lines i = some .address) ∨
    (family = .ripeLike ∧ 0 < k ∧ fieldAt family lines (k - 1) = some .address ∧
      fieldAt family lines k ≠ some .address ∧
      ((exists i, i < k + 1 ∧ fieldAt family lines i = some .country) ∨
        (attributeLines lines)[k]?.any (fun entry => blankBefore lines entry.position) = true))

instance (family : Family) (lines : List String) (k : Nat) : Decidable (EndsAt family lines k) :=
  inferInstanceAs (Decidable (_ ∨ _))

/-- How many attribute lines belong to the object: up to the first one that ends it, and all
of them if none does. -/
def keptCount (family : Family) (lines : List String) : Nat :=
  match (List.range (attributeLines lines).length).find? fun k => EndsAt family lines k with
  | some k => k + 1
  | none => (attributeLines lines).length

/-! ## Indices of attribute lines -/

/-- The field that the last attribute line fills. -/
def lastField (family : Family) (lines : List String) : Option Field :=
  (attributeLines lines).getLast?.bind (AttributeLine.field family)

theorem lastField_eq (family : Family) (lines : List String) :
    lastField family lines = fieldAt family lines ((attributeLines lines).length - 1) := by
  rw [lastField, fieldAt, List.getLast?_eq_getElem?]

theorem exists_entry_iff {lines : List String} {field : Field} :
    (exists entry, entry ∈ attributeLines lines ∧ entry.field family = some field) <->
      exists i, i < (attributeLines lines).length ∧ fieldAt family lines i = some field := by
  constructor
  · rintro ⟨entry, member, fills⟩
    rcases List.getElem_of_mem member with ⟨i, inside, rfl⟩
    refine ⟨i, inside, ?_⟩
    rw [fieldAt, List.getElem?_eq_getElem inside]
    exact fills
  · rintro ⟨i, inside, fills⟩
    rw [fieldAt, List.getElem?_eq_getElem inside] at fills
    exact ⟨_, List.getElem_mem inside, fills⟩

theorem fieldAt_concat_of_lt {lines : List String} (line : String) {k : Nat}
    (inside : k < (attributeLines lines).length) :
    fieldAt family (lines ++ [line]) k = fieldAt family lines k := by
  rw [fieldAt, fieldAt, attributeLines_concat, List.getElem?_append_left inside]

/-- Whether a blank line stands before an attribute line does not depend on the lines after
that one. -/
theorem blankBefore_entry_concat_of_lt {lines : List String} {line : String} {k : Nat}
    (notStart : isObjectStart line = false) (inside : k < (attributeLines lines).length) :
    (attributeLines (lines ++ [line]))[k]?.any
        (fun entry => blankBefore (lines ++ [line]) entry.position) =
      (attributeLines lines)[k]?.any fun entry => blankBefore lines entry.position := by
  rw [attributeLines_concat, List.getElem?_append_left inside, List.getElem?_eq_getElem inside]
  have within := position_lt_length (List.getElem_mem inside)
  have unchanged := @blankBefore_concat_of_le lines line _ (fun _ => notStart) within.le
  rw [notStart] at unchanged
  exact unchanged

/-- Nor does it matter for the fields that were filled. -/
theorem exists_fieldAt_concat_of_le {lines : List String} (line : String) {bound : Nat}
    (within : bound ≤ (attributeLines lines).length) (field : Field) :
    (exists i, i < bound ∧ fieldAt family (lines ++ [line]) i = some field) <->
      exists i, i < bound ∧ fieldAt family lines i = some field := by
  constructor
  · rintro ⟨i, below, fills⟩
    exact ⟨i, below, by rw [← fieldAt_concat_of_lt line (by omega)]; exact fills⟩
  · rintro ⟨i, below, fills⟩
    exact ⟨i, below, by rw [fieldAt_concat_of_lt line (by omega)]; exact fills⟩

/-- An attribute line that fills another field does not count for a field. -/
theorem exists_fieldAt_succ_iff {lines : List String} {bound : Nat} {field : Field}
    (other : fieldAt family lines bound ≠ some field) :
    (exists i, i < bound + 1 ∧ fieldAt family lines i = some field) <->
      exists i, i < bound ∧ fieldAt family lines i = some field := by
  constructor
  · rintro ⟨i, below, fills⟩
    refine ⟨i, Nat.lt_of_le_of_ne (Nat.le_of_lt_succ below) ?_, fills⟩
    rintro rfl
    exact other fills
  · rintro ⟨i, below, fills⟩
    exact ⟨i, Nat.lt_succ_of_lt below, fills⟩

/-- Whether the object ends with a line does not depend on the lines after it. -/
theorem endsAt_concat_of_lt {lines : List String} {line : String} {k : Nat}
    (notStart : isObjectStart line = false) (inside : k < (attributeLines lines).length) :
    EndsAt family (lines ++ [line]) k <-> EndsAt family lines k := by
  rw [EndsAt, EndsAt, fieldAt_concat_of_lt line inside,
    fieldAt_concat_of_lt line (show k - 1 < _ by omega), blankBefore_entry_concat_of_lt notStart inside,
    exists_fieldAt_concat_of_le line inside.le, exists_fieldAt_concat_of_le line inside]

section
variable {lines : List String} {line : String} {name value : List Char}

theorem fieldAt_concat_length (found : attributeOf line = some (name, value)) :
    fieldAt family (lines ++ [line]) (attributeLines lines).length =
      family.fieldOf (String.ofList name) := by
  rw [fieldAt, attributeLines_concat_of_some lines found, List.getElem?_concat_length]
  rfl

theorem lastField_concat (found : attributeOf line = some (name, value)) :
    lastField family (lines ++ [line]) = family.fieldOf (String.ofList name) := by
  rw [lastField, attributeLines_concat_of_some lines found, List.getLast?_concat]
  rfl

/-- The reader knows whether the line before filled the address. -/
theorem lastField_eq_address_iff :
    lastField family lines = some .address <->
      0 < (attributeLines lines).length ∧
        fieldAt family (lines ++ [line]) ((attributeLines lines).length - 1) = some .address := by
  rw [lastField_eq]
  constructor
  · intro fills
    have inside : 0 < (attributeLines lines).length := by
      by_contra none
      have empty : attributeLines lines = [] := List.eq_nil_of_length_eq_zero (by omega)
      rw [fieldAt, empty] at fills
      cases fills
    rw [fieldAt_concat_of_lt line (by omega)]
    exact ⟨inside, fills⟩
  · rintro ⟨inside, fills⟩
    rw [fieldAt_concat_of_lt line (by omega)] at fills
    exact fills

/-- The rule of a family, applied to what the reader remembers, says whether the object
ends with the attribute line just read. -/
theorem endsAfter_iff (found : attributeOf line = some (name, value)) {record : Record}
    (holds : Holds family record (attributeLines (lines ++ [line]))) :
    family.endsAfter (family.fieldOf (String.ofList name)) (lastField family lines) record
        (blankBefore (lines ++ [line]) lines.length) = true <->
      EndsAt family (lines ++ [line]) (attributeLines lines).length := by
  have length : (attributeLines (lines ++ [line])).length = (attributeLines lines).length + 1 := by
    rw [attributeLines_concat_of_some lines found, List.length_append]
    rfl
  have here := @fieldAt_concat_length family lines line name value found
  have contains (field : Field) : record.contains field = true <->
      exists i, i < (attributeLines lines).length + 1 ∧
        fieldAt family (lines ++ [line]) i = some field := by
    rw [holds.contains_iff, exists_entry_iff, length]
  have blank : (attributeLines (lines ++ [line]))[(attributeLines lines).length]?.any
      (fun entry => blankBefore (lines ++ [line]) entry.position) =
        blankBefore (lines ++ [line]) lines.length := by
    rw [attributeLines_concat_of_some lines found, List.getElem?_concat_length]
    rfl
  have countryEnds :
      (family.fieldOf (String.ofList name) = some .country ∧ record.contains .address = true) <->
        (fieldAt family (lines ++ [line]) (attributeLines lines).length = some .country ∧
          exists i, i < (attributeLines lines).length ∧
            fieldAt family (lines ++ [line]) i = some .address) := by
    rw [here, contains]
    refine and_congr_right fun country => exists_fieldAt_succ_iff ?_
    rw [here, country]
    exact fun same => by cases same
  have known : lastField family lines = some .address -> record.contains .address = true := by
    intro previous
    have before := (@lastField_eq_address_iff family lines line).mp previous
    exact (contains .address).mpr ⟨_, by omega, before.2⟩
  rw [EndsAt, ← countryEnds, blank, ← contains .country, here,
    ← and_assoc (b := fieldAt family (lines ++ [line]) ((attributeLines lines).length - 1) = _),
    ← lastField_eq_address_iff]
  cases family with
  | arin => simp [Family.endsAfter]
  | lacnicLike => simp [Family.endsAfter]
  | ripeLike =>
      simp only [Family.endsAfter, Bool.or_eq_true, Bool.and_eq_true, beq_iff_eq, bne_iff_ne,
        true_and]
      refine or_congr_right ?_
      constructor
      · rintro ⟨⟨⟨_, previous⟩, other⟩, reason⟩
        exact ⟨previous, other, reason⟩
      · rintro ⟨previous, other, reason⟩
        exact ⟨⟨⟨known previous, previous⟩, other⟩, reason⟩

end

/-! ## What the reader tracks -/

/-- What the state of the reader says about the lines that were read. -/
inductive Tracks (family : Family) (lines : List String) (reading : Reading) : Prop
  /-- The object goes on. -/
  | collecting (phase : reading.phase = .collecting (blankBefore lines lines.length))
      (previous : reading.previous = lastField family lines)
      (holds : Holds family reading.record (attributeLines lines))
      (going : forall k, k < (attributeLines lines).length -> ¬ EndsAt family lines k)
  /-- The object has ended with the attribute line of the index `last`. -/
  | stopped (last : Nat) (phase : reading.phase = .stopped)
      (inside : last < (attributeLines lines).length) (ends : EndsAt family lines last)
      (first : forall k, k < last -> ¬ EndsAt family lines k)
      (holds : Holds family reading.record ((attributeLines lines).take (last + 1)))

theorem endsBefore_empty (family : Family) (afterBreak : Bool) :
    family.endsBefore .empty afterBreak = false := by
  cases family <;> simp [Family.endsBefore, Record.contains, Record.get, Record.empty]

/-- Only for LACNIC an object may end before an attribute line. -/
theorem endsBefore_eq_false (families : family = .arin ∨ family = .ripeLike) (record : Record)
    (afterBreak : Bool) : family.endsBefore record afterBreak = false := by
  rcases families with rfl | rfl
  · rfl
  · rfl

theorem tracks_start (family : Family) : Tracks family [] .start := by
  refine .collecting rfl rfl holds_empty ?_
  intro k inside
  cases inside

section
variable {lines : List String} {line : String} {name value : List Char} {reading : Reading}

theorem Tracks.keep (tracks : Tracks family lines reading) (text : List Char) :
    Tracks family lines (reading.keep text) := by
  cases tracks with
  | collecting phase previous holds going => exact .collecting phase previous holds going
  | stopped last phase inside ends first holds => exact .stopped last phase inside ends first holds

/-- A line that is no attribute line changes nothing, unless it is blank. -/
theorem Tracks.concat_of_none (none : attributeOf line = none)
    (tracks : Tracks family lines reading) :
    Tracks family (lines ++ [line]) (if isBlankLine line then reading.passBlank else reading) := by
  have same := attributeLines_concat_of_none lines none
  have notStart := isObjectStart_of_none none
  have blank := @blankBefore_concat lines line fun _ => notStart
  cases tracks with
  | collecting phase previous holds going =>
      have later : forall k, k < (attributeLines (lines ++ [line])).length ->
          ¬ EndsAt family (lines ++ [line]) k := by
        intro k inside
        rw [same] at inside
        rw [endsAt_concat_of_lt notStart inside]
        exact going k inside
      have holdsLater : Holds family reading.record (attributeLines (lines ++ [line])) := by
        rw [same]
        exact holds
      have previousLater : reading.previous = lastField family (lines ++ [line]) := by
        rw [lastField, same]
        exact previous
      by_cases isBlank : isBlankLine line = true
      · rw [if_pos isBlank, Reading.passBlank, phase]
        refine .collecting ?_ previousLater holdsLater later
        simp [blank, isBlank, notStart]
      · rw [if_neg isBlank]
        refine .collecting ?_ previousLater holdsLater later
        rw [phase]
        simp [blank, isBlank, notStart]
  | stopped last phase inside ends first holds =>
      rw [passBlank_of_stopped phase, ite_self]
      refine .stopped last phase ?_ ?_ ?_ ?_
      · rw [same]
        exact inside
      · exact (endsAt_concat_of_lt notStart inside).mpr ends
      · intro k before
        rw [endsAt_concat_of_lt notStart (before.trans inside)]
        exact first k before
      · rw [same]
        exact holds

/-- Collecting a value, the reader finds out whether the object ends here. -/
theorem tracks_collect (found : attributeOf line = some (name, value))
    (goesOn : family.endsBefore reading.record
      (blankBefore (lines ++ [line]) lines.length) = false)
    (once : attributeLines lines ≠ [] -> isObjectStart line = false)
    (phase : reading.phase = .collecting (blankBefore (lines ++ [line]) lines.length))
    (previous : reading.previous = lastField family lines)
    (holds : Holds family reading.record (attributeLines lines))
    (going : forall k, k < (attributeLines lines).length -> ¬ EndsAt family (lines ++ [line]) k) :
    Tracks family (lines ++ [line]) (reading.collect family name value) := by
  let entry : AttributeLine := ⟨lines.length, name, sanitized value⟩
  have entries : attributeLines (lines ++ [line]) = attributeLines lines ++ [entry] :=
    attributeLines_concat_of_some lines found
  have length : (attributeLines (lines ++ [line])).length = (attributeLines lines).length + 1 := by
    rw [entries, List.length_append]
    rfl
  let record : Record :=
    collectFor reading.record (family.fieldOf (String.ofList name)) (sanitized value)
  have holdsLater : Holds family record (attributeLines (lines ++ [line])) := by
    rw [entries]
    exact @Holds.concat family reading.record (attributeLines lines) entry holds
  have rule := endsAfter_iff found holdsLater
  have collected : reading.collect family name value =
      { reading with
        record := record
        previous := family.fieldOf (String.ofList name)
        phase :=
          if family.endsAfter (family.fieldOf (String.ofList name)) (lastField family lines) record
              (blankBefore (lines ++ [line]) lines.length) then .stopped
          else .collecting (blankBefore (lines ++ [line]) lines.length) } := by
    rw [Reading.collect, phase]
    simp only [goesOn, previous]
    rfl
  have stays : blankBefore (lines ++ [line]) (lines.length + 1) =
      blankBefore (lines ++ [line]) lines.length := by
    rw [blankBefore_concat once, blankBefore_concat_of_le once (Nat.le_refl _),
      isBlankLine_of_attributeOf found, Bool.or_false]
  rw [collected]
  by_cases stops : EndsAt family (lines ++ [line]) (attributeLines lines).length
  · refine .stopped (attributeLines lines).length ?_ ?_ stops going ?_
    · rw [if_pos (rule.mpr stops)]
    · omega
    · rw [← length, List.take_length]
      exact holdsLater
  · refine .collecting ?_ (lastField_concat found).symm holdsLater ?_
    · rw [if_neg (mt rule.mp stops), List.length_append]
      exact congrArg Phase.collecting stays.symm
    · intro k inside
      rw [length] at inside
      rcases Nat.lt_succ_iff_lt_or_eq.mp inside with before | rfl
      · exact going k before
      · exact stops

/-- An attribute line is collected, unless the object has ended before it. -/
theorem Tracks.concat_of_some (found : attributeOf line = some (name, value))
    (goesOn : name ≠ objectStart -> forall afterBreak, reading.phase = .collecting afterBreak ->
      family.endsBefore reading.record afterBreak = false)
    (once : attributeLines lines ≠ [] -> isObjectStart line = false) (text : List Char)
    (tracks : Tracks family lines reading) :
    Tracks family (lines ++ [line])
      (((if name = objectStart then .start else reading).keep text).collect family name value) := by
  have starts := isObjectStart_of_attributeOf found
  have blank := @blankBefore_concat_of_le lines line _ once (Nat.le_refl lines.length)
  by_cases isStart : name = objectStart
  · -- The only line that may start an object is the first attribute line.
    rw [if_pos isStart]
    have empty := attributeLines_eq_nil_of_isObjectStart once (starts.trans (decide_eq_true isStart))
    refine tracks_collect found (endsBefore_empty family _) once ?_ ?_ ?_ ?_
    · rw [blank, starts, decide_eq_true isStart]
      rfl
    · rw [lastField, empty]
      rfl
    · rw [empty]
      exact holds_empty
    · intro k inside
      rw [empty] at inside
      cases inside
  · rw [if_neg isStart]
    rw [decide_eq_false isStart] at starts
    cases tracks with
    | collecting phase previous holds going =>
        have phaseLater : reading.phase = .collecting (blankBefore (lines ++ [line]) lines.length) := by
          rw [blank, starts]
          exact phase
        refine tracks_collect found (goesOn isStart _ phaseLater) once phaseLater previous holds ?_
        · intro k inside
          rw [endsAt_concat_of_lt starts inside]
          exact going k inside
    | stopped last phase inside ends first holds =>
        rw [@collect_of_stopped family (reading.keep text) phase]
        refine .stopped last phase ?_ ?_ ?_ ?_
        · rw [attributeLines_concat, List.length_append]
          omega
        · exact (endsAt_concat_of_lt starts inside).mpr ends
        · intro k before
          rw [endsAt_concat_of_lt starts (before.trans inside)]
          exact first k before
        · rw [attributeLines_concat, List.take_append_of_le_length (by omega)]
          exact holds

theorem Tracks.feed (families : family = .arin ∨ family = .ripeLike)
    (once : attributeLines lines ≠ [] -> isObjectStart line = false)
    (tracks : Tracks family lines reading) :
    Tracks family (lines ++ [line]) (reading.feed family line) := by
  cases found : attributeOf line with
  | none =>
      have later := tracks.concat_of_none found
      rw [feed_of_none family reading found]
      split
      · exact later
      · exact later.keep (trimLineEnd line.toList)
  | some pair =>
      rw [feed_of_attributeOf family reading found]
      refine tracks.concat_of_some found ?_ once _
      intro _ afterBreak _
      exact endsBefore_eq_false families reading.record afterBreak

end

theorem tracks_feedAll (families : family = .arin ∨ family = .ripeLike) {lines : List String}
    (once : OneObject lines) : Tracks family lines (Reading.start.feedAll family lines) := by
  induction lines using List.reverseRecOn with
  | nil => exact tracks_start family
  | append_singleton lines line ih =>
      have parts := once.of_concat
      rw [Reading.feedAll, List.foldl_append]
      exact (ih parts.1).feed families parts.2

/-! ## The record of an answer -/

theorem Tracks.holds_kept {lines : List String} {reading : Reading}
    (tracks : Tracks family lines reading) :
    Holds family reading.record ((attributeLines lines).take (keptCount family lines)) := by
  cases tracks with
  | collecting phase previous holds going =>
      have none : (List.range (attributeLines lines).length).find?
          (fun k => EndsAt family lines k) = none := by
        rw [List.find?_eq_none]
        intro k member
        rw [decide_eq_true_eq]
        exact going k (List.mem_range.mp member)
      rw [keptCount, none, List.take_length]
      exact holds
  | stopped last phase inside ends first holds =>
      have found : (List.range (attributeLines lines).length).find?
          (fun k => EndsAt family lines k) = some last := by
        rw [List.find?_range_eq_some]
        refine ⟨decide_eq_true ends, List.mem_range.mpr inside, ?_⟩
        intro k before
        simpa using first k before
      rw [keptCount, found]
      exact holds

/-- For ARIN and for RIPE and the like, an answer with one object is read by cutting its
attribute lines at the first one that ends the object.  The record holds the values of the
lines up to there and the text of the object, before gaps are filled from other fields. -/
theorem parse_collects_until_end (families : family = .arin ∨ family = .ripeLike)
    (lines : List String) (once : OneObject lines) :
    exists record : Record,
      (forall field, record.get field =
        fieldText field
          (valuesOf family field ((attributeLines lines).take (keptCount family lines)))) ∧
      record.raw = String.ofList (trim (keptText lines)) ∧
      parse family lines = record.complete := by
  have tracks := tracks_feedAll families once
  refine ⟨{ (Reading.start.feedAll family lines).record with
    raw := String.ofList (trim (keptText lines)) }, tracks.holds_kept, rfl, ?_⟩
  rw [parse, Reading.finish, kept_feedAll]

/-- An answer in which a blank line stands between the address and what follows. -/
def interruptedAnswer : List String :=
  ["% note", "aut-num: AS64500", "as-name: EXAMPLE", "address: Main Street 1", "address: Utrecht",
    "", "source: TEST", "country: NL"]

/-- The answer ends after the address, so that its country is not read. -/
theorem parse_interrupted_answer :
    exists record : Record, record.get .address = some "Main Street 1\nUtrecht" ∧
      record.get .country = none ∧ parse .ripeLike interruptedAnswer = record.complete := by
  have once : OneObject interruptedAnswer := by
    unfold OneObject
    decide
  rcases parse_collects_until_end (Or.inr rfl) interruptedAnswer once with
    ⟨record, texts, _, parsed⟩
  refine ⟨record, ?_, ?_, parsed⟩
  · rw [texts]
    decide
  · rw [texts]
    decide

end Whois
end AsCensus
