import AsCensus.Proofs.ObjectEnd
import Mathlib.Data.Nat.Find

namespace AsCensus
namespace Whois

open Text
open Rpsl

/-!
# Where the object of an owner ends

LACNIC answers with the object of the owner first, and with contact objects after a blank
line.  The object should end at a country after an address, or else before the first
attribute line that follows a blank line which itself follows the owner (`BreakAfterOwnerAt`).

The reader does not remember which of the two came first.  It ends the object before the
first attribute line that has an owner line and a blank line before it, in whatever order
these stand (`BreakAt`).  So it never keeps a line that it should leave out, and it leaves
lines out that it should keep in one situation only: a blank line stands before the owner
line, and none between the owner line and the next attribute line (`EarlyBreak`).
-/

/-- The place of the attribute line of an index, behind all lines if there is none. -/
def placeOf (lines : List String) (k : Nat) : Nat :=
  ((attributeLines lines)[k]?.map AttributeLine.position).getD lines.length

/-- Whether a blank line stands between two places. -/
def blankBetween (lines : List String) (first last : Nat) : Bool :=
  ((lines.take last).drop (first + 1)).any isBlankLine

/-- Whether an owner line and a blank line of the object stand before the attribute line of
an index. -/
def BreakAt (lines : List String) (k : Nat) : Prop :=
  (exists i, i < k ∧ fieldAt .lacnicLike lines i = some .orgName) ∧
    blankBefore lines (placeOf lines k) = true

instance (lines : List String) : DecidablePred (BreakAt lines) :=
  fun _ => inferInstanceAs (Decidable (_ ∧ _))

/-- Whether a blank line after an owner line stands before the attribute line of an index. -/
def BreakAfterOwnerAt (lines : List String) (k : Nat) : Prop :=
  exists i, i < k ∧ fieldAt .lacnicLike lines i = some .orgName ∧
    blankBetween lines (placeOf lines i) (placeOf lines k) = true

instance (lines : List String) : DecidablePred (BreakAfterOwnerAt lines) :=
  fun k => inferInstanceAs (Decidable (exists i, i < k ∧ _))

/-- How many attribute lines belong to the object of an owner, if it ends before the first
one that `breaks` holds of, unless it has ended with an earlier one. -/
def ownerCount (lines : List String) (breaks : Nat -> Prop) [DecidablePred breaks] : Nat :=
  match (List.range (attributeLines lines).length).find? fun k =>
      EndsAt .lacnicLike lines k ∨ breaks k with
  | some k => if breaks k then k else k + 1
  | none => (attributeLines lines).length

/-- Whether the first owner line is reached after a blank line of the object, and another
attribute line follows it without a blank line between. -/
def EarlyBreak (lines : List String) : Prop :=
  exists owner, owner + 1 < (attributeLines lines).length ∧
    fieldAt .lacnicLike lines owner = some .orgName ∧
    (forall i, i < owner -> fieldAt .lacnicLike lines i ≠ some .orgName) ∧
    (forall k, k < owner -> ¬ EndsAt .lacnicLike lines k) ∧
    blankBefore lines (placeOf lines owner) = true ∧
    blankBetween lines (placeOf lines owner) (placeOf lines (owner + 1)) = false

/-- An attribute line belongs to the object when no line before it ends the object and the
object breaks neither there nor before. -/
theorem lt_ownerCount_iff {lines : List String} {breaks : Nat -> Prop} [DecidablePred breaks]
    {k : Nat} :
    k < ownerCount lines breaks <->
      k < (attributeLines lines).length ∧ (forall j, j < k -> ¬ EndsAt .lacnicLike lines j) ∧
        (forall j, j ≤ k -> ¬ breaks j) := by
  rw [ownerCount]
  split
  · next last found =>
      rw [List.find?_range_eq_some] at found
      rcases found with ⟨event, inside, before⟩
      rw [List.mem_range] at inside
      rw [decide_eq_true_eq] at event
      have none (j : Nat) (earlier : j < last) : ¬ EndsAt .lacnicLike lines j ∧ ¬ breaks j := by
        have refused := before j earlier
        rw [Bool.not_eq_true', decide_eq_false_iff_not, not_or] at refused
        exact refused
      by_cases broken : breaks last
      · rw [if_pos broken]
        constructor
        · intro earlier
          exact ⟨by omega, fun j below => (none j (by omega)).1, fun j below => (none j (by omega)).2⟩
        · rintro ⟨_, _, unbroken⟩
          by_contra later
          exact unbroken last (by omega) broken
      · rw [if_neg broken]
        have ends := event.resolve_right broken
        constructor
        · intro earlier
          refine ⟨by omega, fun j below => (none j (by omega)).1, ?_⟩
          intro j below
          rcases Nat.lt_or_eq_of_le (show j ≤ last by omega) with before | rfl
          · exact (none j before).2
          · exact broken
        · rintro ⟨_, going, _⟩
          by_contra later
          exact going last (by omega) ends
  · next found =>
      rw [List.find?_eq_none] at found
      have none (j : Nat) (inside : j < (attributeLines lines).length) :
          ¬ EndsAt .lacnicLike lines j ∧ ¬ breaks j := by
        have refused := found j (List.mem_range.mpr inside)
        rw [decide_eq_true_eq, not_or] at refused
        exact refused
      constructor
      · intro inside
        exact ⟨inside, fun j below => (none j (by omega)).1, fun j below => (none j (by omega)).2⟩
      · rintro ⟨inside, _⟩
        exact inside

theorem eq_ownerCount {lines : List String} {breaks : Nat -> Prop} [DecidablePred breaks]
    {count : Nat}
    (same : forall k, k < count <->
      k < (attributeLines lines).length ∧ (forall j, j < k -> ¬ EndsAt .lacnicLike lines j) ∧
        (forall j, j ≤ k -> ¬ breaks j)) :
    count = ownerCount lines breaks := by
  refine Nat.le_antisymm (le_of_forall_lt ?_) (le_of_forall_lt ?_)
  · intro k below
    exact lt_ownerCount_iff.mpr ((same k).mp below)
  · intro k below
    exact (same k).mpr (lt_ownerCount_iff.mp below)

/-! ## What the reader tracks -/

/-- What the state of the reader says about the lines of an owner's object. -/
inductive TracksOwner (lines : List String) (reading : Reading) : Prop
  /-- The object has not broken. -/
  | whole (tracks : Tracks .lacnicLike lines reading)
      (unbroken : forall k, k < (attributeLines lines).length ->
        (forall j, j < k -> ¬ EndsAt .lacnicLike lines j) -> ¬ BreakAt lines k)
  /-- The object has ended before the attribute line of the index `count`. -/
  | broken (count : Nat) (phase : reading.phase = .stopped)
      (inside : count < (attributeLines lines).length) (breaks : BreakAt lines count)
      (first : forall k, k < count -> ¬ EndsAt .lacnicLike lines k ∧ ¬ BreakAt lines k)
      (holds : Holds .lacnicLike reading.record ((attributeLines lines).take count))

section
variable {lines : List String} {line : String} {name value : List Char} {reading : Reading}

theorem placeOf_eq {k : Nat} (inside : k < (attributeLines lines).length) :
    placeOf lines k = (attributeLines lines)[k].position := by
  rw [placeOf, List.getElem?_eq_getElem inside]
  rfl

theorem placeOf_le (lines : List String) (k : Nat) : placeOf lines k ≤ lines.length := by
  by_cases inside : k < (attributeLines lines).length
  · rw [placeOf_eq inside]
    exact (position_lt_length (List.getElem_mem inside)).le
  · rw [placeOf, List.getElem?_eq_none (by omega)]
    exact Nat.le_refl _

theorem placeOf_concat_of_lt {k : Nat} (inside : k < (attributeLines lines).length) :
    placeOf (lines ++ [line]) k = placeOf lines k := by
  rw [placeOf, placeOf, attributeLines_concat, List.getElem?_append_left inside,
    List.getElem?_eq_getElem inside]
  rfl

theorem placeOf_concat_length (found : attributeOf line = some (name, value)) :
    placeOf (lines ++ [line]) (attributeLines lines).length = lines.length := by
  rw [placeOf, attributeLines_concat_of_some lines found, List.getElem?_concat_length]
  rfl

theorem breakAt_concat_of_lt {k : Nat} (notStart : isObjectStart line = false)
    (inside : k < (attributeLines lines).length) :
    BreakAt (lines ++ [line]) k <-> BreakAt lines k := by
  have unchanged := @blankBefore_concat_of_le lines line _ (fun _ => notStart) (placeOf_le lines k)
  rw [notStart] at unchanged
  rw [BreakAt, BreakAt, exists_fieldAt_concat_of_le line inside.le, placeOf_concat_of_lt inside,
    unchanged]
  rfl

/-- The reader knows whether the object breaks before the attribute line just read. -/
theorem endsBefore_iff (found : attributeOf line = some (name, value))
    (notStart : isObjectStart line = false) (holds : Holds .lacnicLike reading.record
      (attributeLines lines)) :
    Family.lacnicLike.endsBefore reading.record (blankBefore lines lines.length) = true <->
      BreakAt (lines ++ [line]) (attributeLines lines).length := by
  have unchanged := @blankBefore_concat_of_le lines line _ (fun _ => notStart)
    (Nat.le_refl lines.length)
  rw [notStart] at unchanged
  rw [BreakAt, exists_fieldAt_concat_of_le line (Nat.le_refl _), placeOf_concat_length found,
    unchanged, ← exists_entry_iff, ← holds.contains_iff, Family.endsBefore]
  simp [and_comm]

theorem TracksOwner.keep (tracks : TracksOwner lines reading) (text : List Char) :
    TracksOwner lines (reading.keep text) := by
  cases tracks with
  | whole tracks unbroken => exact .whole (tracks.keep text) unbroken
  | broken count phase inside breaks first holds =>
      exact .broken count phase inside breaks first holds

/-- Once the object has broken, no further line matters. -/
theorem TracksOwner.concat_broken (notStart : isObjectStart line = false) {count : Nat}
    (phase : reading.phase = .stopped) (inside : count < (attributeLines lines).length)
    (breaks : BreakAt lines count)
    (first : forall k, k < count -> ¬ EndsAt .lacnicLike lines k ∧ ¬ BreakAt lines k)
    (holds : Holds .lacnicLike reading.record ((attributeLines lines).take count)) :
    TracksOwner (lines ++ [line]) reading := by
  refine .broken count phase ?_ ((breakAt_concat_of_lt notStart inside).mpr breaks) ?_ ?_
  · rw [attributeLines_concat, List.length_append]
    omega
  · intro k before
    rw [endsAt_concat_of_lt notStart (before.trans inside),
      breakAt_concat_of_lt notStart (before.trans inside)]
    exact first k before
  · rw [attributeLines_concat, List.take_append_of_le_length inside.le]
    exact holds

/-- The attribute lines before a further line break the object as they did. -/
theorem unbroken_concat (notStart : isObjectStart line = false)
    (unbroken : forall k, k < (attributeLines lines).length ->
      (forall j, j < k -> ¬ EndsAt .lacnicLike lines j) -> ¬ BreakAt lines k) {k : Nat}
    (inside : k < (attributeLines lines).length)
    (going : forall j, j < k -> ¬ EndsAt .lacnicLike (lines ++ [line]) j) :
    ¬ BreakAt (lines ++ [line]) k := by
  rw [breakAt_concat_of_lt notStart inside]
  refine unbroken k inside ?_
  intro j before
  rw [← endsAt_concat_of_lt notStart (before.trans inside)]
  exact going j before

theorem TracksOwner.concat_of_none (none : attributeOf line = none)
    (tracks : TracksOwner lines reading) :
    TracksOwner (lines ++ [line]) (if isBlankLine line then reading.passBlank else reading) := by
  have notStart := isObjectStart_of_none none
  cases tracks with
  | whole tracks unbroken =>
      refine .whole (tracks.concat_of_none none) ?_
      intro k inside going
      rw [attributeLines_concat_of_none lines none] at inside
      exact unbroken_concat notStart unbroken inside going
  | broken count phase inside breaks first holds =>
      rw [passBlank_of_stopped phase, ite_self]
      exact concat_broken notStart phase inside breaks first holds

/-- The first attribute line has no owner line before it. -/
theorem TracksOwner.concat_start (found : attributeOf line = some (name, value))
    (empty : attributeLines lines = []) {later : Reading}
    (tracks : Tracks .lacnicLike (lines ++ [line]) later) :
    TracksOwner (lines ++ [line]) later := by
  refine .whole tracks ?_
  rw [attributeLines_concat_of_some lines found, empty]
  rintro k inside _ ⟨⟨i, before, _⟩, _⟩
  rw [List.nil_append, List.length_singleton] at inside
  omega

/-- The object stays whole with an attribute line that it does not break before. -/
theorem TracksOwner.concat_whole (found : attributeOf line = some (name, value))
    (notStart : isObjectStart line = false) {later : Reading}
    (tracks : Tracks .lacnicLike (lines ++ [line]) later)
    (unbroken : forall k, k < (attributeLines lines).length ->
      (forall j, j < k -> ¬ EndsAt .lacnicLike lines j) -> ¬ BreakAt lines k)
    (last : (forall j, j < (attributeLines lines).length ->
      ¬ EndsAt .lacnicLike (lines ++ [line]) j) ->
        ¬ BreakAt (lines ++ [line]) (attributeLines lines).length) :
    TracksOwner (lines ++ [line]) later := by
  refine .whole tracks ?_
  intro k inside going
  rw [attributeLines_concat_of_some lines found, List.length_append, List.length_singleton] at inside
  rcases Nat.lt_succ_iff_lt_or_eq.mp inside with before | rfl
  · exact unbroken_concat notStart unbroken before going
  · exact last going

/-- The object breaks before the attribute line just read. -/
theorem TracksOwner.concat_break (found : attributeOf line = some (name, value))
    (notStart : isObjectStart line = false) (stopped : reading.phase = .stopped)
    (going : forall k, k < (attributeLines lines).length -> ¬ EndsAt .lacnicLike lines k)
    (unbroken : forall k, k < (attributeLines lines).length ->
      (forall j, j < k -> ¬ EndsAt .lacnicLike lines j) -> ¬ BreakAt lines k)
    (breaks : BreakAt (lines ++ [line]) (attributeLines lines).length)
    (holds : Holds .lacnicLike reading.record (attributeLines lines)) :
    TracksOwner (lines ++ [line]) reading := by
  have entries := attributeLines_concat_of_some lines found
  refine .broken (attributeLines lines).length stopped ?_ breaks ?_ ?_
  · rw [entries, List.length_append]
    exact Nat.lt_succ_self _
  · intro k before
    rw [endsAt_concat_of_lt notStart before, breakAt_concat_of_lt notStart before]
    refine ⟨going k before, unbroken k before ?_⟩
    intro j earlier
    exact going j (earlier.trans before)
  · rw [entries, List.take_left]
    exact holds

/-- An attribute line is collected, unless the object has ended or breaks before it. -/
theorem TracksOwner.concat_of_some (found : attributeOf line = some (name, value))
    (once : attributeLines lines ≠ [] -> isObjectStart line = false) (text : List Char)
    (tracks : TracksOwner lines reading) :
    TracksOwner (lines ++ [line])
      (((if name = objectStart then .start else reading).keep text).collect
        .lacnicLike name value) := by
  have starts := isObjectStart_of_attributeOf found
  cases tracks with
  | broken count phase inside breaks first holds =>
      have notStart := once (List.ne_nil_of_length_pos (by omega))
      have other : ¬ name = objectStart := decide_eq_false_iff_not.mp (starts.symm.trans notStart)
      rw [if_neg other, @collect_of_stopped .lacnicLike (reading.keep text) phase]
      exact (concat_broken notStart phase inside breaks first holds).keep text
  | whole tracks unbroken =>
      by_cases isStart : name = objectStart
      · exact concat_start found
          (attributeLines_eq_nil_of_isObjectStart once (starts.trans (decide_eq_true isStart)))
          (tracks.concat_of_some found (absurd isStart) once text)
      · have notStart : isObjectStart line = false := starts.trans (decide_eq_false isStart)
        have whole := tracks
        cases tracks with
        | stopped last phase inside ends first holds =>
            refine concat_whole found notStart (whole.concat_of_some found ?_ once text) unbroken ?_
            · intro _ afterBreak collecting
              rw [phase] at collecting
              cases collecting
            · intro going
              exact absurd ((endsAt_concat_of_lt notStart inside).mpr ends) (going last inside)
        | collecting phase previous holds going =>
            -- Here the reader tests the sticky break and the owner, in whatever order they came.
            have rule := endsBefore_iff found notStart holds
            by_cases breaks : BreakAt (lines ++ [line]) (attributeLines lines).length
            · rw [if_neg isStart, @collect_of_endsBefore .lacnicLike (reading.keep text) _ phase
                (rule.mpr breaks)]
              exact concat_break found notStart rfl going unbroken breaks holds
            · refine concat_whole found notStart (whole.concat_of_some found ?_ once text) unbroken
                fun _ => breaks
              intro _ afterBreak collecting
              rw [phase] at collecting
              cases collecting
              rw [← Bool.not_eq_true]
              exact mt rule.mp breaks

theorem TracksOwner.feed (once : attributeLines lines ≠ [] -> isObjectStart line = false)
    (tracks : TracksOwner lines reading) :
    TracksOwner (lines ++ [line]) (reading.feed .lacnicLike line) := by
  cases found : attributeOf line with
  | none =>
      have later := tracks.concat_of_none found
      rw [feed_of_none .lacnicLike reading found]
      split
      · exact later
      · exact later.keep (trimLineEnd line.toList)
  | some pair =>
      rw [feed_of_attributeOf .lacnicLike reading found]
      exact tracks.concat_of_some found once _

end

theorem tracksOwner_feedAll {lines : List String} (once : OneObject lines) :
    TracksOwner lines (Reading.start.feedAll .lacnicLike lines) := by
  -- From the end, since the invariant is about all lines that were read.
  induction lines using List.reverseRecOn with
  | nil =>
      refine .whole (tracks_start .lacnicLike) ?_
      intro k inside
      cases inside
  | append_singleton lines line ih =>
      have parts := once.of_concat
      rw [Reading.feedAll, List.foldl_append]
      exact (ih parts.1).feed parts.2

/-! ## The record of an answer -/

theorem TracksOwner.holds_kept {lines : List String} {reading : Reading}
    (tracks : TracksOwner lines reading) :
    Holds .lacnicLike reading.record
      ((attributeLines lines).take (ownerCount lines (BreakAt lines))) := by
  cases tracks with
  | broken count phase inside breaks first holds =>
      have same : count = ownerCount lines (BreakAt lines) := by
        refine eq_ownerCount fun k => ?_
        constructor
        · intro before
          exact ⟨by omega, fun j earlier => (first j (by omega)).1,
            fun j earlier => (first j (by omega)).2⟩
        · rintro ⟨_, _, unbroken⟩
          by_contra later
          exact unbroken count (by omega) breaks
      rw [← same]
      exact holds
  | whole tracks unbroken =>
      cases tracks with
      | collecting phase previous holds going =>
          have same : (attributeLines lines).length = ownerCount lines (BreakAt lines) := by
            refine eq_ownerCount fun k => ?_
            constructor
            · intro inside
              refine ⟨inside, fun j before => going j (by omega), ?_⟩
              intro j before
              exact unbroken j (by omega) fun i earlier => going i (by omega)
            · intro parts
              exact parts.1
          rw [← same, List.take_length]
          exact holds
      | stopped last phase inside ends first holds =>
          have same : last + 1 = ownerCount lines (BreakAt lines) := by
            refine eq_ownerCount fun k => ?_
            constructor
            · intro before
              refine ⟨by omega, fun j earlier => first j (by omega), ?_⟩
              intro j earlier
              exact unbroken j (by omega) fun i first_ => first i (by omega)
            · rintro ⟨_, going, _⟩
              by_contra later
              exact going last (by omega) ends
          rw [← same]
          exact holds

/-! ## Both rules compared -/

theorem any_take_drop_iff {test : X -> Bool} {values : List X} {first last : Nat} :
    ((values.take last).drop first).any test = true <->
      exists j, first ≤ j ∧ j < last ∧ exists value, values[j]? = some value ∧ test value = true := by
  rw [List.any_eq_true]
  constructor
  · rintro ⟨value, member, holds⟩
    rcases List.mem_iff_getElem?.mp member with ⟨j, found⟩
    rw [List.getElem?_drop, List.getElem?_take] at found
    split at found
    · next below => exact ⟨first + j, by omega, below, value, found, holds⟩
    · cases found
  · rintro ⟨j, least, below, value, found, holds⟩
    refine ⟨value, List.mem_iff_getElem?.mpr ⟨j - first, ?_⟩, holds⟩
    rw [List.getElem?_drop, Nat.add_sub_cancel' least, List.getElem?_take_of_lt below]
    exact found

/-- The attribute lines of an answer are listed in the order in which they stand. -/
theorem pairwise_position (lines : List String) :
    (attributeLines lines).Pairwise fun first second => first.position < second.position := by
  induction lines using List.reverseRecOn with
  | nil => exact List.Pairwise.nil
  | append_singleton lines line ih =>
      rw [attributeLines_concat, List.pairwise_append]
      refine ⟨ih, ?_, ?_⟩
      · cases attributeLineAt line lines.length <;> simp
      · intro first member second added
        rcases Option.map_eq_some_iff.mp (Option.mem_toList.mp added) with ⟨_, _, rfl⟩
        exact position_lt_length member

section
variable {lines : List String} {i k : Nat}

theorem placeOf_lt_placeOf (before : i < k) (inside : k < (attributeLines lines).length) :
    placeOf lines i < placeOf lines k := by
  rw [placeOf_eq inside, placeOf_eq (before.trans inside)]
  exact List.pairwise_iff_getElem.mp (pairwise_position lines) i k _ _ before

theorem not_blank_of_placeOf (inside : k < (attributeLines lines).length) {line : String}
    (stands : lines[placeOf lines k]? = some line) : isBlankLine line = false := by
  rw [placeOf_eq inside] at stands
  rcases List.mem_filterMap.mp (List.getElem_mem inside) with ⟨⟨other, position⟩, listed, found⟩
  rcases Option.map_eq_some_iff.mp found with ⟨pair, isAttribute, same⟩
  have here := List.mk_mem_zipIdx_iff_getElem?.mp listed
  rw [← same, here] at stands
  cases stands
  exact isBlankLine_of_attributeOf isAttribute

theorem blockStart_le_placeOf (inside : k < (attributeLines lines).length) :
    blockStart lines ≤ placeOf lines k + 1 := by
  have least : placeOf lines 0 ≤ placeOf lines k := by
    rcases Nat.eq_zero_or_pos k with rfl | positive
    · exact Nat.le_refl _
    · exact (placeOf_lt_placeOf positive inside).le
  have first : (attributeLines lines).head? = some (attributeLines lines)[0] :=
    List.head?_eq_getElem?.trans (List.getElem?_eq_getElem (by omega))
  rw [placeOf_eq (by omega)] at least
  rw [blockStart, first]
  change (if (attributeLines lines)[0].name = objectStart then
    (attributeLines lines)[0].position + 1 else 0) ≤ _
  split
  · omega
  · omega

/-- A blank line before an attribute line stands before or after an earlier one. -/
theorem blankBefore_placeOf_iff (before : i < k) (inside : k < (attributeLines lines).length) :
    blankBefore lines (placeOf lines k) = true <->
      blankBefore lines (placeOf lines i) = true ∨
        blankBetween lines (placeOf lines i) (placeOf lines k) = true := by
  have order := placeOf_lt_placeOf before inside
  have starts := blockStart_le_placeOf (before.trans inside)
  rw [blankBefore, blankBefore, blankBetween, any_take_drop_iff, any_take_drop_iff,
    any_take_drop_iff]
  constructor
  · rintro ⟨j, least, below, line, stands, blank⟩
    rcases Nat.lt_trichotomy j (placeOf lines i) with early | rfl | late
    · exact Or.inl ⟨j, least, early, line, stands, blank⟩
    · rw [not_blank_of_placeOf (before.trans inside) stands] at blank
      cases blank
    · exact Or.inr ⟨j, late, below, line, stands, blank⟩
  · rintro (⟨j, least, below, line, stands, blank⟩ | ⟨j, least, below, line, stands, blank⟩)
    · exact ⟨j, least, by omega, line, stands, blank⟩
    · exact ⟨j, by omega, below, line, stands, blank⟩

theorem breakAt_of_breakAfterOwnerAt (inside : k < (attributeLines lines).length)
    (breaks : BreakAfterOwnerAt lines k) : BreakAt lines k := by
  rcases breaks with ⟨i, before, owner, blank⟩
  exact ⟨⟨i, before, owner⟩, (blankBefore_placeOf_iff before inside).mpr (Or.inr blank)⟩

end

theorem ownerCount_le (lines : List String) :
    ownerCount lines (BreakAt lines) ≤ ownerCount lines (BreakAfterOwnerAt lines) := by
  refine le_of_forall_lt ?_
  intro k below
  rcases lt_ownerCount_iff.mp below with ⟨inside, going, unbroken⟩
  refine lt_ownerCount_iff.mpr ⟨inside, going, ?_⟩
  intro j before breaks
  exact unbroken j before (breakAt_of_breakAfterOwnerAt (by omega) breaks)

/-- After an early break the reader stops at the line after the owner line, which should be
read. -/
theorem ownerCount_lt_of_earlyBreak {lines : List String} (early : EarlyBreak lines) :
    ownerCount lines (BreakAt lines) < ownerCount lines (BreakAfterOwnerAt lines) := by
  rcases early with ⟨owner, inside, isOwner, first, going, blank, none⟩
  have goingOn (j : Nat) (before : j < owner + 1) : ¬ EndsAt .lacnicLike lines j := by
    rcases Nat.lt_succ_iff_lt_or_eq.mp before with earlier | rfl
    · exact going j earlier
    · rintro (⟨country, _⟩ | ⟨other, _⟩)
      · rw [isOwner] at country
        cases country
      · cases other
  have read : owner + 1 < ownerCount lines (BreakAfterOwnerAt lines) := by
    refine lt_ownerCount_iff.mpr ⟨inside, goingOn, ?_⟩
    rintro j within ⟨i, before, other, between⟩
    have same : i = owner := by
      by_contra different
      exact first i (by omega) other
    have next : j = owner + 1 := by omega
    rw [same, next, none] at between
    cases between
  have notRead : ¬ owner + 1 < ownerCount lines (BreakAt lines) := by
    intro below
    refine (lt_ownerCount_iff.mp below).2.2 (owner + 1) (Nat.le_refl _) ⟨⟨owner, by omega, isOwner⟩, ?_⟩
    exact (blankBefore_placeOf_iff (Nat.lt_succ_self owner) inside).mpr (Or.inl blank)
  omega

/-- Only after an early break the two rules differ. -/
theorem earlyBreak_of_ownerCount_lt {lines : List String}
    (fewer : ownerCount lines (BreakAt lines) < ownerCount lines (BreakAfterOwnerAt lines)) :
    EarlyBreak lines := by
  rcases lt_ownerCount_iff.mp fewer with ⟨inside, going, unbroken⟩
  have broken : exists j, j ≤ ownerCount lines (BreakAt lines) ∧ BreakAt lines j := by
    by_contra none
    refine Nat.lt_irrefl _ (lt_ownerCount_iff.mpr ⟨inside, going, ?_⟩)
    intro j within breaks
    exact none ⟨j, within, breaks⟩
  rcases broken with ⟨j, within, hasOwner, blank⟩
  -- The first owner line decides, since a blank line after any owner line follows it too.
  have before : Nat.find hasOwner < j ∧
      fieldAt .lacnicLike lines (Nat.find hasOwner) = some .orgName :=
    Nat.find_spec hasOwner
  have first (i : Nat) (earlier : i < Nat.find hasOwner) :
      fieldAt .lacnicLike lines i ≠ some .orgName := by
    intro owner
    exact Nat.find_min hasOwner earlier ⟨by omega, owner⟩
  refine ⟨Nat.find hasOwner, by omega, before.2, first, fun k earlier => going k (by omega), ?_, ?_⟩
  · rcases (blankBefore_placeOf_iff before.1 (by omega)).mp blank with early | late
    · exact early
    · exact absurd ⟨_, before.1, before.2, late⟩ (unbroken j within)
  · rw [← Bool.not_eq_true]
    intro between
    exact unbroken (Nat.find hasOwner + 1) (by omega) ⟨_, Nat.lt_succ_self _, before.2, between⟩

/-- For LACNIC, an answer with one object is read to its first country after an address, or
to the line before the first attribute line that has an owner line and a blank line before
it.  This is where the object should end unless a blank line stands before the owner line and
none directly after it; then the lines after the owner are lost. -/
theorem owner_object_cut_iff (lines : List String) (once : OneObject lines) :
    (exists record : Record,
      (forall field, record.get field =
        fieldText field (valuesOf .lacnicLike field
          ((attributeLines lines).take (ownerCount lines (BreakAt lines))))) ∧
      record.raw = String.ofList (trim (keptText lines)) ∧
      parse .lacnicLike lines = record.complete) ∧
    ownerCount lines (BreakAt lines) ≤ ownerCount lines (BreakAfterOwnerAt lines) ∧
    (ownerCount lines (BreakAt lines) = ownerCount lines (BreakAfterOwnerAt lines) <->
      ¬ EarlyBreak lines) := by
  have tracks := tracksOwner_feedAll once
  refine ⟨⟨{ (Reading.start.feedAll .lacnicLike lines).record with
    raw := String.ofList (trim (keptText lines)) }, tracks.holds_kept, rfl, ?_⟩,
    ownerCount_le lines, ?_⟩
  · rw [parse, Reading.finish, kept_feedAll]
  · constructor
    · intro same early
      exact Nat.ne_of_lt (ownerCount_lt_of_earlyBreak early) same
    · intro noEarlyBreak
      by_contra different
      exact noEarlyBreak (earlyBreak_of_ownerCount_lt
        (Nat.lt_of_le_of_ne (ownerCount_le lines) different))

/-- An answer with contact details behind a blank line. -/
def answerWithContact : List String :=
  ["% note", "aut-num: AS28000", "owner: LACNIC", "ownerid: UY-LACN-LACNIC", "",
    "person: Operations", "address: Montevideo", "country: UY"]

/-- The contact details are left out. -/
theorem parse_answer_with_contact :
    exists record : Record, record.get .orgId = some "UY-LACN-LACNIC" ∧
      record.get .address = none ∧ record.get .country = none ∧
      parse .lacnicLike answerWithContact = record.complete := by
  have once : OneObject answerWithContact := by
    unfold OneObject
    decide
  rcases (owner_object_cut_iff answerWithContact once).1 with ⟨record, texts, _, parsed⟩
  refine ⟨record, ?_, ?_, ?_, parsed⟩
  · rw [texts]
    decide
  · rw [texts]
    decide
  · rw [texts]
    decide

/-- An answer with a blank line before the owner. -/
def answerWithHeader : List String :=
  ["aut-num: AS28000", "", "owner: LACNIC", "ownerid: UY-LACN-LACNIC"]

/-- No blank line follows the owner, so the object should have all three attribute lines, but
the one after the owner is lost. -/
theorem blank_before_owner_loses_ownerid :
    OneObject answerWithHeader ∧
      ownerCount answerWithHeader (BreakAfterOwnerAt answerWithHeader) = 3 ∧
      fieldText .orgId (valuesOf .lacnicLike .orgId ((attributeLines answerWithHeader).take 3)) =
        some "UY-LACN-LACNIC" ∧
      (parse .lacnicLike answerWithHeader).get .orgId = none := by
  refine ⟨?_, ?_, ?_, ?_⟩
  · unfold OneObject
    decide
  · decide
  · decide
  · decide

end Whois
end AsCensus
