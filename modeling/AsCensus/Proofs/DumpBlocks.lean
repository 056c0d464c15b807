import AsCensus.Proofs.AttributeLines
import AsCensus.Rpsl.RouteObject

namespace AsCensus
namespace Rpsl

open Text
open Whois

/-!
# The blocks of a dump

A reader of a dump keeps the object in progress from line to line and from one entry that it
gives out to the next.  Yet nothing passes from one object to another: the entries of a dump
are those of its blocks between blank lines, each block read for itself (`blockEntry`), and
comments count nowhere.

An entry is given out as soon as its block has ended.  The number of lines read by then is the
number of the blank line that ends the block, or that of all lines for a last block without
one (`blockEnds`).
-/

/-- Whether a line is a comment. -/
def isCommentLine (line : String) : Bool :=
  isComment line.toList

/-- Read a line of a block, which is not blank. -/
def RouteBlock.readLine (block : RouteBlock) (line : String) : RouteBlock :=
  block.contentLine (trimLineEnd line.toList)

/-- Read lines of a block, without its comments. -/
def RouteBlock.readAll (block : RouteBlock) (lines : List String) : RouteBlock :=
  (lines.filter fun line => !isCommentLine line).foldl RouteBlock.readLine block

/-- The entry of a block of lines, if it is a route. -/
def blockEntry (lines : List String) : Option RouteEntry :=
  (RouteBlock.fresh.readAll lines).close

/-- The emission of a block of lines at a number of lines read. -/
def blockEmission (block : List String × Nat) : Option RouteEmission :=
  (blockEntry block.1).map fun entry => ⟨entry, block.2⟩

/-- The number of a line, if it is blank. -/
def blankNumber (line : String × Nat) : Option Nat :=
  if isBlankLine line.1 then some line.2 else none

/-- For each block of a dump, the number of lines up to its end. -/
def blockEnds (lines : List String) : List Nat :=
  (lines.zipIdx 1).filterMap blankNumber ++ [lines.length]

/-- The number of lines that are read for the next entry, and that entry, if there is one. -/
def nextEntry (block : RouteBlock) : List String -> Nat × Option RouteEntry
  | [] => (0, block.close)
  | line :: rest =>
      match (block.step line).2 with
      | some entry => (1, some entry)
      | none =>
          let next := nextEntry (block.step line).1 rest
          (next.1 + 1, next.2)

/-- An emission that comes later by a number of lines. -/
def RouteEmission.after (skipped : Nat) (emission : RouteEmission) : RouteEmission :=
  { emission with linesRead := skipped + emission.linesRead }

/-! ## One line -/

section
variable {block : RouteBlock} {line : String}

theorem step_of_blank (blank : isBlankLine line = true) :
    block.step line = (.fresh, block.close) := by
  have content : ¬ isComment line.toList = true := by
    intro comment
    rw [isBlankLine_of_isComment comment] at blank
    cases blank
  rw [isBlankLine] at blank
  rw [RouteBlock.step, isComment_trimLineEnd, isAllBlank_trimLineEnd, if_neg content,
    if_pos blank]

theorem step_of_not_blank (notBlank : isBlankLine line = false) :
    block.step line = (block.readAll [line], none) := by
  rw [isBlankLine] at notBlank
  rw [RouteBlock.step, isComment_trimLineEnd, isAllBlank_trimLineEnd, notBlank,
    RouteBlock.readAll]
  by_cases comment : isComment line.toList = true
  · simp [isCommentLine, comment]
  · simp [isCommentLine, comment, RouteBlock.readLine]

/-- Nothing is remembered of an object that was given out. -/
theorem step_eq_fresh_of_some {entry : RouteEntry} (given : (block.step line).2 = some entry) :
    (block.step line).1 = .fresh := by
  cases blank : isBlankLine line with
  | true => rw [step_of_blank blank]
  | false =>
      rw [step_of_not_blank blank] at given
      cases given

end

/-! ## One block -/

theorem readAll_cons (block : RouteBlock) (line : String) (rest : List String) :
    block.readAll (line :: rest) = (block.readAll [line]).readAll rest := by
  rw [RouteBlock.readAll, RouteBlock.readAll, RouteBlock.readAll, ← List.foldl_append,
    ← List.filter_append]
  rfl

theorem blockEntry_filter (lines : List String) :
    blockEntry (lines.filter fun line => !isCommentLine line) = blockEntry lines := by
  rw [blockEntry, blockEntry, RouteBlock.readAll, RouteBlock.readAll, List.filter_filter]
  simp only [Bool.and_self]

/-- Lines that are not blank give nothing out. -/
theorem emissionsFrom_append {content : List String}
    (filled : forall line, line ∈ content -> isBlankLine line = false) (block : RouteBlock)
    (read : Nat) (rest : List String) :
    emissionsFrom block read (content ++ rest) =
      emissionsFrom (block.readAll content) (read + content.length) rest := by
  induction content generalizing block read with
  | nil => rfl
  | cons line content ih =>
      have notBlank := filled line List.mem_cons_self
      rw [List.cons_append, emissionsFrom, step_of_not_blank notBlank,
        readAll_cons block line content, List.length_cons, Nat.add_comm content.length,
        ← Nat.add_assoc]
      exact ih (fun other member => filled other (List.mem_cons_of_mem _ member)) _ _

/-- A blank line gives out the entry of the block before it. -/
theorem emissionsFrom_blank {blank : String} (isBlank : isBlankLine blank = true)
    (block : RouteBlock) (read : Nat) (rest : List String) :
    emissionsFrom block read (blank :: rest) =
      (block.close.map fun entry => ⟨entry, read + 1⟩).toList ++
        emissionsFrom .fresh (read + 1) rest := by
  rw [emissionsFrom, step_of_blank isBlank]
  cases block.close <;> rfl

theorem emissionsFrom_add (block : RouteBlock) (skipped read : Nat) (lines : List String) :
    emissionsFrom block (skipped + read) lines =
      (emissionsFrom block read lines).map (RouteEmission.after skipped) := by
  induction lines generalizing block read with
  | nil =>
      rw [emissionsFrom, emissionsFrom]
      cases block.close <;> rfl
  | cons line rest ih =>
      have later := ih (block.step line).1 (read + 1)
      rw [← Nat.add_assoc] at later
      rw [emissionsFrom, emissionsFrom]
      cases (block.step line).2 with
      | none => exact later
      | some entry => rw [later, List.map_cons]; rfl

/-- A block that a blank line ends is read for itself, and then the rest as if it stood alone. -/
theorem routeEmissions_block {content : List String}
    (filled : forall line, line ∈ content -> isBlankLine line = false) {blank : String}
    (isBlank : isBlankLine blank = true) (rest : List String) :
    routeEmissions (content ++ blank :: rest) =
      ((blockEntry content).map fun entry => ⟨entry, content.length + 1⟩).toList ++
        (routeEmissions rest).map (RouteEmission.after (content.length + 1)) := by
  rw [routeEmissions, emissionsFrom_append filled, emissionsFrom_blank isBlank, Nat.zero_add,
    routeEmissions, ← emissionsFrom_add]
  rfl

theorem routeEmissions_of_filled {content : List String}
    (filled : forall line, line ∈ content -> isBlankLine line = false) :
    routeEmissions content =
      ((blockEntry content).map fun entry => ⟨entry, content.length⟩).toList := by
  have whole := emissionsFrom_append filled .fresh 0 []
  rw [List.append_nil, Nat.zero_add] at whole
  exact whole

/-! ## A whole dump -/

/-- A dump is a last block, or a block with the blank line that ends it and a shorter dump. -/
theorem dump_induction {motive : List String -> Prop}
    (last : forall content, (forall line, line ∈ content -> isBlankLine line = false) ->
      motive content)
    (ended : forall content blank rest,
      (forall line, line ∈ content -> isBlankLine line = false) -> isBlankLine blank = true ->
        motive rest -> motive (content ++ blank :: rest))
    (lines : List String) : motive lines := by
  have extend (lines : List String) : forall front : List String,
      (forall line, line ∈ front -> isBlankLine line = false) -> motive (front ++ lines) := by
    induction lines with
    | nil =>
        intro front filled
        rw [List.append_nil]
        exact last front filled
    | cons line rest ih =>
        intro front filled
        cases blank : isBlankLine line with
        | true => exact ended front line rest filled blank (ih [] (by simp))
        | false =>
            rw [List.append_cons]
            refine ih (front ++ [line]) ?_
            intro other member
            rcases List.mem_append.mp member with before | here
            · exact filled other before
            · rw [List.mem_singleton.mp here]
              exact blank
  exact extend lines [] (by simp)

theorem blankNumbers_of_filled {content : List String}
    (filled : forall line, line ∈ content -> isBlankLine line = false) (start : Nat) :
    (content.zipIdx start).filterMap blankNumber = [] := by
  rw [List.filterMap_eq_nil_iff]
  intro line member
  rw [blankNumber, filled line.1 (List.fst_mem_of_mem_zipIdx member)]
  rfl

theorem blockEnds_of_filled {content : List String}
    (filled : forall line, line ∈ content -> isBlankLine line = false) :
    blockEnds content = [content.length] := by
  rw [blockEnds, blankNumbers_of_filled filled]
  rfl

theorem blankNumbers_add (lines : List String) (skipped start : Nat) :
    (lines.zipIdx (skipped + start)).filterMap blankNumber =
      ((lines.zipIdx start).filterMap blankNumber).map (skipped + ·) := by
  rw [← List.map_snd_add_zipIdx_eq_zipIdx, List.filterMap_map, List.map_filterMap]
  refine congrArg (fun number => List.filterMap number (lines.zipIdx start)) (funext fun line => ?_)
  cases blank : isBlankLine line.1 <;> simp [blankNumber, blank, Nat.add_comm]

theorem blockEnds_block {content : List String}
    (filled : forall line, line ∈ content -> isBlankLine line = false) {blank : String}
    (isBlank : isBlankLine blank = true) (rest : List String) :
    blockEnds (content ++ blank :: rest) =
      (content.length + 1) :: (blockEnds rest).map (content.length + 1 + ·) := by
  have here : blankNumber (blank, 1 + content.length) = some (content.length + 1) := by
    rw [blankNumber, if_pos isBlank, Nat.add_comm]
  have later := blankNumbers_add rest (content.length + 1) 1
  rw [blockEnds, List.zipIdx_append, List.filterMap_append, blankNumbers_of_filled filled,
    List.nil_append, List.zipIdx_cons, List.filterMap_cons_some here, Nat.add_comm 1, later, blockEnds,
    List.map_append, List.length_append, List.length_cons, List.cons_append]
  rw [List.map_singleton, Nat.add_right_comm, Nat.add_assoc]

/-- The emissions of a dump are the entries of its blocks, each one when its block has ended. -/
theorem routeEmissions_eq (lines : List String) :
    routeEmissions lines =
      ((lines.splitOnP isBlankLine).zip (blockEnds lines)).filterMap blockEmission := by
  -- Block by block, since nothing is known any more after a blank line.
  induction lines using dump_induction with
  | last content filled =>
      rw [routeEmissions_of_filled filled, List.splitOnP_eq_singleton filled,
        blockEnds_of_filled filled, List.zip_cons_cons, List.filterMap_cons, blockEmission]
      cases blockEntry content <;> rfl
  | ended content blank rest filled isBlank ih =>
      have shift (block : List String × Nat) :
          (blockEmission block).map (RouteEmission.after (content.length + 1)) =
            blockEmission (Prod.map id (content.length + 1 + ·) block) := by
        rw [blockEmission, blockEmission, Option.map_map]
        rfl
      rw [routeEmissions_block filled isBlank, ih,
        List.splitOnP_append_cons_of_forall_mem filled blank isBlank, blockEnds_block filled isBlank,
        List.zip_cons_cons, List.zip_map_right, List.filterMap_cons, List.filterMap_map,
        List.map_filterMap, blockEmission]
      simp only [shift]
      cases blockEntry content <;> rfl

theorem length_blockEnds (lines : List String) :
    (blockEnds lines).length = (lines.splitOnP isBlankLine).length := by
  induction lines using dump_induction with
  | last content filled =>
      rw [blockEnds_of_filled filled, List.splitOnP_eq_singleton filled]
      rfl
  | ended content blank rest filled isBlank ih =>
      rw [blockEnds_block filled isBlank,
        List.splitOnP_append_cons_of_forall_mem filled blank isBlank, List.length_cons,
        List.length_map, ih, List.length_cons]

/-- The entries of a dump are those of its blocks. -/
theorem routeEntries_eq (lines : List String) :
    routeEntries lines = (lines.splitOnP isBlankLine).filterMap blockEntry := by
  have entry (block : List String × Nat) :
      (blockEmission block).map RouteEmission.entry = blockEntry block.1 := by
    rw [blockEmission]
    cases blockEntry block.1 <;> rfl
  calc routeEntries lines
      = ((lines.splitOnP isBlankLine).zip (blockEnds lines)).filterMap
          fun block => (blockEmission block).map RouteEmission.entry := by
        rw [routeEntries, routeEmissions_eq, List.map_filterMap]
    _ = (((lines.splitOnP isBlankLine).zip (blockEnds lines)).map Prod.fst).filterMap
          blockEntry := by
        rw [List.filterMap_map]
        simp only [entry]
        rfl
    _ = (lines.splitOnP isBlankLine).filterMap blockEntry := by
        rw [List.map_fst_zip (length_blockEnds lines).ge]

/-! ## Comments -/

theorem filter_content_blank {blank : String} (isBlank : isBlankLine blank = true)
    (content rest : List String) :
    (content ++ blank :: rest).filter (fun line => !isCommentLine line) =
      content.filter (fun line => !isCommentLine line) ++
        blank :: rest.filter fun line => !isCommentLine line := by
  have noComment : isCommentLine blank = false := by
    rw [← Bool.not_eq_true]
    intro comment
    rw [isBlankLine_of_isComment comment] at isBlank
    cases isBlank
  rw [List.filter_append, List.filter_cons, noComment]
  rfl

/-- Comments change no entry. -/
theorem routeEntries_filter (lines : List String) :
    routeEntries (lines.filter fun line => !isCommentLine line) = routeEntries lines := by
  rw [routeEntries_eq, routeEntries_eq]
  have filledFilter {content : List String}
      (filled : forall line, line ∈ content -> isBlankLine line = false) (line : String)
      (member : line ∈ content.filter fun line => !isCommentLine line) :
      isBlankLine line = false :=
    filled line (List.mem_filter.mp member).1
  induction lines using dump_induction with
  | last content filled =>
      rw [List.splitOnP_eq_singleton filled, List.splitOnP_eq_singleton (filledFilter filled),
        List.filterMap_cons, List.filterMap_cons, blockEntry_filter]
  | ended content blank rest filled isBlank ih =>
      rw [filter_content_blank isBlank,
        List.splitOnP_append_cons_of_forall_mem filled blank isBlank,
        List.splitOnP_append_cons_of_forall_mem (filledFilter filled) blank isBlank,
        List.filterMap_cons, List.filterMap_cons, blockEntry_filter, ih]

/-! ## Calls for the next entry -/

/-- Reading a dump is asking for the next entry again and again, each time with nothing known
of the lines before. -/
theorem emissionsFrom_eq_nextEntry (block : RouteBlock) (read : Nat) (lines : List String) :
    emissionsFrom block read lines =
      match (nextEntry block lines).2 with
      | none => []
      | some entry =>
          let now := read + (nextEntry block lines).1
          ⟨entry, now⟩ :: emissionsFrom .fresh now (lines.drop (nextEntry block lines).1) := by
  induction lines generalizing block read with
  | nil =>
      rw [emissionsFrom, nextEntry]
      cases block.close <;> rfl
  | cons line rest ih =>
      rw [emissionsFrom, nextEntry]
      cases given : (block.step line).2 with
      | some entry => rw [step_eq_fresh_of_some given]; rfl
      | none =>
          rw [ih (block.step line).1 (read + 1), Nat.add_assoc, Nat.add_comm 1]
          rfl

/-- A blank line cuts a dump into two that are read apart.  The entries of a dump are those
of its blocks in order; each one is given out when the lines up to the end of its block have
been read, since these are what the calls for the next entry read; and comments may come and
go. -/
theorem dump_cut_at_blank_lines :
    (forall (before after : List String) (blank : String), isBlankLine blank = true ->
      routeEntries (before ++ blank :: after) = routeEntries before ++ routeEntries after) ∧
    (forall lines, routeEntries lines = (lines.splitOnP isBlankLine).filterMap blockEntry) ∧
    (forall lines, routeEmissions lines =
      ((lines.splitOnP isBlankLine).zip (blockEnds lines)).filterMap blockEmission) ∧
    (forall block read lines, emissionsFrom block read lines =
      match (nextEntry block lines).2 with
      | none => []
      | some entry =>
          let now := read + (nextEntry block lines).1
          ⟨entry, now⟩ :: emissionsFrom .fresh now (lines.drop (nextEntry block lines).1)) ∧
    (forall lines others : List String,
      (lines.filter fun line => !isCommentLine line) =
          (others.filter fun line => !isCommentLine line) ->
        routeEntries lines = routeEntries others) := by
  refine ⟨?_, routeEntries_eq, routeEmissions_eq, emissionsFrom_eq_nextEntry, ?_⟩
  · intro before after blank isBlank
    rw [routeEntries_eq, routeEntries_eq, routeEntries_eq,
      List.splitOnP_append_cons before after isBlank, List.filterMap_append]
  · intro lines others same
    rw [← routeEntries_filter lines, same, routeEntries_filter]

/-- A description does not go on behind a blank line, and the comment between does not count. -/
theorem description_ends_at_blank_line :
    isBlankLine " \r\n" = true ∧
      routeEntries (["route: 192.0.2.0/24", "descr: one"] ++ " \r\n" ::
          ["# note", "+two", "route6: 2001:db8::/32"]) =
        [⟨some "192.0.2.0", some 24, none, some "one"⟩, ⟨some "2001:db8::", some 32, none, none⟩] := by
  have blank : isBlankLine " \r\n" = true := by decide
  refine ⟨blank, ?_⟩
  rw [dump_cut_at_blank_lines.1 _ _ _ blank,
    dump_cut_at_blank_lines.2.2.2.2 ["# note", "+two", "route6: 2001:db8::/32"]
      ["+two", "route6: 2001:db8::/32"] (by decide)]
  decide

end Rpsl
end AsCensus
