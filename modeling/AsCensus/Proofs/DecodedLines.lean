import AsCensus.Job.RouteImport
import AsCensus.Proofs.DumpBlocks
import AsCensus.Proofs.LossyText
import AsCensus.Whois.Lookup
import Mathlib.Data.List.DropRight

namespace AsCensus

/-!
# Lines of bytes and lines of text

Answers and dumps come as bytes.  These are cut at line feeds, and each piece is decoded by
itself.  The pieces are those of the decoded whole (`textLines_eq`), because a line feed is
always read as itself and nothing else is read as a line feed.

Both readers drop the characters that end a line before they look at it.  So a line may as
well be handed to them without its end (`feed_bare`, `step_bare`), and carriage returns
before the line feeds of the bytes change nothing (`map_bare_withReturns`).
-/

namespace Text

/-- Put an element before the pieces that follow it. -/
def prependPiece [DecidableEq X] (ending value : X) (pieces : List (List X)) : List (List X) :=
  if value = ending then
    [value] :: pieces
  else
    match pieces with
    | [] => [[value]]
    | piece :: rest => (value :: piece) :: rest

/-- The pieces of a list up to each occurrence of an element, and what follows the last one
if that is not empty. -/
def splitAfter [DecidableEq X] (ending : X) (values : List X) : List (List X) :=
  values.foldr (prependPiece ending) []

/-- The pieces of a text up to each line feed, and what follows the last one. -/
def lineTexts (text : List Char) : List String :=
  (splitAfter '\n' text).map String.ofList

/-- The carriage return byte. -/
def carriageReturn : UInt8 := 13

/-- Bytes with a carriage return before each line feed. -/
def withReturns (bytes : List UInt8) : List UInt8 :=
  bytes.flatMap fun byte => if byte = lineFeed then [carriageReturn, lineFeed] else [byte]

/-- A line without the characters that end it. -/
def bare (line : String) : String :=
  String.ofList (trimLineEnd line.toList)

/-! ## Splitting after an element -/

section
variable [DecidableEq X] {ending : X}

theorem splitAfter_cons_of_ne {value : X} (other : value ≠ ending) (values : List X) :
    splitAfter ending (value :: values) =
      match splitAfter ending values with
      | [] => [[value]]
      | piece :: rest => (value :: piece) :: rest := by
  rw [splitAfter, List.foldr_cons]
  exact if_neg other

theorem splitAfter_cons_self (values : List X) :
    splitAfter ending (ending :: values) = [ending] :: splitAfter ending values := by
  rw [splitAfter, List.foldr_cons]
  exact if_pos rfl

theorem splitAfter_of_not_mem {values : List X} (none : ending ∉ values) :
    splitAfter ending values = if values = [] then [] else [values] := by
  induction values with
  | nil => rfl
  | cons value values ih =>
      rw [List.mem_cons, not_or] at none
      rw [splitAfter_cons_of_ne (Ne.symm none.1), ih none.2]
      by_cases empty : values = [] <;> simp [empty]

theorem splitAfter_append_cons {front : List X} (none : ending ∉ front) (rest : List X) :
    splitAfter ending (front ++ ending :: rest) =
      (front ++ [ending]) :: splitAfter ending rest := by
  induction front with
  | nil => exact splitAfter_cons_self rest
  | cons value front ih =>
      rw [List.mem_cons, not_or] at none
      rw [List.cons_append, splitAfter_cons_of_ne (Ne.symm none.1), ih none.2]
      rfl

/-- A list is a last piece, or a piece with the element that ends it and a shorter list. -/
theorem splitAfter_induction {motive : List X -> Prop}
    (last : forall front, ending ∉ front -> motive front)
    (ended : forall front rest, ending ∉ front -> motive rest -> motive (front ++ ending :: rest))
    (values : List X) : motive values := by
  induction size : values.length using Nat.strongRecOn generalizing values with
  | ind size ih =>
      by_cases member : ending ∈ values
      · rcases List.eq_append_cons_of_mem member with ⟨front, rest, rfl, none⟩
        rw [List.length_append, List.length_cons] at size
        exact ended front rest none (ih rest.length (by omega) rest rfl)
      · exact last values member

end

theorem byteLines_eq (bytes : List UInt8) : byteLines bytes = splitAfter lineFeed bytes := by
  have prepends : prependByte = prependPiece lineFeed := by
    funext byte pieces
    cases pieces <;> rfl
  rw [byteLines, prepends, splitAfter]

/-! ## Decoding lines -/

theorem decode_append_lineFeed (front rest : List UInt8) :
    decode (front ++ lineFeed :: rest) = decode front ++ '\n' :: decode rest := by
  exact Utf8State.decode_append_ascii Utf8State.sound_ready (by decide) front rest

theorem not_mem_decode {bytes : List UInt8} (none : lineFeed ∉ bytes) : '\n' ∉ decode bytes := by
  intro member
  exact none (Utf8State.mem_of_mem_decode Utf8State.sound_ready (by decide) member)

theorem decode_eq_nil_iff {bytes : List UInt8} : decode bytes = [] <-> bytes = [] := by
  constructor
  · intro empty
    have reads : ReadsAs bytes [] := readsAs_iff.mpr empty.symm
    cases reads
    rfl
  · rintro rfl
    rfl

/-- The pieces of bytes are decoded to the pieces of the decoded bytes. -/
theorem textLines_eq (bytes : List UInt8) : textLines bytes = lineTexts (decode bytes) := by
  rw [textLines, byteLines_eq, lineTexts]
  induction bytes using @splitAfter_induction _ _ lineFeed with
  | last front none =>
      rw [splitAfter_of_not_mem none, splitAfter_of_not_mem (not_mem_decode none)]
      simp only [decode_eq_nil_iff]
      split_ifs <;> rfl
  | ended front rest none ih =>
      have piece := decode_append_lineFeed front []
      rw [splitAfter_append_cons none, decode_append_lineFeed,
        splitAfter_append_cons (not_mem_decode none), List.map_cons, List.map_cons, ih, piece]
      rfl

/-- A character that a line feed cuts short stays in its line. -/
example : textLines [0xe2, 0x82, 10, 65] = [String.ofList [replacement, '\n'], "A"] := by decide

/-! ## The ends of lines -/

theorem trimLineEnd_trimLineEnd (text : List Char) :
    trimLineEnd (trimLineEnd text) = trimLineEnd text := by
  rw [trimLineEnd, trimLineEnd, dropEndWhile, dropEndWhile, List.reverse_reverse,
    List.dropWhile_idempotent]

theorem trimLineEnd_bare (line : String) :
    trimLineEnd (bare line).toList = trimLineEnd line.toList := by
  rw [bare, String.toList_ofList, trimLineEnd_trimLineEnd]

/-- A line is the same without its end, whatever that is. -/
theorem bare_append {text tail : List Char} (ends : forall c, c ∈ tail -> isLineEnd c = true) :
    bare (String.ofList (text ++ tail)) = bare (String.ofList text) := by
  rw [bare, bare, String.toList_ofList, String.toList_ofList, trimLineEnd, trimLineEnd,
    dropEndWhile_append_of_all text ends]

theorem bare_append_lineFeed (text : List Char) :
    bare (String.ofList (text ++ ['\n'])) = bare (String.ofList text) := by
  apply bare_append
  simp [isLineEnd]

theorem bare_append_return (text : List Char) :
    bare (String.ofList (text ++ ['\r', '\n'])) = bare (String.ofList text) := by
  apply bare_append
  simp [isLineEnd]

theorem withReturns_of_not_mem {bytes : List UInt8} (none : lineFeed ∉ bytes) :
    withReturns bytes = bytes := by
  induction bytes with
  | nil => rfl
  | cons byte bytes ih =>
      rw [List.mem_cons, not_or] at none
      rw [withReturns] at ih ⊢
      rw [List.flatMap_cons, if_neg (Ne.symm none.1), ih none.2, List.singleton_append]

theorem withReturns_append_lineFeed {front : List UInt8} (none : lineFeed ∉ front)
    (rest : List UInt8) :
    withReturns (front ++ lineFeed :: rest) =
      (front ++ [carriageReturn]) ++ lineFeed :: withReturns rest := by
  have same := withReturns_of_not_mem none
  rw [withReturns] at same ⊢
  rw [List.flatMap_append, List.flatMap_cons, same, if_pos rfl, List.append_assoc]
  rfl

/-- Carriage returns before the line feeds of bytes belong to the ends of the lines. -/
theorem map_bare_withReturns (bytes : List UInt8) :
    (textLines (withReturns bytes)).map bare = (textLines bytes).map bare := by
  rw [textLines, textLines, byteLines_eq, byteLines_eq]
  induction bytes using @splitAfter_induction _ _ lineFeed with
  | last front none => rw [withReturns_of_not_mem none]
  | ended front rest none ih =>
      have noneLonger : lineFeed ∉ front ++ [carriageReturn] := by
        rw [List.mem_append, not_or]
        exact ⟨none, by decide⟩
      have returned :
          decode (front ++ [carriageReturn] ++ [lineFeed]) = decode front ++ ['\r', '\n'] := by
        rw [List.append_assoc]
        exact Utf8State.decode_append_ascii Utf8State.sound_ready (by decide) front [lineFeed]
      have plain : decode (front ++ [lineFeed]) = decode front ++ ['\n'] :=
        decode_append_lineFeed front []
      rw [withReturns_append_lineFeed none, splitAfter_append_cons noneLonger,
        splitAfter_append_cons none, List.map_cons, List.map_cons, List.map_cons, List.map_cons, ih,
        returned, plain, bare_append_return, bare_append_lineFeed]

/-- The lines between the line feeds of a text are its pieces without their ends, and an empty
line after a last line feed. -/
theorem map_bare_lines (text : List Char) :
    exists tail, (tail = [] ∨ tail = [""]) ∧
      (lines (String.ofList text)).map bare = (lineTexts text).map bare ++ tail := by
  have unended {front : List Char} (none : '\n' ∉ front) (c : Char) (member : c ∈ front) :
      (c == '\n') = false := by
    rw [beq_eq_false_iff_ne]
    rintro rfl
    exact none member
  rw [lines, lineTexts, String.toList_ofList, List.splitOn]
  induction text using @splitAfter_induction _ _ '\n' with
  | last front none =>
      rw [List.splitOnP_eq_singleton (unended none), splitAfter_of_not_mem none]
      by_cases empty : front = []
      · subst empty
        exact ⟨[""], Or.inr rfl, rfl⟩
      · exact ⟨[], Or.inl rfl, by rw [if_neg empty, List.append_nil]⟩
  | ended front rest none ih =>
      rcases ih with ⟨tail, shape, same⟩
      refine ⟨tail, shape, ?_⟩
      rw [List.splitOnP_append_cons_of_forall_mem (unended none) '\n' rfl,
        splitAfter_append_cons none, List.map_cons, List.map_cons, List.map_cons, List.map_cons,
        same, bare_append_lineFeed, List.cons_append]

end Text

namespace Whois

open Text

theorem feed_bare (family : Family) (reading : Reading) (line : String) :
    reading.feed family (bare line) = reading.feed family line := by
  rw [Reading.feed, Reading.feed, trimLineEnd_bare]

/-- An answer is read as it is without the ends of its lines. -/
theorem feedAll_bare (family : Family) (reading : Reading) (lines : List String) :
    reading.feedAll family (lines.map bare) = reading.feedAll family lines := by
  rw [Reading.feedAll, Reading.feedAll, List.foldl_map]
  simp only [feed_bare]

end Whois

namespace Rpsl

open Text
open Whois

theorem step_bare (block : RouteBlock) (line : String) :
    block.step (bare line) = block.step line := by
  rw [RouteBlock.step, RouteBlock.step, trimLineEnd_bare]

theorem emissionsFrom_bare (block : RouteBlock) (read : Nat) (lines : List String) :
    emissionsFrom block read (lines.map bare) = emissionsFrom block read lines := by
  induction lines generalizing block read with
  | nil => rfl
  | cons line rest ih =>
      rw [List.map_cons, emissionsFrom, emissionsFrom, step_bare]
      simp only [ih]

/-- A dump is read as it is without the ends of its lines. -/
theorem routeEntries_bare (lines : List String) :
    routeEntries (lines.map bare) = routeEntries lines := by
  rw [routeEntries, routeEmissions, emissionsFrom_bare, routeEntries, routeEmissions]

/-- A last line that is empty gives out what the end of a dump gives out. -/
theorem routeEntries_concat_empty (lines : List String) :
    routeEntries (lines ++ [""]) = routeEntries lines := by
  have blank : isBlankLine "" = true := rfl
  rw [routeEntries_eq, routeEntries_eq]
  induction lines using dump_induction with
  | last content filled =>
      rw [List.splitOnP_append_cons_of_forall_mem filled "" blank,
        List.splitOnP_eq_singleton filled]
      have nothing : ([[]] : List (List String)).filterMap blockEntry = [] := rfl
      change ([content] ++ [[]]).filterMap blockEntry = [content].filterMap blockEntry
      rw [List.filterMap_append, nothing, List.append_nil]
  | ended content other rest filled isBlank ih =>
      rw [List.append_assoc, List.cons_append,
        List.splitOnP_append_cons_of_forall_mem filled other isBlank,
        List.splitOnP_append_cons_of_forall_mem filled other isBlank, List.filterMap_cons,
        List.filterMap_cons, ih]

/-- The pieces of a text are read as the lines between its line feeds. -/
theorem routeEntries_lineTexts (text : List Char) :
    routeEntries (lineTexts text) = routeEntries (lines (String.ofList text)) := by
  rcases map_bare_lines text with ⟨tail, rfl | rfl, same⟩
  · rw [← routeEntries_bare, ← routeEntries_bare (lines _), same, List.append_nil]
  · rw [← routeEntries_bare, ← routeEntries_bare (lines _), same, routeEntries_concat_empty]

end Rpsl

namespace Job

open Rpsl
open Text
open Whois

/-- What a client prints, and what a dump holds, is cut into lines before it is decoded.  It
is read as its text is, in which one replacement stands for each maximal part of the bytes
that is no text.  Carriage returns before the line feeds change nothing of it. -/
theorem bytes_are_read_as_text (bytes : List UInt8) :
    (forall text, ReadsAs bytes text <-> text = decode bytes) ∧
    (forall family,
      parse family (textLines bytes) = parse family (lineTexts (decode bytes)) ∧
      (Reading.start.feedAll family (textLines bytes)).collected =
        (Reading.start.feedAll family (lineTexts (decode bytes))).collected) ∧
    (forall source asn,
      ((Client.printing fun _ _ => bytes).query source asn).finish =
        parse source.family (lineTexts (decode bytes)) ∧
      ((Client.printing fun _ _ => bytes).query source asn).collected =
        (Reading.start.feedAll source.family (lineTexts (decode bytes))).collected) ∧
    routeEntries (Dump.lines ⟨bytes, false⟩) =
      routeEntries (lines (String.ofList (decode bytes))) ∧
    (forall family,
      parse family (textLines (withReturns bytes)) = parse family (textLines bytes) ∧
      (Reading.start.feedAll family (textLines (withReturns bytes))).collected =
        (Reading.start.feedAll family (textLines bytes)).collected) ∧
    routeEntries (Dump.lines ⟨withReturns bytes, false⟩) =
      routeEntries (Dump.lines ⟨bytes, false⟩) ∧
    forall db batchSize,
      importDump db batchSize ⟨withReturns bytes, false⟩ =
        importDump db batchSize ⟨bytes, false⟩ := by
  have returned (family : Family) :
      Reading.start.feedAll family (textLines (withReturns bytes)) =
        Reading.start.feedAll family (textLines bytes) := by
    rw [← feedAll_bare, map_bare_withReturns, feedAll_bare]
  have sameEntries : routeEntries (Dump.lines ⟨withReturns bytes, false⟩) =
      routeEntries (Dump.lines ⟨bytes, false⟩) := by
    change routeEntries (textLines (withReturns bytes)) = routeEntries (textLines bytes)
    rw [← routeEntries_bare, map_bare_withReturns, routeEntries_bare]
  refine ⟨fun text => readsAs_iff, ?_, ?_, ?_, ?_, sameEntries, ?_⟩
  · intro family
    rw [textLines_eq]
    exact ⟨rfl, rfl⟩
  · intro source asn
    rw [Client.query, Client.printing, textLines_eq]
    exact ⟨rfl, rfl⟩
  · change routeEntries (textLines bytes) = _
    rw [textLines_eq]
    exact routeEntries_lineTexts (decode bytes)
  · intro family
    rw [parse, parse, returned]
    exact ⟨rfl, rfl⟩
  · intro db batchSize
    rw [importDump, importDump, sameEntries]

end Job

end AsCensus
