import AsCensus.Proofs.DumpBlocks
import AsCensus.Text.Case
import Mathlib.Data.List.Basic
import Mathlib.Data.List.Induction

namespace AsCensus

/-!
# What a block of a dump says

A reader of a block changes its entry line by line and remembers of the attribute lines before
only whether the last one was a description.  What it arrives at can be said without any
reading: the last network and the last origin that can be read at all, and the description
lines together with the lines that go on with one (`contentEntry`).

A value that cannot be read leaves the ones before it in force.  It still counts as an attribute
line, so that a line after it goes on with nothing.  A line without a colon is the other way
round: a description goes on behind it.
-/

namespace Text

theorem toNat_toLower (c : Char) :
    c.toLower.toNat = if 65 ≤ c.toNat ∧ c.toNat ≤ 90 then c.toNat + 32 else c.toNat := by
  by_cases capital : 65 ≤ c.toNat ∧ c.toNat ≤ 90
  · have inRange : 'A'.val ≤ c.val ∧ c.val ≤ 'Z'.val :=
      ⟨UInt32.le_iff_toNat_le.mpr capital.1, UInt32.le_iff_toNat_le.mpr capital.2⟩
    have small : c.val.toNat + 32 < 4294967296 := by
      have last : c.val.toNat ≤ 90 := capital.2
      omega
    have shifted : c.toLower.toNat = (c.val + 32).toNat := congrArg Char.toNat (dif_pos inRange)
    rw [if_pos capital, shifted]
    exact (UInt32.toNat_add c.val 32).trans (Nat.mod_eq_of_lt small)
  · have outside : ¬ ('A'.val ≤ c.val ∧ c.val ≤ 'Z'.val) := by
      rw [UInt32.le_iff_toNat_le, UInt32.le_iff_toNat_le]
      exact capital
    have same : c.toLower = c := dif_neg outside
    rw [if_neg capital, same]

theorem toLower_eq_iff {capital : Char} (isCapital : 65 ≤ capital.toNat ∧ capital.toNat ≤ 90)
    (c : Char) : c.toLower = capital.toLower <-> c = capital ∨ c = capital.toLower := by
  have lower := toNat_toLower capital
  rw [if_pos isCapital] at lower
  rw [← Char.toNat_inj, ← Char.toNat_inj, ← Char.toNat_inj, lower, toNat_toLower]
  split <;> omega

end Text

namespace Rpsl

open Text
open Net
open Whois

/-- A line without its line end. -/
def lineText (line : String) : List Char :=
  trimLineEnd line.toList

/-- Whether a line goes on with the attribute line before it. -/
def isContinuation (line : String) : Bool :=
  (lineText line).head?.any RouteBlock.isContinuationMark

/-- The attribute of a line of a block and its value as it is stored. -/
def routeAttributeOf (line : String) : Option (List Char × List Char) :=
  if isContinuation line then none
  else (cut [':'] (lineText line)).map fun (name, value) => (trim name, sanitize value)

/-- The network that a line gives. -/
def networkOf (line : String) : Option Network :=
  (routeAttributeOf line).bind fun (name, value) =>
    if name = "route".toList ∨ name = "route6".toList then Network.read value else none

/-- An origin without the letters before its number. -/
def withoutMark (value : List Char) : List Char :=
  if foldCase (value.take 2) = "as".toList then value.drop 2 else value

/-- The origin that a line gives. -/
def originOf (line : String) : Option Asn :=
  (routeAttributeOf line).bind fun (name, value) =>
    if name = "origin".toList then Asn.read (trim (withoutMark value)) else none

/-- What the last line says that says anything. -/
def lastRead (read : String -> Option X) (lines : List String) : Option X :=
  (lines.filterMap read).getLast?

/-- The name of the last attribute line. -/
def lastName (lines : List String) : Option (List Char) :=
  (lastRead routeAttributeOf lines).map Prod.fst

/-- What a line adds to the description after the lines before it. -/
def describedBy (before : List String) (line : String) : Option String :=
  match routeAttributeOf line with
  | some (name, value) => if name = "descr".toList then some (String.ofList value) else none
  | none =>
      if isContinuation line ∧ lastName before = some "descr".toList then
        some (sanitized (lineText line).tail)
      else none

/-- The parts of the description of a block. -/
def descriptionParts (lines : List String) : List String :=
  lines.zipIdx.filterMap fun (line, place) => describedBy (lines.take place) line

/-- Parts on a line each, if there are any. -/
def joinedText (parts : List String) : Option String :=
  if parts = [] then none else some (joinLines parts)

/-- The entry that lines without blanks and comments say, if one of them gives a network. -/
def contentEntry (lines : List String) : Option RouteEntry :=
  (lastRead networkOf lines).map fun network =>
    { address := some network.addressText
      length := some network.length
      origin := lastRead originOf lines
      description := joinedText (descriptionParts lines) }

/-- Whether an entry has a network. -/
structure RouteEntry.Has (entry : RouteEntry) (network : Network) : Prop where
  address : entry.address = some network.addressText
  length : entry.length = some network.length

/-! ## One more line -/

theorem lastRead_concat (read : String -> Option X) (lines : List String) (line : String) :
    lastRead read (lines ++ [line]) = (read line).or (lastRead read lines) := by
  rw [lastRead, lastRead, List.filterMap_append, List.getLast?_append]
  cases found : read line <;> simp [found]

theorem descriptionParts_concat (lines : List String) (line : String) :
    descriptionParts (lines ++ [line]) =
      descriptionParts lines ++ (describedBy lines line).toList := by
  have front : (lines.zipIdx.filterMap fun (other, place) =>
      describedBy ((lines ++ [line]).take place) other) = descriptionParts lines := by
    apply List.filterMap_congr
    rintro ⟨other, place⟩ member
    have inside := (List.mem_zipIdx member).2.1
    rw [Nat.zero_add] at inside
    simp only [List.take_append_of_le_length inside.le]
  rw [descriptionParts, List.zipIdx_append, List.filterMap_append, front]
  cases added : describedBy lines line <;> simp [added]

theorem joinedText_concat (parts : List String) (part : String) :
    joinedText (parts ++ [part]) = some (RouteBlock.describe (joinedText parts) part) := by
  rw [joinedText, joinedText, if_neg (by simp)]
  by_cases empty : parts = []
  · subst empty
    simp [RouteBlock.describe, joinLines, String.intercalate_singleton]
  · rw [if_neg empty, RouteBlock.describe, joinLines, joinLines,
      String.intercalate_append_of_ne_nil empty (by simp), String.intercalate_singleton]

/-! ## Reading one line -/

theorem readOrigin_eq (value : List Char) :
    readOrigin value = Asn.read (trim (withoutMark value)) := by
  match value with
  | [] => rfl
  | [single] =>
      have noMark : ¬ foldCase (List.take 2 [single]) = "as".toList := by
        simp [foldCase]
      rw [readOrigin, withoutMark, if_neg noMark]
      intro a s number impossible
      simp at impossible
  | a :: s :: number =>
      have mark : foldCase (List.take 2 (a :: s :: number)) = "as".toList <->
          (a = 'A' ∨ a = 'a') ∧ (s = 'S' ∨ s = 's') := by
        have letterA := @toLower_eq_iff 'A' (by decide) a
        have letterS := @toLower_eq_iff 'S' (by decide) s
        simpa [foldCase] using and_congr letterA letterS
      rw [readOrigin, withoutMark, List.drop_succ_cons, List.drop_succ_cons, List.drop_zero]
      simp only [mark]
      split
      · rfl
      · rfl

section
variable (block : RouteBlock) {line : String} {name value : List Char}

theorem networkOf_of_attribute (found : routeAttributeOf line = some (name, value)) :
    networkOf line =
      if name = "route".toList ∨ name = "route6".toList then Network.read value else none := by
  rw [networkOf, found]
  rfl

theorem originOf_of_attribute (found : routeAttributeOf line = some (name, value)) :
    originOf line = if name = "origin".toList then readOrigin value else none := by
  rw [originOf, found, readOrigin_eq]
  rfl

theorem readLine_of_none (noAttribute : routeAttributeOf line = none) :
    block.readLine line =
      if isContinuation line then block.continuationLine (lineText line).tail else block := by
  change block.contentLine (lineText line) = _
  rw [routeAttributeOf] at noAttribute
  rw [isContinuation] at noAttribute ⊢
  cases shape : lineText line with
  | nil => rfl
  | cons mark value =>
      rw [shape] at noAttribute
      cases marks : RouteBlock.isContinuationMark mark with
      | true => simp [RouteBlock.contentLine, marks]
      | false =>
          simp [marks] at noAttribute
          simp [RouteBlock.contentLine, marks, noAttribute]

theorem exists_readLine_eq (found : routeAttributeOf line = some (name, value)) :
    exists rawName rawValue, trim rawName = name ∧ sanitize rawValue = value ∧
      block.readLine line = block.attributeLine rawName rawValue := by
  rw [routeAttributeOf] at found
  split at found
  · cases found
  · next plain =>
      rcases Option.map_eq_some_iff.mp found with ⟨⟨rawName, rawValue⟩, isCut, same⟩
      cases same
      refine ⟨rawName, rawValue, rfl, rfl, ?_⟩
      change block.contentLine (lineText line) = _
      rw [isContinuation] at plain
      cases shape : lineText line with
      | nil =>
          rw [shape] at isCut
          cases isCut
      | cons mark value =>
          rw [shape] at isCut plain
          have noMark : RouteBlock.isContinuationMark mark = false := by simpa using plain
          simp [RouteBlock.contentLine, noMark, isCut]

/-- An attribute line changes what it gives, and it is a description or not. -/
theorem readLine_of_attribute (found : routeAttributeOf line = some (name, value)) :
    block.readLine line =
      { entry :=
          { address := ((networkOf line).map Network.addressText).or block.entry.address
            length := ((networkOf line).map Network.length).or block.entry.length
            origin := (originOf line).or block.entry.origin
            description :=
              if name = "descr".toList then
                some (RouteBlock.describe block.entry.description (String.ofList value))
              else block.entry.description }
        describing := decide (name = "descr".toList) } := by
  rcases exists_readLine_eq block found with ⟨rawName, rawValue, isName, isValue, read⟩
  rw [read, RouteBlock.attributeLine, isName, isValue, RouteAttribute.ofName,
    networkOf_of_attribute found, originOf_of_attribute found, sanitized, isValue]
  by_cases network : name = "route".toList ∨ name = "route6".toList
  · have notOrigin : name ≠ "origin".toList := by
      rcases network with rfl | rfl <;> decide
    have notDescription : name ≠ "descr".toList := by
      rcases network with rfl | rfl <;> decide
    rw [if_pos network, if_pos network, if_neg notOrigin, if_neg notDescription,
      decide_eq_false notDescription]
    cases Network.read value <;> rfl
  · rw [if_neg network, if_neg network]
    by_cases origin : name = "origin".toList
    · have notDescription : name ≠ "descr".toList := by
        rw [origin]
        decide
      rw [if_pos origin, if_pos origin, if_neg notDescription, decide_eq_false notDescription]
      cases readOrigin value <;> rfl
    · rw [if_neg origin, if_neg origin]
      by_cases description : name = "descr".toList
      · rw [if_pos description, if_pos description, decide_eq_true description]
        rfl
      · rw [if_neg description, if_neg description, decide_eq_false description]
        rfl

end

/-! ## Reading a block -/

/-- Whether a block holds what lines say.  It remembers of the attribute lines whether the last
one is a description, in which case there is a description to go on with. -/
structure Gathers (lines : List String) (block : RouteBlock) : Prop where
  address : block.entry.address = (lastRead networkOf lines).map Network.addressText
  length : block.entry.length = (lastRead networkOf lines).map Network.length
  origin : block.entry.origin = lastRead originOf lines
  description : block.entry.description = joinedText (descriptionParts lines)
  describing : block.describing = decide (lastName lines = some "descr".toList)
  described : block.describing = true -> descriptionParts lines ≠ []

theorem gathers_fresh : Gathers [] .fresh where
  address := rfl
  length := rfl
  origin := rfl
  description := rfl
  describing := rfl
  described describing := by cases describing

section
variable {lines : List String} {block : RouteBlock} {line : String}

theorem lastRead_concat_of_none {read : String -> Option X} (nothing : read line = none) :
    lastRead read (lines ++ [line]) = lastRead read lines := by
  rw [lastRead_concat, nothing, Option.none_or]

theorem lastReads_concat_of_none (noAttribute : routeAttributeOf line = none) :
    lastRead networkOf (lines ++ [line]) = lastRead networkOf lines ∧
      lastRead originOf (lines ++ [line]) = lastRead originOf lines ∧
        lastName (lines ++ [line]) = lastName lines := by
  refine ⟨?_, ?_, ?_⟩
  · exact lastRead_concat_of_none (by rw [networkOf, noAttribute]; rfl)
  · exact lastRead_concat_of_none (by rw [originOf, noAttribute]; rfl)
  · rw [lastName, lastRead_concat_of_none noAttribute, lastName]

/-- A line that is no attribute and describes nothing leaves a block as it is. -/
theorem Gathers.concat_of_nothing (gathers : Gathers lines block)
    (noAttribute : routeAttributeOf line = none) (nothing : describedBy lines line = none) :
    Gathers (lines ++ [line]) block := by
  rcases @lastReads_concat_of_none lines line noAttribute with ⟨networks, origins, names⟩
  have parts := descriptionParts_concat lines line
  rw [nothing, Option.toList_none, List.append_nil] at parts
  exact ⟨by rw [networks, gathers.address], by rw [networks, gathers.length],
    by rw [origins, gathers.origin], by rw [parts, gathers.description],
    by rw [names, gathers.describing], by rw [parts]; exact gathers.described⟩

/-- A line that goes on with a description is a part of it. -/
theorem Gathers.concat_of_continuation (gathers : Gathers lines block)
    (noAttribute : routeAttributeOf line = none) (continues : isContinuation line = true)
    (named : lastName lines = some "descr".toList) :
    Gathers (lines ++ [line]) (block.continuationLine (lineText line).tail) := by
  rcases @lastReads_concat_of_none lines line noAttribute with ⟨networks, origins, names⟩
  have part : describedBy lines line = some (sanitized (lineText line).tail) := by
    rw [describedBy, noAttribute]
    exact if_pos ⟨continues, named⟩
  have parts := descriptionParts_concat lines line
  rw [part, Option.toList_some] at parts
  have describing : block.describing = true := by
    rw [gathers.describing, decide_eq_true named]
  have text := gathers.description
  rw [joinedText, if_neg (gathers.described describing)] at text
  rw [RouteBlock.continuationLine, describing, text]
  refine ⟨by rw [networks, gathers.address], by rw [networks, gathers.length],
    by rw [origins, gathers.origin], ?_, by rw [names, decide_eq_true named], ?_⟩
  · rw [parts, joinedText_concat, joinedText, if_neg (gathers.described describing)]
  · intro _
    rw [parts]
    simp

theorem Gathers.concat_of_none (gathers : Gathers lines block)
    (noAttribute : routeAttributeOf line = none) :
    Gathers (lines ++ [line]) (block.readLine line) := by
  rw [readLine_of_none block noAttribute]
  by_cases goesOn : isContinuation line = true ∧ lastName lines = some "descr".toList
  · rw [if_pos goesOn.1]
    exact gathers.concat_of_continuation noAttribute goesOn.1 goesOn.2
  · have nothing : describedBy lines line = none := by
      rw [describedBy, noAttribute]
      exact if_neg goesOn
    have same : (if isContinuation line = true then block.continuationLine (lineText line).tail
        else block) = block := by
      split
      · next continues =>
          have notDescribing : block.describing = false := by
            rw [gathers.describing, decide_eq_false_iff_not]
            exact fun named => goesOn ⟨continues, named⟩
          rw [RouteBlock.continuationLine, notDescribing]
      · rfl
    rw [same]
    exact gathers.concat_of_nothing noAttribute nothing

theorem Gathers.concat_of_attribute (gathers : Gathers lines block) {name value : List Char}
    (found : routeAttributeOf line = some (name, value)) :
    Gathers (lines ++ [line]) (block.readLine line) := by
  have described : describedBy lines line =
      if name = "descr".toList then some (String.ofList value) else none := by
    rw [describedBy, found]
  have parts := descriptionParts_concat lines line
  rw [described] at parts
  have name_concat : lastName (lines ++ [line]) = some name := by
    rw [lastName, lastRead_concat, found]
    rfl
  rw [readLine_of_attribute block found]
  refine ⟨?_, ?_, ?_, ?_, ?_, ?_⟩
  · rw [lastRead_concat, Option.map_or, gathers.address]
  · rw [lastRead_concat, Option.map_or, gathers.length]
  · rw [lastRead_concat, gathers.origin]
  · rw [parts]
    by_cases description : name = "descr".toList
    · simp only [description, if_true, Option.toList_some, joinedText_concat, gathers.description]
    · simp only [description, if_false, Option.toList_none, List.append_nil, gathers.description]
  · rw [name_concat]
    simp only [Option.some.injEq]
  · intro describing
    rw [parts, if_pos (of_decide_eq_true describing)]
    simp

theorem Gathers.readLine (gathers : Gathers lines block) (line : String) :
    Gathers (lines ++ [line]) (block.readLine line) := by
  cases found : routeAttributeOf line with
  | none => exact gathers.concat_of_none found
  | some pair => exact gathers.concat_of_attribute found

/-- What is known of a block that gathered lines is what these lines say. -/
theorem Gathers.close (gathers : Gathers lines block) : block.close = contentEntry lines := by
  rcases block with ⟨⟨address, length, origin, description⟩, describing⟩
  have addresses : address = _ := gathers.address
  have lengths : length = _ := gathers.length
  have origins : origin = _ := gathers.origin
  have descriptions : description = _ := gathers.description
  rw [RouteBlock.close, contentEntry, addresses, lengths, origins, descriptions]
  cases lastRead networkOf lines <;> rfl

end

theorem gathers_readAll (lines : List String) :
    Gathers (lines.filter fun line => !isCommentLine line) (RouteBlock.fresh.readAll lines) := by
  rw [RouteBlock.readAll]
  induction lines.filter fun line => !isCommentLine line using List.reverseRecOn with
  | nil => exact gathers_fresh
  | append_singleton lines line ih =>
      rw [List.foldl_append]
      exact ih.readLine line

/-- The entry of a block is what its lines say, comments left out. -/
theorem blockEntry_eq (lines : List String) :
    blockEntry lines = contentEntry (lines.filter fun line => !isCommentLine line) :=
  (gathers_readAll lines).close

/-- The lines of the blocks of a dump are lines of the dump. -/
theorem mem_of_mem_block {lines block : List String}
    (isBlock : block ∈ lines.splitOnP isBlankLine) {line : String} (member : line ∈ block) :
    line ∈ lines := by
  induction lines using dump_induction with
  | last content filled =>
      rw [List.splitOnP_eq_singleton filled, List.mem_singleton] at isBlock
      rw [← isBlock]
      exact member
  | ended content blank rest filled isBlank ih =>
      rw [List.splitOnP_append_cons_of_forall_mem filled blank isBlank] at isBlock
      rcases List.mem_cons.mp isBlock with rfl | later
      · exact List.mem_append_left _ member
      · exact List.mem_append_right _ (List.mem_cons_of_mem _ (ih later))

theorem contentEntry_eq_none_iff {lines : List String} :
    contentEntry lines = none <-> forall line, line ∈ lines -> networkOf line = none := by
  rw [contentEntry, Option.map_eq_none_iff, lastRead, List.getLast?_eq_none_iff,
    List.filterMap_eq_nil_iff]

theorem exists_network_of_contentEntry {lines : List String} {entry : RouteEntry}
    (found : contentEntry lines = some entry) :
    exists line network, line ∈ lines ∧ networkOf line = some network ∧ entry.Has network := by
  rcases Option.map_eq_some_iff.mp found with ⟨network, last, rfl⟩
  rcases List.mem_filterMap.mp (List.mem_of_getLast? last) with ⟨line, member, gives⟩
  exact ⟨line, network, member, gives, rfl, rfl⟩

theorem routeEntries_of_content {lines : List String}
    (content : forall line, line ∈ lines ->
      isBlankLine line = false ∧ isCommentLine line = false) :
    routeEntries lines = (contentEntry lines).toList := by
  have noComment : lines.filter (fun line => !isCommentLine line) = lines := by
    rw [List.filter_eq_self]
    intro line member
    rw [(content line member).2]
    rfl
  rw [routeEntries_eq, List.splitOnP_eq_singleton fun line member => (content line member).1,
    List.filterMap_cons, blockEntry_eq, noComment]
  cases contentEntry lines <;> rfl

/-- Every entry has the network of some line of the dump. -/
theorem exists_network_of_mem_routeEntries {lines : List String} {entry : RouteEntry}
    (member : entry ∈ routeEntries lines) :
    exists line network, line ∈ lines ∧ networkOf line = some network ∧ entry.Has network := by
  rw [routeEntries_eq] at member
  rcases List.mem_filterMap.mp member with ⟨block, isBlock, found⟩
  rw [blockEntry_eq] at found
  rcases exists_network_of_contentEntry found with ⟨line, network, inBlock, gives, has⟩
  exact ⟨line, network, mem_of_mem_block isBlock (List.mem_filter.mp inBlock).1, gives, has⟩

/-- The lines of a block, without blanks and comments, give an entry exactly when one of them
gives a network.  Its network and its origin are the last ones that can be read, and its
description is made of the description lines and of the lines that go on with one, in order.
A dump is read block by block in this way, and an entry always has both parts of a network. -/
theorem block_yields_last_readable_values :
    (forall lines : List String,
      (forall line, line ∈ lines -> isBlankLine line = false ∧ isCommentLine line = false) ->
        routeEntries lines = (contentEntry lines).toList ∧
        (routeEntries lines ≠ [] <->
          exists line, line ∈ lines ∧ (networkOf line).isSome = true)) ∧
    (forall lines, routeEntries lines = (lines.splitOnP isBlankLine).filterMap fun block =>
      contentEntry (block.filter fun line => !isCommentLine line)) ∧
    (forall lines entry, entry ∈ routeEntries lines ->
      entry.address.isSome = true ∧ entry.length.isSome = true ∧
        entry.isComplete = entry.origin.isSome) := by
  refine ⟨?_, ?_, ?_⟩
  · intro lines content
    refine ⟨routeEntries_of_content content, ?_⟩
    rw [routeEntries_of_content content, ne_eq, Option.toList_eq_nil_iff,
      contentEntry_eq_none_iff]
    simp only [not_forall, exists_prop, Option.isSome_iff_ne_none, ne_eq]
  · intro lines
    rw [routeEntries_eq]
    exact congrArg (fun read => List.filterMap read _) (funext blockEntry_eq)
  · intro lines entry member
    rcases exists_network_of_mem_routeEntries member with ⟨_, network, _, _, has⟩
    rw [RouteEntry.isComplete, has.address, has.length]
    exact ⟨rfl, rfl, rfl⟩

/-- A block with values that cannot be read and with lines that go on with others. -/
def unreadableBlock : List String :=
  ["route: 10.0.0.0/8\r\n", "origin: as64500", "descr: one", "no attribute", "+ two",
    "origin: ASXYZ", "\tnot three", "route: no network", " not four", "descr: 'five'",
    "route6: 2001:DB8::/32"]

/-- The second network replaces the first one, and the first origin stays. -/
theorem unreadable_values_change_nothing :
    (forall line, line ∈ unreadableBlock ->
        isBlankLine line = false ∧ isCommentLine line = false) ∧
      routeEntries unreadableBlock =
        [⟨some "2001:db8::", some 32, some 64500, some "one\ntwo\nfive"⟩] := by
  have content : forall line, line ∈ unreadableBlock ->
      isBlankLine line = false ∧ isCommentLine line = false := by decide
  refine ⟨content, ?_⟩
  rw [(block_yields_last_readable_values.1 unreadableBlock content).1]
  decide

end Rpsl
end AsCensus
