import AsCensus.Settings.Tree
import AsCensus.Text.Utf8

namespace AsCensus
namespace Settings

open Text

/-!
# Reading a settings file

A settings file is read line by line.  A line names a value, or is the header of a
table, and may end with a comment.  The values named after a header belong to its
table.  Lists, tables between braces, and texts in three quotes may go over several
lines.

Lists and tables between braces lie within one another to a limited depth only.  The
number of items and of lines is bounded by the length of the text, which therefore
serves as the measure of the reading.
-/

/-- Whether a character may be part of a key without quotes. -/
def isKeyChar (c : Char) : Bool :=
  c.isAlphanum || c == '_' || c == '-'

/-- Skip a comment, if there is one. -/
def skipComment : List Char -> Option (List Char)
  | '#' :: rest =>
      let after := rest.dropWhile isPlain
      if after.isEmpty ∨ (afterLineEnd? after).isSome then some after else none
  | text => some text

/-- Scan one part of a key. -/
def scanKeyPart : Scanner String := fun text =>
  match scanShortText text with
  | some found => some found
  | none => (scanRun isKeyChar text).map fun (key, rest) => (String.ofList key, rest)

/-- Scan the parts of a key, with points between them. -/
def scanKey : Nat -> Scanner (List String)
  | 0, _ => none
  | fuel + 1, text => do
      let (part, rest) ← scanKeyPart (skipRun isLineBlank text)
      match skipRun isLineBlank rest with
      | '.' :: more => do
          let (parts, rest) ← scanKey fuel more
          some (part :: parts, rest)
      | rest => some ([part], rest)

/-- Skip blanks, line ends and comments within a list or between braces. -/
def skipLines : Nat -> List Char -> Option (List Char)
  | 0, _ => none
  | fuel + 1, text =>
      let rest := skipRun isLineBlank text
      match afterLineEnd? rest with
      | some more => skipLines fuel more
      | none =>
          match rest with
          | '#' :: more => do skipLines fuel (← skipComment ('#' :: more))
          | rest => some rest

/-- Skip whatever separates the items of a list or the members between braces. -/
def skipGap (text : List Char) : Option (List Char) :=
  skipLines text.length.succ text

/-- How deep lists and tables between braces may lie within one another. -/
def nestingLimit : Nat := 80

/-- Name a value by a key in a table. -/
def assignKey (key : List String) (node : Node) (members : Members) : Option Members := do
  let last ← key.getLast?
  members.assign last node key.dropLast

mutual

/-- Scan a value that may go `depth` levels deep. -/
def scanValue : Nat -> Nat -> Scanner Node
  | 0, _, _ => none
  | fuel + 1, depth, text =>
      match text, depth with
      | '[' :: rest, inner + 1 => do
          let (items, rest) ← scanItems fuel inner rest
          some (.list items, rest)
      | '\x7b' :: rest, inner + 1 => do
          let (members, rest) ← scanMembers fuel inner [] rest
          some (.table .closed members, rest)
      | text, _ => (scanScalar text).map fun (value, rest) => (.scalar value, rest)

/-- Scan the items of a list and the bracket that ends it. -/
def scanItems : Nat -> Nat -> Scanner (List Node)
  | 0, _, _ => none
  | fuel + 1, depth, text => do
      match ← skipGap text with
      | ']' :: rest => some ([], rest)
      | text => do
          let (item, rest) ← scanValue fuel depth text
          match ← skipGap rest with
          | ',' :: rest => do
              let (items, rest) ← scanItems fuel depth rest
              some (item :: items, rest)
          | ']' :: rest => some ([item], rest)
          | _ => none

/-- Scan the members of a table between braces and the brace that ends it. -/
def scanMembers : Nat -> Nat -> Members -> Scanner Members
  | 0, _, _, _ => none
  | fuel + 1, depth, members, text => do
      match ← skipGap text with
      | '\x7d' :: rest => some (members, rest)
      | text => do
          let (key, rest) ← scanKey text.length.succ text
          let rest ← after? ['='] (← skipGap rest)
          let (node, rest) ← scanValue fuel depth (← skipGap rest)
          let members ← assignKey key node members
          match ← skipGap rest with
          | ',' :: rest => scanMembers fuel depth members rest
          | '\x7d' :: rest => some (members, rest)
          | _ => none

end

/-- What has been read of a settings file: its tables, and the header whose table
the next values belong to. -/
structure Progress where
  members : Members := []
  header : List String := []

/-- Read the header of a table up to the brackets that end it. -/
def readHeader (change : String -> Members -> Option Members) (close : List Char)
    (progress : Progress) (text : List Char) : Option (Progress × List Char) := do
  let (key, rest) ← scanKey text.length.succ text
  let rest ← after? close rest
  let last ← key.getLast?
  let members ← progress.members.inside (change last) key.dropLast
  some (⟨members, key⟩, rest)

/-- Read a named value. -/
def readEntry (progress : Progress) (text : List Char) : Option (Progress × List Char) := do
  let (key, rest) ← scanKey text.length.succ text
  let rest ← after? ['='] rest
  let (node, rest) ← scanValue text.length.succ nestingLimit (skipRun isLineBlank rest)
  let members ← progress.members.inside (assignKey key node) progress.header
  some ({ progress with members := members }, rest)

/-- Read what stands at the front of a line. -/
def readLine (progress : Progress) (text : List Char) : Option (Progress × List Char) :=
  match text with
  | [] => some (progress, [])
  | '#' :: _ => some (progress, text)
  | '[' :: '[' :: rest => readHeader Members.nameNextTable [']', ']'] progress rest
  | '[' :: rest => readHeader Members.nameTable [']'] progress rest
  | text => if (afterLineEnd? text).isSome then some (progress, text) else readEntry progress text

/-- Read lines up to the end of a text. -/
def readLinesFrom : Nat -> Progress -> List Char -> Option Members
  | 0, _, _ => none
  | fuel + 1, progress, text => do
      let (progress, rest) ← readLine progress (skipRun isLineBlank text)
      let rest ← skipComment (skipRun isLineBlank rest)
      match afterLineEnd? rest with
      | some rest => readLinesFrom fuel progress rest
      | none => if rest.isEmpty then some progress.members else none

/-- What the keys of a settings file name, if it is well formed.  A byte order mark at
its front does not belong to it. -/
def readDocument (text : List Char) : Option Members :=
  readLinesFrom text.length.succ {} (withoutMark text)

end Settings
end AsCensus
