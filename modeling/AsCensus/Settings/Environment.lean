import AsCensus.Text.Alphanumeric
import AsCensus.Text.Blank
import AsCensus.Text.Scan
import AsCensus.Text.Utf8

namespace AsCensus

open Text

/-!
# Environment variables

Variables come from the environment of the program and from a file in the working
directory.  A variable of the environment is never changed by the file, and of two
entries of the file the first one counts.

An entry is a name, an equals sign and a value, perhaps after the word `export`.
In a value, quotes keep blanks, a backslash keeps the character after it, and a
dollar sign puts the value of a variable in place of its name; single quotes keep
everything as it is.  Quotes may hold line ends.  A comment starts with a number
sign after a blank.  The first entry that cannot be read ends the file, and so does
the first line whose bytes are no text.
-/

/-- The variables that are set, by name. -/
abbrev Environment := List (String × String)

namespace Environment

/-- The value of a variable. -/
def valueOf? (environment : Environment) (name : String) : Option String :=
  environment.lookup name

/-- Set a variable unless it is set. -/
def setMissing (environment : Environment) (name value : String) : Environment :=
  if (environment.valueOf? name).isSome then environment else environment ++ [(name, value)]

/-! ## Entries that go over several lines -/

/-- Where the end of a line lies within an entry. -/
inductive LineState
  | complete
  | blank
  | escape
  | weak
  | weakEscape
  | strong
  | strongEscape
  deriving DecidableEq, Repr

/-- The state after a character outside of quotes. -/
def LineState.outside (c : Char) : LineState :=
  if c = '\\' then escape
  else if c = '"' then weak
  else if c = '\'' then strong
  else complete

/-- The state after a character.  There is none where a comment starts. -/
def LineState.next (state : LineState) (c : Char) : Option LineState :=
  match state with
  | blank => if c = '#' then none else some (outside c)
  | complete =>
      if isBlank c && !isLineEnd c then some blank else some (outside c)
  | escape => some complete
  | weak =>
      if c = '\\' then some weakEscape
      else if c = '"' then some complete
      else some weak
  | weakEscape => some weak
  | strong =>
      if c = '\\' then some strongEscape
      else if c = '\'' then some complete
      else some strong
  | strongEscape => some strong

/-- The part of a line before a comment, and the state at its end.  A comment ends
an entry. -/
def LineState.follow (state : LineState) : List Char -> List Char × LineState
  | [] => ([], state)
  | c :: rest =>
      match state.next c with
      | none => ([], complete)
      | some after =>
          let (kept, final) := after.follow rest
          (c :: kept, final)

/-- A line without its line end. -/
def withoutLineEnd (line : List Char) : List Char :=
  match line.reverse with
  | '\n' :: '\r' :: rest => rest.reverse
  | '\n' :: rest => rest.reverse
  | _ => line

/-- The entries of lines, of which `pending` is the start of the first one.  An entry
that does not end is no entry, and neither is a line that is no text. -/
def entriesFrom (state : LineState) (pending : List Char) :
    List (Option (List Char)) -> List (Option (List Char))
  | [] => if state = .complete then [] else [none]
  | none :: _ => [none]
  | some line :: rest =>
      if ((pending ++ line).dropWhile isBlank).head? = some '#' then
        entriesFrom .complete [] rest
      else
        let (kept, after) := state.follow line
        if after = .complete then
          some (withoutLineEnd (pending ++ kept)) :: entriesFrom .complete [] rest
        else
          entriesFrom after (pending ++ kept) rest

/-! ## Values -/

/-- Where a reader stands within a value. -/
inductive ValueState
  | plain
  /-- Within double quotes. -/
  | weak
  /-- Within single quotes. -/
  | strong
  /-- After a backslash, with the state to go back to. -/
  | escape (inWeak : Bool)
  /-- Within the name of a variable. -/
  | naming (inWeak : Bool) (name : List Char)
  /-- Within the name of a variable between braces. -/
  | bracedName (inWeak : Bool) (name : List Char)
  /-- After the value. -/
  | ended
  deriving DecidableEq, Repr

/-- The state outside of a name or an escape. -/
def ValueState.back (inWeak : Bool) : ValueState :=
  if inWeak then weak else plain

/-- The value of a variable, empty if it is not set. -/
def textOf (environment : Environment) (name : List Char) : List Char :=
  ((environment.valueOf? (String.ofList name)).getD "").toList

/-- The character that an escape stands for. -/
def escaped (c : Char) : Option Char :=
  if c = 'n' then some '\n'
  else if ['\\', '\'', '"', '$', ' '].contains c then some c
  else none

/-- Read the rest of a value. -/
def readValue (environment : Environment) : ValueState -> List Char -> Option (List Char)
  | state, [] =>
      match state with
      | .plain => some []
      | .ended => some []
      | .escape false => some []
      | .naming false name => some (environment.textOf name)
      | _ => none
  | state, c :: rest =>
      match state with
      | .ended =>
          if c = ' ' ∨ c = '\t' then readValue environment .ended rest
          else if c = '#' then some []
          else none
      | .escape inWeak => do
          let kept ← escaped c
          let text ← readValue environment (.back inWeak) rest
          some (kept :: text)
      | .strong =>
          if c = '\'' then
            readValue environment .plain rest
          else
            (readValue environment .strong rest).map fun text => c :: text
      | .naming inWeak name =>
          if isAlphanumeric c then
            readValue environment (.naming inWeak (name ++ [c])) rest
          else if c = '\x7b' ∧ name = [] then
            readValue environment (.bracedName inWeak []) rest
          else if c = '$' then
            (readValue environment (.naming inWeak []) rest).map fun text =>
              environment.textOf name ++ text
          else
            (readValue environment (.back inWeak) rest).map fun text =>
              environment.textOf name ++ c :: text
      | .bracedName inWeak name =>
          if c = '\x7d' then
            (readValue environment (.back inWeak) rest).map fun text =>
              environment.textOf name ++ text
          else
            readValue environment (.bracedName inWeak (name ++ [c])) rest
      | .weak =>
          if c = '$' then readValue environment (.naming true []) rest
          else if c = '"' then readValue environment .plain rest
          else if c = '\\' then readValue environment (.escape true) rest
          else (readValue environment .weak rest).map fun text => c :: text
      | .plain =>
          if c = '$' then readValue environment (.naming false []) rest
          else if c = '\'' then readValue environment .strong rest
          else if c = '"' then readValue environment .weak rest
          else if c = '\\' then readValue environment (.escape false) rest
          else if c = ' ' ∨ c = '\t' then readValue environment .ended rest
          else (readValue environment .plain rest).map fun text => c :: text

/-! ## Entries -/

/-- Whether a character may be part of the name of an entry. -/
def isEntryChar (c : Char) : Bool :=
  c.isAlphanum || c == '_' || c == '.'

/-- Scan the name of an entry, which starts with a letter or an underscore, and the
blanks after it. -/
def scanName : Scanner String := fun text =>
  match text.head? with
  | none => none
  | some c =>
      if c.isAlpha || c == '_' then
        (scanRun isEntryChar text).map fun (name, rest) =>
          (String.ofList name, rest.dropWhile isBlank)
      else
        none

/-- Scan the name of an entry and the equals sign after it. -/
def scanNamed : Scanner String := fun text => do
  let (name, rest) ← scanName text
  match after? ['='] rest with
  | some rest => some (name, rest.dropWhile isBlank)
  | none =>
      if name = "export" then do
        let (name, rest) ← scanName rest
        let rest ← after? ['='] rest
        some (name, rest.dropWhile isBlank)
      else
        none

/-- What an entry sets.  A blank entry and a comment set nothing. -/
def readEntry (environment : Environment) (entry : List Char) :
    Option (Option (String × String)) :=
  let text := trim entry
  if text.head? = none ∨ text.head? = some '#' then
    some none
  else do
    let (name, rest) ← scanNamed text
    if rest.head? = some '#' then
      some (some (name, ""))
    else do
      let value ← environment.readValue .plain rest
      some (some (name, String.ofList value))

/-- The environment after the entries of a file. -/
def addEntries (environment : Environment) : List (Option (List Char)) -> Environment
  | [] => environment
  | none :: _ => environment
  | some entry :: rest =>
      match environment.readEntry entry with
      | none => environment
      | some none => addEntries environment rest
      | some (some (name, value)) => addEntries (environment.setMissing name value) rest

/-- The environment after a file of variables. -/
def addFile (environment : Environment) (bytes : List UInt8) : Environment :=
  match (byteLines bytes).map decodeExact? with
  | [] => environment
  | first :: rest =>
      environment.addEntries (entriesFrom .complete [] (first.map withoutMark :: rest))

end Environment
end AsCensus
