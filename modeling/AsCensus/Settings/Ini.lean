import AsCensus.Settings.Tree
import AsCensus.Text.Blank

namespace AsCensus
namespace Settings
namespace Ini

open Text

/-!
# Settings files in INI form

A settings file may consist of lines that name values, under headings in brackets.  The
values under a heading belong to its table.  A key ends with an equals sign or a colon.

A value goes to the end of its line, without the blanks around it.  Parts of it may stand
in quotes of either kind, to keep blanks and to go over several lines.  A backslash
changes the meaning of the character after it, in keys, headings and values alike.  A
comment takes a whole line.

A key may be given more than once, and all of its values are kept in their order.
-/

/-- What a character after a backslash stands for. -/
def escaped : Char -> List Char
  | '0' => ['\x00']
  | 'a' => ['\x07']
  | 'b' => ['\x08']
  | 't' => ['\t']
  | 'r' => ['\r']
  | 'n' => ['\n']
  | '\n' => []
  | c => [c]

/-- Scan up to a character that satisfies `stops`, which is left.  With `mayEnd` the
text may end before. -/
def scanUntil (stops : Char -> Bool) (mayEnd : Bool) : Scanner (List Char)
  | [] => if mayEnd then some ([], []) else none
  | c :: rest =>
      if stops c then
        some ([], c :: rest)
      else if c = '\\' then
        match rest with
        | 'x' :: a :: b :: c :: d :: more => do
            prefixed [← codePoint [a, b, c, d]] (scanUntil stops mayEnd more)
        | 'x' :: _ => none
        | d :: more => prefixed (escaped d) (scanUntil stops mayEnd more)
        | [] => none
      else
        prefixed [c] (scanUntil stops mayEnd rest)

/-- Scan up to a character, which is skipped. -/
def scanThrough (stop : Char) (text : List Char) : Option (List Char × List Char) :=
  (scanUntil (· == stop) false text).map fun (found, rest) => (found, rest.tail)

/-- Whether a character is blank and does not end a line. -/
def isInnerBlank (c : Char) : Bool :=
  isBlank c && !isLineEnd c

/-- Scan what is left of a value.  With `isStart` nothing of it has been read. -/
def scanValueRest : Nat -> Bool -> Scanner (List Char)
  | 0, _, _ => none
  | fuel + 1, isStart, text =>
      match text with
      | '"' :: rest => do
          let (part, rest) ← scanThrough '"' rest
          prefixed part (scanValueRest fuel false rest)
      | '\'' :: rest => do
          let (part, rest) ← scanThrough '\'' rest
          prefixed part (scanValueRest fuel false rest)
      | text => do
          let (part, rest) ← scanUntil isLineEnd true text
          some (if isStart then trim part else dropEndWhile isBlank part, rest)

/-- Scan a value. -/
def scanValue : Scanner String := fun text =>
  let rest := skipRun isInnerBlank text
  (scanValueRest rest.length.succ true rest).map fun (value, rest) => (String.ofList value, rest)

/-- What has been read of a settings file: what stands under no heading or under a
finished one, and what stands under the last heading. -/
structure Progress where
  members : Members := []
  heading : Option (String × Members) := none

namespace Progress

/-- All that has been read. -/
def all (progress : Progress) : Members :=
  match progress.heading with
  | none => progress.members
  | some (name, members) => progress.members ++ [(name, .table .named members)]

/-- Go on under a heading. -/
def under (progress : Progress) (name : String) : Progress :=
  ⟨progress.all, some (name, [])⟩

/-- Name a value. -/
def add (progress : Progress) (key value : String) : Progress :=
  let member := (key, Node.scalar (.text value))
  match progress.heading with
  | none => { progress with members := progress.members ++ [member] }
  | some (name, members) => { progress with heading := some (name, members ++ [member]) }

end Progress

/-- Read on to the end of a text.  With `isFirst` its first character is the first one
of a line, where a comment may stand. -/
def readFrom : Nat -> Bool -> Progress -> List Char -> Option Members
  | 0, _, _, _ => none
  | fuel + 1, isFirst, progress, text =>
      let blanks := text.takeWhile isBlank
      let isFirst := (blanks.getLast?.map (· == '\n')).getD isFirst
      match text.drop blanks.length with
      | [] => some progress.all
      | c :: rest =>
          if c = ';' ∨ c = '#' then
            if isFirst then
              readFrom fuel true progress ((rest.dropWhile (· != '\n')).drop 1)
            else
              none
          else if c = '[' then do
            let (name, rest) ← scanThrough ']' rest
            readFrom fuel false (progress.under (String.ofList (trim name))) rest
          else do
            let (key, rest) ← scanUntil (fun c => c == '=' || c == ':') false (c :: rest)
            let (value, rest) ← scanValue rest.tail
            if trim key = [] then none
            else readFrom fuel false (progress.add (String.ofList (trim key)) value) rest

/-- What the keys of a settings file name, if it is well formed. -/
def readDocument (text : List Char) : Option Members :=
  readFrom text.length.succ true {} text

end Ini
end Settings
end AsCensus
