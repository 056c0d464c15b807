import AsCensus.Text.Case
import AsCensus.Text.Numeral
import AsCensus.Text.Scan

namespace AsCensus
namespace Store

open Text

/-!
# Words of a statement

Names of tables are put into statements as they are given, so that a name is whatever
text reads as one there.  A statement consists of tokens: names, numbers and marks, with
blanks and comments between them.  The character zero ends a statement.

A name in quotes may hold any characters, and a quote in it is written twice.  A name
in brackets cannot hold the bracket that ends it.  Only the letters of ASCII have a
letter case in names.
-/

/-- A token of a statement. -/
inductive Token
  /-- A name without quotes, which may be a word of the language. -/
  | word (text : List Char)
  | quoted (text : List Char)
  | number (value : Nat)
  | mark (c : Char)
  deriving DecidableEq, Repr

namespace Token

/-- Whether a character separates tokens. -/
def isGap (c : Char) : Bool :=
  c == ' ' || c == '\t' || c == '\n' || c == '\x0c' || c == '\r' || c == '\ufeff'

/-- Whether a character may start a name without quotes. -/
def isWordStart (c : Char) : Bool :=
  c.isAlpha || c == '_' || 128 ≤ c.toNat

/-- Whether a character may go on with a name without quotes. -/
def isWordPart (c : Char) : Bool :=
  isWordStart c || c.isDigit || c == '$'

/-- Whether a character is a token of its own. -/
def isMark (c : Char) : Bool :=
  c == '.' || c == ',' || c == ';' || c == '(' || c == ')' || c == '='

/-- Scan a name after its opening quote. -/
def scanQuoted (quote : Char) : Scanner (List Char)
  | [] => none
  | c :: rest =>
      if c = quote then
        match rest with
        | d :: more =>
            if d = quote then
              (scanQuoted quote more).map fun (text, rest) => (quote :: text, rest)
            else
              some ([], d :: more)
        | [] => some ([], [])
      else
        (scanQuoted quote rest).map fun (text, rest) => (c :: text, rest)

/-- Scan one token, which is neither a blank nor a comment. -/
def scan : Scanner Token
  | [] => none
  | c :: rest =>
      if c = '"' ∨ c = '\'' ∨ c = '\x60' then
        (scanQuoted c rest).map fun (text, rest) => (quoted text, rest)
      else if c = '[' then
        (cut [']'] rest).map fun (text, rest) => (quoted text, rest)
      else if isMark c then
        some (mark c, rest)
      else
        match scanRun isWordPart (c :: rest) with
        | some (run, rest) =>
            if run.all (isDigit 10) then some (number (ofDigits 10 run), rest)
            else if isWordStart c then some (word run, rest)
            else none
        | none => none

/-- What follows a comment at the front of a text.  A comment between marks may be left
open at the end, if it holds anything. -/
def afterComment? : List Char -> Option (List Char)
  | '-' :: '-' :: rest => some (rest.dropWhile fun c => c != '\n')
  | '/' :: '*' :: c :: rest =>
      match cut ['*', '/'] (c :: rest) with
      | some (_, after) => some after
      | none => some []
  | _ => none

/-- Scan the tokens of a text, which has at most `fuel` characters. -/
def scanAll : Nat -> List Char -> Option (List Token)
  | _, [] => some []
  | 0, _ => none
  | fuel + 1, text =>
      let rest := skipRun isGap text
      match afterComment? rest with
      | some after => scanAll fuel after
      | none =>
          if rest.isEmpty then
            some []
          else do
            let (token, rest) ← scan rest
            let tokens ← scanAll fuel rest
            some (token :: tokens)

/-- The tokens of a text. -/
def ofText? (text : String) : Option (List Token) :=
  let stated := text.toList.takeWhile fun c => c != '\x00'
  scanAll stated.length.succ stated

end Token
end Store
end AsCensus
