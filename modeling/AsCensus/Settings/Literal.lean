import AsCensus.Settings.Moment
import AsCensus.Text.Binary64
import AsCensus.Text.Blank
import AsCensus.Text.Scan

namespace AsCensus
namespace Settings

open Text

/-!
# Values of a settings file

A settings file is written in the TOML notation, version 1.1.  Its plain values are
texts, integers of 64 bits with a sign, numbers with a fraction, truth values, and
dates and times.

Texts stand in single or double quotes, or in three of either to go over several
lines.  Escapes are read between double quotes only.  A line ends with a line feed or
with a carriage return and a line feed, and a text of several lines keeps the line
ends as they are.
-/

/-- A plain value. -/
inductive Scalar
  | text (value : String)
  | integer (value : Int)
  /-- A number with a fraction, given by its text. -/
  | fraction (shown : String)
  | bool (value : Bool)
  | moment (value : Moment)
  deriving DecidableEq, Repr

/-- The text that a plain value is taken as. -/
def Scalar.shown : Scalar -> String
  | text value => value
  | integer value => decimalInt value
  | fraction shown => shown
  | bool true => "true"
  | bool false => "false"
  | moment value => value.shown

/-- Whether a character is blank within a line. -/
def isLineBlank (c : Char) : Bool :=
  c == ' ' || c == '\t'

/-- Whether a character may stand for itself within a line. -/
def isPlain (c : Char) : Bool :=
  c == '\t' || (32 ≤ c.toNat && c != '\x7f')

/-- What follows the line end at the front of a text. -/
def afterLineEnd? : List Char -> Option (List Char)
  | '\n' :: rest => some rest
  | '\r' :: '\n' :: rest => some rest
  | _ => none

/-- Whether a character may stand for itself in a text of several lines, where `rest`
follows it. -/
def isPlainOrEnd (c : Char) (rest : List Char) : Bool :=
  isPlain c || (afterLineEnd? (c :: rest)).isSome

/-! ## Texts -/

/-- The character that hexadecimal digits stand for. -/
def codePoint (digits : List Char) : Option Char :=
  let number := ofDigits 16 digits
  if digits.all (isDigit 16) ∧ number.isValidChar then some (Char.ofNat number) else none

/-- Put a character before a text. -/
def prepend (c : Option Char) (rest : Option (List Char)) : Option (List Char) := do
  let c ← c
  let rest ← rest
  some (c :: rest)

/-- Read the escapes of a text. -/
def readEscapes : List Char -> Option (List Char)
  | [] => some []
  | '\\' :: 'b' :: rest => prepend (some '\x08') (readEscapes rest)
  | '\\' :: 't' :: rest => prepend (some '\t') (readEscapes rest)
  | '\\' :: 'n' :: rest => prepend (some '\n') (readEscapes rest)
  | '\\' :: 'f' :: rest => prepend (some '\x0c') (readEscapes rest)
  | '\\' :: 'r' :: rest => prepend (some '\r') (readEscapes rest)
  | '\\' :: 'e' :: rest => prepend (some '\x1b') (readEscapes rest)
  | '\\' :: '"' :: rest => prepend (some '"') (readEscapes rest)
  | '\\' :: '\\' :: rest => prepend (some '\\') (readEscapes rest)
  | '\\' :: 'x' :: a :: b :: rest => prepend (codePoint [a, b]) (readEscapes rest)
  | '\\' :: 'u' :: a :: b :: c :: d :: rest => prepend (codePoint [a, b, c, d]) (readEscapes rest)
  | '\\' :: 'U' :: a :: b :: c :: d :: e :: f :: g :: h :: rest =>
      prepend (codePoint [a, b, c, d, e, f, g, h]) (readEscapes rest)
  | '\\' :: _ => none
  | c :: rest => prepend (some c) (readEscapes rest)

/-- Whether a backslash before this text goes on with the line. -/
def continuesLine (rest : List Char) : Bool :=
  (afterLineEnd? (rest.dropWhile isLineBlank)).isSome

/-- Take out the line ends after a backslash, with all blanks that follow.  While
`skipping`, blanks and line ends are left out. -/
def joinContinued (skipping : Bool) : List Char -> List Char
  | [] => []
  | c :: rest =>
      if skipping && (isLineBlank c || isLineEnd c) then
        joinContinued true rest
      else if c = '\\' then
        match rest with
        | [] => ['\\']
        | d :: more =>
            if continuesLine (d :: more) then joinContinued true (d :: more)
            else '\\' :: d :: joinContinued false more
      else
        c :: joinContinued false rest

/-- Put characters before a text that was scanned. -/
def prefixed (front : List Char) : Option (List Char × List Char) ->
    Option (List Char × List Char)
  | some (text, rest) => some (front ++ text, rest)
  | none => none

/-- Scan up to the quote that ends a text within one line.  With `escapes` a
backslash and the character after it belong together. -/
def scanToQuote (quote : Char) (escapes : Bool) : Scanner (List Char)
  | [] => none
  | c :: rest =>
      if c = quote then
        some ([], rest)
      else if escapes ∧ c = '\\' then
        match rest with
        | d :: more => if isPlain d then prefixed [c, d] (scanToQuote quote escapes more) else none
        | [] => none
      else if isPlain c then
        prefixed [c] (scanToQuote quote escapes rest)
      else
        none

/-- What three quotes at the front of a text end.  Up to two quotes more belong to
the text that they end. -/
def closeLong (quote : Char) (text : List Char) : Option (List Char × List Char) :=
  match (text.takeWhile (· == quote)).length with
  | 0 => none
  | 1 => none
  | 2 => none
  | 3 => some ([], text.drop 3)
  | 4 => some ([quote], text.drop 4)
  | _ => some ([quote, quote], text.drop 5)

/-- Scan up to the three quotes that end a text of several lines. -/
def scanToLongQuote (quote : Char) (escapes : Bool) : Scanner (List Char)
  | [] => none
  | c :: rest =>
      match closeLong quote (c :: rest) with
      | some found => some found
      | none =>
          if escapes ∧ c = '\\' then
            match rest with
            | d :: more =>
                if isPlainOrEnd d more then prefixed [c, d] (scanToLongQuote quote escapes more)
                else none
            | [] => none
          else if isPlainOrEnd c rest then
            prefixed [c] (scanToLongQuote quote escapes rest)
          else
            none

/-- A line end right after the opening quotes does not belong to the text. -/
def withoutFirstEnd (text : List Char) : List Char :=
  (afterLineEnd? text).getD text

/-- Scan a text within one line. -/
def scanShortText : Scanner String
  | '"' :: rest => do
      let (raw, rest) ← scanToQuote '"' true rest
      let text ← readEscapes raw
      some (String.ofList text, rest)
  | '\'' :: rest => do
      let (text, rest) ← scanToQuote '\'' false rest
      some (String.ofList text, rest)
  | _ => none

/-- Scan a text in any quotes. -/
def scanText : Scanner String
  | '"' :: '"' :: '"' :: rest => do
      let (raw, rest) ← scanToLongQuote '"' true (withoutFirstEnd rest)
      let text ← readEscapes (joinContinued false raw)
      some (String.ofList text, rest)
  | '\'' :: '\'' :: '\'' :: rest => do
      let (text, rest) ← scanToLongQuote '\'' false (withoutFirstEnd rest)
      some (String.ofList text, rest)
  | text => scanShortText text

/-! ## Numbers and truth values -/

/-- The digits of a number.  An underscore may stand between two digits. -/
def groupedDigits (radix : Nat) (text : List Char) : Option (List Char) :=
  let groups := text.splitOn '_'
  if groups.all fun group => group ≠ [] ∧ group.all (isDigit radix) then
    some groups.flatten
  else
    none

/-- Digits of a decimal number, which starts with a zero only if that is all. -/
def wholeDigits (text : List Char) : Option (List Char) :=
  match groupedDigits 10 text with
  | some ('0' :: _ :: _) => none
  | found => found

/-- One more than the greatest integer. -/
def integerBound : Nat := 9223372036854775808

/-- The integer of digits in a radix with a prefix. -/
def readRadix (radix : Nat) (text : List Char) : Option Scalar := do
  let number := ofDigits radix (← groupedDigits radix text)
  if number < integerBound then some (.integer number) else none

/-- The integer of decimal digits with a sign. -/
def readDecimal (negative : Bool) (text : List Char) : Option Scalar := do
  let number := ofDigits 10 (← wholeDigits text)
  if negative then
    if number ≤ integerBound then some (.integer (-Int.ofNat number)) else none
  else
    if number < integerBound then some (.integer number) else none

/-- The exponent that follows its mark, zero if there is no mark. -/
def readExponent : List Char -> Option Int
  | [] => some 0
  | _ :: text =>
      let (negative, digits) := splitSign text
      (groupedDigits 10 digits).map fun digits =>
        if negative then -Int.ofNat (ofDigits 10 digits) else ofDigits 10 digits

/-- The number with a fraction or an exponent that follows a sign. -/
def readFraction (negative : Bool) (text : List Char) : Option Scalar := do
  let body := text.takeWhile fun c => !isExponentMark c
  let exponent ← readExponent (text.dropWhile fun c => !isExponentMark c)
  let (whole, places) ← match body.splitOn '.' with
    | [whole] => (wholeDigits whole).map fun whole => (whole, [])
    | [whole, places] => do some (← wholeDigits whole, ← groupedDigits 10 places)
    | _ => none
  let number : Scaled := ⟨ofDigits 10 (whole ++ places), exponent - Int.ofNat places.length⟩
  let shown ← fractionText? number
  some (.fraction (if negative then "-" ++ shown else shown))

/-- The plain value that a word writes. -/
def readWord (word : List Char) : Option Scalar :=
  if word = "true".toList then some (.bool true)
  else if word = "false".toList then some (.bool false)
  else
    match word with
    | '0' :: 'x' :: digits => readRadix 16 digits
    | '0' :: 'o' :: digits => readRadix 8 digits
    | '0' :: 'b' :: digits => readRadix 2 digits
    | _ =>
        let (negative, text) := splitSign word
        if text = "inf".toList then some (.fraction (if negative then "-inf" else "inf"))
        else if text = "nan".toList then some (.fraction "NaN")
        else if text.any fun c => c == '.' || isExponentMark c then readFraction negative text
        else readDecimal negative text

/-- Whether a character may be part of a word. -/
def isWordChar (c : Char) : Bool :=
  c.isAlphanum || c == '_' || c == '+' || c == '-' || c == '.'

/-- Scan a plain value. -/
def scanScalar : Scanner Scalar := fun text =>
  match scanText text, scanMoment text with
  | some (value, rest), _ => some (.text value, rest)
  | none, some (value, rest) => some (.moment value, rest)
  | none, none => do
      let (word, rest) ← scanRun isWordChar text
      some (← readWord word, rest)

end Settings
end AsCensus
