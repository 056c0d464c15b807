import AsCensus.Settings.Tree

namespace AsCensus
namespace Settings
namespace Json

open Text

/-!
# Settings files in JSON

A settings file may be written as a JSON object.  Its members name values.

Numbers that are no integers of 64 bits with a sign are taken as numbers with a
fraction.  A name may be given more than once, and all of its values are kept in their
order.  Objects and lists lie within one another to a limited depth only.
-/

/-- Whether a character may stand between values. -/
def isGap (c : Char) : Bool :=
  c == ' ' || c == '\t' || c == '\n' || c == '\r'

/-! ## Texts -/

/-- The number that four hexadecimal digits write. -/
def unit? (digits : List Char) : Option Nat :=
  if digits.all (isDigit 16) then some (ofDigits 16 digits) else none

/-- The character that two halves beyond the first 65536 characters make. -/
def joinHalves? (high low : Nat) : Option Char :=
  if 0xd800 ≤ high ∧ high < 0xdc00 ∧ 0xdc00 ≤ low ∧ low < 0xe000 then
    some (Char.ofNat (0x10000 + (high - 0xd800) * 0x400 + (low - 0xdc00)))
  else
    none

/-- The character that a letter after a backslash stands for. -/
def escaped? : Char -> Option Char
  | '"' => some '"'
  | '\\' => some '\\'
  | '/' => some '/'
  | 'b' => some '\x08'
  | 'f' => some '\x0c'
  | 'n' => some '\n'
  | 'r' => some '\r'
  | 't' => some '\t'
  | _ => none

/-- Put a character before a text that was scanned. -/
def before (c : Option Char) (scanned : Option (List Char × List Char)) :
    Option (List Char × List Char) := do
  let c ← c
  let (text, rest) ← scanned
  some (c :: text, rest)

/-- Scan a text after its opening quote. -/
def scanTextRest : Scanner (List Char)
  | [] => none
  | '"' :: rest => some ([], rest)
  | '\\' :: 'u' :: a :: b :: c :: d :: rest =>
      match codePoint [a, b, c, d] with
      | some found => before (some found) (scanTextRest rest)
      | none =>
          match rest with
          | '\\' :: 'u' :: e :: f :: g :: h :: rest =>
              let joined := do joinHalves? (← unit? [a, b, c, d]) (← unit? [e, f, g, h])
              before joined (scanTextRest rest)
          | _ => none
  | '\\' :: c :: rest => before (escaped? c) (scanTextRest rest)
  | c :: rest => if c.toNat < 32 then none else before (some c) (scanTextRest rest)

/-! ## Words -/

/-- The number that a word writes. -/
def readNumber (word : List Char) : Option Scalar :=
  let (negative, digits) := splitSign word
  if word.head? = some '+' ∨ word.contains '_' then none
  else if digits.any fun c => c == '.' || isExponentMark c then readFraction negative digits
  else if word = ['-', '0'] then some (.fraction "-0")
  else (readDecimal negative digits).or (readFraction negative digits)

/-- What a word writes. -/
def readWord (word : List Char) : Option Node :=
  if word = "null".toList then some .nothing
  else if word = "true".toList then some (.scalar (.bool true))
  else if word = "false".toList then some (.scalar (.bool false))
  else (readNumber word).map Node.scalar

/-! ## Values -/

/-- How deep objects and lists may lie within one another. -/
def nestingLimit : Nat := 127

/-- What follows a character, with the blanks around it. -/
def afterMark? (mark : Char) (text : List Char) : Option (List Char) :=
  (after? [mark] (skipRun isGap text)).map (skipRun isGap)

mutual

/-- Scan a value that may go `depth` levels deep. -/
def scanValue : Nat -> Nat -> Scanner Node
  | 0, _, _ => none
  | fuel + 1, depth, text =>
      match text, depth with
      | '"' :: rest, _ => (scanTextRest rest).map fun (value, rest) =>
          (.scalar (.text (String.ofList value)), rest)
      | '[' :: rest, inner + 1 =>
          match afterMark? ']' rest with
          | some rest => some (.list [], rest)
          | none => do
              let (items, rest) ← scanItems fuel inner (skipRun isGap rest)
              some (.list items, rest)
      | '\x7b' :: rest, inner + 1 =>
          match afterMark? '\x7d' rest with
          | some rest => some (.table .closed [], rest)
          | none => do
              let (members, rest) ← scanMembers fuel inner (skipRun isGap rest)
              some (.table .closed members, rest)
      | text, _ => do
          let (word, rest) ← scanRun isWordChar text
          some (← readWord word, rest)

/-- Scan the items of a list, of which there is one at least, and its end. -/
def scanItems : Nat -> Nat -> Scanner (List Node)
  | 0, _, _ => none
  | fuel + 1, depth, text => do
      let (item, rest) ← scanValue fuel depth text
      match afterMark? ',' rest with
      | some rest => do
          let (items, rest) ← scanItems fuel depth rest
          some (item :: items, rest)
      | none => do some ([item], ← afterMark? ']' rest)

/-- Scan the members of an object, of which there is one at least, and its end. -/
def scanMembers : Nat -> Nat -> Scanner Members
  | 0, _, _ => none
  | fuel + 1, depth, text => do
      let (name, rest) ← scanTextRest (← after? ['"'] text)
      let (node, rest) ← scanValue fuel depth (← afterMark? ':' rest)
      let member := (String.ofList name, node)
      match afterMark? ',' rest with
      | some rest => do
          let (members, rest) ← scanMembers fuel depth rest
          some (member :: members, rest)
      | none => do some ([member], ← afterMark? '\x7d' rest)

end

/-- What the members of a settings file name, if it is well formed. -/
def readDocument (text : List Char) : Option Members :=
  match scanValue text.length.succ nestingLimit (skipRun isGap text) with
  | some (.table _ members, rest) => if (skipRun isGap rest).isEmpty then some members else none
  | _ => none

end Json
end Settings
end AsCensus
