namespace AsCensus
namespace Text

/-!
# Numerals

Numbers are written with ASCII digits.  A reader is given the bound that its
numbers stay below, so that a numeral that is too large is refused and never
wrapped.  Leading zeros are accepted.  An unsigned numeral may start with one
plus sign; a signed one may start with one plus or minus sign.
-/

/-- The value of a digit up to `f`, in either letter case. -/
def digitValue (c : Char) : Option Nat :=
  if '0' ≤ c ∧ c ≤ '9' then some (c.toNat - '0'.toNat)
  else if 'a' ≤ c ∧ c ≤ 'f' then some (c.toNat - 'a'.toNat + 10)
  else if 'A' ≤ c ∧ c ≤ 'F' then some (c.toNat - 'A'.toNat + 10)
  else none

/-- Whether a character is a digit below the radix. -/
def isDigit (radix : Nat) (c : Char) : Bool :=
  match digitValue c with
  | some value => value < radix
  | none => false

/-- The number that digits write in a radix, the most significant first. -/
def ofDigits (radix : Nat) (digits : List Char) : Nat :=
  digits.foldl (fun value c => value * radix + (digitValue c).getD 0) 0

/-- The number below `bound` that a non-empty row of decimal digits writes. -/
def readDigits (bound : Nat) (digits : List Char) : Option Nat :=
  if digits ≠ [] ∧ digits.all (isDigit 10) ∧ ofDigits 10 digits < bound then
    some (ofDigits 10 digits)
  else
    none

/-- The number below `bound` that an unsigned numeral writes. -/
def readNatural (bound : Nat) : List Char -> Option Nat
  | '+' :: digits => readDigits bound digits
  | digits => readDigits bound digits

/-- The number that a signed numeral writes, from `-bound` up to below `bound`. -/
def readInteger (bound : Nat) : List Char -> Option Int
  | '+' :: digits => (readDigits bound digits).map Int.ofNat
  | '-' :: digits => (readDigits (bound + 1) digits).map fun value => -Int.ofNat value
  | digits => (readDigits bound digits).map Int.ofNat

/-- Whether there is a minus sign at the front of a number, and what follows the sign. -/
def splitSign : List Char -> Bool × List Char
  | '-' :: rest => (true, rest)
  | '+' :: rest => (false, rest)
  | text => (false, text)

/-- Whether a character starts an exponent. -/
def isExponentMark (c : Char) : Bool :=
  c == 'e' || c == 'E'

/-- The digits of a number in a radix, without leading zeros. -/
def digits (radix number : Nat) : List Char :=
  Nat.toDigits radix number

/-- The decimal text of a number. -/
def decimal (number : Nat) : String :=
  String.ofList (digits 10 number)

/-- The decimal text of an integer, with a minus sign before a negative one. -/
def decimalInt : Int -> String
  | .ofNat number => decimal number
  | .negSucc number => "-" ++ decimal (number + 1)

theorem isDigit_of_readDigits {bound number : Nat} {digits : List Char}
    (read : readDigits bound digits = some number) {c : Char} (member : c ∈ digits) :
    isDigit 10 c := by
  unfold readDigits at read
  split at read
  · next valid => exact List.all_eq_true.mp valid.2.1 c member
  · cases read

/-- An unsigned numeral consists of digits after at most one plus sign. -/
theorem isDigit_or_plus_of_readNatural {bound number : Nat} {text : List Char}
    (read : readNatural bound text = some number) {c : Char} (member : c ∈ text) :
    c = '+' ∨ isDigit 10 c := by
  unfold readNatural at read
  split at read
  · rcases List.mem_cons.mp member with sign | digit
    · exact Or.inl sign
    · exact Or.inr (isDigit_of_readDigits read digit)
  · exact Or.inr (isDigit_of_readDigits read member)

end Text
end AsCensus
