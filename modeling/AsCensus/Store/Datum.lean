import AsCensus.Text.Binary64
import AsCensus.Text.Blank
import Std.Data.ExtTreeMap

namespace AsCensus
namespace Store

open Std
open Text

/-!
# What a column holds

A column of numbers holds integers of 64 bits with a sign, but it refuses nothing: a
number that is no such integer is held as a real, and a text that is no number stays a
text.  Only integers are read back as numbers.

A real is held exactly, as an integer and a fraction of it that is a multiple of the
least positive real.  A number too large for a real is held as the least power of two
that is.

Numbers are ordered by their values and come before texts, and texts are ordered
character by character.  A real never has the value of an integer of 64 bits, with the
exception of the two outermost ones.
-/

/-- What a column holds. -/
inductive Datum
  | integer (value : Int)
  /-- The number `whole + part / 2 ^ 1074`. -/
  | real (whole : Int) (part : Nat)
  | text (value : String)
  deriving DecidableEq, Repr

/-- One more than the greatest integer of 64 bits with a sign. -/
def exactBound : Int := 9223372036854775808

/-- A decimal with a sign. -/
structure SignedDecimal where
  negative : Bool
  number : Scaled
  /-- Whether it was written as digits alone. -/
  isPlain : Bool
  deriving DecidableEq, Repr

namespace SignedDecimal

/-- Whether a character may stand around a number. -/
def isGap (c : Char) : Bool :=
  c == ' ' || (9 ≤ c.toNat && c.toNat ≤ 13)

/-- The exponent that stands at the end of a number, if there is one. -/
def readExponent : List Char -> Option (Option Int)
  | [] => some none
  | c :: rest =>
      let (negative, digits) := splitSign rest
      if isExponentMark c ∧ digits ≠ [] ∧ digits.all (isDigit 10) then
        some (some (if negative then -Int.ofNat (ofDigits 10 digits) else ofDigits 10 digits))
      else
        none

/-- The number that a text writes.  It may have a point among its digits and an exponent
after them. -/
def ofText? (text : List Char) : Option SignedDecimal := do
  let bare := dropEndWhile isGap (text.dropWhile isGap)
  let (negative, unsigned) := splitSign bare
  let whole := unsigned.takeWhile (isDigit 10)
  let rest := unsigned.drop whole.length
  let isPointed := rest.head? == some '.'
  let afterPoint := if isPointed then rest.tail else rest
  let places := if isPointed then afterPoint.takeWhile (isDigit 10) else []
  let exponent ← readExponent (afterPoint.drop places.length)
  if whole ++ places = [] then
    none
  else
    some
      { negative := negative
        number :=
          ⟨ofDigits 10 (whole ++ places), exponent.getD 0 - Int.ofNat places.length⟩
        isPlain := !isPointed && exponent.isNone }

/-- An integer as a decimal. -/
def ofInt (value : Int) : SignedDecimal :=
  ⟨value < 0, ⟨value.natAbs, 0⟩, true⟩

/-- Give a number its sign. -/
def signed (decimal : SignedDecimal) (size : Nat) : Int :=
  if decimal.negative then -Int.ofNat size else size

end SignedDecimal

namespace Datum

/-- How many of the least positive reals make one. -/
def realUnit : Nat := Nat.pow 2 1074

/-- The real nearest to a decimal, which is held as an integer if it is one. -/
def nearest (decimal : SignedDecimal) : Datum :=
  match Binary64.nearest? decimal.number with
  | none => real (decimal.signed (Nat.pow 2 1024)) 0
  | some found =>
      let steps := (found.exponent - Binary64.leastExponent).toNat
      let value := decimal.signed (found.significand * Nat.pow 2 steps)
      let whole := value / Int.ofNat realUnit
      let part := value % Int.ofNat realUnit
      if part = 0 ∧ -exactBound < whole ∧ whole < exactBound then integer whole
      else real whole part.toNat

/-- The number that a decimal is held as. -/
def ofDecimal (decimal : SignedDecimal) : Datum :=
  let whole := decimal.signed decimal.number.factor
  if decimal.isPlain ∧ -exactBound ≤ whole ∧ whole < exactBound then integer whole
  else nearest decimal

/-- The number that an integer of any size is held as. -/
def ofInt (value : Int) : Datum :=
  if -exactBound ≤ value ∧ value < exactBound then integer value
  else nearest (.ofInt value)

/-- What a column of numbers holds when it is given something. -/
def numeric : Datum -> Datum
  | integer value => ofInt value
  | real whole part => real whole part
  | text value => ((SignedDecimal.ofText? value.toList).map ofDecimal).getD (text value)

/-- What a column of texts holds when it is given something.  Reals are not given to
columns of texts. -/
def text? : Datum -> Option String
  | integer value => some (decimalInt value)
  | real _ _ => none
  | text value => some value

/-- The integer that is read from a column. -/
def integer? : Datum -> Option Int
  | integer value => some value
  | _ => none

theorem ofInt_eq_integer {value : Int} (low : -exactBound ≤ value) (high : value < exactBound) :
    ofInt value = integer value := by
  simp [ofInt, low, high]

theorem integer?_eq_some_iff {datum : Datum} {value : Int} :
    datum.integer? = some value <-> datum = integer value := by
  cases datum <;> simp [integer?]

/-! ## The order -/

/-- Whether this is a text. -/
def isText : Datum -> Bool
  | text _ => true
  | _ => false

/-- The greatest integer that a number reaches, and zero for a text. -/
def whole : Datum -> Int
  | integer value => value
  | real whole _ => whole
  | text _ => 0

/-- What a number has above the greatest integer that it reaches. -/
def part : Datum -> Nat
  | real _ part => part
  | _ => 0

/-- Whether this is a real. -/
def isReal : Datum -> Bool
  | real _ _ => true
  | _ => false

/-- The characters of a text, and none for a number. -/
def characters : Datum -> String
  | text value => value
  | _ => ""

instance : Ord Datum where
  compare :=
    compareLex (compareOn isText) (compareLex (compareOn whole) (compareLex (compareOn part)
      (compareLex (compareOn isReal) (compareOn characters))))

instance : TransOrd Datum :=
  inferInstanceAs
    (TransCmp (compareLex (compareOn isText) (compareLex (compareOn whole)
      (compareLex (compareOn part) (compareLex (compareOn isReal) (compareOn characters))))))

instance : LawfulEqOrd Datum where
  eq_of_compare {a b} same := by
    obtain ⟨kinds, rest⟩ := Ordering.then_eq_eq.mp same
    obtain ⟨wholes, rest⟩ := Ordering.then_eq_eq.mp rest
    obtain ⟨parts, rest⟩ := Ordering.then_eq_eq.mp rest
    obtain ⟨reals, texts⟩ := Ordering.then_eq_eq.mp rest
    have sameKind := LawfulEqOrd.eq_of_compare kinds
    have sameWhole := LawfulEqOrd.eq_of_compare wholes
    have samePart := LawfulEqOrd.eq_of_compare parts
    have sameReal := LawfulEqOrd.eq_of_compare reals
    have sameText := LawfulEqOrd.eq_of_compare texts
    cases a <;> cases b <;> simp_all [isText, whole, part, isReal, characters]

theorem compare_integer (s t : Int) : compare (integer s) (integer t) = compare s t := by
  change (compare false false).then ((compare s t).then ((compare 0 0).then
    ((compare false false).then (compare "" "")))) = compare s t
  simp [compare_self]

end Datum
end Store
end AsCensus
