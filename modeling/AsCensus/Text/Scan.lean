import AsCensus.Text.Cut

namespace AsCensus
namespace Text

/-!
# Scanners

A scanner reads a value off the front of a text and leaves the rest.
-/

/-- A function that reads a value off the front of a text. -/
abbrev Scanner (X : Type) := List Char -> Option (X × List Char)

/-- Scan the longest run of characters that satisfy `p`, if there is any. -/
def scanRun (p : Char -> Bool) : Scanner (List Char) := fun text =>
  match text.takeWhile p with
  | [] => none
  | run => some (run, text.dropWhile p)

/-- The longest rest of a text that does not start with a character of `p`. -/
def skipRun (p : Char -> Bool) (text : List Char) : List Char :=
  text.dropWhile p

end Text
end AsCensus
