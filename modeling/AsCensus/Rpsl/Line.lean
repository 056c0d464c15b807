import AsCensus.Text.Blank
import AsCensus.Text.Cut

namespace AsCensus
namespace Rpsl

open Text

/-!
# Lines of registry text

WHOIS servers and routing registry dumps write objects as lines of the form
`attribute: value`, with blank lines between objects and with comments.  A line
may still carry its line end characters when it is classified here; they never
count.

A value is stored without quotes and backslashes.  It is trimmed before these
characters are taken out, so that blank characters which only a quote kept
inside the value stay where they are.
-/

/-- Whether a line, without its line end, is a comment. -/
def isComment : List Char -> Bool
  | '#' :: _ => true
  | '%' :: _ => true
  | _ => false

/-- The characters that no stored value contains. -/
def isQuoting (c : Char) : Bool :=
  c == '\'' || c == '"' || c == '\\'

/-- A value as it is stored: trimmed, and then without quoting characters. -/
def sanitize (value : List Char) : List Char :=
  (trim value).filter fun c => !isQuoting c

/-- A value as it is stored, as a string. -/
def sanitized (value : List Char) : String :=
  String.ofList (sanitize value)

theorem not_isQuoting_of_mem_sanitize {value : List Char} {c : Char}
    (member : c ∈ sanitize value) : isQuoting c = false := by
  simpa using (List.mem_filter.mp member).2

theorem not_isQuoting_of_mem_sanitized {value : List Char} {c : Char}
    (member : c ∈ (sanitized value).toList) : isQuoting c = false := by
  rw [sanitized, String.toList_ofList] at member
  exact not_isQuoting_of_mem_sanitize member

end Rpsl
end AsCensus
