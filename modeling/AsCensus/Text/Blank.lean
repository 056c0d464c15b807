namespace AsCensus
namespace Text

/-!
# Blank characters and trimming

A character is blank when it has the Unicode property White_Space.  Registries
answer in many encodings and languages, so the whole property counts here and
not its ASCII part alone.

The main facts are that trimming leaves no blank character at either end
(`trim_head_not_blank`, `trim_last_not_blank`) and that trimming twice is
trimming once (`trim_trim`).
-/

/-- The characters with the Unicode property White_Space. -/
def blanks : List Char :=
  ['\u0009', '\u000a', '\u000b', '\u000c', '\u000d', '\u0020', '\u0085', '\u00a0', '\u1680',
   '\u2000', '\u2001', '\u2002', '\u2003', '\u2004', '\u2005', '\u2006', '\u2007', '\u2008',
   '\u2009', '\u200a', '\u2028', '\u2029', '\u202f', '\u205f', '\u3000']

/-- Whether a character is blank. -/
def isBlank (c : Char) : Bool :=
  blanks.contains c

/-- Drop the longest final segment whose elements all satisfy `p`. -/
def dropEndWhile (p : X -> Bool) (values : List X) : List X :=
  (values.reverse.dropWhile p).reverse

/-- Drop the blank characters at both ends. -/
def trim (text : List Char) : List Char :=
  dropEndWhile isBlank (text.dropWhile isBlank)

/-- The characters that end a line. -/
def isLineEnd (c : Char) : Bool :=
  c == '\r' || c == '\n'

/-- Drop the line end characters after a line, however many there are. -/
def trimLineEnd (line : List Char) : List Char :=
  dropEndWhile isLineEnd line

/-- Whether a text has no character that is not blank. -/
def isAllBlank (text : List Char) : Bool :=
  text.all isBlank

theorem dropWhile_head_not {p : X -> Bool} {values : List X} {first : X} {rest : List X}
    (shape : values.dropWhile p = first :: rest) : p first = false := by
  induction values with
  | nil => simp at shape
  | cons head tail ih =>
      rw [List.dropWhile_cons] at shape
      split at shape
      · exact ih shape
      · next stops =>
          cases shape
          simpa using stops

theorem dropEndWhile_append_dropped (p : X -> Bool) (values : List X) :
    dropEndWhile p values ++ (values.reverse.takeWhile p).reverse = values := by
  rw [dropEndWhile, ← List.reverse_append, List.takeWhile_append_dropWhile, List.reverse_reverse]

theorem dropEndWhile_last_not {p : X -> Bool} {values front : List X} {last : X}
    (shape : dropEndWhile p values = front ++ [last]) : p last = false := by
  have reversed : values.reverse.dropWhile p = last :: front.reverse := by
    rw [← List.reverse_reverse (values.reverse.dropWhile p)]
    change (dropEndWhile p values).reverse = _
    rw [shape]
    simp
  exact dropWhile_head_not reversed

theorem dropWhile_eq_self_of_head {p : X -> Bool} {first : X} {rest : List X}
    (stops : p first = false) : (first :: rest).dropWhile p = first :: rest := by
  simp [stops]

theorem dropEndWhile_eq_self_of_last {p : X -> Bool} {front : List X} {last : X}
    (stops : p last = false) : dropEndWhile p (front ++ [last]) = front ++ [last] := by
  simp [dropEndWhile, stops]

theorem trim_last_not_blank {text front : List Char} {last : Char}
    (shape : trim text = front ++ [last]) : isBlank last = false :=
  dropEndWhile_last_not shape

theorem trim_head_not_blank {text rest : List Char} {first : Char}
    (shape : trim text = first :: rest) : isBlank first = false := by
  have whole := dropEndWhile_append_dropped isBlank (text.dropWhile isBlank)
  change trim text ++ _ = _ at whole
  rw [shape] at whole
  exact dropWhile_head_not whole.symm

theorem trim_trim (text : List Char) : trim (trim text) = trim text := by
  have front : (trim text).dropWhile isBlank = trim text := by
    cases shape : trim text with
    | nil => rfl
    | cons first rest => exact dropWhile_eq_self_of_head (trim_head_not_blank shape)
  change dropEndWhile isBlank ((trim text).dropWhile isBlank) = trim text
  rw [front]
  rcases List.eq_nil_or_concat (trim text) with empty | ⟨start, last, shape⟩
  · rw [empty]
    rfl
  · rw [List.concat_eq_append] at shape
    rw [shape]
    exact dropEndWhile_eq_self_of_last (trim_last_not_blank shape)

end Text
end AsCensus
