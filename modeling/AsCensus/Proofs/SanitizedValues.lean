import AsCensus.Rpsl.Line

namespace AsCensus

/-!
# What sanitizing a value leaves

A value is trimmed before its quoting characters are taken out, and not afterwards.  So a
blank character which stands next to the quote at an end of a value comes to that end
(`startsBlank_sanitize_iff`), and only a second pass trims it.  What one pass leaves is
therefore no normal form of values.  What two passes leave is one, because the first pass
takes out all quoting characters and the second one then does nothing but trim
(`sanitize_sanitize`).

Both ends are treated alike: a text ends with what its reverse starts with.
-/

namespace Text

/-- Whether the first character of a text is blank. -/
def startsBlank (text : List Char) : Bool :=
  text.head?.any isBlank

/-- Whether the last character of a text is blank. -/
def endsBlank (text : List Char) : Bool :=
  text.getLast?.any isBlank

theorem endsBlank_eq (text : List Char) : endsBlank text = startsBlank text.reverse := by
  rw [endsBlank, startsBlank, List.head?_reverse]

theorem startsBlank_trim (text : List Char) : startsBlank (trim text) = false := by
  unfold startsBlank
  cases shape : trim text with
  | nil => rfl
  | cons first rest => exact trim_head_not_blank shape

theorem endsBlank_trim (text : List Char) : endsBlank (trim text) = false := by
  unfold endsBlank
  rcases List.eq_nil_or_concat (trim text) with empty | ⟨front, last, shape⟩
  · rw [empty]
    rfl
  · rw [List.concat_eq_append] at shape
    rw [shape, List.getLast?_concat]
    exact trim_last_not_blank shape

/-- Trimming takes nothing off a text exactly if neither end of it is blank. -/
theorem trim_eq_self_iff {text : List Char} :
    trim text = text <-> startsBlank text = false ∧ endsBlank text = false := by
  constructor
  · intro same
    rw [← same]
    exact ⟨startsBlank_trim text, endsBlank_trim text⟩
  · rintro ⟨noStart, noEnd⟩
    have front : text.dropWhile isBlank = text := by
      cases text with
      | nil => rfl
      | cons first rest => exact dropWhile_eq_self_of_head noStart
    rw [trim, front]
    rcases List.eq_nil_or_concat text with rfl | ⟨start, last, rfl⟩
    · rfl
    · rw [List.concat_eq_append] at noEnd ⊢
      rw [endsBlank, List.getLast?_concat] at noEnd
      exact dropEndWhile_eq_self_of_last noEnd

theorem mem_of_mem_trim {text : List Char} {c : Char} (member : c ∈ trim text) : c ∈ text := by
  apply (List.dropWhile_sublist isBlank).subset
  rw [← dropEndWhile_append_dropped isBlank (text.dropWhile isBlank)]
  exact List.mem_append_left _ member

end Text

namespace Rpsl

open Text

/-- Whether quoting characters at the start of a text, one at least, stand before a blank one. -/
def HidesBlank (text : List Char) : Prop :=
  exists quotes blank rest, text = quotes ++ blank :: rest ∧ quotes ≠ [] ∧
    (forall c, c ∈ quotes -> isQuoting c = true) ∧ isBlank blank = true

theorem not_isQuoting_of_isBlank {c : Char} (blank : isBlank c = true) : isQuoting c = false := by
  have apart : blanks.any isQuoting = false := by decide
  apply Bool.eq_false_iff.mpr
  exact List.any_eq_false.mp apart c (List.contains_iff_mem.mp blank)

theorem isQuoting_eq_false_iff {c : Char} :
    isQuoting c = false <-> c ≠ '\'' ∧ c ≠ '"' ∧ c ≠ '\\' := by
  simp [isQuoting, and_assoc]

theorem sanitize_of_unquoted {value : List Char}
    (unquoted : forall c, c ∈ value -> isQuoting c = false) : sanitize value = trim value := by
  apply List.filter_eq_self.mpr
  intro c member
  rw [unquoted c (mem_of_mem_trim member)]
  rfl

/-- The second pass only trims. -/
theorem sanitize_sanitize (value : List Char) :
    sanitize (sanitize value) = trim (sanitize value) := by
  apply sanitize_of_unquoted
  intro c member
  exact not_isQuoting_of_mem_sanitize member

theorem sanitize_three_times (value : List Char) :
    sanitize (sanitize (sanitize value)) = sanitize (sanitize value) := by
  rw [sanitize_sanitize (sanitize value), sanitize_sanitize value, trim_trim]

/-! ## The ends of a sanitized value -/

/-- Taking quoting characters out of a text without a blank start brings a blank character to
its start exactly if they hid one. -/
theorem startsBlank_unquoted_iff {text : List Char} (noBlank : startsBlank text = false) :
    startsBlank (text.filter fun c => !isQuoting c) = true <-> HidesBlank text := by
  rw [startsBlank, List.head?_filter, Option.any_eq_true]
  constructor
  · rintro ⟨blank, found, isBlank⟩
    obtain ⟨-, quotes, rest, shape, quoting⟩ := List.find?_eq_some_iff_append.mp found
    refine ⟨quotes, blank, rest, shape, ?_, ?_, isBlank⟩
    · intro none
      rw [shape, none, List.nil_append, startsBlank, List.head?_cons, Option.any_some,
        isBlank] at noBlank
      cases noBlank
    · intro c member
      simpa using quoting c member
  · rintro ⟨quotes, blank, rest, shape, -, quoting, isBlank⟩
    refine ⟨blank, List.find?_eq_some_iff_append.mpr ⟨?_, quotes, rest, shape, ?_⟩, isBlank⟩
    · rw [not_isQuoting_of_isBlank isBlank]
      rfl
    · intro c member
      simpa using quoting c member

theorem startsBlank_sanitize_iff {value : List Char} :
    startsBlank (sanitize value) = true <-> HidesBlank (trim value) :=
  startsBlank_unquoted_iff (startsBlank_trim value)

theorem endsBlank_sanitize_iff {value : List Char} :
    endsBlank (sanitize value) = true <-> HidesBlank (trim value).reverse := by
  have noBlank : startsBlank (trim value).reverse = false := by
    rw [← endsBlank_eq]
    exact endsBlank_trim value
  rw [endsBlank_eq, sanitize, ← List.filter_reverse]
  exact startsBlank_unquoted_iff noBlank

theorem sanitize_sanitize_eq_iff {value : List Char} :
    sanitize (sanitize value) = sanitize value <->
      startsBlank (sanitize value) = false ∧ endsBlank (sanitize value) = false := by
  rw [sanitize_sanitize, trim_eq_self_iff]

/-- A sanitized value has no quote, no double quote and no backslash.  An end of it is blank
exactly if quoting characters at that end of the trimmed value stood outside of a blank one,
and sanitizing it once more changes it exactly if an end is blank: the second pass trims, and a
third one never does anything.  A value without quoting characters is only trimmed. -/
theorem sanitized_is_stable_iff (value : List Char) :
    (forall c, c ∈ sanitize value -> c ≠ '\'' ∧ c ≠ '"' ∧ c ≠ '\\') ∧
    (startsBlank (sanitize value) = true <-> HidesBlank (trim value)) ∧
    (endsBlank (sanitize value) = true <-> HidesBlank (trim value).reverse) ∧
    (sanitize (sanitize value) = sanitize value <->
      ¬ HidesBlank (trim value) ∧ ¬ HidesBlank (trim value).reverse) ∧
    sanitize (sanitize value) = trim (sanitize value) ∧
    sanitize (sanitize (sanitize value)) = sanitize (sanitize value) ∧
    ((forall c, c ∈ value -> isQuoting c = false) -> sanitize value = trim value) := by
  refine ⟨?_, startsBlank_sanitize_iff, endsBlank_sanitize_iff, ?_, sanitize_sanitize value,
    sanitize_three_times value, sanitize_of_unquoted⟩
  · intro c member
    exact isQuoting_eq_false_iff.mp (not_isQuoting_of_mem_sanitize member)
  · rw [sanitize_sanitize_eq_iff, ← startsBlank_sanitize_iff, ← endsBlank_sanitize_iff,
      Bool.not_eq_true, Bool.not_eq_true]

/-- A value that a blank and a double quote end. -/
def quotedCompany : List Char :=
  "  \"O'Neill & Sons \" ".toList

/-- The blank before the last double quote is left by the first pass and not by the second. -/
theorem sanitize_quoted_company :
    sanitize quotedCompany = "ONeill & Sons ".toList ∧
      endsBlank (sanitize quotedCompany) = true ∧
      sanitize (sanitize quotedCompany) = "ONeill & Sons".toList ∧
      ('&' ≠ '\'' ∧ '&' ≠ '"' ∧ '&' ≠ '\\') ∧
      sanitize "  ONeill\t".toList = trim "  ONeill\t".toList := by
  have once : sanitize quotedCompany = "ONeill & Sons ".toList := by decide
  have hidden : HidesBlank (trim quotedCompany).reverse :=
    ⟨['"'], ' ', "snoS & llieN'O\"".toList, by decide, by decide,
      List.forall_mem_singleton.mpr rfl, by decide⟩
  rcases sanitized_is_stable_iff quotedCompany with ⟨clean, _, ends, _, again, _⟩
  have plain := (sanitized_is_stable_iff "  ONeill\t".toList).2.2.2.2.2.2
  have noQuotes : "  ONeill\t".toList.any isQuoting = false := by decide
  refine ⟨once, ends.mpr hidden, ?_, clean '&' (by decide), plain ?_⟩
  · rw [again, once]
    decide
  · intro c member
    exact Bool.eq_false_iff.mpr (List.any_eq_false.mp noQuotes c member)

/-- A quote at the start keeps the blank after it from being trimmed the first time. -/
theorem sanitize_uncovers_blank :
    startsBlank (sanitize "\" x".toList) = true ∧
      sanitize (sanitize "\" x".toList) ≠ sanitize "\" x".toList := by
  decide

end Rpsl
end AsCensus
