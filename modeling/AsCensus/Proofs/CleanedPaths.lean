import AsCensus.Proofs.ConditionedPaths
import Mathlib.Data.List.Destutter

namespace AsCensus

open Std
open Text

/-!
# What cleaning leaves of a path

Cleaning is two filters one after the other.  The first looks at all words of the
path and drops those that repeat the word before them letter by letter; this is
`List.destutter`.  The second keeps the words that name public systems.  The order
matters.  A word that the second filter drops has already separated its neighbours
in the first, so that a system may follow itself in the result: `Meet` tells which
words of a path come to stand next to each other.

None of this disturbs conditioning, which does not count repetitions.  But a cleaned
path is not always clean: cleaning it once more drops the repetitions that met, and
only then is there nothing left to drop.
-/

namespace AsPath

/-- Whether a word names a public system. -/
def isPublic (word : List Char) : Bool :=
  (publicHop word).isSome

/-- The words of a path, of which the empty path has none. -/
def tokens (path : String) : List (List Char) :=
  if words path = [[]] then [] else words path

/-- Two words that name public systems meet when no public system is named between
them, and they are not one word written twice in a row. -/
def Meet (texts : List (List Char)) (first second : List Char) : Prop :=
  exists front middle back,
    texts = front ++ first :: (middle ++ second :: back) ∧
    isPublic first ∧ isPublic second ∧ (forall word, word ∈ middle -> isPublic word = false) ∧
    (middle = [] -> first ≠ second)

/-! ## Words that name public systems -/

theorem isPublic_iff {word : List Char} :
    isPublic word <-> exists asn, Asn.read word = some asn ∧ asn.isReserved = false := by
  simp only [isPublic, publicHop, Option.isSome_iff_exists, Option.filter_eq_some_iff,
    Bool.not_eq_true']

theorem not_isPublic_nil : isPublic [] = false :=
  rfl

theorem isText_of_isDigit {c : Char} (digit : isDigit 10 c) : isBrace c = false ∧ c ≠ ' ' := by
  constructor
  · apply Bool.eq_false_iff.mpr
    intro brace
    simp only [isBrace, Bool.or_eq_true, beq_iff_eq] at brace
    rcases brace with rfl | rfl
    · exact absurd digit (by decide)
    · exact absurd digit (by decide)
  · rintro rfl
    exact absurd digit (by decide)

theorem isText_of_isPublic {word : List Char} (names : isPublic word) {c : Char}
    (member : c ∈ word) : isBrace c = false ∧ c ≠ ' ' := by
  rcases isPublic_iff.mp names with ⟨asn, read, _⟩
  rcases Option.bind_eq_some_iff.mp read with ⟨number, numeral, _⟩
  rcases isDigit_or_plus_of_readNatural numeral member with rfl | digit
  · decide
  · exact isText_of_isDigit digit

/-! ## Dropping repetitions first -/

section Destutter

variable {α : Type} [DecidableEq α]

theorem mem_destutter'_iff (a : α) (l : List α) {b : α} :
    b ∈ l.destutter' (· ≠ ·) a <-> b ∈ a :: l := by
  induction l generalizing a with
  | nil => rfl
  | cons c l ih =>
      by_cases same : a = c
      · rw [List.destutter'_cons_neg _ (not_not.mpr same), ih, same]
        simp
      · rw [List.destutter'_cons_pos _ same, List.mem_cons, ih, List.mem_cons (a := b) (b := a)]

theorem findSome?_destutter' {β : Type} (f : α -> Option β) (a : α) (l : List α) :
    (l.destutter' (· ≠ ·) a).findSome? f = (a :: l).findSome? f := by
  induction l generalizing a with
  | nil => rfl
  | cons c l ih =>
      by_cases same : a = c
      · rw [List.destutter'_cons_neg _ (not_not.mpr same), ih, same]
        cases found : f c <;> simp [found]
      · rw [List.destutter'_cons_pos _ same]
        cases found : f a <;> simp [found, ih]

theorem find?_destutter' (p : α -> Bool) (a : α) (l : List α) :
    (l.destutter' (· ≠ ·) a).find? p = (a :: l).find? p := by
  rw [List.find?_eq_findSome?_guard, findSome?_destutter', List.find?_eq_findSome?_guard]

end Destutter

theorem filter_append_cleanWords (previous : List Char) (texts : List (List Char)) :
    [previous].filter isPublic ++ cleanWords previous texts =
      (texts.destutter' (· ≠ ·) previous).filter isPublic := by
  -- The word before stays in front in `destutter'`, whether it names a system or not.
  induction texts generalizing previous with
  | nil => simp [cleanWords]
  | cons word rest ih =>
      by_cases same : previous = word
      · rw [List.destutter'_cons_neg _ (not_not.mpr same), ← ih, same, cleanWords, if_neg]
        exact fun kept => kept.1 rfl
      · have next : cleanWords previous (word :: rest) =
            [word].filter isPublic ++ cleanWords word rest := by
          by_cases names : isPublic word
          · rw [cleanWords, if_pos ⟨Ne.symm same, names⟩, List.filter_cons_of_pos names]
            rfl
          · rw [cleanWords, if_neg fun kept => names kept.2, List.filter_cons_of_neg names]
            rfl
        rw [next, ih, List.destutter'_cons_pos _ same, ← List.filter_append]
        rfl

theorem cleanWords_eq_filter (texts : List (List Char)) :
    cleanWords [] texts = (texts.destutter (· ≠ ·)).filter isPublic := by
  have seeded := filter_append_cleanWords [] texts
  rw [List.filter_cons_of_neg (by simp [not_isPublic_nil]), List.filter_nil, List.nil_append]
    at seeded
  rw [seeded]
  cases texts with
  | nil => rfl
  | cons word rest =>
      rw [List.destutter_cons']
      by_cases same : [] = word
      · rw [List.destutter'_cons_neg _ (not_not.mpr same), same]
      · rw [List.destutter'_cons_pos _ same, List.filter_cons_of_neg (by simp [not_isPublic_nil])]

/-! ## Reading a cleaned path -/

theorem mem_intercalate_space {texts : List (List Char)} {c : Char}
    (member : c ∈ [' '].intercalate texts) : c = ' ' ∨ exists word, word ∈ texts ∧ c ∈ word := by
  induction texts with
  | nil => cases member
  | cons word rest ih =>
      by_cases last : rest = []
      · subst last
        exact Or.inr ⟨word, List.mem_singleton_self word, by simpa using member⟩
      · rw [List.intercalate_cons_of_ne_nil last, List.append_assoc, List.mem_append,
          List.mem_append] at member
        rcases member with inWord | space | later
        · exact Or.inr ⟨word, List.mem_cons_self, inWord⟩
        · exact Or.inl (List.mem_singleton.mp space)
        · rcases ih later with space | ⟨other, among, inOther⟩
          · exact Or.inl space
          · exact Or.inr ⟨other, List.mem_cons_of_mem word among, inOther⟩

theorem isPublic_of_mem_cleanWords {texts : List (List Char)} {word : List Char}
    (kept : word ∈ cleanWords [] texts) : isPublic word := by
  rw [cleanWords_eq_filter] at kept
  exact (List.mem_filter.mp kept).2

theorem not_isBrace_of_mem_clean {path : String} {c : Char} (member : c ∈ (clean path).toList) :
    isBrace c = false := by
  rw [clean, String.toList_ofList] at member
  rcases mem_intercalate_space member with rfl | ⟨word, kept, inWord⟩
  · decide
  · exact (isText_of_isPublic (isPublic_of_mem_cleanWords kept) inWord).1

theorem words_clean (path : String) :
    words (clean path) =
      if cleanWords [] (words path) = [] then [[]] else cleanWords [] (words path) := by
  have unchanged : bare (clean path) = [' '].intercalate (cleanWords [] (words path)) := by
    rw [bare, List.filter_eq_self.mpr, clean, String.toList_ofList]
    intro c member
    rw [not_isBrace_of_mem_clean member]
    rfl
  change (bare (clean path)).splitOn ' ' = _
  rw [unchanged]
  by_cases none : cleanWords [] (words path) = []
  · rw [if_pos none, none]
    rfl
  · rw [if_neg none]
    apply List.splitOn_intercalate
    · intro word kept space
      exact (isText_of_isPublic (isPublic_of_mem_cleanWords kept) space).2 rfl
    · exact none

theorem tokens_clean_eq_cleanWords (path : String) :
    tokens (clean path) = cleanWords [] (words path) := by
  rw [tokens, words_clean]
  by_cases none : cleanWords [] (words path) = []
  · simp [none]
  · rw [if_neg none, if_neg]
    intro empty
    have kept : [] ∈ cleanWords [] (words path) := by
      rw [empty]
      exact List.mem_singleton_self []
    cases isPublic_of_mem_cleanWords kept

theorem tokens_clean (path : String) :
    tokens (clean path) = ((words path).destutter (· ≠ ·)).filter isPublic := by
  rw [tokens_clean_eq_cleanWords, cleanWords_eq_filter]

theorem isPublic_of_mem_tokens_clean {path : String} {word : List Char}
    (kept : word ∈ tokens (clean path)) : isPublic word := by
  rw [tokens_clean_eq_cleanWords] at kept
  exact isPublic_of_mem_cleanWords kept

theorem clean_eq_intercalate (path : String) :
    clean path = String.ofList ([' '].intercalate (tokens (clean path))) := by
  rw [tokens_clean_eq_cleanWords, clean]

theorem clean_eq_clean_iff {path other : String} :
    clean path = clean other <-> tokens (clean path) = tokens (clean other) := by
  constructor
  · intro same
    rw [same]
  · intro same
    rw [clean_eq_intercalate path, clean_eq_intercalate other, same]

/-! ## Conditioning a cleaned path -/

theorem filterMap_tokens (path : String) :
    (tokens path).filterMap publicHop = hops path := by
  rw [tokens, hops]
  split
  · next empty => rw [empty]; rfl
  · rfl

theorem filterMap_filter_isPublic (texts : List (List Char)) :
    (texts.filter isPublic).filterMap publicHop = texts.filterMap publicHop := by
  rw [List.filterMap_filter]
  congr
  funext word
  cases names : publicHop word <;> simp [isPublic, names]

theorem sameSystems_clean (path : String) : SameSystems (hops (clean path)) (hops path) := by
  rw [← filterMap_tokens (clean path), tokens_clean, filterMap_filter_isPublic, hops]
  cases words path with
  | nil => exact SameSystems.refl _
  | cons word rest =>
      rw [List.destutter_cons']
      constructor
      · rw [List.head?_filterMap, findSome?_destutter', List.head?_filterMap]
      · intro asn
        simp only [List.mem_filterMap, mem_destutter'_iff]

/-- Cleaning keeps what conditioning finds, and it keeps words of the path, in their
order and in their spelling. -/
theorem clean_keeps_conditioning (path : String) :
    (forall origin withoutPeer,
      condition (clean path) origin withoutPeer = condition path origin withoutPeer) ∧
    clean path = String.ofList ([' '].intercalate (tokens (clean path))) ∧
    (tokens (clean path)).Sublist (words path) ∧
    (forall word, word ∈ tokens (clean path) ->
      exists asn, Asn.read word = some asn ∧ asn.isReserved = false) := by
  refine ⟨?_, clean_eq_intercalate path, ?_, ?_⟩
  · intro origin withoutPeer
    exact condition_congr (sameSystems_clean path) origin withoutPeer
  · rw [tokens_clean]
    exact List.filter_sublist.trans (List.destutter_sublist _ _)
  · intro word kept
    exact isPublic_iff.mp (isPublic_of_mem_tokens_clean kept)

theorem condition_clean_prepended :
    clean "64512 174 174 3356" = "174 3356" ∧
    condition "174 3356" 3356 false = condition "64512 174 174 3356" 3356 false := by
  have cleaned : clean "64512 174 174 3356" = "174 3356" := by decide
  have kept := (clean_keeps_conditioning "64512 174 174 3356").1 3356 false
  rw [cleaned] at kept
  exact ⟨cleaned, kept⟩

/-! ## Words that come to stand next to each other -/

theorem pair_infix_cons_iff {α : Type} {first second a : α} {l : List α} :
    [first, second] <:+: a :: l <-> (first = a ∧ l.head? = some second) ∨ [first, second] <:+: l := by
  rw [List.infix_cons_iff, List.cons_prefix_cons, List.singleton_prefix_iff_head?_eq_some]

theorem isChain_iff_forall_pair {α : Type} {R : α -> α -> Prop} {l : List α} :
    l.IsChain R <-> forall first second, [first, second] <:+: l -> R first second := by
  rw [List.isChain_iff_forall_rel_of_append_cons_cons]
  constructor
  · rintro related first second ⟨front, back, split⟩
    apply related
    rw [← split, List.append_assoc]
    rfl
  · intro related first second front back split
    apply related
    exact ⟨front, back, by rw [split, List.append_assoc]; rfl⟩

theorem not_meet_nil {first second : List Char} : ¬Meet [] first second := by
  rintro ⟨front, middle, back, split, _⟩
  cases front <;> cases split

theorem meet_cons_iff {word first second : List Char} {rest : List (List Char)} :
    Meet (word :: rest) first second <->
      (first = word ∧ isPublic first ∧ rest.find? isPublic = some second ∧
        (rest.head? = some second -> first ≠ second)) ∨ Meet rest first second := by
  constructor
  · rintro ⟨front, middle, back, split, publicFirst, publicSecond, between, apart⟩
    cases front with
    | nil =>
        cases split
        refine Or.inl ⟨rfl, publicFirst, ?_, ?_⟩
        · apply List.find?_eq_some_iff_append.mpr
          refine ⟨publicSecond, middle, back, rfl, ?_⟩
          intro other member
          rw [between other member]
          rfl
        · intro head
          apply apart
          cases middle with
          | nil => rfl
          | cons other middle =>
              cases head
              rw [between _ List.mem_cons_self] at publicSecond
              cases publicSecond
    | cons other front =>
        cases split
        exact Or.inr ⟨front, middle, back, rfl, publicFirst, publicSecond, between, apart⟩
  · rintro (⟨rfl, publicFirst, next, apart⟩ | ⟨front, middle, back, rfl, meeting⟩)
    · rcases List.find?_eq_some_iff_append.mp next with ⟨publicSecond, middle, back, rfl, between⟩
      refine ⟨[], middle, back, rfl, publicFirst, publicSecond, ?_, ?_⟩
      · intro other member
        simpa using between other member
      · rintro rfl
        exact apart rfl
    · exact ⟨word :: front, middle, back, rfl, meeting⟩

theorem pair_infix_filter_destutter'_iff {first second : List Char} (previous : List Char)
    (texts : List (List Char)) :
    [first, second] <:+: (texts.destutter' (· ≠ ·) previous).filter isPublic <->
      Meet (previous :: texts) first second := by
  -- The word before is the first of a meeting only if the next word differs from it, and
  -- then it is the last one of its row.  Any other meeting is among the words after it.
  induction texts generalizing previous with
  | nil =>
      rw [List.destutter'_nil, meet_cons_iff]
      by_cases names : isPublic previous
      · rw [List.filter_cons_of_pos names, List.filter_nil, pair_infix_cons_iff]
        simp [not_meet_nil]
      · rw [List.filter_cons_of_neg names, List.filter_nil]
        simp [not_meet_nil]
  | cons word rest ih =>
      rw [meet_cons_iff]
      by_cases same : previous = word
      · subst same
        rw [List.destutter'_cons_neg _ (not_not.mpr rfl), ih]
        constructor
        · exact Or.inr
        · rintro (⟨rfl, names, next, apart⟩ | meeting)
          · rw [List.find?_cons_of_pos names] at next
            exact absurd (Option.some.inj next) (apart next)
          · exact meeting
      · rw [List.destutter'_cons_pos _ same]
        have apart : first = previous -> (word :: rest).head? = some second -> first ≠ second := by
          rintro rfl head
          rw [← Option.some.inj head]
          exact same
        by_cases names : isPublic previous
        · rw [List.filter_cons_of_pos names, pair_infix_cons_iff, ih, List.head?_filter,
            find?_destutter']
          constructor
          · rintro (⟨rfl, next⟩ | meeting)
            · exact Or.inl ⟨rfl, names, next, apart rfl⟩
            · exact Or.inr meeting
          · rintro (⟨isFirst, _, next, _⟩ | meeting)
            · exact Or.inl ⟨isFirst, next⟩
            · exact Or.inr meeting
        · rw [List.filter_cons_of_neg names, ih]
          constructor
          · exact Or.inr
          · rintro (⟨rfl, isNamed, _⟩ | meeting)
            · exact absurd isNamed names
            · exact meeting

theorem pair_infix_tokens_clean_iff {path : String} {first second : List Char} :
    [first, second] <:+: tokens (clean path) <-> Meet (words path) first second := by
  rw [tokens_clean]
  cases words path with
  | nil => simp [not_meet_nil]
  | cons word rest =>
      rw [List.destutter_cons']
      exact pair_infix_filter_destutter'_iff word rest

/-! ## Cleaning a cleaned path -/

theorem tokens_clean_clean (path : String) :
    tokens (clean (clean path)) = (tokens (clean path)).destutter (· ≠ ·) := by
  rw [tokens_clean (clean path), words_clean, ← tokens_clean_eq_cleanWords]
  by_cases none : tokens (clean path) = []
  · rw [if_pos none, none]
    rfl
  · rw [if_neg none]
    apply List.filter_eq_self.mpr
    intro word kept
    exact isPublic_of_mem_tokens_clean ((List.destutter_sublist _ _).subset kept)

theorem clean_clean_eq_iff {path : String} :
    clean (clean path) = clean path <-> forall word, ¬Meet (words path) word word := by
  rw [clean_eq_clean_iff, tokens_clean_clean, List.destutter_eq_self_iff, isChain_iff_forall_pair]
  simp only [pair_infix_tokens_clean_iff]
  constructor
  · intro apart word meeting
    exact apart word word meeting rfl
  · rintro none first second meeting rfl
    exact none first meeting

theorem clean_three_times (path : String) : clean (clean (clean path)) = clean (clean path) := by
  rw [clean_eq_clean_iff, tokens_clean_clean, tokens_clean_clean, List.destutter_idem]

/-- A cleaned path has no braces, no empty word and no word that does not name a public
system.  Words stand next to each other in it when they met in the path, so that the
same system may stand there twice; cleaning a second time settles it. -/
theorem clean_neighbours_meet (path : String) :
    (forall c, c ∈ (clean path).toList -> isBrace c = false) ∧
    (forall word, word ∈ tokens (clean path) -> word ≠ [] ∧
      exists asn, Asn.read word = some asn ∧ asn.isReserved = false) ∧
    (forall first second,
      [first, second] <:+: tokens (clean path) <-> Meet (words path) first second) ∧
    ((tokens (clean path)).IsChain (fun first second => publicHop first ≠ publicHop second) <->
      forall first second, Meet (words path) first second ->
        publicHop first ≠ publicHop second) ∧
    (clean (clean path) = clean path <-> forall word, ¬Meet (words path) word word) ∧
    clean (clean (clean path)) = clean (clean path) := by
  refine ⟨?_, ?_, ?_, ?_, clean_clean_eq_iff, clean_three_times path⟩
  · intro c member
    exact not_isBrace_of_mem_clean member
  · intro word kept
    have names := isPublic_of_mem_tokens_clean kept
    refine ⟨?_, isPublic_iff.mp names⟩
    rintro rfl
    cases names
  · intro first second
    exact pair_infix_tokens_clean_iff
  · rw [isChain_iff_forall_pair]
    simp only [pair_infix_tokens_clean_iff]

theorem prepended_words_never_meet :
    forall word, ¬Meet (words "{701} 701 3356 3356 7018") word word := by
  rcases clean_neighbours_meet "{701} 701 3356 3356 7018" with ⟨_, _, _, _, settled, _⟩
  exact settled.mp (by decide)

/-- A reserved system between two occurrences of one public system keeps them both,
and cleaning again takes one of them out. -/
theorem clean_keeps_separated_repetition :
    clean "174 65000 174" = "174 174" ∧
    ¬(tokens (clean "174 65000 174")).IsChain
      (fun first second => publicHop first ≠ publicHop second) ∧
    clean (clean "174 65000 174") ≠ clean "174 65000 174" := by
  decide

-- An empty word separates as well, and spellings are not compared as numbers.
example : clean "174  174" = "174 174" ∧ clean "5 05" = "5 05" := by
  decide

end AsPath
end AsCensus
