namespace AsCensus
namespace Text

/-!
# Cutting a text at a separator

`cut separator text` looks for the first place where `separator` stands in
`text` and gives the text on both sides of it.  Splitting at every occurrence
of one character is `List.splitOn` of the library.

The main fact is that the two sides together with the separator are the text again
(`append_of_cut`).
-/

/-- What is left of a text that starts with `start`. -/
def after? [BEq X] : (start text : List X) -> Option (List X)
  | [], text => some text
  | _ :: _, [] => none
  | a :: start, b :: text => if a == b then after? start text else none

/-- The text before and after the first occurrence of a separator. -/
def cut [BEq X] (separator : List X) : List X -> Option (List X × List X)
  | [] => (after? separator []).map fun right => ([], right)
  | first :: rest =>
      match after? separator (first :: rest) with
      | some right => some ([], right)
      | none => (cut separator rest).map fun (left, right) => (first :: left, right)

/-- Lines joined by a line feed. -/
def joinLines (lines : List String) : String :=
  String.intercalate "\n" lines

/-- The lines of a text, separated by single line feeds. -/
def lines (text : String) : List String :=
  (text.toList.splitOn '\n').map String.ofList

theorem after?_eq_some_iff [BEq X] [LawfulBEq X] {start text rest : List X} :
    after? start text = some rest <-> text = start ++ rest := by
  induction start generalizing text with
  | nil => simp [after?, eq_comm]
  | cons a start ih =>
      cases text with
      | nil => simp [after?]
      | cons b text =>
          by_cases same : a = b
          · subst same
            simp [after?, ih]
          · simp [after?, same, Ne.symm same]

theorem append_of_cut [BEq X] [LawfulBEq X] {separator text left right : List X}
    (found : cut separator text = some (left, right)) :
    text = left ++ separator ++ right := by
  induction text generalizing left right with
  | nil =>
      simp only [cut, Option.map_eq_some_iff] at found
      obtain ⟨rest, starts, shape⟩ := found
      cases shape
      simpa using after?_eq_some_iff.mp starts
  | cons first rest ih =>
      unfold cut at found
      split at found
      · next tail starts =>
          cases found
          simpa using after?_eq_some_iff.mp starts
      · obtain ⟨pair, inner, shape⟩ := Option.map_eq_some_iff.mp found
        cases shape
        simp [ih inner]

end Text
end AsCensus
