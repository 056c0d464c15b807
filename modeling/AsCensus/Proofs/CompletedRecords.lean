import AsCensus.Whois.Record

namespace AsCensus

/-!
# Completed records

Completing a record changes three fields at most, and none that is present.  What it
adds to a field depends on the address and the organisation identifier alone
(`Record.hint`), and completing changes neither of them.  So the three rules, although
one runs on the result of the other, are independent (`Record.get_complete`), and a
second completion finds nothing that the first one left.

The lines of an address are described by where its line feeds are, without a list of
lines: every text has a last line, which may be empty, and one with a line feed has a
line before it.
-/

namespace Text

/-- The part of a text after its last line feed, and all of it if it has none. -/
def IsLastLine (text line : String) : Prop :=
  '\n' ∉ line.toList ∧ (text = line ∨ exists front, text = front ++ "\n" ++ line)

/-- The part of a text between its last two line feeds, or before the only one. -/
def IsLineBeforeLast (text line : String) : Prop :=
  exists front last, text = front ++ "\n" ++ last ∧ '\n' ∉ last.toList ∧ IsLastLine front line

theorem lines_of_unbroken {text : String} (unbroken : '\n' ∉ text.toList) :
    lines text = [text] := by
  have none : forall c, c ∈ text.toList -> (c == '\n') = false := by
    intro c member
    exact beq_eq_false_iff_ne.mpr fun same => unbroken (same ▸ member)
  rw [lines, List.splitOn, List.splitOnP_eq_singleton none, List.map_singleton,
    String.ofList_toList]

theorem lines_append (front text : String) :
    lines (front ++ "\n" ++ text) = lines front ++ lines text := by
  have shape : (front ++ "\n" ++ text).toList = front.toList ++ '\n' :: text.toList := by simp
  rw [lines, shape, List.splitOn, List.splitOnP_append_cons front.toList text.toList rfl,
    List.map_append]
  rfl

theorem exists_last_line_feed {text : String} (broken : '\n' ∈ text.toList) :
    exists front last, text = front ++ "\n" ++ last ∧ '\n' ∉ last.toList := by
  -- The last line feed is the first one from the other side.
  obtain ⟨after, before, shape, first⟩ :=
    List.eq_append_cons_of_mem (List.mem_reverse.mpr broken)
  refine ⟨String.ofList before.reverse, String.ofList after.reverse, ?_, by simpa using first⟩
  apply String.toList_injective
  rw [← List.reverse_reverse text.toList, shape]
  simp

theorem exists_last_line (text : String) : exists line, IsLastLine text line := by
  by_cases broken : '\n' ∈ text.toList
  · obtain ⟨front, last, shape, unbroken⟩ := exists_last_line_feed broken
    exact ⟨last, unbroken, .inr ⟨front, shape⟩⟩
  · exact ⟨text, broken, .inl rfl⟩

theorem exists_line_before_last_iff {text : String} :
    (exists line, IsLineBeforeLast text line) <-> '\n' ∈ text.toList := by
  constructor
  · rintro ⟨line, front, last, rfl, -⟩
    simp
  · intro broken
    obtain ⟨front, last, shape, unbroken⟩ := exists_last_line_feed broken
    obtain ⟨line, isLast⟩ := exists_last_line front
    exact ⟨line, front, last, shape, unbroken, isLast⟩

end Text

namespace Whois
namespace Record

open Text

/-! ## Lines from the end -/

theorem lineFromEnd_zero_of_unbroken {text : String} (unbroken : '\n' ∉ text.toList) :
    lineFromEnd 0 text = some text := by
  rw [lineFromEnd, lines_of_unbroken unbroken]
  rfl

theorem lineFromEnd_zero_append (front : String) {last : String} (unbroken : '\n' ∉ last.toList) :
    lineFromEnd 0 (front ++ "\n" ++ last) = some last := by
  rw [lineFromEnd, lines_append, lines_of_unbroken unbroken, List.reverse_concat]
  rfl

theorem lineFromEnd_succ_append (distance : Nat) (front : String) {last : String}
    (unbroken : '\n' ∉ last.toList) :
    lineFromEnd (distance + 1) (front ++ "\n" ++ last) = lineFromEnd distance front := by
  rw [lineFromEnd, lines_append, lines_of_unbroken unbroken, List.reverse_concat]
  rfl

theorem lineFromEnd_of_isLastLine {text line : String} (isLast : IsLastLine text line) :
    lineFromEnd 0 text = some line := by
  obtain ⟨unbroken, rfl | ⟨front, rfl⟩⟩ := isLast
  · exact lineFromEnd_zero_of_unbroken unbroken
  · exact lineFromEnd_zero_append front unbroken

theorem lineFromEnd_zero_eq_some_iff {text line : String} :
    lineFromEnd 0 text = some line <-> IsLastLine text line := by
  refine ⟨fun found => ?_, lineFromEnd_of_isLastLine⟩
  obtain ⟨last, isLast⟩ := exists_last_line text
  have same : last = line := Option.some.inj ((lineFromEnd_of_isLastLine isLast).symm.trans found)
  exact same ▸ isLast

theorem lineFromEnd_one_eq_some_iff {text line : String} :
    lineFromEnd 1 text = some line <-> IsLineBeforeLast text line := by
  constructor
  · intro found
    by_cases broken : '\n' ∈ text.toList
    · obtain ⟨front, last, rfl, unbroken⟩ := exists_last_line_feed broken
      rw [lineFromEnd_succ_append 0 front unbroken] at found
      exact ⟨front, last, rfl, unbroken, lineFromEnd_zero_eq_some_iff.mp found⟩
    · rw [lineFromEnd, lines_of_unbroken broken] at found
      cases found
  · rintro ⟨front, last, rfl, unbroken, isLast⟩
    rw [lineFromEnd_succ_append 0 front unbroken, lineFromEnd_of_isLastLine isLast]

/-! ## What completing a record adds -/

/-- What the other fields say about one that is missing. -/
def hint (record : Record) : Field -> Option String
  | .country => (record.get .address).bind (lineFromEnd 0)
  | .stateProv => (record.get .address).bind (lineFromEnd 1)
  | .asName => record.get .orgId
  | _ => none

/-- Whether completing a record gives a text to a field that has none. -/
def Adds (record : Record) (field : Field) (text : String) : Prop :=
  record.get field = none ∧ record.complete.get field = some text

theorem get_complete (record : Record) (field : Field) :
    record.complete.get field = (record.get field).or (record.hint field) := by
  cases field <;> simp [complete, get_setMissing, hint]

theorem hint_complete (record : Record) (field : Field) :
    record.complete.hint field = record.hint field := by
  cases field <;> simp [hint, get_complete]

theorem adds_iff {record : Record} {field : Field} {text : String} :
    record.Adds field text <-> record.get field = none ∧ record.hint field = some text := by
  rw [Adds, get_complete]
  constructor
  · rintro ⟨absent, added⟩
    exact ⟨absent, by rwa [absent, Option.none_or] at added⟩
  · rintro ⟨absent, hinted⟩
    exact ⟨absent, by rw [absent, Option.none_or, hinted]⟩

theorem get_complete_of_present {record : Record} {field : Field} {text : String}
    (present : record.get field = some text) : record.complete.get field = some text := by
  rw [get_complete, present, Option.some_or]

theorem Adds.field_mem {record : Record} {field : Field} {text : String}
    (added : record.Adds field text) :
    field = .country ∨ field = .stateProv ∨ field = .asName := by
  have hinted := (adds_iff.mp added).2
  cases field <;> simp [hint] at hinted ⊢

theorem adds_country_iff {record : Record} {text : String} :
    record.Adds .country text <-> record.get .country = none ∧
      exists address, record.get .address = some address ∧ IsLastLine address text := by
  simp only [adds_iff, hint, Option.bind_eq_some_iff, lineFromEnd_zero_eq_some_iff]

theorem adds_stateProv_iff {record : Record} {text : String} :
    record.Adds .stateProv text <-> record.get .stateProv = none ∧
      exists address, record.get .address = some address ∧ IsLineBeforeLast address text := by
  simp only [adds_iff, hint, Option.bind_eq_some_iff, lineFromEnd_one_eq_some_iff]

theorem adds_asName_iff {record : Record} {text : String} :
    record.Adds .asName text <-> record.get .asName = none ∧ record.get .orgId = some text :=
  adds_iff

theorem exists_adds_country_iff {record : Record} :
    (exists text, record.Adds .country text) <->
      record.get .country = none ∧ record.contains .address = true := by
  rw [contains, Option.isSome_iff_exists]
  constructor
  · rintro ⟨text, added⟩
    obtain ⟨absent, address, present, -⟩ := adds_country_iff.mp added
    exact ⟨absent, address, present⟩
  · rintro ⟨absent, address, present⟩
    obtain ⟨text, isLast⟩ := exists_last_line address
    exact ⟨text, adds_country_iff.mpr ⟨absent, address, present, isLast⟩⟩

theorem exists_adds_stateProv_iff {record : Record} :
    (exists text, record.Adds .stateProv text) <-> record.get .stateProv = none ∧
      exists address, record.get .address = some address ∧ '\n' ∈ address.toList := by
  constructor
  · rintro ⟨text, added⟩
    obtain ⟨absent, address, present, before⟩ := adds_stateProv_iff.mp added
    exact ⟨absent, address, present, exists_line_before_last_iff.mp ⟨text, before⟩⟩
  · rintro ⟨absent, address, present, broken⟩
    obtain ⟨text, before⟩ := exists_line_before_last_iff.mpr broken
    exact ⟨text, adds_stateProv_iff.mpr ⟨absent, address, present, before⟩⟩

theorem complete_complete (record : Record) : record.complete.complete = record.complete := by
  apply ext
  · intro field
    rw [get_complete, hint_complete, get_complete, Option.or_assoc, Option.or_self]
  · exact raw_complete record.complete

/-- Completing a record keeps its lines and every field that is present.  It adds a country,
a state or province and an AS name only: the last line of the address, the line before it
and the organisation identifier, each if the field is missing and there is such a text, and
whatever else is present.  Completing the record once more changes nothing. -/
theorem complete_fills_gaps_once (record : Record) :
    record.complete.raw = record.raw ∧
    (forall field text, record.get field = some text -> record.complete.get field = some text) ∧
    (forall field text, record.Adds field text ->
      field = .country ∨ field = .stateProv ∨ field = .asName) ∧
    (forall text, record.Adds .country text <-> record.get .country = none ∧
      exists address, record.get .address = some address ∧ IsLastLine address text) ∧
    ((exists text, record.Adds .country text) <->
      record.get .country = none ∧ record.contains .address = true) ∧
    (forall text, record.Adds .stateProv text <-> record.get .stateProv = none ∧
      exists address, record.get .address = some address ∧ IsLineBeforeLast address text) ∧
    ((exists text, record.Adds .stateProv text) <-> record.get .stateProv = none ∧
      exists address, record.get .address = some address ∧ '\n' ∈ address.toList) ∧
    (forall text, record.Adds .asName text <->
      record.get .asName = none ∧ record.get .orgId = some text) ∧
    record.complete.complete = record.complete :=
  ⟨raw_complete record, fun _ _ => get_complete_of_present, fun _ _ => Adds.field_mem,
    fun _ => adds_country_iff, exists_adds_country_iff, fun _ => adds_stateProv_iff,
    exists_adds_stateProv_iff, fun _ => adds_asName_iff, complete_complete record⟩

/-- A record with a country and an address of three lines, one of them empty. -/
def withEmptyLine : Record :=
  (empty.set .address "Street\n\nUS").set .country "CA"

/-- The state or province is the line before the last one although no country is taken from the
last one, and an empty line is a line.  Without an organisation identifier there is no name. -/
theorem complete_adds_empty_state :
    withEmptyLine.complete.get .country = some "CA" ∧ withEmptyLine.Adds .stateProv "" ∧
      ¬ (exists text, withEmptyLine.Adds .asName text) ∧
      withEmptyLine.complete.complete = withEmptyLine.complete := by
  rcases complete_fills_gaps_once withEmptyLine with ⟨_, keeps, _, _, _, state, _, name, again⟩
  have before : IsLineBeforeLast "Street\n\nUS" "" :=
    ⟨"Street\n", "US", by decide, by decide, by decide, .inr ⟨"Street", by decide⟩⟩
  refine ⟨keeps .country "CA" (by decide), (state "").mpr ⟨by decide, _, by decide, before⟩, ?_,
    again⟩
  rintro ⟨text, added⟩
  have missing : withEmptyLine.get .orgId = none := by decide
  rw [((name text).mp added).2] at missing
  cases missing

end Record
end Whois
end AsCensus
