import AsCensus.Proofs.RouteKeys
import AsCensus.Settings.Basic

namespace AsCensus

/-!
# The texts of settings

A setting is a function of the text under its own key: it has the value that the text gives,
and its default if there is no text or the text is of no use (`Settles`).  What a text gives is
told here without the readers.  So nothing that stands under another key reaches a setting
(`sameWhere_ofTexts`), and no text gives a number that others cannot divide by or a command
that is blank (`isUsable_ofTexts`).
-/

namespace Text

open Net

variable {bound number : Nat}

theorem readDigits_eq_some_iff {digits : List Char} :
    readDigits bound digits = some number <-> Numeral 10 digits.length bound digits number := by
  unfold readDigits
  constructor
  · intro read
    split at read
    · next valid =>
        cases read
        exact ⟨valid.1, List.all_eq_true.mp valid.2.1, Nat.le_refl _, rfl, valid.2.2⟩
    · cases read
  · intro isNumeral
    have all : digits.all (isDigit 10) = true := List.all_eq_true.mpr isNumeral.digits
    have inRange : ofDigits 10 digits < bound := by
      rw [isNumeral.value]
      exact isNumeral.inRange
    rw [if_pos ⟨isNumeral.notEmpty, all, inRange⟩, isNumeral.value]

/-- An unsigned numeral is a row of digits, perhaps after a plus sign. -/
theorem readNatural_eq_some_iff {text : List Char} :
    readNatural bound text = some number <-> exists numeral,
      (text = numeral ∨ text = '+' :: numeral) ∧
        Numeral 10 numeral.length bound numeral number := by
  constructor
  · intro read
    unfold readNatural at read
    split at read
    · next digits => exact ⟨digits, .inr rfl, readDigits_eq_some_iff.mp read⟩
    · exact ⟨text, .inl rfl, readDigits_eq_some_iff.mp read⟩
  · rintro ⟨numeral, rfl | rfl, isNumeral⟩
    · exact readNatural_of_numeral isNumeral
    · exact readDigits_eq_some_iff.mpr isNumeral

end Text

namespace Settings

open Net
open Store
open Text

/-- Whether a text writes a whole number that a machine word holds. -/
def WritesNumber (text : String) (number : Nat) : Prop :=
  exists numeral, (text.toList = numeral ∨ text.toList = '+' :: numeral) ∧
    Numeral 10 numeral.length numberBound numeral number

/-- Whether a text writes such a number other than zero. -/
def WritesPositive (text : String) (number : Nat) : Prop :=
  WritesNumber text number ∧ 0 < number

/-- Whether a text is a command. -/
def WritesCommand (text command : String) : Prop :=
  isAllBlank text.toList = false ∧ text = command

/-- Whether a text leads to a directory, perhaps from the home directory. -/
def LeadsTo (home text directory : String) : Prop :=
  (exists rest, text.toList = homeMark ++ rest ∧ directory = Path.join home (String.ofList rest)) ∨
    ((¬ exists rest, text.toList = homeMark ++ rest) ∧ directory = text)

/-- Whether a setting has the value that its text gives, or else the default. -/
structure Settles (gives : String -> X -> Prop) (standard : X) (text : Option String) (value : X) :
    Prop where
  ofText : forall present wanted, text = some present -> gives present wanted -> value = wanted
  otherwise : (forall present wanted, text = some present -> ¬ gives present wanted) ->
    value = standard

theorem settles_of_read {read : String -> Option X} {gives : String -> X -> Prop}
    (reads : forall text value, read text = some value <-> gives text value) (standard : X)
    (text : Option String) : Settles gives standard text ((text.bind read).getD standard) := by
  constructor
  · rintro present wanted rfl given
    rw [Option.bind_some, (reads present wanted).mpr given, Option.getD_some]
  · intro useless
    have nothing : text.bind read = none := by
      rw [Option.bind_eq_none_iff]
      intro present here
      rw [Option.eq_none_iff_forall_ne_some]
      intro wanted found
      exact useless present wanted here ((reads present wanted).mp found)
    rw [nothing, Option.getD_none]

theorem readNumber_eq_some_iff (text : String) (number : Nat) :
    readNumber text = some number <-> WritesNumber text number :=
  readNatural_eq_some_iff

theorem readPositive_eq_some_iff (text : String) (number : Nat) :
    readPositive text = some number <-> WritesPositive text number := by
  unfold readPositive WritesPositive
  rw [Option.filter_eq_some_iff, readNumber_eq_some_iff, decide_eq_true_iff]

theorem readCommand_eq_some_iff (text command : String) :
    readCommand text = some command <-> WritesCommand text command := by
  unfold readCommand WritesCommand
  cases isAllBlank text.toList <;> simp

theorem expandHome_eq_iff (home text directory : String) :
    some (expandHome home text) = some directory <-> LeadsTo home text directory := by
  unfold expandHome LeadsTo
  rw [Option.some.injEq]
  cases split : after? homeMark text.toList with
  | some rest =>
      have shape := after?_eq_some_iff.mp split
      rw [shape]
      simp [eq_comm]
  | none =>
      have apart : ¬ exists rest, text.toList = homeMark ++ rest := by
        rintro ⟨rest, shape⟩
        rw [after?_eq_some_iff.mpr shape] at split
        cases split
      simp only [apart, not_false_eq_true, true_and]
      constructor
      · rintro rfl
        exact .inr rfl
      · rintro (⟨rest, shape, -⟩ | rfl)
        · exact absurd ⟨rest, shape⟩ apart
        · rfl

/-- Whether all settings follow the texts under their keys. -/
structure Follow (home : String) (inEffect : String -> Option String -> Prop)
    (settings : Settings) : Prop where
  dataDirectory : forall text, inEffect "data_dir" text ->
    Settles (LeadsTo home) (homeDirectory home) text settings.dataDirectory
  bulkInsertSize : forall text, inEffect "bulk_insert_size" text ->
    Settles WritesPositive 2000 text settings.bulkInsertSize
  whoisCommand : forall text, inEffect "whois_command" text ->
    Settles WritesCommand "whois" text settings.whoisCommand
  requestsPerInterval : forall text, inEffect "max_requests_per_interval" text ->
    Settles WritesPositive 200 text settings.requestsPerInterval
  pauseSeconds : forall text, inEffect "throttle_pause_secs" text ->
    Settles WritesNumber 5 text settings.pauseSeconds
  workers : forall text, inEffect "workers" text ->
    Settles WritesPositive 4 text settings.workers

/-- Whether the numbers that others divide by are not zero, and the command is not blank. -/
structure IsUsable (settings : Settings) : Prop where
  bulkInsertSize : 1 ≤ settings.bulkInsertSize
  requestsPerInterval : 1 ≤ settings.requestsPerInterval
  workers : 1 ≤ settings.workers
  whoisCommand : isAllBlank settings.whoisCommand.toList = false

/-- Whether two loads give the same settings under the keys on which they agree. -/
structure SameWhere (agree : String -> Prop) (settings other : Settings) : Prop where
  dataDirectory : agree "data_dir" -> settings.dataDirectory = other.dataDirectory
  bulkInsertSize : agree "bulk_insert_size" -> settings.bulkInsertSize = other.bulkInsertSize
  whoisCommand : agree "whois_command" -> settings.whoisCommand = other.whoisCommand
  requestsPerInterval : agree "max_requests_per_interval" ->
    settings.requestsPerInterval = other.requestsPerInterval
  pauseSeconds : agree "throttle_pause_secs" -> settings.pauseSeconds = other.pauseSeconds
  workers : agree "workers" -> settings.workers = other.workers

variable {home : String} {textOf otherTextOf : String -> Option String}

theorem follow_ofTexts {inEffect : String -> Option String -> Prop}
    (counts : forall key text, inEffect key text -> textOf key = text) :
    (ofTexts home (homeDirectory home) textOf).Follow home inEffect where
  dataDirectory text here := by
    have settles := settles_of_read (expandHome_eq_iff home) (homeDirectory home) text
    rw [← counts _ _ here] at settles ⊢
    unfold ofTexts
    rw [Option.map_eq_bind]
    exact settles
  bulkInsertSize text here := by
    rw [← counts _ _ here]
    exact settles_of_read readPositive_eq_some_iff 2000 _
  whoisCommand text here := by
    rw [← counts _ _ here]
    exact settles_of_read readCommand_eq_some_iff "whois" _
  requestsPerInterval text here := by
    rw [← counts _ _ here]
    exact settles_of_read readPositive_eq_some_iff 200 _
  pauseSeconds text here := by
    rw [← counts _ _ here]
    exact settles_of_read readNumber_eq_some_iff 5 _
  workers text here := by
    rw [← counts _ _ here]
    exact settles_of_read readPositive_eq_some_iff 4 _

theorem getD_of_read {read : String -> Option X} {property : X -> Prop}
    (ofRead : forall text value, read text = some value -> property value) {standard : X}
    (ofStandard : property standard) (text : Option String) :
    property ((text.bind read).getD standard) := by
  cases found : text.bind read with
  | none => exact ofStandard
  | some value =>
      obtain ⟨present, -, read⟩ := Option.bind_eq_some_iff.mp found
      exact ofRead present value read

theorem isUsable_ofTexts (home dataDirectory : String) (textOf : String -> Option String) :
    (ofTexts home dataDirectory textOf).IsUsable where
  bulkInsertSize := getD_of_read (fun _ _ => pos_of_readPositive) (Nat.succ_pos 1999) _
  requestsPerInterval := getD_of_read (fun _ _ => pos_of_readPositive) (Nat.succ_pos 199) _
  workers := getD_of_read (fun _ _ => pos_of_readPositive) (Nat.succ_pos 3) _
  whoisCommand := by
    have notBlank : isAllBlank "whois".toList = false := by decide
    exact getD_of_read (fun _ _ => not_blank_of_readCommand) notBlank _

theorem sameWhere_ofTexts {agree : String -> Prop}
    (same : forall key, agree key -> textOf key = otherTextOf key) (dataDirectory : String) :
    SameWhere agree (ofTexts home dataDirectory textOf) (ofTexts home dataDirectory otherTextOf) := by
  constructor
  all_goals
    intro agrees
    simp only [ofTexts]
    rw [same _ agrees]

end Settings
end AsCensus
