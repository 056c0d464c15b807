import AsCensus.Proofs.SettingTexts
import AsCensus.Settings.Load

namespace AsCensus
namespace Settings

open Store
open Text

/-!
# Layers of settings

The variables of the environment lie above the settings file.  The text in effect under a key is
the one of its variable, and only where there is none the one of the file (`InEffect`); whether
a text is of use plays no part in this.  So an upper text that is of no use leaves the default,
and not what the file has.

This is about files that name plain values by keys of one part, each of them once, and about
such variables.  A key of more parts leads into a table, which no setting is.  Since every key
that is mentioned then has a text in effect, loading never fails (`Given.load_eq`).
-/

/-- Keys with their texts. -/
abbrev Entries := List (String × String)

/-- The text that is in effect under a key where upper entries hide lower ones. -/
inductive InEffect (lower upper : Entries) (key : String) : Option String -> Prop
  | upper {text : String} (given : (key, text) ∈ upper) : InEffect lower upper key (some text)
  | lower {text : String} (silent : forall other, (key, other) ∉ upper)
      (given : (key, text) ∈ lower) : InEffect lower upper key (some text)
  | neither (silent : forall other, (key, other) ∉ upper)
      (absent : forall other, (key, other) ∉ lower) : InEffect lower upper key none

/-- Whether two pairs of layers agree on a key: the upper ones say the same about it, and the
lower ones do unless they are hidden. -/
def Agree (lower upper otherLower otherUpper : Entries) (key : String) : Prop :=
  (forall text, (key, text) ∈ upper <-> (key, text) ∈ otherUpper) ∧
    ((exists text, (key, text) ∈ upper) ∨
      forall text, (key, text) ∈ lower <-> (key, text) ∈ otherLower)

/-- Whether a key has one part only, as every name of letters, digits and underscores. -/
def IsSimpleKey (key : String) : Prop :=
  '.' ∉ key.toList ∧ '[' ∉ key.toList

instance (key : String) : Decidable (IsSimpleKey key) :=
  inferInstanceAs (Decidable (_ ∧ _))

/-- Whether entries have simple keys, and each of them once. -/
structure IsFlat (entries : Entries) : Prop where
  distinct : (entries.map Prod.fst).Nodup
  simple : forall entry, entry ∈ entries -> IsSimpleKey entry.1

section

variable {lower upper otherLower otherUpper entries : Entries} {key : String}

theorem exists_inEffect (lower upper : Entries) (key : String) :
    exists text, InEffect lower upper key text := by
  by_cases above : exists text, (key, text) ∈ upper
  · obtain ⟨text, given⟩ := above
    exact ⟨some text, .upper given⟩
  · by_cases below : exists text, (key, text) ∈ lower
    · obtain ⟨text, given⟩ := below
      exact ⟨some text, .lower (not_exists.mp above) given⟩
    · exact ⟨none, .neither (not_exists.mp above) (not_exists.mp below)⟩

theorem Agree.inEffect (agree : Agree lower upper otherLower otherUpper key) {text : Option String}
    (here : InEffect lower upper key text) : InEffect otherLower otherUpper key text := by
  obtain ⟨sameUpper, hiddenOrSame⟩ := agree
  have silentToo (silent : forall other, (key, other) ∉ upper) other :
      (key, other) ∉ otherUpper := by
    rw [← sameUpper]
    exact silent other
  have sameLower (silent : forall other, (key, other) ∉ upper) other :
      (key, other) ∈ lower <-> (key, other) ∈ otherLower := by
    rcases hiddenOrSame with ⟨text, given⟩ | same
    · exact absurd given (silent text)
    · exact same other
  cases here with
  | upper given => exact .upper ((sameUpper _).mp given)
  | lower silent given => exact .lower (silentToo silent) ((sameLower silent _).mp given)
  | neither silent absent =>
      refine .neither (silentToo silent) ?_
      intro other given
      exact absent other ((sameLower silent other).mpr given)

/-- The layer of entries. -/
def Layer.ofEntries (entries : Entries) : Layer :=
  entries.map fun (key, text) => (key, some text)

theorem map_fst_ofEntries (entries : Entries) :
    (Layer.ofEntries entries).map Prod.fst = entries.map Prod.fst := by
  unfold Layer.ofEntries
  rw [List.map_map]
  rfl

theorem final?_ofEntries_of_mem (flat : IsFlat entries) {text : String}
    (given : (key, text) ∈ entries) :
    (Layer.ofEntries entries).final? key = some (some text) := by
  apply lastOf_eq_some_of_mem
  · rw [map_fst_ofEntries]
    exact flat.distinct
  · exact List.mem_map_of_mem given

theorem final?_ofEntries_of_silent (silent : forall text, (key, text) ∉ entries) :
    (Layer.ofEntries entries).final? key = none := by
  apply lastOf_eq_none_iff.mpr
  rw [map_fst_ofEntries]
  intro mentioned
  obtain ⟨⟨other, text⟩, member, rfl⟩ := List.mem_map.mp mentioned
  exact silent text member

theorem textOf_ofEntries (flatLower : IsFlat lower) (flatUpper : IsFlat upper)
    {text : Option String} (here : InEffect lower upper key text) :
    (Layer.ofEntries lower ++ Layer.ofEntries upper).textOf key = text := by
  unfold Layer.textOf
  rw [Layer.final?_append]
  cases here with
  | upper given =>
      rw [final?_ofEntries_of_mem flatUpper given]
      rfl
  | lower silent given =>
      rw [final?_ofEntries_of_silent silent, final?_ofEntries_of_mem flatLower given]
      rfl
  | neither silent absent =>
      rw [final?_ofEntries_of_silent silent, final?_ofEntries_of_silent absent]
      rfl

/-- Every key that is mentioned is left with a text. -/
theorem isPlain_ofEntries (flatLower : IsFlat lower) (flatUpper : IsFlat upper) :
    (Layer.ofEntries lower ++ Layer.ofEntries upper).isPlain = true := by
  apply List.all_eq_true.mpr
  rintro ⟨key, text⟩ member
  obtain ⟨found, here⟩ := exists_inEffect lower upper key
  dsimp only
  rw [textOf_ofEntries flatLower flatUpper here]
  cases here with
  | upper | lower => rfl
  | neither silent absent =>
      unfold Layer.ofEntries at member
      rw [← List.map_append] at member
      obtain ⟨⟨other, text⟩, given, same⟩ := List.mem_map.mp member
      cases same
      rcases List.mem_append.mp given with below | above
      · exact absurd below (absent text)
      · exact absurd above (silent text)

end

/-! ## The entries of a file and of the environment -/

theorem not_isKeyPath {rest : List Char} (notEmpty : rest ≠ []) (noPoint : '.' ∉ rest)
    (noBracket : '[' ∉ rest) (fuel : Nat) : isKeyPath fuel rest = false := by
  unfold isKeyPath
  split
  · rfl
  · exact absurd rfl notEmpty
  · exact absurd List.mem_cons_self noPoint
  · exact absurd List.mem_cons_self noBracket
  · rfl

/-- A simple key leads into no table. -/
theorem entry_of_isSimpleKey {key : String} (simple : IsSimpleKey key) (text : Option String) :
    Layer.entry key text = (key, text) := by
  have single : outerKey? key = none := by
    unfold outerKey?
    split
    · next outer rest scanned =>
        have inKey : rest ⊆ key.toList := by
          unfold scanRun at scanned
          split at scanned
          · cases scanned
          · cases scanned
            exact (List.dropWhile_suffix _).subset
        rw [if_neg]
        rintro ⟨notEmpty, path⟩
        rw [not_isKeyPath notEmpty (fun point => simple.1 (inKey point))
          (fun bracket => simple.2 (inKey bracket))] at path
        cases path
    · rfl
  unfold Layer.entry
  rw [single]

/-- The entries of a file that names plain values only. -/
def Members.entries? : Members -> Option Entries
  | [] => some []
  | (key, .scalar value) :: rest => (entries? rest).map fun entries => (key, value.shown) :: entries
  | _ :: _ => none

/-- The entries of the variables that hold settings. -/
def entriesOfEnvironment (environment : Environment) : Entries :=
  environment.filterMap fun (name, text) =>
    (Layer.keyOfVariable name).map fun key => (key, text)

theorem ofMembers_eq {members : Members} {entries : Entries}
    (plain : members.entries? = some entries) (flat : IsFlat entries) :
    Layer.ofMembers members = .ofEntries entries := by
  induction members generalizing entries with
  | nil =>
      cases plain
      rfl
  | cons member rest ih =>
      obtain ⟨key, node⟩ := member
      cases node with
      | scalar value =>
          obtain ⟨others, restPlain, rfl⟩ := Option.map_eq_some_iff.mp plain
          have distinct := flat.distinct
          rw [List.map_cons, List.nodup_cons] at distinct
          have restFlat : IsFlat others :=
            ⟨distinct.2, fun entry inside => flat.simple entry (List.mem_cons_of_mem _ inside)⟩
          have first := entry_of_isSimpleKey (flat.simple _ List.mem_cons_self) (some value.shown)
          have later := ih restPlain restFlat
          unfold Layer.ofMembers Layer.ofEntries at later ⊢
          rw [List.map_cons, List.map_cons, later]
          dsimp only
          rw [first]
      | nothing | list | table | tables => cases plain

theorem ofEnvironment_eq {environment : Environment}
    (flat : IsFlat (entriesOfEnvironment environment)) :
    Layer.ofEnvironment environment = .ofEntries (entriesOfEnvironment environment) := by
  unfold Layer.ofEnvironment Layer.ofEntries entriesOfEnvironment
  rw [List.map_filterMap]
  apply List.filterMap_congr
  rintro ⟨name, text⟩ member
  dsimp only
  cases named : Layer.keyOfVariable name with
  | none => rfl
  | some key =>
      have inside : (key, text) ∈ entriesOfEnvironment environment := by
        apply List.mem_filterMap.mpr
        exact ⟨(name, text), member, Option.map_eq_some_iff.mpr ⟨key, named, rfl⟩⟩
      rw [Option.map_some, Option.map_some, Option.map_some,
        entry_of_isSimpleKey (flat.simple _ inside)]

/-! ## Loading -/

/-- The entries of the settings file at a path.  One that is made has none. -/
inductive FileHolds (tree : FileTree) (path : String) : Entries -> Prop
  | stands {file : SettingsFile} {entries : Entries} (present : tree.find path ≠ .missing)
      (found : settingsFile tree path = .ok file)
      (wellFormed : (file.kind.read (withoutMark (decode file.bytes))).bind Members.entries? =
        some entries) : FileHolds tree path entries
  | made {after : FileTree} (missing : tree.find path = .missing)
      (written : tree.write path (encode emptyFile) = .ok after) : FileHolds tree path []

/-- The entries of the settings file that is asked for, or else of the one in the home
directory. -/
inductive ChosenHolds (tree : FileTree) (home : String) : Option String -> Entries -> Prop
  | asked {path : String} {entries : Entries} (holds : FileHolds tree path entries) :
      ChosenHolds tree home (some path) entries
  | usual {ready : FileTree} {entries : Entries}
      (made : tree.makeDirectories (homeDirectory home) = .ok ready)
      (holds : FileHolds ready (homeFile home) entries) : ChosenHolds tree home none entries

theorem openFile_of_holds {tree : FileTree} {path : String} {entries : Entries}
    (holds : FileHolds tree path entries) (flat : IsFlat entries)
    (notCreated : PathError -> LoadError) :
    (openFile tree path notCreated).2 = .ok (.ofEntries entries) := by
  unfold openFile
  cases holds with
  | stands present found wellFormed =>
      obtain ⟨members, read, plain⟩ := Option.bind_eq_some_iff.mp wellFormed
      split
      · next missing => exact absurd missing present
      · rw [readFile, found]
        simp only [bind, Except.bind, read, ofMembers_eq plain flat]
  | made missing written =>
      rw [missing]
      simp only [written]
      rfl

theorem openChosen_of_holds {tree : FileTree} {home : String} {path : Option String}
    {entries : Entries} (holds : ChosenHolds tree home path entries) (flat : IsFlat entries) :
    (openChosen tree home path).2 = .ok (.ofEntries entries) := by
  unfold openChosen
  cases holds with
  | asked holds => exact openFile_of_holds holds flat _
  | usual made holds =>
      simp only [made]
      exact openFile_of_holds holds flat _

/-- What a load is given: a file and variables that give plain values to simple keys. -/
structure Given (tree : FileTree) (home : String) (environment : Environment)
    (path : Option String) (entries : Entries) : Prop where
  holds : ChosenHolds tree home path entries
  flatFile : IsFlat entries
  flatEnvironment : IsFlat (entriesOfEnvironment environment)

variable {tree otherTree : FileTree} {home : String} {path otherPath : Option String}
variable {environment otherEnvironment : Environment} {entries otherEntries : Entries}

/-- No text makes loading fail, and all that counts are the texts in effect. -/
theorem Given.load_eq (given : Given tree home environment path entries) :
    exists textOf, (load tree home environment path).2 =
        .ok (ofTexts home (homeDirectory home) textOf) ∧
      forall key text, InEffect entries (entriesOfEnvironment environment) key text ->
        textOf key = text := by
  let layers : Layer := .ofEntries entries ++ .ofEntries (entriesOfEnvironment environment)
  refine ⟨layers.textOf, ?_, ?_⟩
  · have plain : layers.isPlain = true := isPlain_ofEntries given.flatFile given.flatEnvironment
    have flattened : [Layer.ofEntries entries, .ofEnvironment environment].flatten = layers := by
      rw [ofEnvironment_eq given.flatEnvironment, List.flatten_cons, List.flatten_cons,
        List.flatten_nil, List.append_nil]
    unfold load
    simp only [openChosen_of_holds given.holds given.flatFile, bind, Except.bind, ofLayers?,
      flattened, plain, if_true]
  · intro key text here
    exact textOf_ofEntries given.flatFile given.flatEnvironment here

/-- Loading succeeds whatever the texts are, and each setting follows the text that is in effect
under its key.  The numbers that others divide by are never zero, and the command is never
blank.  A setting of another load with the same home directory is the same one where the two
agree on its key; about other keys they need not agree, and what a file says about a key that a
variable gives a text to does not count. -/
theorem each_setting_follows_its_key (given : Given tree home environment path entries)
    (other : Given otherTree home otherEnvironment otherPath otherEntries) :
    exists settings otherSettings,
      (load tree home environment path).2 = .ok settings ∧
        (load otherTree home otherEnvironment otherPath).2 = .ok otherSettings ∧
        settings.Follow home (InEffect entries (entriesOfEnvironment environment)) ∧
        settings.IsUsable ∧
        SameWhere (Agree entries (entriesOfEnvironment environment) otherEntries
          (entriesOfEnvironment otherEnvironment)) settings otherSettings := by
  obtain ⟨textOf, loaded, counts⟩ := given.load_eq
  obtain ⟨otherTextOf, otherLoaded, otherCounts⟩ := other.load_eq
  refine ⟨_, _, loaded, otherLoaded, follow_ofTexts counts, isUsable_ofTexts _ _ _, ?_⟩
  apply sameWhere_ofTexts
  intro key agree
  obtain ⟨text, here⟩ := exists_inEffect entries (entriesOfEnvironment environment) key
  rw [counts key text here, otherCounts key text (agree.inEffect here)]

/-- A file system with a settings file. -/
def treeWithFile (text : String) : FileTree :=
  ⟨.directory [("cron.toml", .file (encode text) true)], []⟩

/-- Variables of which one is of no use, one holds a number, and one is no setting. -/
def mixedVariables : Environment :=
  [("OBMP_CRON_WORKERS", "zero"), ("Obmp_Cron_Max_Requests_Per_Interval", "+007"),
    ("HOME", "/root")]

theorem entries_mixedVariables :
    entriesOfEnvironment mixedVariables =
      [("workers", "zero"), ("max_requests_per_interval", "+007")] := by
  decide

theorem given_treeWithFile {text : String} {entries : Entries}
    (wellFormed : (FileKind.toml.read (withoutMark (decode (encode text)))).bind
      Members.entries? = some entries) (flat : IsFlat entries) :
    Given (treeWithFile text) "/home/u" mixedVariables (some "cron.toml") entries where
  holds := by
    have stands : (treeWithFile text).find "cron.toml" = .file (encode text) := rfl
    have found : settingsFile (treeWithFile text) "cron.toml" = .ok ⟨.toml, encode text⟩ := rfl
    refine .asked (.stands ?_ found wellFormed)
    rw [stands]
    intro impossible
    cases impossible
  flatFile := flat
  flatEnvironment := ⟨by decide, by decide⟩

/-- The variable that is of no use hides what both files say, so that the number of workers is the
default in both loads.  The rows per statement are those of the file. -/
theorem useless_variable_hides_files :
    exists settings other,
      (load (treeWithFile "workers = 3\nbulk_insert_size = 500\n") "/home/u" mixedVariables
          (some "cron.toml")).2 = .ok settings ∧
        (load (treeWithFile "workers = 8\n") "/home/u" mixedVariables (some "cron.toml")).2 =
          .ok other ∧
        settings.workers = 4 ∧ settings.workers = other.workers ∧
        settings.bulkInsertSize = 500 ∧ settings.requestsPerInterval = 7 := by
  have given := @given_treeWithFile "workers = 3\nbulk_insert_size = 500\n"
    [("workers", "3"), ("bulk_insert_size", "500")] (by decide +kernel) ⟨by decide, by decide⟩
  have otherGiven := @given_treeWithFile "workers = 8\n" [("workers", "8")] (by decide +kernel)
    ⟨by decide, by decide⟩
  obtain ⟨settings, other, loaded, otherLoaded, follow, -, same⟩ :=
    each_setting_follows_its_key given otherGiven
  rw [entries_mixedVariables] at follow same
  refine ⟨settings, other, loaded, otherLoaded, ?_, ?_, ?_, ?_⟩
  · apply (follow.workers (some "zero") (.upper (by decide))).otherwise
    rintro present number ⟨⟩ writes
    have read := (readPositive_eq_some_iff "zero" number).mpr writes
    cases read
  · apply same.workers
    refine ⟨fun text => Iff.rfl, .inl ⟨"zero", by decide⟩⟩
  · have silent (other : String) : ("bulk_insert_size", other) ∉
        [("workers", "zero"), ("max_requests_per_interval", "+007")] := by simp
    apply (follow.bulkInsertSize (some "500") (.lower silent (by decide))).ofText "500" 500 rfl
    exact (readPositive_eq_some_iff "500" 500).mp (by decide)
  · apply (follow.requestsPerInterval (some "+007") (.upper (by decide))).ofText "+007" 7 rfl
    exact (readPositive_eq_some_iff "+007" 7).mp (by decide)

end Settings
end AsCensus
