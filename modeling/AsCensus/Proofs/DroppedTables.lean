import AsCensus.Proofs.TableFrames
import Mathlib.Data.List.TakeWhile

namespace AsCensus

/-!
# What a failed creation leaves

Creating a table by name may drop the table of that name first.  The two statements do not
belong to one transaction, so that a creation which cannot be executed does not bring the
dropped table back.  This is all that a failure can change: every other table is as it was, and
where nothing was to be dropped, or no table has the name, nothing is different at all
(`Database.createBy_of_failed`).

Which table is dropped depends on how the name reads within a statement, where it may be quoted,
have a schema before it or be followed by a comment.  A name of letters, digits and underscores
reads as itself, and the letter case does not count (`namedTable?_eq_some_iff`).
-/

namespace Store

open Text

/-! ## Names in statements -/

/-- The table that a text names as the last part of a statement, if it names one. -/
def namedTable? (name : String) : Option TableId :=
  match (TableName.alone? name).bind TableName.relation? with
  | some (.table table) => some table
  | _ => none

/-- Whether a character is a letter of ASCII or an underscore. -/
def IsNameStart (c : Char) : Prop :=
  c.isAlpha = true ∨ c = '_'

instance (c : Char) : Decidable (IsNameStart c) :=
  inferInstanceAs (Decidable (_ ∨ _))

/-- Whether a text is a name of letters, digits and underscores that no digit starts. -/
structure IsSimpleName (name : List Char) : Prop where
  starts : exists first rest, name = first :: rest ∧ IsNameStart first
  goesOn : forall c, c ∈ name -> IsNameStart c ∨ c.isDigit = true

namespace Token

/-- The characters that would end a name or start something else. -/
def separators : List Char :=
  ['"', '\'', '\x60', '[', '.', ',', ';', '(', ')', '=', ' ', '\t', '\n', '\x0c', '\r', '\ufeff',
    '-', '/']

variable {first : Char} {rest : List Char}

theorem not_mem_separators (starts : IsNameStart first) : first ∉ separators := by
  have apart : separators.any (fun c => decide (IsNameStart c)) = false := by decide
  intro separates
  exact List.any_eq_false.mp apart first separates (decide_eq_true starts)

theorem isWordStart_of_isNameStart (starts : IsNameStart first) : isWordStart first = true := by
  unfold isWordStart
  rcases starts with letter | rfl
  · rw [letter]
    rfl
  · rfl

theorem isDigit_of_isNameStart (starts : IsNameStart first) : isDigit 10 first = false := by
  rcases starts with letter | rfl
  · have place : (65 ≤ first.toNat ∧ first.toNat ≤ 90) ∨ (97 ≤ first.toNat ∧ first.toNat ≤ 122) := by
      rcases Bool.or_eq_true_iff.mp letter with upper | lower
      · left
        obtain ⟨least, most⟩ := of_decide_eq_true upper
        exact ⟨least, most⟩
      · right
        obtain ⟨least, most⟩ := Bool.and_eq_true_iff.mp lower
        exact ⟨of_decide_eq_true least, of_decide_eq_true most⟩
    have noDigit : ¬ ('0' ≤ first ∧ first ≤ '9') := by
      rintro ⟨_, most⟩
      have small : first.toNat ≤ 57 := most
      omega
    rw [isDigit, digitValue, if_neg noDigit]
    -- The letters up to `f` are digits of larger radices, with values from ten on.
    split_ifs <;> simp
  · rfl

theorem isWordPart_of_mem {name : List Char} (simple : IsSimpleName name) {c : Char}
    (member : c ∈ name) : isWordPart c = true := by
  unfold isWordPart
  rcases simple.goesOn c member with starts | digit
  · rw [isWordStart_of_isNameStart starts]
    rfl
  · rw [digit, Bool.or_true]
    rfl

theorem scanRun_of_isSimpleName {name : List Char} (simple : IsSimpleName name) :
    scanRun isWordPart name = some (name, []) := by
  have all : name.takeWhile isWordPart = name :=
    List.takeWhile_eq_self_iff.mpr fun c member => isWordPart_of_mem simple member
  have none : name.dropWhile isWordPart = [] :=
    List.dropWhile_eq_nil_iff.mpr fun c member => isWordPart_of_mem simple member
  obtain ⟨first, rest, rfl, -⟩ := simple.starts
  rw [scanRun, all, none]

theorem scan_of_isSimpleName {name : List Char} (simple : IsSimpleName name) :
    scan name = some (.word name, []) := by
  have run := scanRun_of_isSimpleName simple
  obtain ⟨first, rest, rfl, starts⟩ := simple.starts
  have apart := not_mem_separators starts
  simp only [separators, List.mem_cons, List.not_mem_nil, or_false, not_or] at apart
  have notDigits : (first :: rest).all (isDigit 10) = false := by
    rw [List.all_cons, isDigit_of_isNameStart starts, Bool.false_and]
  simp [scan, isMark, apart, run, notDigits, isWordStart_of_isNameStart starts]

theorem afterComment?_of_isNameStart (starts : IsNameStart first) (rest : List Char) :
    afterComment? (first :: rest) = none := by
  have apart := not_mem_separators starts
  simp only [separators, List.mem_cons, List.not_mem_nil, or_false, not_or] at apart
  unfold afterComment?
  split
  · next shape => cases shape; simp at apart
  · next shape => cases shape; simp at apart
  · rfl

/-- A simple name is one word. -/
theorem ofText?_of_isSimpleName {name : String} (simple : IsSimpleName name.toList) :
    ofText? name = some [.word name.toList] := by
  have stated : name.toList.takeWhile (fun c => c != '\x00') = name.toList := by
    apply List.takeWhile_eq_self_iff.mpr
    intro c member
    have part := isWordPart_of_mem simple member
    apply bne_iff_ne.mpr
    rintro rfl
    cases part
  have scanned := scan_of_isSimpleName simple
  rw [ofText?, stated]
  obtain ⟨first, rest, shape, starts⟩ := simple.starts
  rw [shape] at scanned ⊢
  have apart := not_mem_separators starts
  simp only [separators, List.mem_cons, List.not_mem_nil, or_false, not_or] at apart
  have noGap : skipRun isGap (first :: rest) = first :: rest := by
    apply dropWhile_eq_self_of_head
    simp [isGap, apart]
  simp [scanAll, noGap, afterComment?_of_isNameStart starts rest, scanned]

end Token

/-! ## The table of a name -/

theorem ofFoldedName?_eq_some_iff {name : List Char} {table : TableId} :
    TableId.ofFoldedName? name = some table <-> foldCase name = table.name.toList := by
  constructor
  · intro found
    have same := List.find?_some found
    exact (beq_iff_eq.mp same).symm
  · intro same
    rw [TableId.ofFoldedName?, same]
    cases table <;> decide

/-- Whatever schema stands before it, the name of a table is its own up to letter case. -/
theorem foldCase_of_relation? {reference : TableName} {table : TableId}
    (found : reference.relation? = some (.table table)) :
    foldCase reference.name = table.name.toList := by
  have temporary (name : List Char) : TableName.inTemporary? name ≠ some (.table table) := by
    unfold TableName.inTemporary?
    dsimp only
    split <;> simp
  have main {name : List Char} (inMain : TableName.inMain? name = some (.table table)) :
      foldCase name = table.name.toList := by
    unfold TableName.inMain? at inMain
    split at inMain
    · cases inMain
    · obtain ⟨other, named, same⟩ := Option.map_eq_some_iff.mp inMain
      cases same
      exact ofFoldedName?_eq_some_iff.mp named
  unfold TableName.relation? at found
  split at found
  · rcases Option.or_eq_some_iff.mp found with inMain | ⟨-, inTemporary⟩
    · exact main inMain
    · exact absurd inTemporary (temporary _)
  · exact main found
  · exact absurd found (temporary _)
  · cases found

theorem namedTable?_eq_some_iff_exists {name : String} {table : TableId} :
    namedTable? name = some table <->
      exists reference, TableName.alone? name = some reference ∧
        reference.relation? = some (.table table) := by
  rw [← Option.bind_eq_some_iff, namedTable?]
  split
  · next found => simp [found]
  · next other =>
      constructor
      · intro impossible
        cases impossible
      · intro found
        exact absurd found (other table)

theorem alone?_of_isSimpleName {name : String} (simple : IsSimpleName name.toList) :
    TableName.alone? name =
      (Token.name? (.word name.toList)).map fun read => ⟨none, read⟩ := by
  rw [TableName.alone?, Token.ofText?_of_isSimpleName simple, Option.bind_eq_bind,
    Option.bind_some, TableName.scan]
  · cases Token.name? (.word name.toList) <;> rfl
  · intro _ _ impossible
    cases impossible

theorem isSimpleName_of_foldCase {name : List Char} {table : TableId}
    (same : foldCase name = table.name.toList) : IsSimpleName name := by
  have lower {c : Char} (starts : IsNameStart c.toLower) : IsNameStart c := by
    by_cases capital : c.isUpper = true
    · left
      exact Bool.or_eq_true_iff.mpr (.inl capital)
    · have kept : c.toLower = c := dif_neg fun inRange => capital (decide_eq_true inRange)
      rw [← kept]
      exact starts
  have letters : forall c, c ∈ name -> IsNameStart c := by
    intro c member
    apply lower
    have folded : c.toLower ∈ table.name.toList := by
      rw [← same]
      exact List.mem_map_of_mem member
    have all : table.name.toList.all (fun other => decide (IsNameStart other)) = true := by
      cases table <;> decide
    exact of_decide_eq_true (List.all_eq_true.mp all _ folded)
  constructor
  · cases name with
    | nil => cases table <;> cases same
    | cons first rest => exact ⟨first, rest, rfl, letters first List.mem_cons_self⟩
  · intro c member
    exact Or.inl (letters c member)

/-- A name in whatever letter case names the table. -/
theorem namedTable?_of_foldCase {name : String} {table : TableId}
    (same : foldCase name.toList = table.name.toList) : namedTable? name = some table := by
  have folded : Token.folded name.toList = table.name := by
    rw [Token.folded, same, String.ofList_toList]
  have free : reservedWords.contains table.name = false := by
    cases table <;> decide
  have noCatalogue : ¬ (table.name = "sqlite_master" ∨ table.name = "sqlite_schema") := by
    cases table <;> decide
  rw [namedTable?_eq_some_iff_exists]
  refine ⟨⟨none, name.toList⟩, ?_, ?_⟩
  · rw [alone?_of_isSimpleName (isSimpleName_of_foldCase same), Token.name?, folded, free]
    rfl
  · have inMain : TableName.inMain? name.toList = some (.table table) := by
      rw [TableName.inMain?, folded, if_neg noCatalogue, ofFoldedName?_eq_some_iff.mpr same]
      rfl
    change (TableName.inMain? name.toList).or _ = _
    rw [inMain, Option.some_or]

/-- A simple name names the table whose name it is up to letter case, and no other. -/
theorem namedTable?_eq_some_iff {name : String} (simple : IsSimpleName name.toList)
    {table : TableId} :
    namedTable? name = some table <-> foldCase name.toList = table.name.toList := by
  refine ⟨fun named => ?_, namedTable?_of_foldCase⟩
  obtain ⟨reference, read, found⟩ := namedTable?_eq_some_iff_exists.mp named
  rw [alone?_of_isSimpleName simple, Token.name?] at read
  split at read
  · cases read
  · cases read
    exact foldCase_of_relation? found

/-! ## Dropping and creating -/

namespace Database

variable {db : Database} {name : String} {creation : Database -> Option Database}
variable {dropFirst : Bool} {table : TableId}

theorem content_drop (db : Database) (table other : TableId) :
    (db.drop table).content other = if other = table then none else db.content other := by
  cases table <;> cases other <;> rfl

theorem dropNamed_of_table (named : namedTable? name = some table) :
    db.dropNamed name = some (db.drop table) := by
  obtain ⟨reference, read, found⟩ := namedTable?_eq_some_iff_exists.mp named
  rw [dropNamed, read, Option.bind_eq_bind, Option.bind_some, found]

/-- A text that names no table drops nothing, whether or not it can be read. -/
theorem dropNamed_of_none {cleared : Database} (unnamed : namedTable? name = none)
    (dropped : db.dropNamed name = some cleared) : cleared = db := by
  unfold dropNamed at dropped
  obtain ⟨reference, read, dropped⟩ := Option.bind_eq_some_iff.mp dropped
  split at dropped
  · exact (Option.some.inj dropped).symm
  · next found =>
      rw [namedTable?_eq_some_iff_exists.mpr ⟨reference, read, found⟩] at unnamed
      cases unnamed
  · cases dropped

/-- A database without the table that is dropped before a creation. -/
def cleared (db : Database) (name : String) (dropFirst : Bool) : Database :=
  match if dropFirst then namedTable? name else none with
  | some table => db.drop table
  | none => db

theorem content_cleared (db : Database) (name : String) (dropFirst : Bool) (table : TableId) :
    (db.cleared name dropFirst).content table =
      if dropFirst = true ∧ namedTable? name = some table then none else db.content table := by
  unfold cleared
  cases dropFirst with
  | false => simp
  | true =>
      cases namedTable? name with
      | none => simp
      | some other => simp [content_drop, eq_comm]

theorem cleared_eq_self_iff : db.cleared name dropFirst = db <->
    forall table, dropFirst = true -> namedTable? name = some table -> db.has table = false := by
  constructor
  · intro same table drops named
    rw [has_eq, ← same, content_cleared, if_pos ⟨drops, named⟩]
    rfl
  · intro missing
    apply ext_content
    intro table
    rw [content_cleared]
    split
    · next dropped =>
        have absent := missing table dropped.1 dropped.2
        rw [has_eq, Option.isSome_eq_false_iff, Option.isNone_iff_eq_none] at absent
        exact absent.symm
    · rfl

/-- The statement that drops a table leaves what is cleared, and is skipped on demand. -/
theorem cleared_of_some {after : Database}
    (done : (if dropFirst then db.dropNamed name else some db) = some after) :
    db.cleared name dropFirst = after := by
  unfold cleared
  cases dropFirst with
  | false => exact Option.some.inj done
  | true =>
      change db.dropNamed name = some after at done
      change (match namedTable? name with | some table => db.drop table | none => db) = after
      cases named : namedTable? name with
      | none => exact (dropNamed_of_none named done).symm
      | some table =>
          rw [dropNamed_of_table named] at done
          exact Option.some.inj done

/-- Where no table can be dropped, none is. -/
theorem cleared_of_none (failed : (if dropFirst then db.dropNamed name else some db) = none) :
    db.cleared name dropFirst = db := by
  apply cleared_eq_self_iff.mpr
  intro table drops named
  rw [if_pos drops, dropNamed_of_table named] at failed
  cases failed

/-- A creation that fails leaves the database as the drop has left it. -/
theorem createBy_of_failed (failed : (db.createBy name creation dropFirst).1 = false) :
    (db.createBy name creation dropFirst).2 = db.cleared name dropFirst := by
  unfold createBy at failed ⊢
  split at failed
  · next refused => exact (cleared_of_none refused).symm
  · next after done =>
      rw [cleared_of_some done]
      split at failed
      · cases failed
      · rfl

theorem createBy_of_table (named : namedTable? name = some table)
    (fails : creation (db.drop table) = none) :
    db.createBy name creation true = (false, db.drop table) := by
  rw [createBy, if_pos rfl, dropNamed_of_table named]
  dsimp only
  rw [fails]

/-- Where creating a table fails, every table and every row is as before, except for the table
that the name names if it was to be dropped.  So nothing has changed exactly if no table was to
be dropped, or none that exists has the name.  A table that was dropped is lost whenever its
creation then fails.  Which table a name names does not depend on letter case, and a name of
letters, digits and underscores names no table but the one of that name. -/
theorem failed_creation_keeps_undropped_tables (db : Database) (name : String)
    (creation : Database -> Option Database) (dropFirst : Bool) :
    ((db.createBy name creation dropFirst).1 = false ->
      (forall table, (db.createBy name creation dropFirst).2.content table =
        if dropFirst = true ∧ namedTable? name = some table then none
        else db.content table) ∧
      ((db.createBy name creation dropFirst).2 = db <-> forall table, dropFirst = true ->
        namedTable? name = some table -> db.has table = false)) ∧
    (forall table, dropFirst = true -> namedTable? name = some table ->
      creation (db.drop table) = none ->
        db.createBy name creation dropFirst = (false, db.drop table)) ∧
    (forall table : TableId, foldCase name.toList = table.name.toList ->
      namedTable? name = some table) ∧
    (IsSimpleName name.toList -> forall table : TableId, namedTable? name = some table ->
      foldCase name.toList = table.name.toList) := by
  refine ⟨?_, ?_, ?_, ?_⟩
  · intro failed
    rw [createBy_of_failed failed]
    exact ⟨db.content_cleared name dropFirst, cleared_eq_self_iff⟩
  · intro table drops named fails
    subst drops
    exact createBy_of_table named fails
  · intro table same
    exact namedTable?_of_foldCase same
  · intro simple table named
    exact (namedTable?_eq_some_iff simple).mp named

/-- A statement that creates the table of paths and cannot be executed if there is one. -/
def createPathsOnce (db : Database) : Option Database :=
  if db.has .paths then none else some (db.create .paths)

/-- A database with the tables of routes that were received and of their paths. -/
def withPaths : Database :=
  (Database.bare.create .rib).create .paths

/-- The table of paths cannot be created, but another table was dropped before that was tried. -/
theorem failed_creation_of_paths_drops_rib :
    withPaths.createBy "RIB" createPathsOnce true = (false, withPaths.drop .rib) ∧
      (withPaths.createBy "RIB" createPathsOnce true).2.content .rib = none ∧
      (withPaths.createBy "RIB" createPathsOnce true).2.content .paths = some ∅ ∧
      (withPaths.createBy "RIB" createPathsOnce true).2 ≠ withPaths ∧
      foldCase "RIB".toList = TableId.rib.name.toList := by
  rcases failed_creation_keeps_undropped_tables withPaths "RIB" createPathsOnce true with
    ⟨kept, lost, names, spelled⟩
  have named : namedTable? "RIB" = some .rib := names .rib (by decide)
  have failed := lost .rib rfl named (by decide)
  have simple : IsSimpleName "RIB".toList := @isSimpleName_of_foldCase _ .rib (by decide)
  rcases kept (by rw [failed]) with ⟨contents, unchanged⟩
  refine ⟨failed, ?_, ?_, ?_, spelled simple .rib named⟩
  · rw [contents, if_pos ⟨rfl, named⟩]
  · rw [contents, if_neg (by rw [named]; decide)]
    rfl
  · intro same
    have missing := unchanged.mp same .rib rfl named
    revert missing
    decide

/-- A creation that cannot be executed does not bring back the table that was dropped for it. -/
theorem failed_creation_loses_rib :
    (Database.bare.create .rib).createTable "RIB" .broken true = (false, .bare) ∧
      Database.bare ≠ Database.bare.create .rib := by
  decide

end Database
end Store
end AsCensus
