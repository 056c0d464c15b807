import AsCensus.Proofs.Distinct
import AsCensus.Proofs.TableFrames
import AsCensus.Store.Cell

namespace AsCensus
namespace Store

open Std

/-!
# The order in which rows are stored

Storing a row looks at one table only and finds the key of the row taken or free.  So two
rows that are stored one after the other can be exchanged, whether they go to the same table
or not: either both orders store both rows, or neither does (`insertRow_exchange`).  Rows may
therefore be stored in any order (`storeRows_perm`).

WHOIS details are left out.  A row that comes without a number gets the next free one there,
which depends on the rows before it.
-/

/-- What a table holds after a row was stored in it. -/
def TableId.added : (table : TableId) -> List Cell -> table.Content -> Option table.Content
  | rib, cells, rows => ((completeRow rib.defaults cells).bind ribEntry).bind (insertNew rows)
  | paths, cells, rows => ((completeRow paths.defaults cells).bind pathEntry).bind (insertNew rows)
  | analysis, cells, rows =>
      ((completeRow analysis.defaults cells).bind analysisEntry).bind (insertNew rows)
  | stats, cells, rows => ((completeRow stats.defaults cells).bind statsEntry).bind (insertNew rows)
  | whois, cells, rows =>
      ((completeRow whois.defaults cells).bind (whoisEntry rows)).bind (insertNew rows)
  | routes, cells, rows =>
      ((completeRow routes.defaults cells).bind routeEntry).bind (insertNew rows)

theorem insert_comm [Ord K] [TransOrd K] [LawfulEqOrd K] (rows : ExtTreeMap K V) {first second : K}
    (different : first ≠ second) (value other : V) :
    (rows.insert first value).insert second other =
      (rows.insert second other).insert first value := by
  apply ExtTreeMap.ext_getElem?
  intro key
  simp only [ExtTreeMap.getElem?_insert]
  by_cases isSecond : compare second key = .eq
  · have notFirst : ¬ compare first key = .eq := by
      intro isFirst
      apply different
      rw [LawfulEqOrd.eq_of_compare isFirst, LawfulEqOrd.eq_of_compare isSecond]
    rw [if_pos isSecond, if_neg notFirst, if_pos isSecond]
  · rw [if_neg isSecond, if_neg isSecond]

theorem insertNew_exchange [Ord K] [TransOrd K] [LawfulEqOrd K] (rows : ExtTreeMap K V)
    (first second : K × V) :
    (insertNew rows first).bind (fun after => insertNew after second) =
      (insertNew rows second).bind fun after => insertNew after first := by
  simp only [insertNew, ExtTreeMap.contains_iff_mem]
  by_cases hasFirst : first.1 ∈ rows
  · by_cases hasSecond : second.1 ∈ rows <;> simp [hasFirst, hasSecond]
  · by_cases hasSecond : second.1 ∈ rows
    · simp [hasFirst, hasSecond]
    · by_cases same : first.1 = second.1
      · simp [hasSecond, same]
      · simp [hasFirst, hasSecond, same, Ne.symm same]
        exact insert_comm rows same first.2 second.2

theorem insertNew_exchange_option [Ord K] [TransOrd K] [LawfulEqOrd K] (rows : ExtTreeMap K V)
    (first second : Option (K × V)) :
    (first.bind (insertNew rows)).bind (fun after => second.bind (insertNew after)) =
      (second.bind (insertNew rows)).bind fun after => first.bind (insertNew after) := by
  cases first with
  | none => cases second <;> simp
  | some first =>
      cases second with
      | none => simp
      | some second => exact insertNew_exchange rows first second

namespace Database

variable {table other : TableId}

theorem withContent_withContent (db : Database) (table : TableId)
    (first second : Option table.Content) :
    (db.withContent table first).withContent table second = db.withContent table second := by
  cases table <;> rfl

theorem withContent_comm (db : Database) (different : table ≠ other)
    (content : Option table.Content) (otherContent : Option other.Content) :
    (db.withContent table content).withContent other otherContent =
      (db.withContent other otherContent).withContent table content := by
  cases table <;> cases other <;> first | rfl | exact absurd rfl different

theorem storing_eq (cells : Option (List Cell)) (table : Option T) (entry : List Cell -> Option E)
    (insert : T -> E -> Option T) (put : T -> Database) :
    (cells.bind fun cells => table.bind fun rows => (entry cells).bind fun new =>
        (insert rows new).bind fun after => some (put after)) =
      table.bind fun rows => ((cells.bind entry).bind (insert rows)).map put := by
  cases cells <;> cases table <;> simp [Option.map_eq_bind, Option.bind_assoc]

/-- Storing a row replaces what its table holds. -/
theorem insertRow_eq (db : Database) (table : TableId) (cells : List Cell) :
    db.insertRow table cells =
      (db.content table).bind fun rows =>
        (table.added cells rows).map fun after => db.withContent table (some after) := by
  cases table with
  | rib | paths | analysis | stats | routes => exact storing_eq _ _ _ _ _
  | whois =>
      -- The rows that are there are asked for the next free number.
      simp only [insertRow, TableId.added, content, withContent]
      cases db.whois with
      | none => cases completeRow TableId.whois.defaults cells <;> rfl
      | some rows => exact storing_eq _ (some rows) (whoisEntry rows) _ _

/-- Store rows of tables one after the other.  There is no result if one of them cannot be
stored. -/
def storeRows (db : Database) (rows : List (TableId × List Cell)) : Option Database :=
  rows.foldlM (fun db row => db.insertRow row.1 row.2) db

/-- Two rows of one table can be exchanged. -/
theorem added_exchange (numbered : table ≠ .whois) (rows : table.Content)
    (first second : List Cell) :
    (table.added first rows).bind (table.added second) =
      (table.added second rows).bind (table.added first) := by
  cases table with
  | rib | paths | analysis | stats | routes => exact insertNew_exchange_option rows _ _
  | whois => exact absurd rfl numbered

/-- Two rows of one table are stored by one step of the table each. -/
theorem insertRow_twice (db : Database) (table : TableId) (first second : List Cell) :
    (db.insertRow table first).bind (fun after => after.insertRow table second) =
      (db.content table).bind fun rows =>
        ((table.added first rows).bind (table.added second)).map fun after =>
          db.withContent table (some after) := by
  rw [insertRow_eq]
  cases db.content table with
  | none => rfl
  | some rows =>
      simp only [Option.bind_some]
      cases table.added first rows with
      | none => rfl
      | some after =>
          simp only [Option.map_some, Option.bind_some, insertRow_eq, content_withContent,
            withContent_withContent]

/-- Rows of two tables do not meet. -/
theorem insertRow_apart (db : Database) (different : table ≠ other) (first second : List Cell) :
    (db.insertRow table first).bind (fun after => after.insertRow other second) =
      ((db.content table).bind (table.added first)).bind fun after =>
        ((db.content other).bind (other.added second)).map fun otherAfter =>
          (db.withContent table (some after)).withContent other (some otherAfter) := by
  simp only [insertRow_eq, content_withContent_of_ne db _ (Ne.symm different),
    Option.map_eq_bind, Option.bind_assoc, Option.bind_some, Function.comp_apply]

theorem insertRow_exchange (db : Database) {first second : TableId × List Cell}
    (numbered : first.1 ≠ .whois) :
    (db.insertRow first.1 first.2).bind (fun after => after.insertRow second.1 second.2) =
      (db.insertRow second.1 second.2).bind fun after => after.insertRow first.1 first.2 := by
  rcases first with ⟨table, cells⟩
  rcases second with ⟨other, otherCells⟩
  by_cases same : table = other
  · subst same
    simp only [insertRow_twice, added_exchange numbered _ cells otherCells]
  · rw [insertRow_apart db same, insertRow_apart db (Ne.symm same)]
    dsimp only
    cases (db.content table).bind (table.added cells) with
    | none => cases (db.content other).bind (other.added otherCells) <;> rfl
    | some after =>
        cases (db.content other).bind (other.added otherCells) with
        | none => rfl
        | some otherAfter => exact congrArg some (withContent_comm db same _ _)

/-- Rows may be stored in any order. -/
theorem storeRows_perm (db : Database) {rows others : List (TableId × List Cell)}
    (numbered : forall row, row ∈ rows -> row.1 ≠ .whois) (reordered : rows.Perm others) :
    db.storeRows rows = db.storeRows others := by
  apply foldlM_perm _ reordered
  intro after first second member _
  exact insertRow_exchange after (numbered first member)

end Database
end Store
end AsCensus
