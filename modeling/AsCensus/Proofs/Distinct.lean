import AsCensus.Batch
import Mathlib.Data.Set.Card
import Std.Data.ExtTreeMap

namespace AsCensus

open Std

/-!
# Counting distinct elements

A query that asks for distinct rows leaves out repetitions of a list and counts what is
left.  The order of the rows and their repetitions leave no trace in such a count, which
is the size of a set (`countP_eraseDups`).

A query also reads each row, which may fail.  Where every row can be read, the rows are
read one by one and nothing is lost (`mapM_of_forall`, `foldlM_of_forall`).  One row that
cannot be read makes the whole query fail (`mapM_of_mem`, `foldlM_of_mem`).

A query may visit its rows in any order.  That leaves no trace if two rows that are visited
one after the other can be exchanged (`foldlM_perm`).
-/

theorem nodup_eraseDups [DecidableEq X] (values : List X) : values.eraseDups.Nodup := by
  induction count : values.length using Nat.strongRecOn generalizing values with
  | ind count ih =>
      cases values with
      | nil => exact List.nodup_nil
      | cons first rest =>
          rw [List.eraseDups_cons, List.nodup_cons]
          constructor
          · simp [List.mem_eraseDups]
          · have shorter := List.length_filter_le (fun b => !b == first) rest
            rw [List.length_cons] at count
            exact ih _ (by omega) _ rfl

/-- What is left keeps its order. -/
theorem eraseDups_sublist [DecidableEq X] (values : List X) : values.eraseDups.Sublist values := by
  induction count : values.length using Nat.strongRecOn generalizing values with
  | ind count ih =>
      cases values with
      | nil => exact List.Sublist.refl []
      | cons first rest =>
          have shorter := List.length_filter_le (fun b => !b == first) rest
          rw [List.length_cons] at count
          rw [List.eraseDups_cons]
          apply List.Sublist.cons_cons
          exact (ih _ (by omega) _ rfl).trans List.filter_sublist

/-- The elements of a list with some property are counted without repetitions. -/
theorem countP_eraseDups [DecidableEq X] (p : X -> Bool) (values : List X) :
    values.eraseDups.countP p = {x | x ∈ values ∧ p x = true}.ncard := by
  have distinct : (values.eraseDups.filter p).Nodup := (nodup_eraseDups values).filter p
  have same : {x | x ∈ values ∧ p x = true} = ↑(values.eraseDups.filter p).toFinset := by
    ext x
    simp [List.mem_eraseDups]
  rw [same, Set.ncard_coe_finset, List.toFinset_card_of_nodup distinct, List.countP_eq_length_filter]

theorem length_eraseDups [DecidableEq X] (values : List X) :
    values.eraseDups.length = {x | x ∈ values}.ncard := by
  have counted := countP_eraseDups (fun _ => true) values
  simpa using counted

/-- A table has one row for each of its keys. -/
theorem size_eq_ncard [DecidableEq K] [Ord K] [TransOrd K] [LawfulEqOrd K]
    (table : ExtTreeMap K V) : table.size = {key | key ∈ table}.ncard := by
  have listed : {key | key ∈ table} = ↑table.keys.toFinset := by
    ext key
    simp [ExtTreeMap.mem_keys]
  rw [listed, Set.ncard_coe_finset, List.toFinset_card_of_nodup ExtTreeMap.nodup_keys,
    ExtTreeMap.length_keys]

/-- Elements that can all be read are read one by one. -/
theorem mapM_of_forall {read : X -> Option Y} {value : X -> Y} {values : List X}
    (readable : forall x, x ∈ values -> read x = some (value x)) :
    values.mapM read = some (values.map value) := by
  induction values with
  | nil => rfl
  | cons first rest ih =>
      have later := ih fun x member => readable x (List.mem_cons_of_mem first member)
      have now := readable first List.mem_cons_self
      rw [List.mapM_cons, now, later]
      rfl

/-- A pass whose steps all succeed is the pass with these steps. -/
theorem foldlM_of_forall {step : S -> X -> Option S} {next : S -> X -> S} {values : List X}
    (succeeds : forall state x, x ∈ values -> step state x = some (next state x)) (state : S) :
    values.foldlM step state = some (values.foldl next state) := by
  induction values generalizing state with
  | nil => rfl
  | cons first rest ih =>
      have now := succeeds state first List.mem_cons_self
      rw [List.foldlM_cons, now]
      exact ih (fun state x member => succeeds state x (List.mem_cons_of_mem first member)) _

theorem mapM_of_mem {read : X -> Option Y} {values : List X} {x : X} (member : x ∈ values)
    (unread : read x = none) : values.mapM read = none := by
  induction values with
  | nil => cases member
  | cons first rest ih =>
      rw [List.mapM_cons]
      rcases List.mem_cons.mp member with rfl | later
      · rw [unread]
        rfl
      · rw [ih later]
        cases read first <;> rfl

/-- A step that fails in every state makes the pass fail, also after steps that succeed. -/
theorem foldlM_of_mem {step : S -> X -> Option S} {values : List X} {x : X} (member : x ∈ values)
    (fails : forall state, step state x = none) (state : S) : values.foldlM step state = none := by
  induction values generalizing state with
  | nil => cases member
  | cons first rest ih =>
      rw [List.foldlM_cons]
      rcases List.mem_cons.mp member with rfl | later
      · rw [fails]
        rfl
      · cases step state first with
        | none => rfl
        | some next => exact ih later next

/-- Steps that can be exchanged may be taken in any order. -/
theorem foldlM_perm {step : S -> X -> Option S} {values others : List X}
    (exchange : forall state x y, x ∈ values -> y ∈ values ->
      (step state x).bind (fun next => step next y) =
        (step state y).bind fun next => step next x)
    (reordered : values.Perm others) (state : S) :
    values.foldlM step state = others.foldlM step state := by
  induction reordered generalizing state with
  | nil => rfl
  | cons x _ ih =>
      rw [List.foldlM_cons, List.foldlM_cons]
      congr 1
      funext next
      apply ih
      intro state y z first second
      exact exchange state y z (List.mem_cons_of_mem x first) (List.mem_cons_of_mem x second)
  | swap x y rest =>
      have now := exchange state y x (by simp) (by simp)
      simp only [List.foldlM_cons, Option.bind_eq_bind, ← Option.bind_assoc, now]
  | trans first _ before after =>
      rw [before exchange, after]
      intro state x y isFirst isSecond
      exact exchange state x y (first.mem_iff.mpr isFirst) (first.mem_iff.mpr isSecond)

end AsCensus
