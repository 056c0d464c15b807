import AsCensus.Store.AsnStats
import Mathlib.Data.List.Induction

namespace AsCensus
namespace Store

open Std

/-!
# Writing in batches

Rows are written by several statements, each of which writes one batch.  As long as the
table exists and no batch is too large for a statement, no statement fails, and the batches
put together write what the rows would write one after the other (`writeBatches_eq`).  So the size of a batch leaves no trace.  If
the table is missing, every batch fails (`writeBatches_of_none`).

What a row of the table holds in the end is then a matter of the last row that was
written to its key: `lastOf` looks it up.
-/

/-- The next of a number of statements that each write one batch. -/
def writeNext (write : Database -> List X -> Option Database) (state : Database × Option Nat)
    (part : List X) : Database × Option Nat :=
  match write state.1 part with
  | some after => (after, state.2.map (· + part.length))
  | none => (state.1, none)

/-- Statements that each write their batch row by row write all rows one by one.  Only the
batches that are there have to be written like this: a statement may fail for others. -/
theorem writeBatches_eq (write : Database -> List X -> Option Database)
    (wrap : T -> Database) (put : T -> X -> T) (parts : List (List X))
    (writes : forall table part, part ∈ parts ->
      write (wrap table) part = some (wrap (part.foldl put table)))
    (table : T) :
    writeBatches write (wrap table) parts =
      (wrap (parts.flatten.foldl put table), some parts.flatten.length) := by
  have resumed : forall (table : T) (written : Nat),
      parts.foldl (writeNext write) (wrap table, some written) =
        (wrap (parts.flatten.foldl put table), some (written + parts.flatten.length)) := by
    induction parts with
    | nil => intro table written; rfl
    | cons part rest ih =>
        intro table written
        have first := writes table part List.mem_cons_self
        have later := ih fun table other member =>
          writes table other (List.mem_cons_of_mem part member)
        rw [List.foldl_cons, writeNext, first, List.flatten_cons, List.foldl_append,
          List.length_append, ← Nat.add_assoc]
        exact later (part.foldl put table) (written + part.length)
  have whole := resumed table 0
  rw [Nat.zero_add] at whole
  exact whole

/-- Batches that all fail leave the database as it was. -/
theorem writeBatches_of_none {write : Database -> List X -> Option Database}
    (fails : forall part, write db part = none) (parts : List (List X)) :
    writeBatches write db parts = (db, if parts = [] then some 0 else none) := by
  have stuck (written : Option Nat) (parts : List (List X)) :
      parts.foldl (writeNext write) (db, written) =
        (db, if parts = [] then written else none) := by
    induction parts generalizing written with
    | nil => rfl
    | cons part rest ih =>
        have now : writeNext write (db, written) part = (db, none) := by
          rw [writeNext, fails]
        rw [List.foldl_cons, now, ih, if_neg (List.cons_ne_nil part rest), ite_self]
  exact stuck (some 0) parts

/-- What the last entry of a list says about a key. -/
def lastOf [BEq K] (entries : List (K × V)) (key : K) : Option V :=
  entries.reverse.lookup key

theorem lastOf_nil [BEq K] (key : K) : lastOf ([] : List (K × V)) key = none := rfl

theorem lastOf_concat [BEq K] (entries : List (K × V)) (entry : K × V) (key : K) :
    lastOf (entries ++ [entry]) key =
      if key == entry.1 then some entry.2 else lastOf entries key := by
  rw [lastOf, List.reverse_append, List.reverse_singleton, List.singleton_append, List.lookup_cons]
  cases key == entry.1 <;> rfl

theorem lastOf_append [BEq K] (front back : List (K × V)) (key : K) :
    lastOf (front ++ back) key = (lastOf back key).or (lastOf front key) := by
  rw [lastOf, List.reverse_append, List.lookup_append]
  rfl

/-- A key with a single entry has this one as its last. -/
theorem lastOf_eq_some_of_mem [BEq K] [LawfulBEq K] {entries : List (K × V)} {key : K} {value : V}
    (distinct : (entries.map Prod.fst).Nodup) (member : (key, value) ∈ entries) :
    lastOf entries key = some value := by
  induction entries using List.reverseRecOn with
  | nil => cases member
  | append_singleton entries entry ih =>
      rw [List.map_append, List.nodup_append] at distinct
      rcases distinct with ⟨front, _, apart⟩
      rw [lastOf_concat]
      rcases List.mem_append.mp member with before | now
      · have different : key ≠ entry.1 :=
          apart key (List.mem_map_of_mem before) entry.1 (by simp)
        rw [if_neg (by simpa using different)]
        exact ih front before
      · rw [List.mem_singleton] at now
        subst now
        simp

theorem lastOf_eq_none_iff [BEq K] [LawfulBEq K] {entries : List (K × V)} {key : K} :
    lastOf entries key = none <-> key ∉ entries.map Prod.fst := by
  induction entries using List.reverseRecOn with
  | nil => simp [lastOf_nil]
  | append_singleton entries entry ih =>
      rw [lastOf_concat, List.map_append, List.mem_append]
      by_cases same : key = entry.1
      · simp [same]
      · simp [same, ih]

theorem mem_of_lastOf_eq_some [BEq K] [LawfulBEq K] {entries : List (K × V)} {key : K} {value : V}
    (found : lastOf entries key = some value) : (key, value) ∈ entries := by
  rcases List.lookup_eq_some_iff.mp found with ⟨before, after, shape, _⟩
  rw [← List.mem_reverse, shape]
  exact List.mem_append_right before List.mem_cons_self

/-- Rows inserted one by one leave the last one of each key, and other keys as they were. -/
theorem getElem?_foldl_insert [Ord K] [TransOrd K] [LawfulEqOrd K] [BEq K] [LawfulBEq K]
    (rows : List (K × V)) (table : ExtTreeMap K V) (key : K) :
    (rows.foldl (fun table row => table.insert row.1 row.2) table)[key]? =
      (lastOf rows key).or table[key]? := by
  induction rows using List.reverseRecOn with
  | nil => rfl
  | append_singleton rows row ih =>
      rw [List.foldl_append, List.foldl_cons, List.foldl_nil, ExtTreeMap.getElem?_insert, ih,
        lastOf_concat]
      by_cases same : key = row.1
      · subst same
        simp
      · have other : ¬ compare row.1 key = .eq := fun equal =>
          same (LawfulEqOrd.eq_of_compare equal).symm
        simp [same, other]

end Store
end AsCensus
