import AsCensus.Proofs.Announced
import AsCensus.Proofs.BatchedWrites

namespace AsCensus
namespace Store

open Std

/-!
# Written statistics

Writing counts touches the rows of their systems at one time.  In each of these rows it
sets the column of one role and family to the last count of the system, and the flag of
the role (`getElem?_foldl_write`); it touches no other row (`getElem?_foldl_write_of_ne`).

A list of exact counts writes each public system with a positive number once
(`getElem?_write_exact`).
-/

variable {role : Role} {family : AddressFamily} {timestamp : Int}

theorem StatsKey.at_eq_at_iff {a b : Asn} {s t : Int} :
    StatsKey.at a s = StatsKey.at b t <-> a = b ∧ s = t := by
  constructor
  · intro same
    have sameAsn : a.toInt = b.toInt := Datum.integer.inj (congrArg StatsKey.asn same)
    exact ⟨Asn.toInt_inj sameAsn, Datum.integer.inj (congrArg StatsKey.timestamp same)⟩
  · rintro ⟨rfl, rfl⟩
    rfl

theorem StatsKey.at_inj {a b : Asn} :
    StatsKey.at a timestamp = StatsKey.at b timestamp <-> a = b := by
  rw [StatsKey.at_eq_at_iff, and_iff_left rfl]

/-- A count that is written twice is the one that was written last. -/
theorem StatsRow.record_record (row : StatsRow) (role : Role) (family : AddressFamily)
    (first second : Datum) :
    (row.record role family first).record role family second = row.record role family second := by
  cases role <;> cases family <;> rfl

/-- Counts in different columns may be written in any order. -/
theorem StatsRow.record_comm (row : StatsRow) {role other : Role}
    {family otherFamily : AddressFamily} (columns : (role, family) ≠ (other, otherFamily))
    (first second : Datum) :
    (row.record role family first).record other otherFamily second =
      (row.record other otherFamily second).record role family first := by
  cases role <;> cases family <;> cases other <;> cases otherFamily <;>
    first
    | rfl
    | exact absurd rfl columns

/-- A row has no columns besides its counts and flags. -/
theorem StatsRow.ext_columns {a b : StatsRow}
    (counts : forall role family, a.count role family = b.count role family)
    (flags : forall role, a.flag role = b.flag role) : a = b := by
  cases a
  cases b
  cases counts .transit .ipv4
  cases counts .transit .ipv6
  cases counts .origin .ipv4
  cases counts .origin .ipv6
  cases flags .transit
  cases flags .origin
  rfl

theorem storeCounts_eq {db : Database} {table : StatsTable} (hasStats : db.stats = some table)
    (role : Role) (family : AddressFamily) (counts : List (Asn × Nat)) (timestamp : Int)
    (batchSize : Nat) :
    db.storeCounts role family counts timestamp batchSize =
      ({ db with stats := some (counts.foldl (StatsTable.write role family timestamp) table) },
        some counts.length) := by
  have written := writeBatches_eq (Database.writeCounts role family timestamp)
    (fun table => { db with stats := some table }) (StatsTable.write role family timestamp)
    (batches (max batchSize 1) counts) (fun _ _ _ => rfl) table
  have here : { db with stats := some table } = db := by rw [← hasStats]
  rw [flatten_batches (by omega), here] at written
  exact written

theorem getElem?_write (table : StatsTable) (entry : Asn × Nat) (key : StatsKey) :
    (StatsTable.write role family timestamp table entry)[key]? =
      if StatsKey.at entry.1 timestamp = key then
        some ((table[key]?.getD {}).record role family (.ofInt entry.2))
      else table[key]? := by
  rw [StatsTable.write, ExtTreeMap.getElem?_alter]
  by_cases same : StatsKey.at entry.1 timestamp = key
  · subst same
    simp
  · rw [if_neg same, if_neg]
    simpa using same

/-- Rows of other systems, or of other times, are not touched. -/
theorem getElem?_foldl_write_of_ne (counts : List (Asn × Nat)) (table : StatsTable)
    {key : StatsKey} (other : forall asn, StatsKey.at asn timestamp ≠ key) :
    (counts.foldl (StatsTable.write role family timestamp) table)[key]? = table[key]? := by
  induction counts generalizing table with
  | nil => rfl
  | cons entry rest ih => rw [List.foldl_cons, ih, getElem?_write, if_neg (other entry.1)]

/-- The row of a system takes its last count. -/
theorem getElem?_foldl_write (counts : List (Asn × Nat)) (table : StatsTable) (asn : Asn) :
    (counts.foldl (StatsTable.write role family timestamp) table)[StatsKey.at asn timestamp]? =
      match lastOf counts asn with
      | none => table[StatsKey.at asn timestamp]?
      | some count =>
          some ((table[StatsKey.at asn timestamp]?.getD {}).record role family (.ofInt count)) := by
  -- The last count decides, so the induction takes counts away from the end.
  induction counts using List.reverseRecOn with
  | nil => rfl
  | append_singleton counts entry ih =>
      rw [List.foldl_append, List.foldl_cons, List.foldl_nil, getElem?_write, ih, lastOf_concat]
      simp only [StatsKey.at_inj]
      by_cases same : asn = entry.1
      · subst same
        cases lastOf counts entry.1 <;> simp [StatsRow.record_record]
      · simp [same, Ne.symm same]

/-- Exact counts set the column of each public system that has a positive number. -/
theorem getElem?_write_exact {counts : List (Asn × Nat)} {number : Asn -> Nat}
    (exactly : ExactCounts counts number) (table : StatsTable) (asn : Asn) :
    (counts.foldl (StatsTable.write role family timestamp) table)[StatsKey.at asn timestamp]? =
      if asn.isReserved = false ∧ 0 < number asn then
        some ((table[StatsKey.at asn timestamp]?.getD {}).record role family (.ofInt (number asn)))
      else table[StatsKey.at asn timestamp]? := by
  rw [getElem?_foldl_write]
  split_ifs with counted
  · have member : (asn, number asn) ∈ counts :=
      (exactly.mem_iff asn (number asn)).mpr ⟨counted.1, counted.2, rfl⟩
    rw [lastOf_eq_some_of_mem exactly.distinct member]
  · have absent : asn ∉ counts.map Prod.fst := by
      intro listed
      rcases List.mem_map.mp listed with ⟨⟨system, count⟩, member, rfl⟩
      rcases (exactly.mem_iff system count).mp member with ⟨notReserved, positive, same⟩
      exact counted ⟨notReserved, by rw [same]; exact positive⟩
    rw [lastOf_eq_none_iff.mpr absent]

end Store
end AsCensus
