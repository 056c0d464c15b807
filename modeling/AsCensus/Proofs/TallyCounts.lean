import AsCensus.Tally
import Mathlib.Algebra.GroupWithZero.Nat
import Mathlib.Data.List.Count

namespace AsCensus

open Std

/-!
# What a tally counts

A tally is known by the systems that it mentions and by the count of each of them.
Adding entries mentions their systems and adds up their counts (`mem_addAll`,
`get_addAll`), and a path adds one to each system that provides transit on it
(`get_addTransit`).
-/

namespace Tally

theorem not_mem_empty (asn : Asn) : asn ∉ empty.counts :=
  ExtTreeMap.not_mem_empty

theorem get_empty (asn : Asn) : empty.get asn = 0 := by
  simp [get, empty]

theorem get_of_not_mem {tally : Tally} {asn : Asn} (absent : asn ∉ tally.counts) :
    tally.get asn = 0 := by
  rw [get, ExtTreeMap.getElem?_eq_none absent]
  rfl

theorem getElem?_of_mem {tally : Tally} {asn : Asn} (mentioned : asn ∈ tally.counts) :
    tally.counts[asn]? = some (tally.get asn) := by
  rw [get, ExtTreeMap.getElem?_eq_some_getElem mentioned]
  rfl

/-- Tallies that mention the same systems with the same counts are equal. -/
theorem ext_of_get {a b : Tally} (mentioned : forall asn, asn ∈ a.counts <-> asn ∈ b.counts)
    (same : forall asn, a.get asn = b.get asn) : a = b := by
  apply ext
  intro asn
  by_cases member : asn ∈ a.counts
  · rw [getElem?_of_mem member, getElem?_of_mem ((mentioned asn).mp member), same]
  · have absent : asn ∉ b.counts := fun other => member ((mentioned asn).mpr other)
    rw [ExtTreeMap.getElem?_eq_none member, ExtTreeMap.getElem?_eq_none absent]

theorem mem_add (tally : Tally) (asn other : Asn) (count : Nat) :
    other ∈ (tally.add asn count).counts <-> asn = other ∨ other ∈ tally.counts := by
  rw [ExtTreeMap.mem_iff_isSome_getElem?, getElem?_add, ExtTreeMap.mem_iff_isSome_getElem?]
  by_cases same : asn = other <;> simp [same]

/-! ## Adding entries -/

theorem mem_addAll (tally : Tally) (entries : List (Asn × Nat)) (asn : Asn) :
    asn ∈ (tally.addAll entries).counts <-> asn ∈ entries.map Prod.fst ∨ asn ∈ tally.counts := by
  induction entries generalizing tally with
  | nil => simp [addAll]
  | cons entry entries ih =>
      change asn ∈ ((tally.add entry.1 entry.2).addAll entries).counts <-> _
      rw [ih, mem_add, List.map_cons, List.mem_cons, eq_comm (a := asn)]
      constructor
      · rintro (later | now | before)
        · exact Or.inl (Or.inr later)
        · exact Or.inl (Or.inl now)
        · exact Or.inr before
      · rintro ((now | later) | before)
        · exact Or.inr (Or.inl now)
        · exact Or.inl later
        · exact Or.inr (Or.inr before)

theorem get_addAll (tally : Tally) (entries : List (Asn × Nat)) (asn : Asn) :
    (tally.addAll entries).get asn =
      tally.get asn + ((entries.filter fun entry => entry.1 == asn).map Prod.snd).sum := by
  induction entries generalizing tally with
  | nil => simp [addAll]
  | cons entry entries ih =>
      change ((tally.add entry.1 entry.2).addAll entries).get asn = _
      rw [ih, get_add, List.filter_cons]
      by_cases same : entry.1 = asn
      · simp [same, Nat.add_assoc]
      · simp [same]

/-- Entries that each count once add the number of their repetitions. -/
theorem get_addAll_ones (tally : Tally) (asns : List Asn) (asn : Asn) :
    (tally.addAll (asns.map fun asn => (asn, 1))).get asn = tally.get asn + asns.count asn := by
  rw [get_addAll, List.filter_map, List.map_map]
  simp [Function.comp_def, List.count_eq_countP, List.countP_eq_length_filter, List.map_const']

theorem get_addAll_map (tally : Tally) {asns : List Asn} (distinct : asns.Nodup)
    (number : Asn -> Nat) (asn : Asn) :
    (tally.addAll (asns.map fun asn => (asn, number asn))).get asn =
      tally.get asn + if asn ∈ asns then number asn else 0 := by
  induction asns generalizing tally with
  | nil => rfl
  | cons first rest ih =>
      rw [List.nodup_cons] at distinct
      change ((tally.add first (number first)).addAll _).get asn = _
      rw [ih _ distinct.2, get_add]
      by_cases same : first = asn
      · subst same
        simp [distinct.1]
      · simp [same, Ne.symm same]

/-! ## Listing the entries -/

theorem mem_toList {tally : Tally} {asn : Asn} {count : Nat} :
    (asn, count) ∈ tally.toList <-> asn ∈ tally.counts ∧ tally.get asn = count := by
  rw [toList, ExtTreeMap.mem_toList_iff_getElem?_eq_some]
  constructor
  · intro found
    have mentioned : asn ∈ tally.counts := ExtTreeMap.mem_iff_isSome_getElem?.mpr (by simp [found])
    rw [getElem?_of_mem mentioned] at found
    exact ⟨mentioned, Option.some.inj found⟩
  · rintro ⟨mentioned, rfl⟩
    exact getElem?_of_mem mentioned

theorem nodup_systems (tally : Tally) : (tally.toList.map Prod.fst).Nodup := by
  rw [toList, ExtTreeMap.map_fst_toList_eq_keys]
  exact ExtTreeMap.nodup_keys

/-- Tallies that count every system the same list the same entries above zero. -/
theorem filter_toList_congr {a b : Tally} (same : forall asn, a.get asn = b.get asn) :
    (a.toList.filter fun entry => 0 < entry.2) = b.toList.filter fun entry => 0 < entry.2 := by
  have kept (tally : Tally) (asn : Asn) :
      (tally.counts.filter fun _ count => 0 < count)[asn]? =
        if 0 < tally.get asn then some (tally.get asn) else none := by
    by_cases mentioned : asn ∈ tally.counts
    · simp [ExtTreeMap.getElem?_filter, getElem?_of_mem mentioned, Option.filter]
    · simp [ExtTreeMap.getElem?_filter, get_of_not_mem mentioned,
        ExtTreeMap.getElem?_eq_none mentioned]
  have equal : (a.counts.filter fun _ count => decide (0 < count)) =
      b.counts.filter fun _ count => decide (0 < count) := by
    apply ExtTreeMap.ext_getElem?
    intro asn
    rw [kept, kept, same]
  have listed := congrArg ExtTreeMap.toList equal
  rw [ExtTreeMap.toList_filter, ExtTreeMap.toList_filter] at listed
  exact listed

/-! ## Counting the transit of paths -/

theorem mem_transitOf_iff {path : String} {origin : Asn} {withoutPeer : Bool} {asn : Asn} :
    asn ∈ AsPath.transitOf path origin withoutPeer <->
      asn ∈ (AsPath.condition path origin withoutPeer).transit := by
  rw [AsPath.transitOf, ExtTreeSet.mem_toList]

theorem nodup_transitOf (path : String) (origin : Asn) (withoutPeer : Bool) :
    (AsPath.transitOf path origin withoutPeer).Nodup := by
  have distinct := (AsPath.condition path origin withoutPeer).transit.distinct_toList
  refine distinct.imp ?_
  intro a b different same
  exact different (by rw [same]; exact ReflCmp.compare_self)

theorem mem_addTransit (tally : Tally) (path : String) (origin : Asn) (withoutPeer : Bool)
    (asn : Asn) :
    asn ∈ (tally.addTransit path origin withoutPeer).counts <->
      asn ∈ AsPath.transitOf path origin withoutPeer ∨ asn ∈ tally.counts := by
  rw [addTransit, mem_addAll, List.map_map]
  simp [Function.comp_def]

theorem get_addTransit (tally : Tally) (path : String) (origin : Asn) (withoutPeer : Bool)
    (asn : Asn) :
    (tally.addTransit path origin withoutPeer).get asn =
      tally.get asn + if asn ∈ AsPath.transitOf path origin withoutPeer then 1 else 0 := by
  rw [addTransit, get_addAll_ones, (nodup_transitOf path origin withoutPeer).count]

/-- A system that provides transit is public. -/
theorem not_reserved_of_mem_transitOf {path : String} {origin : Asn} {withoutPeer : Bool}
    {asn : Asn} (provides : asn ∈ AsPath.transitOf path origin withoutPeer) :
    asn.isReserved = false := by
  have onPath := (AsPath.mem_transit_condition_iff.mp (mem_transitOf_iff.mp provides)).1
  rcases List.mem_filterMap.mp onPath with ⟨word, _, read⟩
  have notReserved := (Option.filter_eq_some_iff.mp read).2
  simpa using notReserved

end Tally
end AsCensus
