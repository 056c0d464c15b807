import AsCensus.Proofs.ConditionedPaths
import AsCensus.Proofs.Distinct
import Mathlib.Algebra.BigOperators.Group.Multiset.Basic

namespace AsCensus

open Std

/-!
# Tallies put together from parts

The same contributions can be counted in many ways: one after the other, all at once, or in
several tallies that are merged in some order.  An `Assembly` is one of these ways.  What it
mentions and how it counts each system can be read off its contributions, whose order and
grouping do not show in a multiset; and a tally is determined by these two things
(`Assembly.tally_eq_of_contributions`).  A system that was added with the count zero is mentioned,
so that equal counts alone would not be enough.

Counts have no bound here, while a counter of 64 bits has one.  A count that stays below the bound
in the end has never been above it, for no step takes anything away.  So an assembly of such
counters gives the same tally (`Assembly.bounded_eq`).
-/

namespace Tally

/-- What is counted. -/
inductive Contribution
  | occurrences (asn : Asn) (count : Nat)
  /-- A path counts once for each system that provides transit on it. -/
  | path (text : String) (origin : Asn) (withoutPeer : Bool)
  deriving DecidableEq, Repr

namespace Contribution

/-- Whether a system provides transit on a path that is counted. -/
def isTransitOf (asn : Asn) : Contribution -> Bool
  | occurrences _ _ => false
  | path text origin withoutPeer =>
      (AsPath.condition text origin withoutPeer).transit.contains asn

/-- The occurrences that are given for a system. -/
def given (asn : Asn) : Contribution -> Nat
  | occurrences other count => if other = asn then count else 0
  | path _ _ _ => 0

/-- Whether a contribution mentions a system, be it with the count zero. -/
def Mentions (asn : Asn) : Contribution -> Prop
  | occurrences other _ => other = asn
  | path text origin withoutPeer => asn ∈ (AsPath.condition text origin withoutPeer).transit

end Contribution

/-- How often contributions count a system: the occurrences that are given for it, and the number
of paths on which it provides transit. -/
def countIn (contributions : Multiset Contribution) (asn : Asn) : Nat :=
  (contributions.map (Contribution.given asn)).sum +
    contributions.countP fun contribution => contribution.isTransitOf asn

/-- All occurrences that are given, and the number of paths. -/
def total (contributions : Multiset Contribution) : Nat :=
  (contributions.map fun
    | .occurrences _ count => count
    | .path _ _ _ => 1).sum

/-- A tally with the transit of paths counted.  Each path comes with its origin and with whether
its peer is left out. -/
def addPaths (tally : Tally) (paths : List (String × Asn × Bool)) : Tally :=
  paths.foldl (fun tally (path, origin, withoutPeer) => tally.addTransit path origin withoutPeer)
    tally

/-- One more than the greatest count of 64 bits. -/
def countBound : Nat := 18446744073709551616

/-- Add occurrences of a system to a tally whose counts have 64 bits.  There is no result if their
sum has more. -/
def addBounded (tally : Tally) (asn : Asn) (count : Nat) : Option Tally :=
  if tally.get asn + count < countBound then some (tally.add asn count) else none

/-- Add occurrences of many systems to a tally whose counts have 64 bits. -/
def addAllBounded (tally : Tally) (entries : List (Asn × Nat)) : Option Tally :=
  entries.foldlM (fun tally entry => tally.addBounded entry.1 entry.2) tally

/-- A way to count contributions. -/
inductive Assembly
  | empty
  | ofList (entries : List (Asn × Nat))
  | add (before : Assembly) (asn : Asn) (count : Nat)
  | addTransit (before : Assembly) (path : String) (origin : Asn) (withoutPeer : Bool)
  | merge (first second : Assembly)
  deriving Repr

namespace Assembly

/-- The tally that is put together. -/
def tally : Assembly -> Tally
  | empty => Tally.empty
  | ofList entries => Tally.ofList entries
  | add before asn count => before.tally.add asn count
  | addTransit before path origin withoutPeer => before.tally.addTransit path origin withoutPeer
  | merge first second => first.tally.merge second.tally

/-- The tally that is put together if its counts have 64 bits. -/
def bounded : Assembly -> Option Tally
  | empty => some Tally.empty
  | ofList entries => Tally.empty.addAllBounded entries
  | add before asn count => before.bounded.bind fun tally => tally.addBounded asn count
  | addTransit before path origin withoutPeer => before.bounded.bind fun tally =>
      tally.addAllBounded ((AsPath.transitOf path origin withoutPeer).map fun asn => (asn, 1))
  | merge first second => first.bounded.bind fun tally => second.bounded.bind fun other =>
      tally.addAllBounded other.toList

/-- What is counted. -/
def contributions : Assembly -> Multiset Contribution
  | empty => 0
  | ofList entries =>
      Multiset.ofList (entries.map fun (asn, count) => Contribution.occurrences asn count)
  | add before asn count => .occurrences asn count ::ₘ before.contributions
  | addTransit before path origin withoutPeer =>
      .path path origin withoutPeer ::ₘ before.contributions
  | merge first second => first.contributions + second.contributions

end Assembly

/-! ## Merging -/

theorem toList_eq_map (tally : Tally) :
    tally.toList = tally.counts.keys.map fun asn => (asn, tally.get asn) := by
  rw [← ExtTreeMap.map_fst_toList_eq_keys, List.map_map]
  refine (List.map_id _).symm.trans (List.map_congr_left ?_)
  rintro ⟨asn, count⟩ member
  exact Prod.ext rfl (mem_toList.mp member).2.symm

theorem mem_merge (tally other : Tally) (asn : Asn) :
    asn ∈ (tally.merge other).counts <-> asn ∈ tally.counts ∨ asn ∈ other.counts := by
  rw [merge, mem_addAll, toList, ExtTreeMap.map_fst_toList_eq_keys, ExtTreeMap.mem_keys, or_comm]

theorem get_merge (tally other : Tally) (asn : Asn) :
    (tally.merge other).get asn = tally.get asn + other.get asn := by
  rw [merge, toList_eq_map, get_addAll_map _ ExtTreeMap.nodup_keys]
  split
  · rfl
  · next absent =>
      rw [ExtTreeMap.mem_keys] at absent
      rw [get_of_not_mem absent]

theorem merge_assoc (a b c : Tally) : (a.merge b).merge c = a.merge (b.merge c) := by
  apply ext_of_get
  · intro asn
    simp only [mem_merge, or_assoc]
  · intro asn
    simp only [get_merge, Nat.add_assoc]

theorem merge_comm (a b : Tally) : a.merge b = b.merge a := by
  apply ext_of_get
  · intro asn
    simp only [mem_merge, or_comm]
  · intro asn
    simp only [get_merge, Nat.add_comm]

theorem merge_empty (tally : Tally) : tally.merge empty = tally := by
  apply ext_of_get
  · intro asn
    simp only [mem_merge, not_mem_empty, or_false]
  · intro asn
    simp only [get_merge, get_empty, Nat.add_zero]

theorem merge_addTransit (tally other : Tally) (path : String) (origin : Asn)
    (withoutPeer : Bool) :
    tally.merge (other.addTransit path origin withoutPeer) =
      (tally.merge other).addTransit path origin withoutPeer := by
  apply ext_of_get
  · intro asn
    simp only [mem_merge, mem_addTransit, or_left_comm]
  · intro asn
    simp only [get_merge, get_addTransit, Nat.add_assoc]

/-- Paths may be counted in a tally of their own that is merged afterwards. -/
theorem merge_addPaths (tally other : Tally) (paths : List (String × Asn × Bool)) :
    tally.merge (other.addPaths paths) = (tally.merge other).addPaths paths := by
  induction paths generalizing other with
  | nil => rfl
  | cons path rest ih =>
      change tally.merge ((other.addTransit path.1 path.2.1 path.2.2).addPaths rest) =
        ((tally.merge other).addTransit path.1 path.2.1 path.2.2).addPaths rest
      rw [ih, merge_addTransit]

theorem addPaths_append (tally : Tally) (first second : List (String × Asn × Bool)) :
    tally.addPaths (first ++ second) = (tally.addPaths first).addPaths second :=
  List.foldl_append

/-! ## Counts of 64 bits -/

theorem get_le_addAll (tally : Tally) (entries : List (Asn × Nat)) (asn : Asn) :
    tally.get asn ≤ (tally.addAll entries).get asn := by
  rw [get_addAll]
  exact Nat.le_add_right _ _

theorem addBounded_eq {tally : Tally} {asn : Asn} {count : Nat}
    (inRange : (tally.add asn count).get asn < countBound) :
    tally.addBounded asn count = some (tally.add asn count) := by
  rw [get_add, if_pos rfl] at inRange
  rw [addBounded, if_pos inRange]

theorem addAllBounded_eq {tally : Tally} {entries : List (Asn × Nat)}
    (inRange : forall asn, (tally.addAll entries).get asn < countBound) :
    tally.addAllBounded entries = some (tally.addAll entries) := by
  induction entries generalizing tally with
  | nil => rfl
  | cons entry rest ih =>
      -- The entries that follow take nothing away, so the bound in the end holds now as well.
      have now : (tally.add entry.1 entry.2).get entry.1 < countBound :=
        Nat.lt_of_le_of_lt (get_le_addAll _ rest _) (inRange entry.1)
      rw [addAllBounded, List.foldlM_cons, addBounded_eq now]
      exact ih inRange

/-! ## What contributions count -/

theorem countIn_cons (contribution : Contribution) (rest : Multiset Contribution) (asn : Asn) :
    countIn (contribution ::ₘ rest) asn =
      countIn rest asn +
        (contribution.given asn + if contribution.isTransitOf asn then 1 else 0) := by
  rw [countIn, countIn, Multiset.map_cons, Multiset.sum_cons, Multiset.countP_cons]
  omega

theorem countIn_add (first second : Multiset Contribution) (asn : Asn) :
    countIn (first + second) asn = countIn first asn + countIn second asn := by
  rw [countIn, countIn, countIn, Multiset.map_add, Multiset.sum_add, Multiset.countP_add]
  omega

theorem countIn_occurrences (entries : List (Asn × Nat)) (asn : Asn) :
    countIn (Multiset.ofList (entries.map fun (asn, count) => Contribution.occurrences asn count))
        asn =
      ((entries.filter fun entry => entry.1 == asn).map Prod.snd).sum := by
  induction entries with
  | nil => rfl
  | cons entry rest ih =>
      rw [List.map_cons, ← Multiset.cons_coe, countIn_cons, ih, List.filter_cons]
      by_cases same : entry.1 = asn
      · simp [Contribution.given, Contribution.isTransitOf, same, Nat.add_comm]
      · simp [Contribution.given, Contribution.isTransitOf, same]

theorem countIn_le_total (contributions : Multiset Contribution) (asn : Asn) :
    countIn contributions asn ≤ total contributions := by
  induction contributions using Multiset.induction_on with
  | empty => rfl
  | cons contribution rest ih =>
      rw [countIn_cons, total, Multiset.map_cons, Multiset.sum_cons, Nat.add_comm]
      apply Nat.add_le_add _ ih
      cases contribution with
      | occurrences other count =>
          simp only [Contribution.given, Contribution.isTransitOf]
          split <;> simp
      | path text origin withoutPeer =>
          simp only [Contribution.given]
          split <;> simp

namespace Assembly

theorem get_tally (assembly : Assembly) (asn : Asn) :
    assembly.tally.get asn = countIn assembly.contributions asn := by
  induction assembly with
  | empty => exact get_empty asn
  | ofList entries =>
      rw [tally, Tally.ofList, get_addAll, get_empty, Nat.zero_add, contributions,
        countIn_occurrences]
  | add before other count ih =>
      rw [tally, get_add, contributions, countIn_cons, ← ih]
      by_cases same : other = asn
      · simp [Contribution.given, Contribution.isTransitOf, same]
      · simp [Contribution.given, Contribution.isTransitOf, same]
  | addTransit before path origin withoutPeer ih =>
      rw [tally, get_addTransit, contributions, countIn_cons, ← ih]
      simp [Contribution.given, Contribution.isTransitOf, mem_transitOf_iff]
  | merge first second ihFirst ihSecond =>
      rw [tally, get_merge, contributions, countIn_add, ihFirst, ihSecond]

theorem mem_tally (assembly : Assembly) (asn : Asn) :
    asn ∈ assembly.tally.counts <->
      exists contribution, contribution ∈ assembly.contributions ∧ contribution.Mentions asn := by
  induction assembly with
  | empty => simp [tally, contributions, not_mem_empty]
  | ofList entries =>
      rw [tally, Tally.ofList, mem_addAll]
      simp [contributions, not_mem_empty, Contribution.Mentions]
  | add before other count ih =>
      rw [tally, mem_add, ih]
      simp [contributions, Contribution.Mentions]
  | addTransit before path origin withoutPeer ih =>
      rw [tally, mem_addTransit, ih]
      simp [contributions, Contribution.Mentions, mem_transitOf_iff]
  | merge first second ihFirst ihSecond =>
      rw [tally, mem_merge, ihFirst, ihSecond]
      simp [contributions, or_and_right, exists_or]

/-- The same contributions make the same tally. -/
theorem tally_eq_of_contributions {assembly other : Assembly}
    (same : assembly.contributions = other.contributions) : assembly.tally = other.tally := by
  apply ext_of_get
  · intro asn
    rw [mem_tally, mem_tally, same]
  · intro asn
    rw [get_tally, get_tally, same]

/-- No count of an assembly is above the bound if none is in the end. -/
theorem bounded_eq {assembly : Assembly}
    (inRange : forall asn, assembly.tally.get asn < countBound) :
    assembly.bounded = some assembly.tally := by
  induction assembly with
  | empty => rfl
  | ofList entries => exact addAllBounded_eq inRange
  | add before asn count ih =>
      have earlier (other : Asn) : before.tally.get other < countBound := by
        refine Nat.lt_of_le_of_lt ?_ (inRange other)
        rw [tally, get_add]
        split <;> simp_all
      rw [bounded, ih earlier, Option.bind_some]
      exact addBounded_eq (inRange asn)
  | addTransit before path origin withoutPeer ih =>
      have earlier (other : Asn) : before.tally.get other < countBound :=
        Nat.lt_of_le_of_lt (get_le_addAll _ _ other) (inRange other)
      rw [bounded, ih earlier, Option.bind_some]
      exact addAllBounded_eq inRange
  | merge first second ihFirst ihSecond =>
      have parts (other : Asn) :
          first.tally.get other < countBound ∧ second.tally.get other < countBound := by
        have whole := inRange other
        rw [tally, get_merge] at whole
        omega
      rw [bounded, ihFirst fun other => (parts other).1, ihSecond fun other => (parts other).2]
      exact addAllBounded_eq inRange

/-- However contributions are distributed over tallies, and in whatever order and nesting these
are merged, the tally is the same, and it counts each system as often as the contributions do.  It
mentions the systems that they mention and lists them in ascending order.

The counts may have 64 bits if no system is counted more often than that, as it is the case if
all contributions together are below the bound. -/
theorem assembly_counts_contributions (assembly : Assembly)
    (inRange : forall asn, countIn assembly.contributions asn < countBound) :
    assembly.bounded = some assembly.tally ∧
    (forall other : Assembly, other.contributions = assembly.contributions ->
      other.bounded = some assembly.tally ∧ other.tally = assembly.tally) ∧
    (forall asn, assembly.tally.get asn =
      (assembly.contributions.map (Contribution.given asn)).sum +
        assembly.contributions.countP fun contribution => contribution.isTransitOf asn) ∧
    assembly.tally.size = {asn | exists contribution, contribution ∈ assembly.contributions ∧
      contribution.Mentions asn}.ncard ∧
    (assembly.tally.isEmpty = true <-> forall asn contribution,
      contribution ∈ assembly.contributions -> ¬ contribution.Mentions asn) ∧
    (assembly.tally.toList.map Prod.fst).Pairwise (· < ·) ∧
    (forall asn count, (asn, count) ∈ assembly.tally.toList <->
      (exists contribution, contribution ∈ assembly.contributions ∧ contribution.Mentions asn) ∧
        assembly.tally.get asn = count) ∧
    (forall a b c : Tally, (a.merge b).merge c = a.merge (b.merge c) ∧ a.merge b = b.merge a ∧
      a.merge Tally.empty = a ∧ Tally.empty.merge a = a) ∧
    (forall first second : List (String × Asn × Bool),
      (Tally.empty.addPaths first).merge (Tally.empty.addPaths second) =
        Tally.empty.addPaths (first ++ second)) := by
  have counted (other : Assembly) (same : other.contributions = assembly.contributions) :
      other.bounded = some other.tally := by
    apply bounded_eq
    intro asn
    rw [get_tally, same]
    exact inRange asn
  refine ⟨counted assembly rfl, ?_, get_tally assembly, ?_, ?_, ?_, ?_, ?_, ?_⟩
  · intro other same
    rw [counted other same, tally_eq_of_contributions same]
    exact ⟨rfl, rfl⟩
  · rw [Tally.size, size_eq_ncard]
    simp only [mem_tally]
  · rw [Tally.isEmpty, ExtTreeMap.isEmpty_iff, ExtTreeMap.eq_empty_iff_forall_not_mem]
    simp only [mem_tally, not_exists, not_and]
  · rw [toList, ExtTreeMap.map_fst_toList_eq_keys]
    exact ExtTreeMap.ordered_keys.imp compare_eq_lt.mp
  · intro asn count
    rw [mem_toList, mem_tally]
  · intro a b c
    exact ⟨merge_assoc a b c, merge_comm a b, merge_empty a, (merge_comm _ a).trans (merge_empty a)⟩
  · intro first second
    rw [merge_addPaths, merge_empty, addPaths_append]

/-- A path is counted in one tally, and occurrences are collected in another one. -/
def ofTwoTallies : Assembly :=
  merge (addTransit empty "174 3356 13335" 13335 true) (ofList [(3356, 4), (1299, 0)])

/-- A system that was added with the count zero is mentioned, and everything may be counted in one
tally and in another order. -/
theorem two_tallies_count_together :
    ofTwoTallies.bounded = some ofTwoTallies.tally ∧ ofTwoTallies.tally.get 3356 = 5 ∧
      ofTwoTallies.tally.isEmpty = false ∧ (1299, 0) ∈ ofTwoTallies.tally.toList ∧
      (add (addTransit (add empty 1299 0) "174 3356 13335" 13335 true) 3356 4).tally =
        ofTwoTallies.tally := by
  have inRange (asn : Asn) : countIn ofTwoTallies.contributions asn < countBound :=
    Nat.lt_of_le_of_lt (countIn_le_total _ asn) (by decide)
  rcases assembly_counts_contributions ofTwoTallies inRange with
    ⟨bounded, others, counts, _, isEmpty, _, listed, _, _⟩
  have mentioned : exists contribution, contribution ∈ ofTwoTallies.contributions ∧
      contribution.Mentions 1299 := ⟨.occurrences 1299 0, by decide, rfl⟩
  refine ⟨bounded, (counts 3356).trans (by decide), ?_, ?_, (others _ (by decide)).2⟩
  · rw [← Bool.not_eq_true, isEmpty]
    rcases mentioned with ⟨contribution, member, mentions⟩
    exact fun none => none 1299 contribution member mentions
  · rw [listed]
    exact ⟨mentioned, (counts 1299).trans (by decide)⟩

end Assembly
end Tally
end AsCensus
