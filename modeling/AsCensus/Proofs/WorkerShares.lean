import AsCensus.Job.WorkerPool
import Mathlib.Algebra.Order.BigOperators.Group.List
import Mathlib.Algebra.Order.Group.Nat

namespace AsCensus

/-!
# Shares of workers

A pool cuts the systems of a run into batches of one size, and every batch takes a worker and a
connection of its own.  So the size of a batch decides how many connections are open at once.  It
is a quotient that is rounded up, with two bounds: no workers count as one, and a batch has
at least one system.

The quotient is opened once.  Sizes from this one on are those that are not zero and with which all
workers together can take all systems (`chunkSize_le_iff`).  What the size does for the workers is
this law at the size itself, and that it is the least one is the law at the size below.

That no smaller size would do does not depend on how the list is cut.  A cut takes a list apart in
its order (`IsCut`), also into parts of different sizes.  Its parts have room for all elements
(`IsCut.length_le`), and if there is room in so many parts, the batches are a cut that needs no
more of them (`exists_isCut_iff`).
-/

/-- Consecutive parts of a list, none of which is empty or larger than `size`. -/
structure IsCut (size : Nat) (values : List X) (parts : List (List X)) : Prop where
  together : parts.flatten = values
  filled : forall part, part ∈ parts -> 0 < part.length
  within : forall part, part ∈ parts -> part.length ≤ size

variable {size : Nat} {values : List X}

theorem IsCut.length_le {parts : List (List X)} (cut : IsCut size values parts) :
    values.length ≤ parts.length * size := by
  have bounded : forall length, length ∈ parts.map List.length -> length ≤ size := by
    intro length member
    rcases List.mem_map.mp member with ⟨part, isPart, rfl⟩
    exact cut.within part isPart
  have room := List.sum_le_card_nsmul (parts.map List.length) size bounded
  rw [List.length_map, Nat.nsmul_eq_mul] at room
  rw [← cut.together, List.length_flatten]
  exact room

theorem isCut_batches (positive : 0 < size) (values : List X) :
    IsCut size values (batches size values) where
  together := flatten_batches positive values
  filled _ member := length_pos_of_mem_batches positive member
  within _ member := length_le_of_mem_batches member

/-- A number of parts is enough if there is room in them for all elements. -/
theorem exists_isCut_iff (positive : 0 < size) (values : List X) (count : Nat) :
    (exists parts, IsCut size values parts ∧ parts.length ≤ count) <->
      values.length ≤ count * size := by
  constructor
  · rintro ⟨parts, cut, few⟩
    exact cut.length_le.trans (Nat.mul_le_mul_right size few)
  · intro room
    refine ⟨batches size values, isCut_batches positive values, ?_⟩
    rw [length_batches]
    exact (ceilDiv_le_iff positive).mpr room

namespace Job

variable {total workers : Nat}

/-- A size is large enough if all workers together can take all systems. -/
theorem chunkSize_le_iff :
    chunkSize total workers ≤ size <-> 0 < size ∧ total ≤ max workers 1 * size := by
  have someone : 0 < max workers 1 := by omega
  rw [chunkSize, max_le_iff, ceilDiv_le_iff someone, Nat.mul_comm size, and_comm]
  rfl

theorem chunkSize_pos (total workers : Nat) : 0 < chunkSize total workers :=
  (chunkSize_le_iff.mp (Nat.le_refl _)).1

/-- The workers can take all systems. -/
theorem le_workers_mul_chunkSize (total workers : Nat) :
    total ≤ max workers 1 * chunkSize total workers :=
  (chunkSize_le_iff.mp (Nat.le_refl _)).2

/-- With one system less for each worker, some system would be left. -/
theorem pred_chunkSize_mul_lt (someLeft : 0 < total) (workers : Nat) :
    (chunkSize total workers - 1) * max workers 1 < total := by
  by_contra room
  have enough : total ≤ max workers 1 * (chunkSize total workers - 1) := by
    rw [Nat.mul_comm]
    exact Nat.le_of_not_lt room
  have positive : 0 < chunkSize total workers - 1 := by
    -- A size of zero would leave room for nothing.
    apply Nat.pos_of_ne_zero
    intro none
    rw [none, Nat.mul_zero] at enough
    omega
  have smaller := chunkSize_le_iff.mpr ⟨positive, enough⟩
  omega

theorem chunkSize_le_total (total workers : Nat) : chunkSize total workers ≤ max total 1 := by
  refine chunkSize_le_iff.mpr ⟨by omega, ?_⟩
  calc
    total ≤ max total 1 := Nat.le_max_left total 1
    _ ≤ max workers 1 * max total 1 := Nat.le_mul_of_pos_left _ (by omega)

/-- There is a worker for each batch. -/
theorem length_batches_chunkSize (values : List X) (workers : Nat) :
    (batches (chunkSize values.length workers) values).length ≤ max workers 1 := by
  rw [length_batches]
  exact (ceilDiv_le_iff (chunkSize_pos _ _)).mpr (le_workers_mul_chunkSize _ _)

/-- Whatever the numbers of systems and workers are, a batch has at least one system, and no more
than there are.  A list of so many systems is the batches put together, of which none is empty and
only the last may be smaller than the others, and there are no more batches than workers, where no
workers count as one.

The size is the least one of this kind: the list can be cut into no more parts than there are
workers, in whichever way, exactly if parts of this size are allowed.  As long as there is a system,
the workers could not take all of them with one less for each. -/
theorem shares_never_exceed_workers (total workers : Nat) :
    1 ≤ chunkSize total workers ∧
      chunkSize total workers ≤ max total 1 ∧
      (forall values : List X, values.length = total ->
        IsCut (chunkSize total workers) values (batches (chunkSize total workers) values) ∧
        (forall batch, batch ∈ (batches (chunkSize total workers) values).dropLast ->
          batch.length = chunkSize total workers) ∧
        (batches (chunkSize total workers) values).length ≤ max workers 1 ∧
        forall size, chunkSize total workers ≤ size <->
          0 < size ∧ exists parts, IsCut size values parts ∧ parts.length ≤ max workers 1) ∧
      (0 < total -> (chunkSize total workers - 1) * max workers 1 < total) := by
  have positive := chunkSize_pos total workers
  refine ⟨positive, chunkSize_le_total total workers, ?_,
    fun someLeft => pred_chunkSize_mul_lt someLeft workers⟩
  rintro values rfl
  refine ⟨isCut_batches positive values, fun _ => length_of_mem_dropLast_batches positive,
    length_batches_chunkSize values workers, ?_⟩
  intro size
  rw [chunkSize_le_iff]
  constructor
  · rintro ⟨sized, room⟩
    exact ⟨sized, (exists_isCut_iff sized values _).mpr room⟩
  · rintro ⟨sized, cut⟩
    exact ⟨sized, (exists_isCut_iff sized values _).mp cut⟩

/-- Five systems are two for each of four workers, one of whom has nothing to do.  With one system
for each, four would not be enough, however the list is cut. -/
theorem four_workers_share_five_systems :
    [(174 : Asn), 1299, 2914, 3356, 7018].length = 5 ∧ 0 < 5 ∧
      batches (chunkSize 5 4) [(174 : Asn), 1299, 2914, 3356, 7018] =
        [[174, 1299], [2914, 3356], [7018]] ∧
      IsCut 2 [(174 : Asn), 1299, 2914, 3356, 7018] [[174, 1299], [2914, 3356], [7018]] ∧
      (¬ exists parts, IsCut 1 [(174 : Asn), 1299, 2914, 3356, 7018] parts ∧ parts.length ≤ 4) ∧
      (chunkSize 5 4 - 1) * 4 < 5 := by
  rcases shares_never_exceed_workers 5 4 with ⟨_, _, shares, least⟩
  rcases shares [(174 : Asn), 1299, 2914, 3356, 7018] rfl with ⟨cut, _, _, sizes⟩
  refine ⟨rfl, by decide, by decide, cut, ?_, least (by decide)⟩
  intro few
  have one : chunkSize 5 4 ≤ 1 := (sizes 1).mpr ⟨Nat.one_pos, few⟩
  exact absurd one (by decide)

end Job
end AsCensus
