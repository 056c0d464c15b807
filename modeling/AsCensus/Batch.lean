namespace AsCensus

/-!
# Batches

Long lists are worked on in consecutive batches of a fixed size, of which only
the last may be smaller.  The batches put together are the list again
(`flatten_batches`), none is empty (`length_pos_of_mem_batches`), and none is
larger than the size (`length_le_of_mem_batches`).  There is only one way to cut
a list like this (`batches_flatten_append`).
-/

/-- The least number that is not below `total / size`. -/
def ceilDiv (total size : Nat) : Nat :=
  (total + (size - 1)) / size

/-- A list in consecutive batches of `size` elements. -/
def batches (size : Nat) (values : List X) : List (List X) :=
  (List.range (ceilDiv values.length size)).map fun i => (values.drop (i * size)).take size

theorem ceilDiv_zero (size : Nat) : ceilDiv 0 size = 0 := by
  unfold ceilDiv
  cases size with
  | zero => rfl
  | succ size => exact Nat.div_eq_of_lt (by omega)

theorem ceilDiv_of_pos {total size : Nat} (someLeft : 0 < total) (positive : 0 < size) :
    ceilDiv total size = ceilDiv (total - size) size + 1 := by
  unfold ceilDiv
  by_cases large : size ≤ total
  · rw [show total + (size - 1) = total - size + (size - 1) + size by omega,
      Nat.add_div_right _ positive]
  · rw [show total - size = 0 by omega,
      Nat.div_eq_of_lt (show 0 + (size - 1) < size by omega),
      show total + (size - 1) = total - 1 + size by omega,
      Nat.add_div_right _ positive, Nat.div_eq_of_lt (show total - 1 < size by omega)]

/-- Groups of one size are enough if there is room in them for all elements. -/
theorem ceilDiv_le_iff {total size count : Nat} (positive : 0 < size) :
    ceilDiv total size ≤ count <-> total ≤ count * size := by
  rw [ceilDiv, Nat.div_le_iff_le_mul_add_pred positive, Nat.mul_comm]
  omega

theorem batches_nil (size : Nat) : batches size ([] : List X) = [] := by
  simp [batches, ceilDiv_zero]

/-- A list that is not empty starts with one batch, and the rest follows. -/
theorem batches_of_ne_nil {size : Nat} {values : List X} (positive : 0 < size)
    (someLeft : values ≠ []) :
    batches size values = values.take size :: batches size (values.drop size) := by
  have length : 0 < values.length := List.length_pos_iff.mpr someLeft
  unfold batches
  rw [ceilDiv_of_pos length positive, List.range_succ_eq_map, List.map_cons, List.map_map,
    List.length_drop]
  simp [Function.comp_def, Nat.succ_mul, Nat.add_comm]

theorem flatten_batches {size : Nat} (positive : 0 < size) (values : List X) :
    (batches size values).flatten = values := by
  induction count : values.length using Nat.strongRecOn generalizing values with
  | ind count ih =>
      by_cases empty : values = []
      · subst empty
        simp [batches_nil]
      · have length : 0 < values.length := List.length_pos_iff.mpr empty
        rw [batches_of_ne_nil positive empty, List.flatten_cons,
          ih (values.drop size).length (by simp; omega) _ rfl, List.take_append_drop]

/-- What is done with each element of each batch is done with each element of the list. -/
theorem flatMap_map_batches {size : Nat} (positive : 0 < size) (f : X -> Y) (values : List X) :
    (batches size values).flatMap (List.map f) = values.map f := by
  rw [List.flatMap_def, ← List.map_flatten, flatten_batches positive]

theorem batches_eq_nil_iff {size : Nat} (positive : 0 < size) {values : List X} :
    batches size values = [] <-> values = [] := by
  constructor
  · intro none
    have whole := flatten_batches positive values
    rw [none] at whole
    exact whole.symm
  · rintro rfl
    exact batches_nil size

theorem length_le_of_mem_batches {size : Nat} {values batch : List X}
    (member : batch ∈ batches size values) : batch.length ≤ size := by
  obtain ⟨i, _, rfl⟩ := List.mem_map.mp member
  rw [List.length_take]
  omega

theorem length_pos_of_mem_batches {size : Nat} {values batch : List X} (positive : 0 < size)
    (member : batch ∈ batches size values) : 0 < batch.length := by
  induction count : values.length using Nat.strongRecOn generalizing values with
  | ind count ih =>
      by_cases empty : values = []
      · subst empty
        simp [batches_nil] at member
      · have length : 0 < values.length := List.length_pos_iff.mpr empty
        rw [batches_of_ne_nil positive empty] at member
        rcases List.mem_cons.mp member with same | later
        · rw [same, List.length_take]
          omega
        · exact ih (values.drop size).length (by simp; omega) later rfl

/-- Groups of the whole size and what is left over are the batches of their list. -/
theorem batches_flatten_append {size : Nat} (positive : 0 < size) {groups : List (List X)}
    (whole : forall group, group ∈ groups -> group.length = size) {rest : List X}
    (short : rest.length ≤ size) :
    batches size (groups.flatten ++ rest) = groups ++ if rest.isEmpty then [] else [rest] := by
  induction groups with
  | nil =>
      cases rest with
      | nil => exact batches_nil size
      | cons first others =>
          rw [List.flatten_nil, List.nil_append,
            batches_of_ne_nil positive (List.cons_ne_nil first others),
            List.take_of_length_le short, List.drop_eq_nil_of_le short, batches_nil]
          rfl
  | cons group groups ih =>
      have length := whole group List.mem_cons_self
      have later := ih fun other member => whole other (List.mem_cons_of_mem group member)
      have someLeft : (group :: groups).flatten ++ rest ≠ [] := by
        intro empty
        rw [List.flatten_cons, List.append_assoc] at empty
        rw [(List.append_eq_nil_iff.mp empty).1, List.length_nil] at length
        omega
      rw [batches_of_ne_nil positive someLeft, List.flatten_cons, List.append_assoc,
        List.take_left' length, List.drop_left' length, later]
      rfl

theorem length_batches (size : Nat) (values : List X) :
    (batches size values).length = ceilDiv values.length size := by
  simp [batches]

/-- Only the last batch may be smaller than the others. -/
theorem length_of_mem_dropLast_batches {size : Nat} {values batch : List X} (positive : 0 < size)
    (member : batch ∈ (batches size values).dropLast) : batch.length = size := by
  rcases List.mem_iff_getElem.mp member with ⟨i, before, rfl⟩
  rw [List.length_dropLast, length_batches] at before
  have more : ¬ ceilDiv values.length size ≤ i + 1 := by omega
  rw [ceilDiv_le_iff positive, Nat.succ_mul] at more
  rw [List.getElem_dropLast]
  simp only [batches, List.getElem_map, List.getElem_range, List.length_take, List.length_drop]
  omega

end AsCensus
