import Mathlib.Data.List.GetD

/-!
# Cutting a stream into blocks

A stream is a list, cut from the front into its complete blocks of `n` elements (`blocks n l`) and
what is left over (`tail n l`). Appending to a stream keeps its blocks and cuts the rest as if the
left over tail had been put in front of what is appended (`blocks_append`, `tail_append`), which is
all that a reader of the stream with a buffer for one tail has to know about it.
-/

namespace Blocks

variable {α β : Type} {n : ℕ} {l l' : List α}

def blocks (n : ℕ) (l : List α) : List (List α) :=
  (List.range (l.length / n)).map fun j => (l.drop (n * j)).take n

def tail (n : ℕ) (l : List α) : List α := l.drop (n * (l.length / n))

@[simp] theorem length_blocks (n : ℕ) (l : List α) : (blocks n l).length = l.length / n := by
  simp [blocks]

@[simp] theorem length_tail (n : ℕ) (l : List α) : (tail n l).length = l.length % n := by
  rw [tail, List.length_drop, Nat.mod_def]

theorem blocks_of_lt (h : l.length < n) : blocks n l = [] := by
  simp [blocks, Nat.div_eq_of_lt h]

theorem tail_of_lt (h : l.length < n) : tail n l = l := by
  simp [tail, Nat.div_eq_of_lt h]

theorem tail_eq_nil (h : l.length % n = 0) : tail n l = [] :=
  List.eq_nil_of_length_eq_zero (by rw [length_tail, h])

/-- A stream of at least `n` elements starts with one block, followed by the blocks of the rest. -/
theorem blocks_of_le (hn : 0 < n) (h : n ≤ l.length) :
    blocks n l = l.take n :: blocks n (l.drop n) := by
  have hdiv : l.length / n = (l.length - n) / n + 1 := by
    rw [← Nat.add_div_right _ hn, Nat.sub_add_cancel h]
  simp only [blocks, hdiv, List.length_drop, List.range_succ_eq_map, List.map_cons, Nat.mul_zero,
    List.drop_zero, List.map_map]
  refine congrArg _ (List.map_congr_left fun j _ => ?_)
  simp [List.drop_drop, Nat.mul_succ, Nat.add_comm]

theorem blocks_of_eq (hn : 0 < n) (h : l.length = n) : blocks n l = [l] := by
  rw [blocks_of_le hn (Nat.le_of_eq h.symm), List.take_of_length_le (Nat.le_of_eq h),
    List.drop_eq_nil_of_le (Nat.le_of_eq h), blocks_of_lt hn]

theorem tail_of_le (hn : 0 < n) (h : n ≤ l.length) : tail n l = tail n (l.drop n) := by
  have hdiv : l.length / n = (l.length - n) / n + 1 := by
    rw [← Nat.add_div_right _ hn, Nat.sub_add_cancel h]
  simp [tail, hdiv, List.drop_drop, Nat.mul_succ, Nat.add_comm]

theorem length_of_mem_blocks {b : List α} (h : b ∈ blocks n l) : b.length = n := by
  simp only [blocks, List.mem_map, List.mem_range] at h
  obtain ⟨j, hj, rfl⟩ := h
  have h₁ : n * (j + 1) ≤ n * (l.length / n) := Nat.mul_le_mul_left n hj
  have h₂ := Nat.mul_div_le l.length n
  rw [List.length_take, List.length_drop]
  rw [Nat.mul_succ] at h₁
  omega

/-- The blocks of `l ++ l'` are those of `l` and then those of `l'` behind the tail of `l`. -/
theorem blocks_append (hn : 0 < n) (l l' : List α) :
    blocks n (l ++ l') = blocks n l ++ blocks n (tail n l ++ l') := by
  induction hk : l.length using Nat.strongRecOn generalizing l with
  | ind k ih =>
    by_cases h : n ≤ l.length
    · rw [blocks_of_le hn (by simp; omega), blocks_of_le hn h, tail_of_le hn h]
      rw [List.take_append_of_le_length h, List.drop_append_of_le_length h]
      rw [ih (l.drop n).length (by rw [List.length_drop]; omega) _ rfl, List.cons_append]
    · rw [blocks_of_lt (l := l) (by omega), tail_of_lt (by omega), List.nil_append]

theorem tail_append (hn : 0 < n) (l l' : List α) : tail n (l ++ l') = tail n (tail n l ++ l') := by
  induction hk : l.length using Nat.strongRecOn generalizing l with
  | ind k ih =>
    by_cases h : n ≤ l.length
    · rw [tail_of_le hn (by simp; omega), tail_of_le (l := l) hn h]
      rw [List.drop_append_of_le_length h]
      exact ih (l.drop n).length (by rw [List.length_drop]; omega) _ rfl
    · rw [tail_of_lt (l := l) (by omega)]

theorem flatten_blocks (hn : 0 < n) (h : l.length % n = 0) : (blocks n l).flatten = l := by
  induction hk : l.length using Nat.strongRecOn generalizing l with
  | ind k ih =>
    by_cases hlt : l.length < n
    · rw [Nat.mod_eq_of_lt hlt] at h
      rw [blocks_of_lt hlt, List.eq_nil_of_length_eq_zero h, List.flatten_nil]
    · have hmod : (l.drop n).length % n = 0 := by
        rw [List.length_drop, ← Nat.mod_eq_sub_mod (by omega), h]
      rw [blocks_of_le hn (by omega), List.flatten_cons, ih _ (by rw [List.length_drop]; omega) hmod rfl,
        List.take_append_drop]

theorem blocks_map (f : α → β) (n : ℕ) (l : List α) :
    blocks n (l.map f) = (blocks n l).map (List.map f) := by
  simp [blocks, List.map_drop, List.map_take]

theorem tail_map (f : α → β) (n : ℕ) (l : List α) : tail n (l.map f) = (tail n l).map f := by
  simp [tail, List.map_drop]

end Blocks
