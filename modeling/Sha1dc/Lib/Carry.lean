import Mathlib.Algebra.Order.Ring.Abs
import Mathlib.Algebra.Order.Ring.Int
import Mathlib.Algebra.Ring.Divisibility.Basic
import Mathlib.Data.BitVec
import Mathlib.Data.Nat.ModEq
import Mathlib.Tactic.Linarith
import Mathlib.Tactic.Ring

/-!
# Carries between differences

Words whose sum stays the same while some of their bits are flipped. In every column the flipped bits add up
to a signed digit, and the digits of all columns to zero, up to the width of the words. Where no more than two
bits are flipped in a column nothing is carried out of the columns up to a digit that is even
(`value_eq_zero`), so the bits that are flipped in one column say what is flipped in the next: two flips
cancel unless a third one is waiting behind them (`ones_of_pair`, `bit_ne_of_carry`).
-/

namespace Carry

/-! ### Signed digits -/

/-- The digits of the first `n` columns as one number. -/
def value (c : ℕ → ℤ) : ℕ → ℤ
  | 0 => 0
  | n + 1 => value c n + c n * 2 ^ n

variable {c : ℕ → ℤ} {m n p : ℕ}

theorem abs_value_lt (h : ∀ q < n, |c q| ≤ 2) : |value c n| < 2 ^ (n + 1) := by
  induction n with
  | zero => simp [value]
  | succ n ih =>
    have hdigit : |c n * 2 ^ n| ≤ 2 ^ (n + 1) := by
      rw [abs_mul, abs_of_pos (show (0 : ℤ) < 2 ^ n by positivity), pow_succ, mul_comm]
      exact mul_le_mul_of_nonneg_left (h n (Nat.lt_succ_self n)) (by positivity)
    have hlow := ih fun q hq => h q (Nat.lt_succ_of_lt hq)
    calc |value c (n + 1)| ≤ |value c n| + |c n * 2 ^ n| := abs_add_le _ _
      _ < 2 ^ (n + 1) + 2 ^ (n + 1) := add_lt_add_of_lt_of_le hlow hdigit
      _ = 2 ^ (n + 1 + 1) := by ring

theorem dvd_value_sub (c : ℕ → ℤ) (h : m ≤ n) : 2 ^ m ∣ value c n - value c m := by
  induction n, h using Nat.le_induction with
  | base => simp
  | succ n h ih =>
    rw [value, add_sub_right_comm]
    exact dvd_add ih (Dvd.dvd.mul_left (pow_dvd_pow 2 h) _)

theorem dvd_value (hdvd : 2 ^ n ∣ value c n) (h : m ≤ n) : 2 ^ m ∣ value c m := by
  have hsub := dvd_value_sub c h
  rwa [dvd_sub_right (dvd_trans (pow_dvd_pow 2 h) hdvd)] at hsub

/-- Nothing is carried into a column whose digit is even. -/
theorem value_eq_zero (hdvd : 2 ^ n ∣ value c n) (hp : p < n) (hlow : ∀ q < p, |c q| ≤ 2)
    (heven : 2 ∣ c p) : value c p = 0 := by
  have hnext := dvd_value hdvd hp
  have hdigit : (2 : ℤ) ^ (p + 1) ∣ c p * 2 ^ p := by
    rw [pow_succ, mul_comm (2 ^ p)]
    exact mul_dvd_mul heven dvd_rfl
  rw [value, dvd_add_left hdigit] at hnext
  exact Int.eq_zero_of_abs_lt_dvd hnext (abs_value_lt hlow)

/-- Half of an even digit is carried into the next column, which it makes even. -/
theorem four_dvd (hdvd : 2 ^ n ∣ value c n) (hp : p + 1 < n) (hlow : ∀ q < p, |c q| ≤ 2)
    (heven : 2 ∣ c p) : 4 ∣ c p + 2 * c (p + 1) := by
  have hsum := dvd_value hdvd (show p + 2 ≤ n from hp)
  rw [value, value, value_eq_zero hdvd (by omega) hlow heven, zero_add,
    show c p * 2 ^ p + c (p + 1) * 2 ^ (p + 1) = 2 ^ p * (c p + 2 * c (p + 1)) by ring, pow_add] at hsum
  exact Int.dvd_of_mul_dvd_mul_left (by positivity) hsum

/-- If the column behind the next one is even, both digits cancel. -/
theorem add_eq_zero (hdvd : 2 ^ n ∣ value c n) (hp : p + 2 < n) (hlow : ∀ q < p + 2, |c q| ≤ 2)
    (heven : 2 ∣ c p) (heven' : 2 ∣ c (p + 2)) : c p + 2 * c (p + 1) = 0 := by
  have hsum := value_eq_zero hdvd hp hlow heven'
  rw [value, value, value_eq_zero hdvd (by omega) (fun q hq => hlow q (by omega)) heven, zero_add,
    show c p * 2 ^ p + c (p + 1) * 2 ^ (p + 1) = 2 ^ p * (c p + 2 * c (p + 1)) by ring] at hsum
  exact (mul_eq_zero.mp hsum).resolve_left (by positivity)

theorem value_add (c d : ℕ → ℤ) (n : ℕ) : value (fun q => c q + d q) n = value c n + value d n := by
  induction n with
  | zero => rfl
  | succ n ih =>
    rw [value, ih, value, value]
    ring

/-! ### Flipped bits -/

/-- A word and the bits of it that are flipped. -/
structure Change (w : ℕ) where
  word : BitVec w
  flips : BitVec w

variable {w : ℕ}

namespace Change

def flipped (x : Change w) : BitVec w := x.word ^^^ x.flips

def digit (x : Change w) (q : ℕ) : ℤ :=
  if x.flips.getLsbD q then (if x.word.getLsbD q then -1 else 1) else 0

theorem value_digit (x : Change w) (n : ℕ) :
    value x.digit n = ((x.flipped.toNat % 2 ^ n : ℕ) : ℤ) - ((x.word.toNat % 2 ^ n : ℕ) : ℤ) := by
  induction n with
  | zero => simp [value, Nat.mod_one]
  | succ n ih =>
    have hbit : ∀ y : BitVec w,
        y.toNat % 2 ^ (n + 1) = y.toNat % 2 ^ n + 2 ^ n * (y.getLsbD n).toNat := fun y => by
      rw [Nat.mod_pow_succ, ← BitVec.testBit_toNat, Nat.toNat_testBit]
    rw [value, ih, hbit, hbit, flipped, BitVec.getLsbD_xor, digit]
    cases x.word.getLsbD n <;> cases x.flips.getLsbD n <;> simp <;> ring

end Change

/-- The columns in which at least `n` of the words have a bit. -/
def atLeast : ℕ → List (BitVec w) → BitVec w
  | 0, _ => .allOnes w
  | _ + 1, [] => 0
  | n + 1, x :: xs => atLeast (n + 1) xs ||| (x &&& atLeast n xs)

theorem getLsbD_atLeast (n : ℕ) (xs : List (BitVec w)) {q : ℕ} (hq : q < w) :
    (atLeast n xs).getLsbD q = decide (n ≤ xs.countP (·.getLsbD q)) := by
  induction xs generalizing n with
  | nil => cases n <;> simp [atLeast, hq]
  | cons x xs ih =>
    cases n with
    | zero => simp [atLeast, hq]
    | succ n =>
      rw [atLeast, BitVec.getLsbD_or, BitVec.getLsbD_and, ih, ih, List.countP_cons, Bool.eq_iff_iff]
      cases x.getLsbD q
      · simp
      · simp only [Bool.true_and, Bool.or_eq_true, decide_eq_true_iff, if_pos]
        omega

theorem countP_le_of_atLeast {n : ℕ} {xs : List (BitVec w)} (h : atLeast (n + 1) xs = 0) (q : ℕ) :
    xs.countP (·.getLsbD q) ≤ n := by
  rcases Nat.lt_or_ge q w with hq | hq
  · have hbit := getLsbD_atLeast (n + 1) xs hq
    rw [h, show (0 : BitVec w).getLsbD q = false from BitVec.getLsbD_zero, eq_comm,
      decide_eq_false_iff_not] at hbit
    omega
  · rw [List.countP_eq_zero.mpr fun x _ => by simp [BitVec.getLsbD_of_ge x q hq]]
    exact Nat.zero_le n

variable {xs : List (Change w)}

/-- How many bits are flipped in a column. -/
def count (xs : List (Change w)) (q : ℕ) : ℕ := xs.countP (·.flips.getLsbD q)

/-- How many of them are set before they are flipped. -/
def ones (xs : List (Change w)) (q : ℕ) : ℕ := xs.countP fun x => x.flips.getLsbD q && x.word.getLsbD q

def digits (xs : List (Change w)) (q : ℕ) : ℤ := (xs.map (·.digit q)).sum

theorem digits_eq (xs : List (Change w)) (q : ℕ) : digits xs q = count xs q - 2 * ones xs q := by
  rw [digits, count, ones]
  induction xs with
  | nil => rfl
  | cons x xs ih =>
    rw [List.map_cons, List.sum_cons, ih, List.countP_cons, List.countP_cons, Change.digit]
    cases x.word.getLsbD q <;> cases x.flips.getLsbD q <;> simp <;> ring

theorem ones_le_count (xs : List (Change w)) (q : ℕ) : ones xs q ≤ count xs q :=
  List.countP_mono_left fun _ _ h => (Bool.and_eq_true_iff.mp h).1

theorem ones_append (xs ys : List (Change w)) (q : ℕ) : ones (xs ++ ys) q = ones xs q + ones ys q :=
  List.countP_append

theorem count_append (xs ys : List (Change w)) (q : ℕ) : count (xs ++ ys) q = count xs q + count ys q :=
  List.countP_append

/-- The number of ones, modulo two, change by change. -/
theorem ones_cons_odd (x : Change w) (xs : List (Change w)) (q : ℕ) : decide (ones (x :: xs) q % 2 = 1) =
    ((x.flips.getLsbD q && x.word.getLsbD q) ^^ decide (ones xs q % 2 = 1)) := by
  rw [ones, ones, List.countP_cons]
  cases x.flips.getLsbD q && x.word.getLsbD q
  · simp
  · rw [if_pos rfl, Bool.true_xor, ← decide_not, decide_eq_decide]
    omega

variable {x : Change w} {q : ℕ}

theorem ones_pos (hx : x ∈ xs) (hflip : x.flips.getLsbD q = true) (hword : x.word.getLsbD q = true) :
    0 < ones xs q :=
  List.countP_pos_iff.mpr ⟨x, hx, by rw [hflip, hword]; rfl⟩

theorem ones_lt_count (hx : x ∈ xs) (hflip : x.flips.getLsbD q = true) (hword : x.word.getLsbD q = false) :
    ones xs q < count xs q := by
  obtain ⟨l, l', rfl⟩ := List.append_of_mem hx
  have hl := ones_le_count l q
  have hl' := ones_le_count l' q
  have hones : ones (x :: l') q = ones l' q := by
    rw [ones, List.countP_cons, hflip, hword]
    rfl
  have hcount : count (x :: l') q = count l' q + 1 := by
    rw [count, List.countP_cons, hflip]
    rfl
  rw [ones_append, count_append, hones, hcount]
  omega

theorem abs_digits_le (xs : List (Change w)) (q : ℕ) : |digits xs q| ≤ count xs q := by
  have hle := ones_le_count xs q
  rw [digits_eq, abs_le]
  omega

theorem value_digits (xs : List (Change w)) (n : ℕ) :
    value (digits xs) n = (xs.map fun x => value x.digit n).sum := by
  induction xs with
  | nil =>
    induction n with
    | zero => rfl
    | succ n ih => simp [value, ih, digits]
  | cons x xs ih =>
    rw [List.map_cons, List.sum_cons, ← ih, ← value_add]
    rfl

theorem toNat_sum (l : List (BitVec w)) : l.sum.toNat = (l.map BitVec.toNat).sum % 2 ^ w := by
  induction l with
  | nil => simp
  | cons x l ih => rw [List.sum_cons, List.map_cons, List.sum_cons, BitVec.toNat_add, ih, Nat.add_mod_mod]

/-- The words have the same sum before and after. -/
def Balanced (xs : List (Change w)) : Prop := (xs.map Change.flipped).sum = (xs.map Change.word).sum

theorem value_digits_eq (xs : List (Change w)) : value (digits xs) w =
    (xs.map fun x => x.flipped.toNat).sum - (xs.map fun x => x.word.toNat).sum := by
  rw [value_digits]
  induction xs with
  | nil => rfl
  | cons x xs ih =>
    rw [List.map_cons, List.sum_cons, ih, x.value_digit, Nat.mod_eq_of_lt x.flipped.isLt,
      Nat.mod_eq_of_lt x.word.isLt, List.map_cons, List.sum_cons, List.map_cons, List.sum_cons]
    push_cast
    ring

theorem Balanced.dvd (h : Balanced xs) : 2 ^ w ∣ value (digits xs) w := by
  have hsum := congrArg BitVec.toNat h
  rw [toNat_sum, toNat_sum, List.map_map, List.map_map] at hsum
  have hdvd := Nat.modEq_iff_dvd.mp (show Nat.ModEq (2 ^ w) _ _ from hsum.symm)
  rw [value_digits_eq]
  exact_mod_cast hdvd

/-- Two flips of a column have opposite signs, unless the number of flips in the next column is odd. -/
theorem Balanced.ones_of_pair (h : Balanced xs) (hp : p + 1 < w) (hlow : ∀ q < p, count xs q ≤ 2)
    (hpair : count xs p = 2) : (ones xs p + count xs (p + 1)) % 2 = 1 := by
  have hdigits : ∀ q, digits xs q = count xs q - 2 * ones xs q := digits_eq xs
  have hfour := four_dvd h.dvd hp (fun q hq => (abs_digits_le xs q).trans (by exact_mod_cast hlow q hq))
    (by rw [hdigits]; omega)
  rw [hdigits, hdigits, hpair] at hfour
  omega

/-- A single flip behind two others takes what these carry. -/
theorem Balanced.ones_of_carry (h : Balanced xs) (hp : p + 2 < w) (hlow : ∀ q < p + 2, count xs q ≤ 2)
    (hpair : count xs p = 2) (hsingle : count xs (p + 1) = 1) (heven : count xs (p + 2) % 2 = 0) :
    ones xs p + 2 * ones xs (p + 1) = 2 := by
  have hdigits : ∀ q, digits xs q = count xs q - 2 * ones xs q := digits_eq xs
  have hsum := add_eq_zero h.dvd hp (fun q hq => (abs_digits_le xs q).trans (by exact_mod_cast hlow q hq))
    (by rw [hdigits]; omega) (by rw [hdigits]; omega)
  rw [hdigits, hdigits, hpair, hsingle] at hsum
  omega

/-- A word with the single flip and one of the two in front of it has different bits there. -/
theorem Balanced.bit_ne_of_carry (h : Balanced xs) (hp : p + 2 < w) (hlow : ∀ q < p + 2, count xs q ≤ 2)
    (hpair : count xs p = 2) (hsingle : count xs (p + 1) = 1) (heven : count xs (p + 2) % 2 = 0)
    (hx : x ∈ xs) (hflip : x.flips.getLsbD p = true) (hflip' : x.flips.getLsbD (p + 1) = true) :
    (x.word.getLsbD p ^^ x.word.getLsbD (p + 1)) = true := by
  have hones := h.ones_of_carry hp hlow hpair hsingle heven
  cases hnext : x.word.getLsbD (p + 1) with
  | true =>
    have hpos := ones_pos hx hflip' hnext
    cases hbit : x.word.getLsbD p with
    | true =>
      have hpos' := ones_pos hx hflip hbit
      omega
    | false => rfl
  | false =>
    have hlt := ones_lt_count hx hflip' hnext
    cases hbit : x.word.getLsbD p with
    | true => rfl
    | false =>
      have hlt' := ones_lt_count hx hflip hbit
      omega

end Carry
