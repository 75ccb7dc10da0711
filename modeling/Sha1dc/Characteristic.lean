import Sha1dc.Lib.Carry
import Sha1dc.Lib.Linear
import Sha1dc.Twin

/-!
# Differential characteristics

What can be said about a run of the compression function when its differences from another one are known. In
each step the differences add up to nothing, which makes equations between bits of the run: two differences
in a column have opposite signs (`holds_pair`), unless a third one takes what they carry (`holds_carry`), and
`Maj` lets differences pass only if two of its inputs are different (`majority_inputs`). A condition between
bits of words that is a sum of such equations holds in every run that the characteristic describes
(`Describes.holds_of_justifies`).
-/

namespace Sha1dc
open Fips Carry

/-! ### The registers of a run -/

/-- The first register after `t` steps. -/
def register (W : Nat → Word) (c : ChainingValue) (t : Nat) : Word := (stateAt W t c).A

/-- What step `t + 4` adds for its round function. -/
def roundAt (W : Nat → Word) (c : ChainingValue) (t : Nat) : Word :=
  f (t + 4) (register W c (t + 3)) ((register W c (t + 2)).rotateLeft 30)
    ((register W c (t + 1)).rotateLeft 30)

/-- Whether the round function of step `t + 4` is `Maj`. -/
def majority (t : Nat) : Bool := 36 ≤ t && t < 56

theorem roundAt_majority (W : Nat → Word) (c : ChainingValue) {t : Nat} (ht : majority t = true) :
    roundAt W c t = Maj (register W c (t + 3)) ((register W c (t + 2)).rotateLeft 30)
      ((register W c (t + 1)).rotateLeft 30) := by
  rw [majority, Bool.and_eq_true, decide_eq_true_iff, decide_eq_true_iff] at ht
  rw [roundAt, f, if_neg (by omega), if_neg (by omega), if_pos (by omega)]

theorem roundAt_parity (W : Nat → Word) (c : ChainingValue) {t : Nat} (ht : 31 ≤ t)
    (hmaj : majority t = false) : roundAt W c t = Parity (register W c (t + 3))
      ((register W c (t + 2)).rotateLeft 30) ((register W c (t + 1)).rotateLeft 30) := by
  rw [majority, Bool.and_eq_false_iff, decide_eq_false_iff_not, decide_eq_false_iff_not] at hmaj
  rw [roundAt, f, if_neg (by omega)]
  split_ifs <;> first | rfl | omega

theorem stateAt_add_four (W : Nat → Word) (c : ChainingValue) (t : Nat) : stateAt W (t + 4) c =
    ⟨register W c (t + 4), register W c (t + 3), (register W c (t + 2)).rotateLeft 30,
      (register W c (t + 1)).rotateLeft 30, (register W c t).rotateLeft 30⟩ := by
  simp only [register, stateAt_succ, step]

theorem register_add_five (W : Nat → Word) (c : ChainingValue) (t : Nat) : register W c (t + 5) =
    (register W c (t + 4)).rotateLeft 5 + roundAt W c t + (register W c t).rotateLeft 30 + K (t + 4) +
      W (t + 4) := by
  rw [register, stateAt_succ, stateAt_add_four]
  rfl

/-! ### Characteristics -/

/-- The differences of the first register after each step, and of the words. -/
structure Characteristic where
  register : Nat → Word
  word : Nat → Word

/-- A bit of one of the runs. -/
inductive Bit
  | word (t p : Nat)
  | register (t p : Nat)
deriving DecidableEq

namespace Bit

def get (W : Nat → Word) (c : ChainingValue) : Bit → Bool
  | word t p => (W t).getLsbD p
  | register t p => (Sha1dc.register W c t).getLsbD p

/-- The bit of a register that is in the column `p` after a rotation. -/
def rotl (t r p : Nat) : Bit := .register t ((p + 32 - r) % 32)

theorem get_rotl (W : Nat → Word) (c : ChainingValue) (t : Nat) {r p : Nat} (hr : r < 32) (hp : p < 32) :
    (rotl t r p).get W c = ((Sha1dc.register W c t).rotateLeft r).getLsbD p :=
  (getLsbD_rotl _ hr hp).symm

end Bit

namespace Characteristic

/-- The round function lets every difference pass, as it does by itself where it is `Parity`. -/
def round (χ : Characteristic) (t : Nat) : Word :=
  χ.register (t + 3) ^^^ (χ.register (t + 2)).rotateLeft 30 ^^^ (χ.register (t + 1)).rotateLeft 30

/-- The differences of what is added up in step `t + 4`, its result included. -/
def flips (χ : Characteristic) (t : Nat) : List Word :=
  [χ.register (t + 5), (χ.register (t + 4)).rotateLeft 5, χ.round t, (χ.register t).rotateLeft 30,
    χ.word (t + 4)]

def count (χ : Characteristic) (t p : Nat) : Nat := (χ.flips t).countP (·.getLsbD p)

/-- Two runs differ as the characteristic says in the steps from 35 to 64, where no more than two differences
are in any column. -/
structure Describes (χ : Characteristic) (W W' : Nat → Word) (c c' : ChainingValue) : Prop where
  register : ∀ t, 31 ≤ t → t ≤ 65 → Sha1dc.register W c t ^^^ Sha1dc.register W' c' t = χ.register t
  word : ∀ t, 35 ≤ t → t < 65 → W t ^^^ W' t = χ.word t
  round : ∀ t, majority t = true → roundAt W c t ^^^ roundAt W' c' t = χ.round t
  count : ∀ t, 31 ≤ t → t < 61 → ∀ p, χ.count t p ≤ 2

variable {χ : Characteristic} {W W' : Nat → Word} {c c' : ChainingValue} {t p : Nat}

/-- What is added up in step `t + 4`. The result is complemented, which gives its difference the other
sign. -/
def changes (χ : Characteristic) (W : Nat → Word) (c : ChainingValue) (t : Nat) : List (Change 32) :=
  [⟨~~~Sha1dc.register W c (t + 5), χ.register (t + 5)⟩,
    ⟨(Sha1dc.register W c (t + 4)).rotateLeft 5, (χ.register (t + 4)).rotateLeft 5⟩,
    ⟨roundAt W c t, χ.round t⟩,
    ⟨(Sha1dc.register W c t).rotateLeft 30, (χ.register t).rotateLeft 30⟩,
    ⟨W (t + 4), χ.word (t + 4)⟩]

theorem count_changes (χ : Characteristic) (W : Nat → Word) (c : ChainingValue) (t p : Nat) :
    Carry.count (χ.changes W c t) p = χ.count t p := rfl

theorem xor_of_xor {x y d : Word} (h : x ^^^ y = d) : x ^^^ d = y := by
  rw [← h, ← BitVec.xor_assoc, BitVec.xor_self, BitVec.zero_xor]

theorem sum_not (r f e k w : Word) : [~~~(r + f + e + k + w), r, f, e, w].sum = ~~~k := by
  simp only [List.sum_cons, List.sum_nil, BitVec.not_eq_neg_add]
  grind

namespace Describes

theorem round_eq (h : χ.Describes W W' c c') (ht : 31 ≤ t) (ht' : t < 61) :
    roundAt W c t ^^^ roundAt W' c' t = χ.round t := by
  cases hmaj : majority t with
  | true => exact h.round t hmaj
  | false =>
    rw [roundAt_parity W c ht hmaj, roundAt_parity W' c' ht hmaj, Characteristic.round,
      ← h.register (t + 3) (by omega) (by omega), ← h.register (t + 2) (by omega) (by omega),
      ← h.register (t + 1) (by omega) (by omega), rotl_xor _ _ (by decide), rotl_xor _ _ (by decide),
      Parity, Parity]
    ac_rfl

/-- What is added up makes the negated constant of the step in both runs. -/
theorem balanced (h : χ.Describes W W' c c') (ht : 31 ≤ t) (ht' : t < 61) :
    Carry.Balanced (χ.changes W c t) := by
  have hreg : ∀ i ≤ 65, 31 ≤ i → Sha1dc.register W c i ^^^ χ.register i = Sha1dc.register W' c' i :=
    fun i hi hi' => xor_of_xor (h.register i hi' hi)
  have hword := xor_of_xor (h.word (t + 4) (by omega) (by omega))
  have hround := xor_of_xor (h.round_eq ht ht')
  rw [Carry.Balanced, changes]
  simp only [List.map_cons, List.map_nil, Change.flipped]
  rw [← BitVec.not_xor_left, ← rotl_xor _ _ (by decide), ← rotl_xor _ _ (by decide),
    hreg _ (by omega) (by omega), hreg _ (by omega) (by omega), hreg t (by omega) ht, hround, hword,
    register_add_five, register_add_five, sum_not, sum_not]

end Describes

/-! ### Equations between bits -/

/-- What step `t + 4` gives to its round function in the column `p`. -/
def inputs (t p : Nat) : List Bit := [.register (t + 3) p, .rotl (t + 2) 30 p, .rotl (t + 1) 30 p]

/-- Whether the bit differs. -/
def active (χ : Characteristic) : Bit → Bool
  | .word t p => (χ.word t).getLsbD p
  | .register t p => (χ.register t).getLsbD p

theorem active_rotl (χ : Characteristic) (t : Nat) {r : Nat} (hr : r < 32) (hp : p < 32) :
    χ.active (.rotl t r p) = ((χ.register t).rotateLeft r).getLsbD p :=
  (getLsbD_rotl _ hr hp).symm

theorem getLsbD_round (χ : Characteristic) (t : Nat) (hp : p < 32) : (χ.round t).getLsbD p =
    (χ.active (.register (t + 3) p) ^^ χ.active (.rotl (t + 2) 30 p) ^^ χ.active (.rotl (t + 1) 30 p)) := by
  rw [round, BitVec.getLsbD_xor, BitVec.getLsbD_xor, χ.active_rotl _ (by decide) hp,
    χ.active_rotl _ (by decide) hp]
  rfl

/-- The bits that make up the round function where it differs. -/
def roundBits (χ : Characteristic) (t p : Nat) : List Bit :=
  if majority t then (inputs t p).filter χ.active else inputs t p

/-- The bits that make up what is added up in step `t + 4`, in the column `p`. -/
def columnBits (χ : Characteristic) (t p : Nat) : List (List Bit) :=
  [[.register (t + 5) p], [.rotl (t + 4) 5 p], χ.roundBits t p, [.rotl t 30 p], [.word (t + 4) p]]

/-- Some of the inputs differ and some do not. -/
def mixed (χ : Characteristic) (t p : Nat) : Bool :=
  (inputs t p).any χ.active && (inputs t p).any (!χ.active ·)

/-- An equation that the differences of step `t + 4` make. -/
inductive Rule
  | pair (t p : Nat)
  | carry (t p : Nat)
  | majority (t p : Nat)

namespace Rule

def applies (χ : Characteristic) : Rule → Bool
  | pair t p => 31 ≤ t && t < 61 && p + 1 < 32 && χ.count t p = 2 &&
      (!(Sha1dc.majority t && (χ.round t).getLsbD p) || χ.mixed t p)
  | carry t p => 31 ≤ t && t < 61 && p + 2 < 32 && χ.count t p = 2 && χ.count t (p + 1) = 1 &&
      χ.count t (p + 2) % 2 = 0 && χ.active (.word (t + 4) p) && χ.active (.word (t + 4) (p + 1))
  | majority t p => Sha1dc.majority t && p < 32 && χ.mixed t p

def equation (χ : Characteristic) : Rule → ParityEq Bit
  | pair t p =>
    ⟨((χ.flips t).zip (χ.columnBits t p)).flatMap fun (d, bits) => if d.getLsbD p then bits else [],
      (χ.register (t + 5)).getLsbD p ^^ χ.count t (p + 1) % 2 = 0⟩
  | carry t p => ⟨[.word (t + 4) p, .word (t + 4) (p + 1)], true⟩
  | majority t p => ⟨(inputs t p).filter fun b => χ.active b ^^ (χ.round t).getLsbD p, true⟩

end Rule

/-- Where a majority lets the differences of its inputs pass, the two inputs of which both or neither differ
are different, and it is equal to the third one if it differs itself. -/
theorem maj_mixed : ∀ x y z x' y' z' : Bool, ([x', y', z'].any id && [x', y', z'].any (!·)) = true →
    (((x && y) ^^ (x && z) ^^ (y && z)) ^^
      (((x ^^ x') && (y ^^ y')) ^^ ((x ^^ x') && (z ^^ z')) ^^ ((y ^^ y') && (z ^^ z')))) =
        (x' ^^ y' ^^ z') →
    ((x' ^^ y' ^^ z') = true →
      ((x && y) ^^ (x && z) ^^ (y && z)) = ((x && x') ^^ (y && y') ^^ (z && z'))) ∧
    ((x && (x' ^^ (x' ^^ y' ^^ z'))) ^^ (y && (y' ^^ (x' ^^ y' ^^ z'))) ^^
      (z && (z' ^^ (x' ^^ y' ^^ z')))) = true := by
  decide

namespace Describes

variable (h : χ.Describes W W' c c')
include h

theorem get_register (ht : 31 ≤ t) (ht' : t ≤ 65) :
    (Bit.register t p).get W' c' = ((Bit.register t p).get W c ^^ χ.active (.register t p)) := by
  rw [Bit.get, ← xor_of_xor (h.register t ht ht'), BitVec.getLsbD_xor]
  rfl

theorem get_rotl (ht : 31 ≤ t) (ht' : t ≤ 65) (r : Nat) :
    (Bit.rotl t r p).get W' c' = ((Bit.rotl t r p).get W c ^^ χ.active (.rotl t r p)) :=
  h.get_register ht ht'

/-- What `maj_mixed` says about the round function. -/
theorem majority_inputs (ht : majority t = true) (hp : p < 32) (hmixed : χ.mixed t p = true) :
    ((χ.round t).getLsbD p = true →
      (roundAt W c t).getLsbD p = ParityEq.parity (Bit.get W c) ((inputs t p).filter χ.active)) ∧
    ((Rule.majority t p).equation χ).Holds (Bit.get W c) := by
  have ht' := ht
  rw [majority, Bool.and_eq_true, decide_eq_true_iff, decide_eq_true_iff] at ht'
  have hround := congrArg (·.getLsbD p) (h.round t ht)
  have hget : ∀ i, (Sha1dc.register W' c' i).getLsbD p = (Bit.register i p).get W' c' := fun i => rfl
  simp only [roundAt_majority W c ht, roundAt_majority W' c' ht, Maj, BitVec.getLsbD_xor,
    BitVec.getLsbD_and, χ.getLsbD_round t hp, ← Bit.get_rotl _ _ _ (show 30 < 32 by decide) hp, hget,
    h.get_register (t := t + 3) (by omega) (by omega), h.get_rotl (t := t + 2) (by omega) (by omega),
    h.get_rotl (t := t + 1) (by omega) (by omega), ParityEq.Holds, Rule.equation] at hround ⊢
  have hmaj := maj_mixed _ _ _ _ _ _ hmixed hround
  simp only [ParityEq.parity_filter, inputs, ParityEq.parity_cons, ParityEq.parity_nil, Bool.xor_false,
    Bool.xor_assoc] at hmaj ⊢
  exact hmaj

theorem round_bits (ht : 31 ≤ t) (hp : p < 32)
    (hmaj : majority t = true → (χ.round t).getLsbD p = true ∧ χ.mixed t p = true) :
    (roundAt W c t).getLsbD p = ParityEq.parity (Bit.get W c) (χ.roundBits t p) := by
  rw [roundBits]
  cases ht' : majority t with
  | true =>
    obtain ⟨hflip, hmixed⟩ := hmaj ht'
    exact (h.majority_inputs ht' hp hmixed).1 hflip
  | false =>
    rw [roundAt_parity W c ht ht', Parity, BitVec.getLsbD_xor, BitVec.getLsbD_xor, if_neg Bool.false_ne_true,
      ← Bit.get_rotl _ _ _ (by decide) hp, ← Bit.get_rotl _ _ _ (by decide) hp]
    simp only [inputs, ParityEq.parity_cons, ParityEq.parity_nil, Bool.xor_assoc, Bool.xor_false]
    rfl

/-- The bits that differ in a column, up to the complement of the result. -/
theorem parity_pair (ht : 31 ≤ t) (hp : p < 32)
    (hmaj : majority t = true → (χ.round t).getLsbD p = true → χ.mixed t p = true) :
    ParityEq.parity (Bit.get W c) ((Rule.pair t p).equation χ).bits =
      ((χ.register (t + 5)).getLsbD p ^^ decide (ones (χ.changes W c t) p % 2 = 1)) := by
  have hif : ∀ b : Bool, ∀ l, ParityEq.parity (Bit.get W c) (if b = true then l else []) =
      (b && ParityEq.parity (Bit.get W c) l) := fun b l => by cases b <;> rfl
  have hround : ((χ.round t).getLsbD p && ParityEq.parity (Bit.get W c) (χ.roundBits t p)) =
      ((χ.round t).getLsbD p && (roundAt W c t).getLsbD p) := by
    cases hflip : (χ.round t).getLsbD p with
    | true => rw [h.round_bits ht hp fun ht' => ⟨hflip, hmaj ht' hflip⟩]
    | false => rfl
  have hget : ∀ i q, (Bit.register i q).get W c = (Sha1dc.register W c i).getLsbD q := fun i q => rfl
  have hword : ∀ i q, (Bit.word i q).get W c = (W i).getLsbD q := fun i q => rfl
  have hnot : ∀ x y z : Bool, ((x && y) ^^ z) = (x ^^ ((x && !y) ^^ z)) := by decide
  have hnil : decide (ones ([] : List (Change 32)) p % 2 = 1) = false := rfl
  rw [changes, ones_cons_odd, ones_cons_odd, ones_cons_odd, ones_cons_odd, ones_cons_odd, hnil]
  simp only [Rule.equation, flips, columnBits, List.zip_cons_cons, List.zip_nil_right, List.flatMap_cons,
    List.flatMap_nil, ParityEq.parity_append, ParityEq.parity_cons, ParityEq.parity_nil, hif, hround,
    BitVec.getLsbD_not, hp, Bit.get_rotl W c _ (show 5 < 32 by decide) hp,
    Bit.get_rotl W c _ (show 30 < 32 by decide) hp, hget, hword, decide_true, Bool.true_and, Bool.xor_false]
  exact hnot _ _ _

theorem holds_pair (hr : (Rule.pair t p).applies χ = true) :
    ((Rule.pair t p).equation χ).Holds (Bit.get W c) := by
  simp only [Rule.applies, Bool.and_eq_true, decide_eq_true_iff] at hr
  obtain ⟨⟨⟨⟨ht, ht'⟩, hp⟩, hpair⟩, hround⟩ := hr
  have hones := (h.balanced ht ht').ones_of_pair hp (fun q _ => h.count t ht ht' q) hpair
  rw [count_changes] at hones
  -- an odd number of differences in the next column is what the pair carries if both have the same sign
  have hodd : decide (ones (χ.changes W c t) p % 2 = 1) = decide (χ.count t (p + 1) % 2 = 0) := by
    rw [decide_eq_decide]
    omega
  rw [ParityEq.Holds, h.parity_pair ht (by omega) fun hmaj hflip => by simpa [hmaj, hflip] using hround, hodd]
  rfl

theorem holds_carry (hr : (Rule.carry t p).applies χ = true) :
    ((Rule.carry t p).equation χ).Holds (Bit.get W c) := by
  simp only [Rule.applies, Bool.and_eq_true, decide_eq_true_iff] at hr
  obtain ⟨⟨⟨⟨⟨⟨⟨ht, ht'⟩, hp⟩, hpair⟩, hsingle⟩, heven⟩, hflip⟩, hflip'⟩ := hr
  have hne := (h.balanced ht ht').bit_ne_of_carry hp (fun q _ => h.count t ht ht' q) hpair hsingle heven
    (x := ⟨W (t + 4), χ.word (t + 4)⟩) (by simp [changes]) hflip hflip'
  rw [ParityEq.Holds, Rule.equation, ParityEq.parity_cons, ParityEq.parity_cons, ParityEq.parity_nil,
    Bool.xor_false]
  exact hne

theorem holds (r : Rule) (hr : r.applies χ = true) : (r.equation χ).Holds (Bit.get W c) := by
  cases r with
  | pair t p => exact h.holds_pair hr
  | carry t p => exact h.holds_carry hr
  | majority t p =>
    simp only [Rule.applies, Bool.and_eq_true, decide_eq_true_iff] at hr
    exact (h.majority_inputs hr.1.1 hr.1.2 hr.2).2

end Describes

/-! ### Conditions that follow -/

variable {nb : Nat}

/-- Sums of equations that may make a condition. -/
def derivations (u : Ubc nb) : List (List Rule) :=
  -- the two bits are in the columns of two differences; the other equations connect the registers there
  let differences : List Rule := [.pair (u.a - 4) u.i, .pair (u.b - 4) u.j]
  [differences, differences ++ [.pair (u.a - 3) 29], differences ++ [.pair (u.a - 3) 1],
    differences ++ [.pair u.a 29], differences ++ [.pair (u.a - 2) 1], differences ++ [.pair (u.a - 2) 29],
    differences ++ [.pair (u.a - 2) 1, .pair u.a 1, .pair (u.a + 2) 1],
    differences ++ [.majority (u.a - 1) 29], differences ++ [.majority (u.a - 1) 31],
    [.carry (u.a - 4) (u.i - 1), .pair (u.a - 4) (u.i - 1), .pair (u.b - 4) (u.j - 1),
      .carry (u.b - 4) (u.j - 1)]]

/-- One of the sums makes the condition. -/
def justifies (χ : Characteristic) (u : Ubc nb) : Bool :=
  (derivations u).any fun rules => rules.all (·.applies χ) &&
    ParityEq.derives (rules.map (·.equation χ)) ⟨[.word u.a u.i, .word u.b u.j], u.c ≠ 0⟩

theorem Describes.holds_of_justifies (h : χ.Describes W W' c c') {u : Ubc nb}
    (hu : χ.justifies u = true) : u.Holds W := by
  obtain ⟨rules, -, hrules⟩ := List.any_eq_true.mp hu
  rw [Bool.and_eq_true, List.all_eq_true] at hrules
  have hcond := ParityEq.Holds.of_derives (v := Bit.get W c) (fun e he => by
    obtain ⟨r, hr, rfl⟩ := List.mem_map.mp he
    exact h.holds r (hrules.1 r hr)) hrules.2
  rw [ParityEq.Holds, ParityEq.parity_cons, ParityEq.parity_cons, ParityEq.parity_nil, Bool.xor_false] at hcond
  exact hcond

end Characteristic

end Sha1dc
