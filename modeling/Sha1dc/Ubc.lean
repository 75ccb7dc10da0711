import Sha1dc.Step
import Sha1dc.Tables

/-!
# The scalar filter by unavoidable bit conditions

A condition compares a bit of one word with a bit of another; a disturbance vector stays possible as
long as all conditions that name it hold (`Possible`). `sha1dc_ubc_check_baseline` keeps the possible
vectors in a word that it loads and stores in the byte order of the machine, skips a condition that
concerns no possible vector once it is past the index 64, and stops there when none is left: both are
ways of not changing the word (`ubcLoop_eq`).
-/

namespace Sha1dc
open Checked

variable {nb : Nat}

inductive ByteOrder
  | little
  | big
deriving DecidableEq, Repr

/-- The byte of a word that is at the offset `q` in memory, counted from the least significant one. -/
def ByteOrder.pos (order : ByteOrder) (q : Nat) : Nat :=
  match order with
  | .little => q
  | .big => 3 - q

/-- `memcpy(&dvs, mask, nb)` into a zeroed word. -/
def loadDvmask (order : ByteOrder) (mask : List Byte) : Word :=
  let byte (p : Nat) : Byte := mask.getD (order.pos p) 0
  byte 3 ++ byte 2 ++ byte 1 ++ byte 0

/-- `memcpy(mask, &possible, nb)` -/
def storeDvmask (order : ByteOrder) (possible : Word) : Vector Byte nb :=
  .ofFn fun q => possible.extractLsb' (8 * order.pos q) 8

/-- `eq`: all ones where the condition holds and zero where it does not. -/
def ubcEq (W : ExpandedBlock) (u : Ubc nb) : Chk Word := do
  let common := if u.i ≤ u.j then u.i else u.j
  let left := u.i - common
  let right := u.j - common
  let b1 := (← rd W u.a) >>> left
  let b2 := (← rd W u.b) >>> right
  let lhs := (b1 ^^^ b2) >>> common &&& 1
  return if u.c ≠ 0 then 0 - lhs else lhs - 1

/-- The loop over the conditions from the index `i` on. -/
def ubcLoop (order : ByteOrder) (W : ExpandedBlock) : Nat → List (Ubc nb) → Word → Chk Word
  | _, [], possible => return possible
  | i, u :: us, possible => do
    let dvs := loadDvmask order u.dvmask.toList
    if i > 64 ∧ possible &&& dvs = 0 then ubcLoop order W (i + 1) us possible
    else
      let eq ← ubcEq W u
      let possible := possible &&& (eq ||| ~~~dvs)
      if i = 64 ∧ possible = 0 then return possible
      else ubcLoop order W (i + 1) us possible

/-- `sha1dc_ubc_check_baseline`, over any table. -/
def ubcCheckBaseline (order : ByteOrder) (ubcs : List (Ubc nb)) (W : ExpandedBlock) :
    Chk (Vector Byte nb) :=
  if nb > 4 then .error .abort
  else do return storeDvmask order (← ubcLoop order W 0 ubcs (-1))

/-! ### What a condition says -/

/-- The two bits are equal for `c = 0`, different for `c = -1`. -/
def Ubc.Holds (u : Ubc nb) (W : Nat → Word) : Prop :=
  ((W u.a).getLsbD u.i ^^ (W u.b).getLsbD u.j) = decide (u.c ≠ 0)

instance (u : Ubc nb) (W : Nat → Word) : Decidable (u.Holds W) := inferInstanceAs (Decidable (_ = _))

/-- The words and bits that the condition names exist. -/
structure Ubc.Valid (u : Ubc nb) : Prop where
  a : u.a < 80
  b : u.b < 80
  i : u.i < 32
  j : u.j < 32

/-- No condition rules the vector `k` out. -/
def Possible (ubcs : List (Ubc nb)) (W : Nat → Word) (k : Nat) : Prop :=
  ∀ u ∈ ubcs, dvBit u.dvmask k = true → u.Holds W

instance (ubcs : List (Ubc nb)) (W : Nat → Word) (k : Nat) : Decidable (Possible ubcs W k) :=
  inferInstanceAs (Decidable (∀ _ ∈ _, _))

theorem possible_cons {u : Ubc nb} {us : List (Ubc nb)} {W : Nat → Word} {k : Nat} :
    Possible (u :: us) W k ↔ (dvBit u.dvmask k = true → u.Holds W) ∧ Possible us W k :=
  List.forall_mem_cons

theorem getLsbD_zero_and_one (x : Word) : x &&& 1 = if x.getLsbD 0 then 1 else 0 := by
  rw [show (1 : Word) = 1#32 from rfl, BitVec.and_one_eq_setWidth_ofBool_getLsbD]
  cases x.getLsbD 0 <;> rfl

theorem ubcEq_eq {u : Ubc nb} (hu : u.Valid) (W : ExpandedBlock) :
    ubcEq W u = .ok (if u.Holds W.seq then -1 else 0) := by
  have hi : (if u.i ≤ u.j then u.i else u.j) + (u.i - if u.i ≤ u.j then u.i else u.j) = u.i := by
    split <;> omega
  have hj : (if u.i ≤ u.j then u.i else u.j) + (u.j - if u.i ≤ u.j then u.i else u.j) = u.j := by
    split <;> omega
  simp only [ubcEq, W.rd_eq_seq hu.a, W.rd_eq_seq hu.b, ok_bind]
  rw [getLsbD_zero_and_one]
  simp only [BitVec.getLsbD_ushiftRight, BitVec.getLsbD_xor, Nat.add_zero, Nat.add_comm _ (ite _ _ _),
    hi, hj]
  refine congrArg Except.ok ?_
  by_cases hc : u.c = 0 <;> cases hx : (W.seq u.a).getLsbD u.i ^^ (W.seq u.b).getLsbD u.j <;>
    simp [hc, hx, Ubc.Holds]

/-! ### The loop is a fold -/

def ubcKeeps (order : ByteOrder) (W : Nat → Word) (u : Ubc nb) : Word :=
  if u.Holds W then -1 else ~~~loadDvmask order u.dvmask.toList

theorem and_keeps_of_disjoint {possible : Word} {order : ByteOrder} {u : Ubc nb} {W : Nat → Word}
    (h : possible &&& loadDvmask order u.dvmask.toList = 0) : possible &&& ubcKeeps order W u = possible := by
  rw [ubcKeeps]
  split
  · exact BitVec.and_allOnes
  · refine BitVec.eq_of_getLsbD_eq fun i hi => ?_
    have hbit := congrArg (·.getLsbD i) h
    simp only [BitVec.getLsbD_and] at hbit
    simp only [BitVec.getLsbD_and, BitVec.getLsbD_not, hi, decide_true, Bool.true_and]
    revert hbit
    cases possible.getLsbD i <;> simp

theorem foldl_keeps_zero (order : ByteOrder) (W : Nat → Word) (us : List (Ubc nb)) :
    us.foldl (fun possible u => possible &&& ubcKeeps order W u) 0 = 0 := by
  induction us with
  | nil => rfl
  | cons u us ih => rw [List.foldl_cons, show (0 : Word) &&& _ = 0 from BitVec.zero_and, ih]

theorem or_eq_keeps (order : ByteOrder) (W : Nat → Word) (u : Ubc nb) :
    (if u.Holds W then (-1 : Word) else 0) ||| ~~~loadDvmask order u.dvmask.toList = ubcKeeps order W u := by
  rw [ubcKeeps]
  split
  · exact BitVec.allOnes_or
  · exact BitVec.zero_or

/-- Skipping a condition behind the index 64 and stopping at 64 do not change the word. -/
theorem ubcLoop_eq (order : ByteOrder) (W : ExpandedBlock) {us : List (Ubc nb)} (h : ∀ u ∈ us, u.Valid)
    (i : Nat) (possible : Word) : ubcLoop order W i us possible =
      .ok (us.foldl (fun possible u => possible &&& ubcKeeps order W.seq u) possible) := by
  induction us generalizing i possible with
  | nil => rfl
  | cons u us ih =>
    have hu := h u List.mem_cons_self
    have ih := ih fun u' hu' => h u' (List.mem_cons_of_mem u hu')
    rw [ubcLoop, List.foldl_cons]
    by_cases hskip : i > 64 ∧ possible &&& loadDvmask order u.dvmask.toList = 0
    · rw [if_pos hskip, ih, and_keeps_of_disjoint hskip.2]
    · rw [if_neg hskip, ubcEq_eq hu, ok_bind, or_eq_keeps]
      by_cases hstop : i = 64 ∧ possible &&& ubcKeeps order W.seq u = 0
      · rw [if_pos hstop, hstop.2, foldl_keeps_zero]
        rfl
      · rw [if_neg hstop, ih]

/-- The loop over all the conditions, without the skip and without the exit. -/
def ubcLoopAll (order : ByteOrder) (W : ExpandedBlock) : List (Ubc nb) → Word → Chk Word
  | [], possible => return possible
  | u :: us, possible => do
    let eq ← ubcEq W u
    ubcLoopAll order W us (possible &&& (eq ||| ~~~loadDvmask order u.dvmask.toList))

theorem ubcLoopAll_eq (order : ByteOrder) (W : ExpandedBlock) {us : List (Ubc nb)}
    (h : ∀ u ∈ us, u.Valid) (possible : Word) : ubcLoopAll order W us possible =
      .ok (us.foldl (fun possible u => possible &&& ubcKeeps order W.seq u) possible) := by
  induction us generalizing possible with
  | nil => rfl
  | cons u us ih =>
    rw [ubcLoopAll, ubcEq_eq (h u List.mem_cons_self), ok_bind, or_eq_keeps, List.foldl_cons]
    exact ih (fun u' hu' => h u' (List.mem_cons_of_mem u hu')) _

/-! ### Bits of masks -/

/-- The bit of the word that the bit `k` of a mask is loaded to. -/
def bitPos (order : ByteOrder) (k : Nat) : Nat := 8 * order.pos (k / 8) + k % 8

theorem ByteOrder.pos_lt (order : ByteOrder) {q : Nat} (h : q < 4) : order.pos q < 4 := by
  cases order <;> simp only [pos] <;> omega

theorem ByteOrder.pos_pos (order : ByteOrder) {q : Nat} (h : q < 4) : order.pos (order.pos q) = q := by
  cases order <;> simp only [pos]
  omega

theorem bitPos_lt (order : ByteOrder) {k : Nat} (h : k < 32) : bitPos order k < 32 := by
  have := order.pos_lt (show k / 8 < 4 by omega)
  simp only [bitPos]
  omega

theorem getLsbD_loadDvmask (order : ByteOrder) (mask : Vector Byte nb) {k : Nat} (h : k < 32) :
    (loadDvmask order mask.toList).getLsbD (bitPos order k) = dvBit mask k := by
  have hdiv : bitPos order k / 8 = order.pos (k / 8) := by simp only [bitPos]; omega
  have hmod : bitPos order k % 8 = k % 8 := by simp only [bitPos]; omega
  rw [loadDvmask]
  refine (getLsbD_bytes (fun p => mask.toList.getD (order.pos p) 0) (bitPos_lt order h)).trans ?_
  simp only [hdiv, hmod, order.pos_pos (show k / 8 < 4 by omega), dvBit]
  split
  · next hk => simp [hk]
  · next hk => rw [List.getD_eq_default _ _ (by simpa using hk)]; simp

theorem dvBit_storeDvmask (order : ByteOrder) (possible : Word) {k : Nat} (h : k / 8 < nb) :
    dvBit (storeDvmask order possible : Vector Byte nb) k = possible.getLsbD (bitPos order k) := by
  rw [dvBit, dif_pos h, storeDvmask, Vector.getElem_ofFn, BitVec.getLsbD_extractLsb',
    decide_eq_true (Nat.mod_lt k (by decide)), Bool.true_and, bitPos]

theorem dvmask_ext {mask mask' : Vector Byte nb} (h : ∀ k, k / 8 < nb → dvBit mask k = dvBit mask' k) :
    mask = mask' := by
  refine Vector.ext fun q hq => BitVec.eq_of_getLsbD_eq fun i hi => ?_
  have hk := h (8 * q + i) (by omega)
  have hdiv : (8 * q + i) / 8 = q := by omega
  have hmod : (8 * q + i) % 8 = i := by omega
  simpa only [dvBit, hdiv, hmod, hq, ↓reduceDIte] using hk

theorem getLsbD_foldl_keeps (order : ByteOrder) (W : Nat → Word) (us : List (Ubc nb)) (possible : Word)
    {k : Nat} (h : k < 32) :
    (us.foldl (fun possible u => possible &&& ubcKeeps order W u) possible).getLsbD (bitPos order k) =
      (possible.getLsbD (bitPos order k) && decide (Possible us W k)) := by
  induction us generalizing possible with
  | nil => simp [Possible]
  | cons u us ih =>
    have hkeep : (ubcKeeps order W u).getLsbD (bitPos order k) =
        decide (dvBit u.dvmask k = true → u.Holds W) := by
      have hpos := bitPos_lt order h
      rw [ubcKeeps]
      by_cases hu : u.Holds W
      · rw [if_pos hu, show (-1 : Word) = BitVec.allOnes 32 from rfl, BitVec.getLsbD_allOnes]
        simp [hu, hpos]
      · rw [if_neg hu, BitVec.getLsbD_not, getLsbD_loadDvmask order _ h]
        simp [hu, hpos]
    rw [List.foldl_cons, ih, BitVec.getLsbD_and, hkeep, Bool.and_assoc, ← Bool.decide_and]
    simp only [possible_cons]

theorem wp_ubcCheckBaseline (order : ByteOrder) {ubcs : List (Ubc nb)} (hnb : nb ≤ 4)
    (h : ∀ u ∈ ubcs, u.Valid) (W : ExpandedBlock) :
    wp (ubcCheckBaseline order ubcs W) fun dvs =>
      ∀ k, k / 8 < nb → (dvBit dvs k = true ↔ Possible ubcs W.seq k) := by
  rw [ubcCheckBaseline, if_neg (by omega), ubcLoop_eq order W h, ok_bind, wp_pure]
  intro k hk
  rw [dvBit_storeDvmask order _ hk, getLsbD_foldl_keeps order W.seq ubcs _ (by omega)]
  rw [show (-1 : Word) = BitVec.allOnes 32 from rfl, BitVec.getLsbD_allOnes,
    decide_eq_true (bitPos_lt order (by omega)), Bool.true_and, decide_eq_true_iff]

/-! ### The table that ships -/

theorem valid_ubcs : ∀ u ∈ ubcs, u.Valid := by
  have h : ∀ u ∈ ubcs, u.a < 80 ∧ u.b < 80 ∧ u.i < 32 ∧ u.j < 32 := by decide +kernel
  exact fun u hu => ⟨(h u hu).1, (h u hu).2.1, (h u hu).2.2.1, (h u hu).2.2.2⟩

/-! ### The scalar filter as a whole -/

/-- Over every valid table the filter writes the mask of the vectors that no condition rules out, and
the loop computes what it would without skipping or stopping. -/
theorem ubcCheckBaseline_spec (order : ByteOrder) {ubcs : List (Ubc nb)} (hnb : nb ≤ 4)
    (h : ∀ u ∈ ubcs, u.Valid) (W : ExpandedBlock) :
    (∃ dvs, ubcCheckBaseline order ubcs W = .ok dvs ∧
      ∀ k < 8 * nb, (dvBit dvs k = true ↔ ∀ u ∈ ubcs, dvBit u.dvmask k = true → u.Holds W.seq)) ∧
    ∀ i possible, ubcLoop order W i ubcs possible = ubcLoopAll order W ubcs possible := by
  constructor
  · obtain ⟨dvs, hdvs, hbit⟩ := wp_ubcCheckBaseline order hnb h W
    exact ⟨dvs, hdvs, fun k hk => hbit k (by omega)⟩
  · intro i possible
    rw [ubcLoop_eq order W h, ubcLoopAll_eq order W h]

theorem ubcCheckBaseline_spec_shattered :
    let W := Fips.expand shatteredBlock
    (∃ dvs, ubcCheckBaseline .little ubcs W = .ok dvs ∧ ∀ k < 32, (dvBit dvs k = true ↔
      ∀ u ∈ ubcs, dvBit u.dvmask k = true → u.Holds W.seq)) ∧
    ∀ i possible, ubcLoop .little W i ubcs possible = ubcLoopAll .little W ubcs possible :=
  ubcCheckBaseline_spec .little (by decide) valid_ubcs (Fips.expand shatteredBlock)

end Sha1dc
