import Mathlib.Data.Nat.Bits
import Sha1dc.Lib.Checked

/-!
# Words, bytes and the helpers of `bits.h`

`uint32_t` and `unsigned char` are bit vectors. A message block is its 64 bytes, whatever the type of
the pointer the code holds to it, and an expanded block is 80 words. Here and below a definition has
the name of the source in camel case, without the prefix `sha1dc_`.
-/

namespace Sha1dc
open Checked

abbrev Byte := BitVec 8

abbrev Word := BitVec 32

abbrev Block := Vector Byte 64

abbrev ExpandedBlock := Vector Word 80

/-- `sha1_chaining_value`, its five words under the names of the macros `sha1_A`, …, `sha1_E`. -/
@[ext] structure ChainingValue where
  A : Word
  B : Word
  C : Word
  D : Word
  E : Word
deriving DecidableEq, Repr, Inhabited

namespace ChainingValue

def toList (cv : ChainingValue) : List Word := [cv.A, cv.B, cv.C, cv.D, cv.E]

/-- `for(size_t i = 0; i < countof state; i++) cv[i] += state[i];` -/
instance : Add ChainingValue where
  add cv state := ⟨cv.A + state.A, cv.B + state.B, cv.C + state.C, cv.D + state.D, cv.E + state.E⟩

theorem add_def (cv state : ChainingValue) : cv + state =
    ⟨cv.A + state.A, cv.B + state.B, cv.C + state.C, cv.D + state.D, cv.E + state.E⟩ := rfl

theorem add_comm (cv state : ChainingValue) : cv + state = state + cv := by
  simp only [add_def, BitVec.add_comm]

@[simp] theorem length_toList (cv : ChainingValue) : cv.toList.length = 5 := rfl

end ChainingValue

/-- The word at `t`, `0` behind the end: for statements, which read only words that exist. -/
def ExpandedBlock.seq (W : ExpandedBlock) (t : Nat) : Word := if h : t < 80 then W[t] else 0

namespace ExpandedBlock

theorem seq_eq (W : ExpandedBlock) {t : Nat} (h : t < 80) : W.seq t = W[t] := by
  simp [seq, h]

theorem rd_eq_seq (W : ExpandedBlock) {t : Nat} (h : t < 80) : rd W t = .ok (W.seq t) := by
  rw [rd_eq W h, seq_eq W h]

theorem ext_seq {W W' : ExpandedBlock} (h : ∀ t < 80, W.seq t = W'.seq t) : W = W' :=
  Vector.ext fun t ht => by rw [← seq_eq W ht, ← seq_eq W' ht]; exact h t ht

theorem seq_set (W : ExpandedBlock) {i t : Nat} (a : Word) (hi : i < 80) (ht : t < 80) :
    seq (W.set i a) t = if t = i then a else W.seq t := by
  rw [seq_eq _ ht, seq_eq _ ht, Vector.getElem_set]
  simp only [eq_comm]

@[simp] theorem seq_ofFn (f : Fin 80 → Word) {t : Nat} (h : t < 80) :
    seq (.ofFn f) t = f ⟨t, h⟩ := by
  rw [seq_eq _ h, Vector.getElem_ofFn]

end ExpandedBlock

/-! ### Rotations -/

/-- `sha1_rotate_left`; the `int` amount `s` is a two's complement word. -/
def sha1RotateLeft (x : Word) (s : Word) : Word :=
  let s := (s &&& 31).toNat
  x <<< s ||| x >>> (32 - if s ≠ 0 then s else 32)

def sha1RotateRight (x : Word) (s : Word) : Word := sha1RotateLeft x (-(s &&& 31))

theorem sha1RotateLeft_eq (x s : Word) : sha1RotateLeft x s = x.rotateLeft (s &&& 31).toNat := by
  have hs : (s &&& 31).toNat < 32 := by
    rw [BitVec.toNat_and]
    exact Nat.lt_of_le_of_lt Nat.and_le_right (by decide)
  rw [sha1RotateLeft, BitVec.rotateLeft_def, Nat.mod_eq_of_lt hs]
  generalize (s &&& 31).toNat = r
  by_cases h : r = 0
  · simp [h, BitVec.ushiftRight_eq_zero]
  · simp [h]

@[simp] theorem sha1RotateLeft_one (x : Word) : sha1RotateLeft x 1 = x.rotateLeft 1 :=
  sha1RotateLeft_eq x 1

@[simp] theorem sha1RotateLeft_two (x : Word) : sha1RotateLeft x 2 = x.rotateLeft 2 :=
  sha1RotateLeft_eq x 2

@[simp] theorem sha1RotateLeft_five (x : Word) : sha1RotateLeft x 5 = x.rotateLeft 5 :=
  sha1RotateLeft_eq x 5

@[simp] theorem sha1RotateRight_two (x : Word) : sha1RotateRight x 2 = x.rotateLeft 30 :=
  sha1RotateLeft_eq x _

theorem getLsbD_rotl (x : Word) {r i : Nat} (hr : r < 32) (hi : i < 32) :
    (x.rotateLeft r).getLsbD i = x.getLsbD ((i + 32 - r) % 32) := by
  rw [BitVec.getLsbD_rotateLeft_of_le hr]
  by_cases h : i < r
  · simp only [h, decide_true, cond_true]
    congr 1; omega
  · simp only [h, decide_false, cond_false, hi, decide_true, Bool.true_and]
    congr 1; omega

theorem rotl_rotl (x : Word) {r s : Nat} (hr : r < 32) (hs : s < 32) (h : (r + s) % 32 = 0) :
    (x.rotateLeft r).rotateLeft s = x := by
  refine BitVec.eq_of_getLsbD_eq fun i hi => ?_
  rw [getLsbD_rotl _ hs hi, getLsbD_rotl _ hr (Nat.mod_lt _ (by omega))]
  congr 1; omega

theorem rotl_xor (x y : Word) {r : Nat} (hr : r < 32) :
    (x ^^^ y).rotateLeft r = x.rotateLeft r ^^^ y.rotateLeft r := by
  refine BitVec.eq_of_getLsbD_eq fun i hi => ?_
  simp only [BitVec.getLsbD_xor, getLsbD_rotl _ hr hi]

theorem rotl_comm (x : Word) {r s : Nat} (hr : r < 32) (hs : s < 32) :
    (x.rotateLeft r).rotateLeft s = (x.rotateLeft s).rotateLeft r := by
  refine BitVec.eq_of_getLsbD_eq fun i hi => ?_
  rw [getLsbD_rotl _ hs hi, getLsbD_rotl _ hr (Nat.mod_lt _ (by decide)), getLsbD_rotl _ hr hi,
    getLsbD_rotl _ hs (Nat.mod_lt _ (by decide))]
  congr 1
  omega

/-! ### Bytes of a word -/

/-- A word put together from its bytes, byte `p` at the bits from `8 * p` on. -/
theorem getLsbD_bytes (byte : Nat → Byte) {i : Nat} (hi : i < 32) :
    (byte 3 ++ byte 2 ++ byte 1 ++ byte 0).getLsbD i = (byte (i / 8)).getLsbD (i % 8) := by
  simp only [BitVec.getLsbD_append, Nat.sub_sub]
  rcases (by omega : i < 8 ∨ 8 ≤ i ∧ i < 16 ∨ 16 ≤ i ∧ i < 24 ∨ 24 ≤ i ∧ i < 32) with h | h | h | h
  · simp [h, show i / 8 = 0 by omega, show i % 8 = i by omega]
  · simp [show ¬ i < 8 by omega, show i - 8 < 8 by omega, show i / 8 = 1 by omega,
      show i % 8 = i - 8 by omega]
  · simp [show ¬ i < 8 by omega, show ¬ i - 8 < 8 by omega, show i - 16 < 8 by omega,
      show i / 8 = 2 by omega, show i % 8 = i - 16 by omega]
  · simp [show ¬ i < 8 by omega, show ¬ i - 8 < 8 by omega, show ¬ i - 16 < 8 by omega,
      show i / 8 = 3 by omega, show i % 8 = i - 24 by omega]

/-! ### Big-endian loads and stores

The byte loops `for(unsigned char i = 32; (unsigned char)((i -= 8) + 8);)` run over the shifts 24, 16,
8 and 0, and over 56, …, 0 when they start from 64. -/

section
variable {n : Nat}

/-- `sha1_load8_beu32` at the byte offset `p` of `m`. -/
def sha1Load8Beu32 (m : Vector Byte n) (p : Nat) : Chk Word := do
  let x : Word := 0
  let x := x ||| (← rd m p).setWidth 32 <<< 24
  let x := x ||| (← rd m (p + 1)).setWidth 32 <<< 16
  let x := x ||| (← rd m (p + 2)).setWidth 32 <<< 8
  let x := x ||| (← rd m (p + 3)).setWidth 32 <<< 0
  return x

def sha1Store8Beu32 (x : Word) : List Byte :=
  [24, 16, 8, 0].map fun i => (x >>> i).setWidth 8

def sha1Store8Beu64 (x : BitVec 64) : List Byte :=
  [56, 48, 40, 32, 24, 16, 8, 0].map fun i => (x >>> i).setWidth 8

/-- The bytes are the word's own from the most significant one on. -/
theorem sha1Load8Beu32_eq (m : Vector Byte n) {p : Nat} (h : p + 4 ≤ n) :
    sha1Load8Beu32 m p = .ok (m[p] ++ m[p + 1] ++ m[p + 2] ++ m[p + 3]) := by
  simp only [sha1Load8Beu32, rd_eq m (show p < n by omega), rd_eq m (show p + 1 < n by omega),
    rd_eq m (show p + 2 < n by omega), rd_eq m (show p + 3 < n by omega), ok_bind]
  refine congrArg Except.ok (BitVec.eq_of_getLsbD_eq fun i hi => ?_)
  simp only [BitVec.getLsbD_or, BitVec.getLsbD_shiftLeft, BitVec.getLsbD_setWidth,
    BitVec.getLsbD_append, Nat.sub_sub]
  rcases (by omega : i < 8 ∨ 8 ≤ i ∧ i < 16 ∨ 16 ≤ i ∧ i < 24 ∨ 24 ≤ i ∧ i < 32) with h | h | h | h
  · simp [h, hi, show i < 16 by omega, show i < 24 by omega]
  · simp [h, hi, show i < 24 by omega, show ¬ i < 8 by omega, show i - 8 < 8 by omega,
      show i - 8 < 32 by omega]
  · simp [h, hi, show ¬ i < 16 by omega, show ¬ i < 8 by omega, show ¬ i - 8 < 8 by omega,
      show i - 16 < 8 by omega, show i - 16 < 32 by omega, BitVec.getLsbD_of_ge m[p + 3] i (by omega),
      BitVec.getLsbD_of_ge m[p + 2] (i - 8) (by omega)]
  · simp [h, show ¬ i < 24 by omega, show ¬ i < 16 by omega, show ¬ i < 8 by omega,
      show ¬ i - 8 < 8 by omega, show ¬ i - 16 < 8 by omega, show i - 24 < 32 by omega,
      BitVec.getLsbD_of_ge m[p + 3] i (by omega), BitVec.getLsbD_of_ge m[p + 2] (i - 8) (by omega),
      BitVec.getLsbD_of_ge m[p + 1] (i - 16) (by omega)]

end

/-- `m + i` as the first argument of `sha1_load8_maybe_unaligned_beu32`: both spellings of the macro
read the four bytes at `4 * i`. -/
def loadWord (m : Block) (i : Nat) : Chk Word := sha1Load8Beu32 m (4 * i)

end Sha1dc
