import Sha1dc.Lib.Unroll
import Sha1dc.Lib.Blocks
import Sha1dc.Bits

/-!
# SHA-1 as the standard has it

The functions and constants of FIPS 180-4, the reference that the code is compared with. A step is
invertible (`stepEquiv`), so the eighty of them are a run of `Unroll`; the message schedule is the
xor-linear recurrence `IsExpansion`, which is why a difference mask that satisfies it can be xored
into any expanded block.
-/

namespace Sha1dc.Fips
open Blocks

/-! ### Functions, constants and one step -/

def Ch (x y z : Word) : Word := (x &&& y) ^^^ (~~~x &&& z)

def Parity (x y z : Word) : Word := x ^^^ y ^^^ z

def Maj (x y z : Word) : Word := (x &&& y) ^^^ (x &&& z) ^^^ (y &&& z)

def f (t : Nat) (x y z : Word) : Word :=
  if t < 20 then Ch x y z else if t < 40 then Parity x y z else if t < 60 then Maj x y z
  else Parity x y z

def K (t : Nat) : Word :=
  if t < 20 then 0x5a827999 else if t < 40 then 0x6ed9eba1 else if t < 60 then 0x8f1bbcdc
  else 0xca62c1d6

def step (t : Nat) (w : Word) (s : ChainingValue) : ChainingValue :=
  let T := s.A.rotateLeft 5 + f t s.B s.C s.D + s.E + K t + w
  ⟨T, s.A, s.B.rotateLeft 30, s.C, s.D⟩

def stepBack (t : Nat) (w : Word) (s : ChainingValue) : ChainingValue :=
  let b := s.C.rotateLeft 2
  ⟨s.B, b, s.D, s.E, s.A - (s.B.rotateLeft 5 + f t b s.D s.E + K t + w)⟩

def stepEquiv (t : Nat) (w : Word) : ChainingValue ≃ ChainingValue where
  toFun := step t w
  invFun := stepBack t w
  left_inv s := by
    have h : (s.B.rotateLeft 30).rotateLeft 2 = s.B := rotl_rotl _ (by decide) (by decide) rfl
    ext1 <;> simp only [step, stepBack, h]
    generalize s.A.rotateLeft 5 = a, f t s.B s.C s.D = b, K t = k
    rw [show a + b + s.E + k + w = s.E + (a + b + k + w) by ac_rfl, BitVec.add_sub_cancel]
  right_inv s := by
    have h : (s.C.rotateLeft 2).rotateLeft 30 = s.C := rotl_rotl _ (by decide) (by decide) rfl
    ext1 <;> simp only [step, stepBack, h]
    generalize s.B.rotateLeft 5 = a, f t (s.C.rotateLeft 2) s.D s.E = b, K t = k
    rw [show ∀ x, a + b + x + k + w = x + (a + b + k + w) from fun x => by ac_rfl,
      BitVec.sub_add_cancel]

def steps (W : Nat → Word) (t : Nat) : ChainingValue ≃ ChainingValue := stepEquiv t (W t)

@[simp] theorem steps_apply (W : Nat → Word) (t : Nat) (s : ChainingValue) :
    steps W t s = step t (W t) s := rfl

@[simp] theorem steps_symm_apply (W : Nat → Word) (t : Nat) (s : ChainingValue) :
    (steps W t).symm s = stepBack t (W t) s := rfl

/-- The state after the first `t` steps with `W` from `c`. -/
abbrev stateAt (W : Nat → Word) (t : Nat) (c : ChainingValue) : ChainingValue :=
  Unroll.run (steps W) t c

theorem stateAt_succ (W : Nat → Word) (t : Nat) (c : ChainingValue) :
    stateAt W (t + 1) c = step t (W t) (stateAt W t c) :=
  Unroll.run_succ (steps W) t c

/-- The compression function, which takes the expanded words. -/
def compress (W : Nat → Word) (c : ChainingValue) : ChainingValue := c + stateAt W 80 c

/-! ### Message schedule -/

/-- The words of a block, each with its most significant byte first. -/
def message (B : Block) (i : Nat) : Word :=
  if h : i < 16 then
    B[4 * i] ++ B[4 * i + 1] ++ B[4 * i + 2] ++ B[4 * i + 3]
  else 0

def schedule (M : Nat → Word) (t : Nat) : Word :=
  if t < 16 then M t
  else (schedule M (t - 3) ^^^ schedule M (t - 8) ^^^ schedule M (t - 14) ^^^
    schedule M (t - 16)).rotateLeft 1
termination_by t

def expand (B : Block) : ExpandedBlock := .ofFn fun t => schedule (message B) t

/-- `W` satisfies the recurrence of the message schedule at every word behind the sixteenth. -/
def IsExpansion (W : Nat → Word) : Prop :=
  ∀ t, 16 ≤ t → t < 80 →
    W t = (W (t - 3) ^^^ W (t - 8) ^^^ W (t - 14) ^^^ W (t - 16)).rotateLeft 1

theorem seq_expand (B : Block) {t : Nat} (h : t < 80) : (expand B).seq t = schedule (message B) t := by
  rw [expand, ExpandedBlock.seq_ofFn _ h]

theorem schedule_lt (M : Nat → Word) {t : Nat} (h : t < 16) : schedule M t = M t := by
  rw [schedule, if_pos h]

theorem isExpansion_schedule (M : Nat → Word) : IsExpansion (schedule M) := by
  intro t h _
  rw [schedule, if_neg (by omega)]

theorem isExpansion_expand (B : Block) : IsExpansion (expand B).seq := by
  intro t h h'
  rw [seq_expand B h', seq_expand B (by omega), seq_expand B (by omega), seq_expand B (by omega),
    seq_expand B (by omega)]
  exact isExpansion_schedule _ t h h'

/-- Expansions are closed under xor: rotations and xor distribute over it. -/
theorem IsExpansion.xor {V W : Nat → Word} (hV : IsExpansion V) (hW : IsExpansion W) :
    IsExpansion fun t => V t ^^^ W t := by
  intro t h h'
  dsimp only
  rw [hV t h h', hW t h h', ← rotl_xor _ _ (by decide)]
  congr 1
  ac_rfl

/-- An expansion is the schedule of its own first sixteen words. -/
theorem IsExpansion.eq_schedule {M W : Nat → Word} (hW : IsExpansion W) (hM : ∀ i < 16, W i = M i)
    {t : Nat} (ht : t < 80) : W t = schedule M t := by
  induction t using Nat.strongRecOn with
  | ind t ih =>
    by_cases h : t < 16
    · rw [schedule_lt M h, hM t h]
    · rw [hW t (by omega) ht, schedule, if_neg h, ih (t - 3) (by omega) (by omega),
        ih (t - 8) (by omega) (by omega), ih (t - 14) (by omega) (by omega),
        ih (t - 16) (by omega) (by omega)]

/-- Whether the words of `W` satisfy the recurrence, read along the list. -/
def checkRecurrence : List Word → Bool
  | [] => true
  | w :: W =>
    (match W[15]? with
      | some v => v == (W.getD 12 0 ^^^ W.getD 7 0 ^^^ W.getD 1 0 ^^^ w).rotateLeft 1
      | none => true) && checkRecurrence W

theorem getD_of_checkRecurrence {W : List Word} (h : checkRecurrence W) {t : Nat}
    (ht : t + 16 < W.length) : W.getD (t + 16) 0 =
      (W.getD (t + 13) 0 ^^^ W.getD (t + 8) 0 ^^^ W.getD (t + 2) 0 ^^^ W.getD t 0).rotateLeft 1 := by
  induction W generalizing t with
  | nil => simp at ht
  | cons w W ih =>
    rw [checkRecurrence, Bool.and_eq_true] at h
    cases t with
    | zero =>
      have hW : 15 < W.length := by simp at ht; omega
      have h₁ := h.1
      rw [List.getElem?_eq_getElem hW] at h₁
      simpa [hW] using h₁
    | succ t =>
      have := ih h.2 (t := t) (by simp at ht; omega)
      simpa [Nat.add_right_comm] using this

theorem isExpansion_of_check {W : ExpandedBlock} (h : checkRecurrence W.toList) :
    IsExpansion W.seq := by
  have hseq : ∀ i < 80, W.seq i = W.toList.getD i 0 := fun i hi => by
    rw [W.seq_eq hi]; simp [hi]
  intro t ht ht'
  have := getD_of_checkRecurrence h (t := t - 16) (by simp; omega)
  rw [show t - 16 + 16 = t by omega, show t - 16 + 13 = t - 3 by omega,
    show t - 16 + 8 = t - 8 by omega, show t - 16 + 2 = t - 14 by omega] at this
  rw [hseq t ht', hseq _ (by omega), hseq _ (by omega), hseq _ (by omega), hseq _ (by omega)]
  exact this

/-! ### Padding and the hash -/

def wordBytes (x : Word) : List Byte :=
  [x.extractLsb' 24 8, x.extractLsb' 16 8, x.extractLsb' 8 8, x.extractLsb' 0 8]

/-- The 64-bit big-endian encoding of the length. -/
def lengthBytes (x : BitVec 64) : List Byte :=
  [x.extractLsb' 56 8, x.extractLsb' 48 8, x.extractLsb' 40 8, x.extractLsb' 32 8,
    x.extractLsb' 24 8, x.extractLsb' 16 8, x.extractLsb' 8 8, x.extractLsb' 0 8]

/-- What is put behind a message of `n` bytes: the bit `1`, the least number of `0`s that leaves eight
bytes to the end of a block, and the length in bits, which fits its 64 bits below `2 ^ 61` bytes. -/
def padding (n : Nat) : List Byte :=
  0x80 :: List.replicate ((119 - n % 64) % 64) 0 ++ lengthBytes (.ofNat 64 (8 * n))

def pad (m : List Byte) : List Byte := m ++ padding m.length

def blockOf (l : List Byte) : Block := .ofFn fun i => l.getD i 0

/-- The complete blocks at the front of a byte stream. -/
def messageBlocks (l : List Byte) : List Block := (blocks 64 l).map blockOf

def H0 : ChainingValue := ⟨0x67452301, 0xefcdab89, 0x98badcfe, 0x10325476, 0xc3d2e1f0⟩

def digest (c : ChainingValue) : List Byte := c.toList.flatMap wordBytes

def sha1 (m : List Byte) : List Byte :=
  digest ((messageBlocks (pad m)).foldl (fun c B => compress (expand B).seq c) H0)

theorem length_padding_mod (n : Nat) : (n + (padding n).length) % 64 = 0 := by
  simp only [padding, lengthBytes, List.length_append, List.length_cons, List.length_replicate,
    List.length_nil]
  omega

theorem sha1Store8Beu32_eq (x : Word) : sha1Store8Beu32 x = wordBytes x := by
  simp [sha1Store8Beu32, wordBytes, BitVec.setWidth_ushiftRight_eq_extractLsb]

theorem sha1Store8Beu64_eq (x : BitVec 64) : sha1Store8Beu64 x = lengthBytes x := by
  simp [sha1Store8Beu64, lengthBytes, BitVec.setWidth_ushiftRight_eq_extractLsb]

theorem loadWord_eq (m : Block) {i : Nat} (h : i < 16) : loadWord m i = .ok (message m i) := by
  rw [loadWord, sha1Load8Beu32_eq m (by omega), message, dif_pos h]

/-- The block whose words are the first sixteen of `W`. -/
def blockOfWords (W : Nat → Word) : Block :=
  .ofFn fun j => (W (j / 4)).extractLsb' (24 - 8 * (j % 4)) 8

theorem extract_append (x : Word) :
    x.extractLsb' 24 8 ++ x.extractLsb' 16 8 ++ x.extractLsb' 8 8 ++ x.extractLsb' 0 8 = x := by
  refine BitVec.eq_of_getLsbD_eq fun i hi => ?_
  rw [getLsbD_bytes (fun p => x.extractLsb' (8 * p) 8) hi, BitVec.getLsbD_extractLsb']
  rw [Nat.div_add_mod, decide_eq_true (Nat.mod_lt i (by decide)), Bool.true_and]

theorem message_blockOfWords (W : Nat → Word) {i : Nat} (h : i < 16) :
    message (blockOfWords W) i = W i := by
  simp only [message, h, ↓reduceDIte, blockOfWords, Vector.getElem_ofFn]
  rw [show (4 * i + 1) / 4 = i by omega, show (4 * i + 2) / 4 = i by omega,
    show (4 * i + 3) / 4 = i by omega, show 4 * i / 4 = i by omega, show 4 * i % 4 = 0 by omega,
    show (4 * i + 1) % 4 = 1 by omega, show (4 * i + 2) % 4 = 2 by omega,
    show (4 * i + 3) % 4 = 3 by omega]
  exact extract_append (W i)

end Sha1dc.Fips
