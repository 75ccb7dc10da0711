import Sha1dc.Ubc

/-!
# Twin blocks

What the detection is for, apart from how the code goes about it. The twin of a block for a disturbance
vector has the words of the block xored with the vector's mask, and starts from the one chaining value
that brings it to the block's own state at the test state. The vector is confirmed if both end in the
same chaining value. Being the twin is symmetric (`twinIn_twinIn`, `Confirms.twin`), and so is the
filter (`possible_twinOf`).
-/

namespace Sha1dc
open Fips

/-! ### The words of the twin -/

def twinOf (k : Dv) (W : ExpandedBlock) : ExpandedBlock :=
  .ofFn fun j => W[j] ^^^ (messageMask k)[j]

section
variable {k : Dv} {W : ExpandedBlock} {c c' : ChainingValue}

theorem seq_twinOf (k : Dv) (W : ExpandedBlock) {t : Nat} (h : t < 80) :
    (twinOf k W).seq t = W.seq t ^^^ (messageMask k).seq t := by
  rw [twinOf, ExpandedBlock.seq_ofFn _ h, W.seq_eq h, (messageMask k).seq_eq h]
  rfl

@[simp] theorem twinOf_twinOf (k : Dv) (W : ExpandedBlock) : twinOf k (twinOf k W) = W := by
  refine ExpandedBlock.ext_seq fun t ht => ?_
  rw [seq_twinOf _ _ ht, seq_twinOf _ _ ht, BitVec.xor_assoc, BitVec.xor_self, BitVec.xor_zero]

theorem isExpansion_xor_messageMask (k : Dv) {W : Nat → Word} (hW : IsExpansion W) :
    IsExpansion fun t => W t ^^^ (messageMask k).seq t :=
  hW.xor (isExpansion_messageMask k)

theorem isExpansion_twinOf (k : Dv) (hW : IsExpansion W.seq) : IsExpansion (twinOf k W).seq := by
  intro t ht ht'
  have hx := isExpansion_xor_messageMask k hW t ht ht'
  dsimp only at hx
  rw [seq_twinOf k W ht', seq_twinOf k W (by omega), seq_twinOf k W (by omega),
    seq_twinOf k W (by omega), seq_twinOf k W (by omega), hx]

/-- An expansion is the expansion of the block that its first sixteen words make. -/
theorem expand_blockOfWords (hW : IsExpansion W.seq) : expand (blockOfWords W.seq) = W := by
  refine ExpandedBlock.ext_seq fun t ht => ?_
  rw [seq_expand _ ht]
  exact (hW.eq_schedule (fun i hi => (message_blockOfWords W.seq hi).symm) ht).symm

def twinBlock (k : Dv) (B : Block) : Block := blockOfWords (twinOf k (expand B)).seq

theorem expand_twinBlock (k : Dv) (B : Block) : expand (twinBlock k B) = twinOf k (expand B) :=
  expand_blockOfWords (isExpansion_twinOf k (isExpansion_expand B))

/-- The twin is another block: every mask flips a bit of the first two words. -/
theorem twinBlock_ne (k : Dv) (B : Block) : twinBlock k B ≠ B := by
  intro heq
  have hflip : ∀ t < 80, (expand B).seq t ^^^ (messageMask k).seq t = (expand B).seq t := fun t ht => by
    rw [← seq_twinOf k _ ht, ← expand_twinBlock, heq]
  have hzero : ∀ t < 80, (messageMask k).seq t = 0 := fun t ht => by
    have := congrArg ((expand B).seq t ^^^ ·) (hflip t ht)
    simpa [← BitVec.xor_assoc] using this
  rcases messageMask_ne_zero k with h | h
  · exact h (hzero 0 (by decide))
  · exact h (hzero 1 (by decide))

/-- The conditions of `k` hold on both blocks of its pairs or on none. -/
theorem possible_twinOf (k : Dv) (W : ExpandedBlock) :
    Possible ubcs (twinOf k W).seq k ↔ Possible ubcs W.seq k := by
  refine forall₃_congr fun u hu hk => ?_
  have hflip := messageMask_flips u hu k hk
  have hv := valid_ubcs u hu
  simp only [Ubc.Holds, seq_twinOf k W hv.a, seq_twinOf k W hv.b, BitVec.getLsbD_xor, hflip]
  cases (messageMask k).seq u.b |>.getLsbD u.j <;> simp

/-! ### The chaining value of the twin -/

/-- The chaining value from which the twin reaches the state that the block has at the test state. -/
def twinIn (k : Dv) (W : ExpandedBlock) (c : ChainingValue) : ChainingValue :=
  startOf (twinOf k W).seq (testState k) (stateAt W.seq (testState k) c)

theorem eq_twinIn_iff : c' = twinIn k W c ↔
    stateAt (twinOf k W).seq (testState k) c' = stateAt W.seq (testState k) c :=
  (Unroll.run_eq_iff _).symm

theorem stateAt_twinIn (k : Dv) (W : ExpandedBlock) (c : ChainingValue) :
    stateAt (twinOf k W).seq (testState k) (twinIn k W c) = stateAt W.seq (testState k) c :=
  eq_twinIn_iff.mp rfl

@[simp] theorem twinIn_twinIn (k : Dv) (W : ExpandedBlock) (c : ChainingValue) :
    twinIn k (twinOf k W) (twinIn k W c) = c := by
  refine (eq_twinIn_iff.mpr ?_).symm
  rw [twinOf_twinOf, stateAt_twinIn]

/-! ### Detection -/

/-- The two end in the same chaining value, or start from the same one, which counts if collisions of
the reduced function are asked for. -/
def Confirms (reducedRoundColl : Bool) (k : Dv) (W : ExpandedBlock) (c : ChainingValue) : Prop :=
  compress (twinOf k W).seq (twinIn k W c) = compress W.seq c ∨
    reducedRoundColl = true ∧ twinIn k W c = c

instance (r : Bool) (k : Dv) (W : ExpandedBlock) (c : ChainingValue) : Decidable (Confirms r k W c) :=
  inferInstanceAs (Decidable (_ ∨ _))

theorem Confirms.twin {r : Bool} (h : Confirms r k W c) : Confirms r k (twinOf k W) (twinIn k W c) := by
  rw [Confirms, twinOf_twinOf, twinIn_twinIn]
  exact h.imp Eq.symm (And.imp_right Eq.symm)

end

/-- A pointer, by its address. -/
abbrev Pointer := Nat

/-- What a user of a context can set. -/
structure Settings where
  doSafeHash : Bool
  detectColl : Bool
  ubcCheck : Bool
  reducedRoundColl : Bool
  collision : Option Pointer
  collisionClosure : Pointer

def Hits (s : Settings) (W : ExpandedBlock) (c : ChainingValue) (k : Dv) : Prop :=
  (s.ubcCheck = true → Possible ubcs W.seq k) ∧ Confirms s.reducedRoundColl k W c

instance (s : Settings) (W : ExpandedBlock) (c : ChainingValue) (k : Dv) : Decidable (Hits s W c k) :=
  inferInstanceAs (Decidable (_ ∧ _))

def detect (s : Settings) (W : ExpandedBlock) (c : ChainingValue) : Option Dv :=
  if s.detectColl then (List.finRange nDisturbanceVectors).find? fun k => decide (Hits s W c k) else none

/-- The chaining value after a flagged block; with safe hashing the block is compressed three times. -/
def safeHash (doSafeHash : Bool) (W : ExpandedBlock) (c : ChainingValue) : ChainingValue :=
  if doSafeHash then compress W.seq (compress W.seq (compress W.seq c)) else compress W.seq c

def hashBlock (s : Settings) (W : ExpandedBlock) (c : ChainingValue) : ChainingValue :=
  if (detect s W c).isSome then safeHash s.doSafeHash W c else compress W.seq c

section
variable {s s' : Settings} {W : ExpandedBlock} {c : ChainingValue} {k : Dv}

theorem detect_isSome_iff : (detect s W c).isSome = true ↔ s.detectColl = true ∧ ∃ k, Hits s W c k := by
  rw [detect]
  split
  · next h => simp [h]
  · next h => simp [h]

theorem detect_eq_some_iff : detect s W c = some k ↔
    s.detectColl = true ∧ Hits s W c k ∧ ∀ j < k, ¬ Hits s W c j := by
  rw [detect]
  split
  · next h =>
    rw [List.find?_eq_some_iff_getElem]
    simp only [h, true_and, decide_eq_true_eq, List.getElem_finRange, List.length_finRange]
    refine and_congr_right fun _ => ⟨?_, fun hleast => ?_⟩
    · rintro ⟨i, hi, rfl, hleast⟩ j hj
      simpa using hleast j hj
    · exact ⟨k, k.isLt, rfl, fun j hj => by simpa using hleast ⟨j, Nat.lt_trans hj k.isLt⟩ hj⟩
  · next h => simp [h]

/-- Without detection or without safe hashing every block is compressed once. -/
theorem hashBlock_eq_compress (h : s.detectColl = false ∨ s.doSafeHash = false) :
    hashBlock s W c = compress W.seq c := by
  rw [hashBlock]
  split
  · next hsome =>
    have hdetect : s.detectColl = true := (detect_isSome_iff.mp hsome).1
    have hsafe : s.doSafeHash = false := h.resolve_left (by rw [hdetect]; decide)
    rw [safeHash, hsafe, if_neg Bool.false_ne_true]
  · rfl

theorem Hits.twin (h : Hits s W c k) : Hits s (twinOf k W) (twinIn k W c) k :=
  ⟨fun hubc => (possible_twinOf k W).mpr (h.1 hubc), h.2.twin⟩

/-- `s'` is at least as sensitive as `s`. -/
structure Settings.Le (s s' : Settings) : Prop where
  detectColl : s.detectColl = true → s'.detectColl = true
  ubcCheck : s'.ubcCheck = true → s.ubcCheck = true
  reducedRoundColl : s.reducedRoundColl = true → s'.reducedRoundColl = true

theorem Hits.mono (hle : s.Le s') (h : Hits s W c k) : Hits s' W c k :=
  ⟨fun hubc => h.1 (hle.ubcCheck hubc), h.2.imp id (And.imp_left hle.reducedRoundColl)⟩

/-- From the same chaining value, more sensitive settings flag every block that less sensitive ones do. -/
theorem detect_mono (hle : s.Le s') (h : (detect s W c).isSome = true) :
    (detect s' W c).isSome = true := by
  obtain ⟨hdetect, k, hk⟩ := detect_isSome_iff.mp h
  exact detect_isSome_iff.mpr ⟨hle.detectColl hdetect, k, hk.mono hle⟩

end

end Sha1dc
