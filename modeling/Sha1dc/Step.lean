import Sha1dc.Fips

/-!
# The compressor of `sha1.c`

`sha1_step` and `sha1_step_bw` below step 80 are the step of the standard and its inverse, with the
boolean functions rewritten. So `sha1_add_block` is the compression function, and
`sha1_add_block_predict`, which recompresses from a state in the middle, finds the only chaining
value that leads there and the output of the whole compression from it.
-/

namespace Sha1dc
open Checked Fips

def sha1FIF (b c d : Word) : Word := b &&& (c ^^^ d) ^^^ d

def sha1FXOR (b c d : Word) : Word := b ^^^ c ^^^ d

def sha1FMAJ (b c d : Word) : Word := b &&& c ||| d &&& (b ^^^ c)

def sha1Fk (b c d : Word) (t : Nat) : Chk Word :=
  match t / 20 with
  | 0 => pure (sha1FIF b c d + 0x5A827999)
  | 1 => pure (sha1FXOR b c d + 0x6ED9EBA1)
  | 2 => pure (sha1FMAJ b c d + 0x8F1BBCDC)
  | 3 => pure (sha1FXOR b c d + 0xCA62C1D6)
  | _ => .error .unreachable

/-- `t` is the current step number. -/
def sha1Step (cv : ChainingValue) (m : Word) (t : Nat) : Chk ChainingValue := do
  let q := cv.E
  let q := q + sha1RotateLeft cv.A 5
  let q := q + (← sha1Fk cv.B cv.C cv.D t)
  let q := q + m
  return { A := q, B := cv.A, C := sha1RotateRight cv.B 2, D := cv.C, E := cv.D }

/-- `t` is the *target* step number. -/
def sha1StepBw (cv : ChainingValue) (m : Word) (t : Nat) : Chk ChainingValue := do
  let q := cv.A
  let A := cv.B
  let B := sha1RotateLeft cv.C 2
  let C := cv.D
  let D := cv.E
  let q := q - m
  let q := q - (← sha1Fk B C D t)
  let q := q - sha1RotateLeft A 5
  return { A, B, C, D, E := q }

def sha1AddBlock (cv : ChainingValue) (W : ExpandedBlock) : Chk ChainingValue := do
  let state ← forUp (fun i state => do sha1Step state (← rd W i) i) 0 80 cv
  return cv + state

/-- The two results `cv_in` and `cv_out`. -/
def sha1AddBlockPredict (t : Nat) (W : ExpandedBlock) (tState : ChainingValue) :
    Chk (ChainingValue × ChainingValue) := do
  let cvIn ← forDown (fun i cvIn => do sha1StepBw cvIn (← rd W i) i) t tState
  let cvOut ← forUp (fun i cvOut => do sha1Step cvOut (← rd W i) i) t (80 - t) tState
  return (cvIn, cvOut + cvIn)

/-- `sha1_expand_one(W + i)` -/
def sha1ExpandOne (W : ExpandedBlock) (i : Nat) : Chk Word := do
  let w3 ← rd W (← sub i 3)
  let w8 ← rd W (← sub i 8)
  let w14 ← rd W (← sub i 14)
  let w16 ← rd W (← sub i 16)
  return sha1RotateLeft (w3 ^^^ w8 ^^^ w14 ^^^ w16) 1

/-- `i < 16 ? sha1_load8_maybe_unaligned_beu32(m + i) : sha1_expand_one(W + i)` -/
def nextWord (m : Block) (W : ExpandedBlock) (i : Nat) : Chk Word :=
  if i < 16 then loadWord m i else sha1ExpandOne W i

/-- The reference: `W` starts with whatever the local array held. -/
def sha1AddBlockExpanding (cv : ChainingValue) (m : Block) (W : ExpandedBlock) : Chk ChainingValue := do
  let (_, state) ← forUp (fun i (W, state) => do
    let w ← nextWord m W i
    let W ← wr W i w
    return (W, ← sha1Step state w i)) 0 80 (W, cv)
  return cv + state

/-! ### One step -/

theorem sha1FIF_eq (b c d : Word) : sha1FIF b c d = Ch b c d := by
  refine BitVec.eq_of_getLsbD_eq fun i hi => ?_
  simp only [sha1FIF, Ch, BitVec.getLsbD_xor, BitVec.getLsbD_and, BitVec.getLsbD_not, hi, decide_true,
    Bool.true_and]
  cases b.getLsbD i <;> cases c.getLsbD i <;> cases d.getLsbD i <;> rfl

theorem sha1FMAJ_eq (b c d : Word) : sha1FMAJ b c d = Maj b c d := by
  refine BitVec.eq_of_getLsbD_eq fun i _ => ?_
  simp only [sha1FMAJ, Maj, BitVec.getLsbD_xor, BitVec.getLsbD_and, BitVec.getLsbD_or]
  cases b.getLsbD i <;> cases c.getLsbD i <;> cases d.getLsbD i <;> rfl

/-- The round functions and constants are the standard's, each for its twenty steps. -/
theorem sha1Fk_eq (b c d : Word) {t : Nat} (h : t < 80) : sha1Fk b c d t = .ok (f t b c d + K t) := by
  rcases (by omega : t < 20 ∨ 20 ≤ t ∧ t < 40 ∨ 40 ≤ t ∧ t < 60 ∨ 60 ≤ t) with h₁ | h₁ | h₁ | h₁
  · rw [sha1Fk, show t / 20 = 0 by omega]
    simp [f, K, h₁, sha1FIF_eq, pure, Except.pure]
  · rw [sha1Fk, show t / 20 = 1 by omega]
    simp [f, K, h₁, show ¬ t < 20 by omega, sha1FXOR, Parity, pure, Except.pure]
  · rw [sha1Fk, show t / 20 = 2 by omega]
    simp [f, K, h₁, show ¬ t < 20 by omega, show ¬ t < 40 by omega, sha1FMAJ_eq, pure, Except.pure]
  · rw [sha1Fk, show t / 20 = 3 by omega]
    simp [f, K, show ¬ t < 20 by omega, show ¬ t < 40 by omega, show ¬ t < 60 by omega, sha1FXOR,
      Parity, pure, Except.pure]

theorem sha1Step_eq (cv : ChainingValue) (m : Word) {t : Nat} (h : t < 80) :
    sha1Step cv m t = .ok (step t m cv) := by
  simp only [sha1Step, sha1Fk_eq _ _ _ h, ok_bind, sha1RotateLeft_five, sha1RotateRight_two]
  refine congrArg Except.ok ?_
  ext1 <;> simp only [step]
  ac_rfl

theorem sha1StepBw_eq (cv : ChainingValue) (m : Word) {t : Nat} (h : t < 80) :
    sha1StepBw cv m t = .ok (stepBack t m cv) := by
  simp only [sha1StepBw, sha1Fk_eq _ _ _ h, ok_bind, sha1RotateLeft_five, sha1RotateLeft_two]
  refine congrArg Except.ok ?_
  ext1 <;> simp only [stepBack, BitVec.sub_eq_add_neg, BitVec.neg_add]
  ac_rfl

/-! ### Runs of steps -/

theorem forUp_sha1Step (W : ExpandedBlock) {lo n : Nat} (h : lo + n ≤ 80) (s : ChainingValue) :
    forUp (fun i state => do sha1Step state (← rd W i) i) lo n s =
      .ok (Unroll.runFrom (steps W.seq) lo n s) := by
  induction n generalizing lo s with
  | zero => rfl
  | succ n ih =>
    rw [forUp, W.rd_eq_seq (by omega), ok_bind, sha1Step_eq _ _ (by omega), ok_bind]
    exact ih (by omega) _

theorem forDown_sha1StepBw (W : ExpandedBlock) {t : Nat} (h : t ≤ 80) (s : ChainingValue) :
    forDown (fun i cvIn => do sha1StepBw cvIn (← rd W i) i) t s =
      .ok (Unroll.unrun (steps W.seq) t s) := by
  induction t generalizing s with
  | zero => rfl
  | succ t ih =>
    rw [forDown, W.rd_eq_seq (by omega), ok_bind, sha1StepBw_eq _ _ (by omega), ok_bind]
    exact ih (by omega) _

theorem sha1AddBlock_eq (cv : ChainingValue) (W : ExpandedBlock) :
    sha1AddBlock cv W = .ok (compress W.seq cv) := by
  rw [sha1AddBlock, forUp_sha1Step W (by decide), ok_bind]
  rfl

/-- The chaining value from which `t` steps with `W` lead to `s`. -/
abbrev startOf (W : Nat → Word) (t : Nat) (s : ChainingValue) : ChainingValue :=
  Unroll.unrun (steps W) t s

/-- A recompression from the middle is the compression from the start it finds. -/
theorem sha1AddBlockPredict_eq {t : Nat} (h : t ≤ 80) (W : ExpandedBlock) (s : ChainingValue) :
    sha1AddBlockPredict t W s = .ok (startOf W.seq t s, compress W.seq (startOf W.seq t s)) := by
  have hsplice : Unroll.runFrom (steps W.seq) t (80 - t) s =
      stateAt W.seq 80 (startOf W.seq t s) := by
    conv_lhs => rw [← Unroll.run_unrun (steps W.seq) t s]
    rw [Unroll.runFrom_run, show t + (80 - t) = 80 by omega]
  rw [sha1AddBlockPredict, forDown_sha1StepBw W h, ok_bind, forUp_sha1Step W (by omega), ok_bind,
    hsplice, compress, ChainingValue.add_comm]
  rfl

/-- The state `sha1_add_block` passes through after `t` steps. -/
def sha1Steps (W : ExpandedBlock) (t : Nat) (cv : ChainingValue) : Chk ChainingValue :=
  forUp (fun i state => do sha1Step state (← rd W i) i) 0 t cv

theorem sha1Steps_eq (W : ExpandedBlock) {t : Nat} (h : t ≤ 80) (cv : ChainingValue) :
    sha1Steps W t cv = .ok (stateAt W.seq t cv) :=
  forUp_sha1Step W (by omega) cv

theorem sha1Steps_eq_ok_iff (W : ExpandedBlock) {t : Nat} (h : t ≤ 80) {cv s : ChainingValue} :
    sha1Steps W t cv = .ok s ↔ cv = startOf W.seq t s := by
  rw [sha1Steps_eq W h, Except.ok.injEq]
  exact Unroll.run_eq_iff (steps W.seq)

/-- The fifth block of `test/shattered-1.pdf`. -/
def shatteredBlock : Block := #v[
  0x3c, 0x57, 0x0f, 0xeb, 0x14, 0x13, 0x98, 0xbb, 0x55, 0x2e, 0xf5, 0xa0, 0xa8, 0x2b, 0xe3, 0x31,
  0xfe, 0xa4, 0x80, 0x37, 0xb8, 0xb5, 0xd7, 0x1f, 0x0e, 0x33, 0x2e, 0xdf, 0x93, 0xac, 0x35, 0x00,
  0xeb, 0x4d, 0xdc, 0x0d, 0xec, 0xc1, 0xa8, 0x64, 0x79, 0x0c, 0x78, 0x2c, 0x76, 0x21, 0x56, 0x60,
  0xdd, 0x30, 0x97, 0x91, 0xd0, 0x6b, 0xd0, 0xaf, 0x3f, 0x98, 0xcd, 0xa4, 0xbc, 0x46, 0x29, 0xb1]

/-- The chaining value in front of it. -/
def shatteredIn : ChainingValue := ⟨0x8d64c821, 0xffed52e2, 0xebc85915, 0x5ec7eb36, 0x738a5a7b⟩

theorem sha1AddBlockPredict_spec {t : Nat} (h : t ≤ 80) (W : ExpandedBlock) (s : ChainingValue) :
    (∃ cvIn cvOut, sha1AddBlockPredict t W s = .ok (cvIn, cvOut) ∧
      (∀ cv, sha1Steps W t cv = .ok s ↔ cv = cvIn) ∧ sha1AddBlock cvIn W = .ok cvOut) ∧
    ∀ cv, sha1Steps W t cv = .ok s → ∃ cvOut, sha1AddBlock cv W = .ok cvOut ∧
      cvOut = compress W.seq cv ∧ sha1AddBlockPredict t W s = .ok (cv, cvOut) := by
  have hpredict := sha1AddBlockPredict_eq h W s
  refine ⟨⟨_, _, hpredict, fun cv => sha1Steps_eq_ok_iff W h, sha1AddBlock_eq _ W⟩, ?_⟩
  intro cv hs
  obtain rfl := (sha1Steps_eq_ok_iff W h).mp hs
  exact ⟨_, sha1AddBlock_eq _ W, rfl, hpredict⟩

/-- From the state after 65 steps back to the chaining value that the steps started with. -/
theorem sha1AddBlockPredict_spec_shattered :
    let W := expand shatteredBlock
    let s := stateAt W.seq 65 shatteredIn
    (∃ cvIn cvOut, sha1AddBlockPredict 65 W s = .ok (cvIn, cvOut) ∧
      (∀ cv, sha1Steps W 65 cv = .ok s ↔ cv = cvIn) ∧ sha1AddBlock cvIn W = .ok cvOut) ∧
    ∃ cvOut, sha1AddBlock shatteredIn W = .ok cvOut ∧ cvOut = compress W.seq shatteredIn ∧
      sha1AddBlockPredict 65 W s = .ok (shatteredIn, cvOut) := by
  intro W s
  obtain ⟨hpredict, hcv⟩ := sha1AddBlockPredict_spec (show 65 ≤ 80 by decide) W s
  exact ⟨hpredict, hcv shatteredIn (sha1Steps_eq W (by decide) shatteredIn)⟩

/-! ### Expansion -/

def Expanded (m : Block) (i : Nat) (W : ExpandedBlock) : Prop := ∀ t < i, W.seq t = (expand m).seq t

theorem Expanded.eq {m : Block} {W : ExpandedBlock} (h : Expanded m 80 W) : W = expand m :=
  ExpandedBlock.ext_seq h

theorem Expanded.set {m : Block} {i : Nat} {W : ExpandedBlock} (h : Expanded m i W) (hi : i < 80) :
    Expanded m (i + 1) (W.set i ((expand m).seq i)) := by
  intro t ht
  rw [W.seq_set _ hi (by omega)]
  split
  · subst t; rfl
  · exact h t (by omega)

theorem Expanded.nextWord {m : Block} {i : Nat} {W : ExpandedBlock} (h : Expanded m i W) (hi : i < 80) :
    nextWord m W i = .ok ((expand m).seq i) := by
  by_cases h16 : i < 16
  · rw [Sha1dc.nextWord, if_pos h16, loadWord_eq m h16, seq_expand m hi, schedule_lt _ h16]
  · rw [Sha1dc.nextWord, if_neg h16, sha1ExpandOne, sub_eq (show 3 ≤ i by omega), ok_bind,
      W.rd_eq_seq (by omega), ok_bind, sub_eq (show 8 ≤ i by omega), ok_bind, W.rd_eq_seq (by omega), ok_bind,
      sub_eq (show 14 ≤ i by omega), ok_bind, W.rd_eq_seq (by omega), ok_bind,
      sub_eq (show 16 ≤ i by omega), ok_bind, W.rd_eq_seq (by omega), ok_bind,
      sha1RotateLeft_one, h _ (by omega), h _ (by omega), h _ (by omega), h _ (by omega),
      isExpansion_expand m i (by omega) hi]
    rfl

theorem sha1AddBlockExpanding_eq (cv : ChainingValue) (m : Block) (W : ExpandedBlock) :
    sha1AddBlockExpanding cv m W = .ok (compress (expand m).seq cv) := by
  rw [← wp_eq_iff, sha1AddBlockExpanding]
  simp only [wp_bind]
  refine wp_mono (wp_forUp (fun i p => Expanded m i p.1 ∧ p.2 = stateAt (expand m).seq i cv) _ ?_
    ⟨fun t ht => absurd ht t.not_lt_zero, rfl⟩) ?_
  · rintro i ⟨W, state⟩ - hi ⟨hW, rfl⟩
    rw [Nat.zero_add] at hi
    dsimp only at hW ⊢
    rw [hW.nextWord hi, ok_bind, wr_eq W _ hi, ok_bind, sha1Step_eq _ _ hi, ok_bind, wp_pure]
    exact ⟨hW.set hi, (stateAt_succ _ i cv).symm⟩
  · rintro ⟨W, state⟩ ⟨-, rfl⟩
    simp [compress]

end Sha1dc
