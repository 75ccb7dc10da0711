import Sha1dc.Saving
import Sha1dc.X86

/-!
# The SHA-extension path

`sha1_add_block_expanding_saving_x86v2sha` takes four steps at a time on reversed lanes, with `E` kept
one vector back (rotated by 2) and the last sixteen words in a window of four vectors. The states `i`,
`i + 1` and `i + 2` come from there and from stepping a copy forward; the state `i - 1` is stepped back
with `Wn1_p2[0]`, which nothing ever writes.

One pass through the body of `steps` takes `ShaInv` at `i` to `ShaInv` at `i + 4`; after the pass at
80 the block is compressed, its expansion is stored, and every needed state `t` holds `savedState t`:
the state after `t` steps, or for the states `3 mod 4` what stepping back leaves there. The table that
ships asks for none of those (`savingX86v2sha_eq_portable`), a table that does is not served
(`savesStates_iff`).
-/

namespace Sha1dc
open Checked Fips

variable {n : Nat}

/-! ### The SHA instructions -/

/-- `sha1msg1`: `W0`, …, `W3` from the top lane of the first operand down, `W4` and `W5` from the top of
the second. -/
def sha1msg1 (x y : V4u32) : V4u32 :=
  let W0 := x[3]; let W1 := x[2]; let W2 := x[1]; let W3 := x[0]; let W4 := y[3]; let W5 := y[2]
  #v[W5 ^^^ W3, W4 ^^^ W2, W3 ^^^ W1, W2 ^^^ W0]

def sha1msg2 (x y : V4u32) : V4u32 :=
  let W13 := y[2]; let W14 := y[1]; let W15 := y[0]
  let W16 := (x[3] ^^^ W13).rotateLeft 1
  let W17 := (x[2] ^^^ W14).rotateLeft 1
  let W18 := (x[1] ^^^ W15).rotateLeft 1
  let W19 := (x[0] ^^^ W16).rotateLeft 1
  #v[W19, W18, W17, W16]

def sha1nexte (oldAbcd Wrp0p3 : V4u32) : V4u32 :=
  #v[Wrp0p3[0], Wrp0p3[1], Wrp0p3[2], Wrp0p3[3] + oldAbcd[3].rotateLeft 30]

def rnds4F (fk : Nat) (b c d : Word) : Word :=
  match fk with
  | 0 => (b &&& c) ^^^ (~~~b &&& d)
  | 2 => (b &&& c) ^^^ (b &&& d) ^^^ (c &&& d)
  | _ => b ^^^ c ^^^ d

def rnds4K (fk : Nat) : Word :=
  match fk with
  | 0 => 0x5A827999
  | 1 => 0x6ED9EBA1
  | 2 => 0x8F1BBCDC
  | _ => 0xCA62C1D6

def rnds4Round (fk : Nat) (s : ChainingValue) (w : Word) : ChainingValue :=
  { A := rnds4F fk s.B s.C s.D + s.A.rotateLeft 5 + w + s.E + rnds4K fk
    B := s.A, C := s.B.rotateLeft 30, D := s.C, E := s.D }

/-- `sha1rnds4`: the top lane of the second operand brings its `E` with it. -/
def sha1rnds4 (abcd Wrp0ep3 : V4u32) (fk : Nat) : V4u32 :=
  let fk := fk % 4
  let s := rnds4Round fk ⟨abcd[3], abcd[2], abcd[1], abcd[0], 0⟩ Wrp0ep3[3]
  let s := rnds4Round fk s Wrp0ep3[2]
  let s := rnds4Round fk s Wrp0ep3[1]
  let s := rnds4Round fk s Wrp0ep3[0]
  #v[s.D, s.C, s.B, s.A]

/-! ### The path -/

/-- What the uninitialised variables hold; lanes 0 to 2 of `old_abcd` and all of `Wn1_p2` on entry,
and `Wrp0_p3` in the iterations that do not assign it. -/
structure ShaUninit where
  oldAbcd : V4u32
  Wn1p2 : V4u32
  Wrp0p3 : V4u32
  curForw : ChainingValue

/-- `if(signed char slot = sha1dc_need_state[t]; slot != -1) memcpy(states[slot], cv, sizeof cv);` -/
def saveAt (needState : Vector Int 81) (states : Vector ChainingValue n) (t : Int)
    (cv : ChainingValue) : Chk (Vector ChainingValue n) := do
  let slot ← rdI needState t
  if slot ≠ -1 then wrI states slot cv else return states

/-- The variables of the loop `steps`; `W` and `states` belong to the caller. -/
structure ShaLoop (n : Nat) where
  i : Nat
  Wrn16n1 : Vector V4u32 4
  curAbcd : V4u32
  oldAbcd : V4u32
  curForw : ChainingValue
  Wn1p2 : V4u32
  W : ExpandedBlock
  states : Vector ChainingValue n

def bev4beu8Native : V16u8 := #v[15, 14, 13, 12, 11, 10, 9, 8, 7, 6, 5, 4, 3, 2, 1, 0]

def v4u32Rev : Byte := 0b00011011

/-- `*(v4u32*)&W[i] = v` -/
def storeV4u32 (W : ExpandedBlock) (i : Nat) (v : V4u32) : Chk ExpandedBlock := do
  let W ← wr W i v[0]
  let W ← wr W (i + 1) v[1]
  let W ← wr W (i + 2) v[2]
  wr W (i + 3) v[3]

/-- The assignments to `Wrn16_n1` and `Wrp0_p3` of `if(i < 16) … else …`. -/
def shiftWindow (i : Nat) (Wrn16n1 : Vector V4u32 4) : Chk (Vector V4u32 4 × V4u32) :=
  if i < 16 then do return (Wrn16n1, ← rd Wrn16n1 (i / 4))
  else do
    let Wrp0p3 := Wrn16n1[0]
    let Wrn16n1 := Wrn16n1.set 0 Wrn16n1[1]
    let Wrp0p3 := sha1msg1 Wrp0p3 Wrn16n1[0]
    let Wrn16n1 := Wrn16n1.set 1 Wrn16n1[2]
    let Wrp0p3 := xorV4u32 Wrp0p3 Wrn16n1[1]
    let Wrn16n1 := Wrn16n1.set 2 Wrn16n1[3]
    let Wrp0p3 := sha1msg2 Wrp0p3 Wrn16n1[2]
    let Wrn16n1 := Wrn16n1.set 3 Wrp0p3
    return (Wrn16n1, Wrp0p3)

/-- The statement `if(i < 80) { … }`, with the value it leaves in `Wrp0_p3`. -/
def shaWords (s : ShaLoop n) (Wrp0p3 : V4u32) : Chk (ShaLoop n × V4u32) :=
  if s.i < 80 then do
    let (Wrn16n1, Wrp0p3) ← shiftWindow s.i s.Wrn16n1
    let W ← storeV4u32 s.W s.i (indexV4u32 Wrp0p3 v4u32Rev)
    let Wn1p2 := s.Wn1p2.set 1 Wrp0p3[3 - 0]
    let Wn1p2 := Wn1p2.set 2 Wrp0p3[3 - 1]
    let Wn1p2 := Wn1p2.set 3 Wrp0p3[3 - 2]
    return ({ s with Wrn16n1, W, Wn1p2 }, sha1nexte s.oldAbcd Wrp0p3)
  else return (s, Wrp0p3)

structure BackLoop (n : Nat) where
  j : Int
  curBack : ChainingValue
  states : Vector ChainingValue n

/-- The loop that saves `cur_back`; `j` goes down from 0. -/
def backBody (needState : Vector Int 81) (Wn1p2 : V4u32) (i : Int) (s : BackLoop n) :
    Chk (Ctl (BackLoop n)) := do
  let states ← saveAt needState s.states (i + s.j) s.curBack
  let j := s.j - 1
  if j < -1 ∨ i + j < 0 then return .done { s with j, states }
  else
    let curBack ← sha1StepBw s.curBack (← rdI Wn1p2 (1 + j)) (i + j).toNat
    return .next { j, curBack, states }

structure ForwLoop (n : Nat) where
  j : Int
  curForw : ChainingValue
  states : Vector ChainingValue n
  breakSteps : Bool

/-- The loop that steps and saves `cur_forw`; `breakSteps` is set by `break steps`. -/
def forwBody (needState : Vector Int 81) (Wn1p2 : V4u32) (i : Int) (s : ForwLoop n) :
    Chk (Ctl (ForwLoop n)) :=
  if i + s.j ≥ 80 then return .done { s with breakSteps := true }
  else do
    let curForw ← sha1Step s.curForw (← rdI Wn1p2 (1 + s.j)) (i + s.j).toNat
    let j := s.j + 1
    if j ≥ 3 then return .done { s with j, curForw }
    else
      let states ← saveAt needState s.states (i + j) curForw
      return .next { s with j, curForw, states }

def shaBody (needState : Vector Int 81) (u : ShaUninit) (s : ShaLoop n) : Chk (Ctl (ShaLoop n)) := do
  let curForw : ChainingValue :=
    { A := s.curAbcd[3], B := s.curAbcd[2], C := s.curAbcd[1], D := s.curAbcd[0]
      E := sha1RotateRight s.oldAbcd[3] 2 }
  let curBack := curForw
  let (s, Wrp0p3) ← shaWords s u.Wrp0p3
  let oldAbcd := s.curAbcd
  let curAbcd := sha1rnds4 s.curAbcd Wrp0p3 (s.i / 20)
  let back ← loop (backBody needState s.Wn1p2 s.i) 2 ⟨0, curBack, s.states⟩
  let forw ← loop (forwBody needState s.Wn1p2 s.i) 3 ⟨0, curForw, back.states, false⟩
  let s := { s with oldAbcd, curAbcd, curForw := forw.curForw, states := forw.states }
  if forw.breakSteps then return .done s else return .next { s with i := s.i + 4 }

/-- The new chaining value, the expanded block and the saved states. -/
def sha1AddBlockExpandingSavingX86v2sha (needState : Vector Int 81) (u : ShaUninit)
    (cv : ChainingValue) (m : Block) (W : ExpandedBlock) (states : Vector ChainingValue n) :
    Chk (ChainingValue × ExpandedBlock × Vector ChainingValue n) := do
  let v0 := castV4u32 (indexV16u8 (← loaduV16u8 m 0) bev4beu8Native)
  let v1 := castV4u32 (indexV16u8 (← loaduV16u8 m 16) bev4beu8Native)
  let v2 := castV4u32 (indexV16u8 (← loaduV16u8 m 32) bev4beu8Native)
  let v3 := castV4u32 (indexV16u8 (← loaduV16u8 m 48) bev4beu8Native)
  let curAbcd : V4u32 := #v[cv.D, cv.C, cv.B, cv.A]
  let oldAbcd := u.oldAbcd.set 3 (sha1RotateLeft cv.E 2)
  let s ← loop (shaBody needState u) 21
    ⟨0, #v[v0, v1, v2, v3], curAbcd, oldAbcd, u.curForw, u.Wn1p2, W, states⟩
  return (cv + s.curForw, s.W, s.states)

/-! ### Lanes -/

def abcdLanes (s : ChainingValue) : V4u32 := #v[s.D, s.C, s.B, s.A]

/-- Four words in the reversed order of the SHA instructions. -/
def revWords (W : Nat → Word) (i : Nat) : V4u32 := #v[W (i + 3), W (i + 2), W (i + 1), W i]

theorem vector4_ext {x y : V4u32} (h0 : x[0] = y[0]) (h1 : x[1] = y[1]) (h2 : x[2] = y[2])
    (h3 : x[3] = y[3]) : x = y := by
  refine Vector.ext fun l hl => ?_
  match l, hl with
  | 0, _ => exact h0
  | 1, _ => exact h1
  | 2, _ => exact h2
  | 3, _ => exact h3

theorem message_eq_seq (m : Block) {i : Nat} (h : i < 16) : message m i = (expand m).seq i := by
  rw [seq_expand m (by omega), schedule_lt _ h]

theorem load_revWords (m : Block) {i : Nat} (h : i + 4 ≤ 16) :
    wp (loaduV16u8 m (4 * i)) fun v =>
      castV4u32 (indexV16u8 v bev4beu8Native) = revWords (expand m).seq i := by
  -- the shuffle reverses all sixteen bytes
  have hrev : ∀ x : V16u8, castV4u32 (indexV16u8 x bev4beu8Native) =
      #v[x[12] ++ x[13] ++ x[14] ++ x[15], x[8] ++ x[9] ++ x[10] ++ x[11],
        x[4] ++ x[5] ++ x[6] ++ x[7], x[0] ++ x[1] ++ x[2] ++ x[3]] := by
    intro x
    refine vector4_ext ?_ ?_ ?_ ?_ <;> simp [castV4u32, indexV16u8, bev4beu8Native]
  rw [loaduV16u8, dif_pos (by omega), wp_pure, hrev]
  simp only [revWords, ← message_eq_seq m (show i < 16 by omega),
    ← message_eq_seq m (show i + 1 < 16 by omega), ← message_eq_seq m (show i + 2 < 16 by omega),
    ← message_eq_seq m (show i + 3 < 16 by omega)]
  simp only [Vector.getElem_ofFn, message, show i < 16 by omega, show i + 1 < 16 by omega,
    show i + 2 < 16 by omega, show i + 3 < 16 by omega, ↓reduceDIte, Nat.mul_add, Nat.add_assoc,
    Nat.add_zero, Nat.mul_one, Nat.reduceMul, Nat.reduceAdd]

/-- One round of `sha1rnds4` is a step of the standard. -/
theorem rnds4Round_eq {t : Nat} (h : t < 80) (s : ChainingValue) (w : Word) :
    rnds4Round (t / 20 % 4) s w = step t w s := by
  have hf : rnds4F (t / 20 % 4) s.B s.C s.D = f t s.B s.C s.D ∧ rnds4K (t / 20 % 4) = K t := by
    rcases (by omega : t < 20 ∨ 20 ≤ t ∧ t < 40 ∨ 40 ≤ t ∧ t < 60 ∨ 60 ≤ t) with h₁ | h₁ | h₁ | h₁
    · simp [show t / 20 = 0 by omega, rnds4F, rnds4K, f, K, h₁, Ch]
    · simp [show t / 20 = 1 by omega, rnds4F, rnds4K, f, K, h₁, show ¬ t < 20 by omega, Parity]
    · simp [show t / 20 = 2 by omega, rnds4F, rnds4K, f, K, h₁, show ¬ t < 20 by omega,
        show ¬ t < 40 by omega, Maj]
    · simp [show t / 20 = 3 by omega, rnds4F, rnds4K, f, K, show ¬ t < 20 by omega,
        show ¬ t < 40 by omega, show ¬ t < 60 by omega, Parity]
  ext1 <;> simp only [rnds4Round, step, hf.1, hf.2]
  ac_rfl

/-- The first round takes `E` from the lane of its word. -/
theorem rnds4Round_zero (fk : Nat) (s : ChainingValue) (w : Word) :
    rnds4Round fk { s with E := 0 } (w + s.E) = rnds4Round fk s w := by
  ext1 <;> simp only [rnds4Round]
  rw [show (0 : Word) = 0#32 from rfl, BitVec.add_zero]
  ac_rfl

/-- Four steps at once, `E` being added to the first word on the way in. -/
theorem sha1rnds4_eq (W : Nat → Word) {i : Nat} (hi : i % 4 = 0) (h : i < 80) (cv : ChainingValue)
    {old : V4u32} (hold : old[3].rotateLeft 30 = (stateAt W i cv).E) :
    sha1rnds4 (abcdLanes (stateAt W i cv)) (sha1nexte old (revWords W i)) (i / 20) =
      abcdLanes (stateAt W (i + 4) cv) := by
  have h0 := rnds4Round_eq h (stateAt W i cv) (W i)
  have h1 := rnds4Round_eq (show i + 1 < 80 by omega) (stateAt W (i + 1) cv) (W (i + 1))
  have h2 := rnds4Round_eq (show i + 2 < 80 by omega) (stateAt W (i + 2) cv) (W (i + 2))
  have h3 := rnds4Round_eq (show i + 3 < 80 by omega) (stateAt W (i + 3) cv) (W (i + 3))
  rw [← stateAt_succ] at h0 h1 h2 h3
  rw [show (i + 1) / 20 = i / 20 by omega] at h1
  rw [show (i + 2) / 20 = i / 20 by omega] at h2
  rw [show (i + 3) / 20 = i / 20 by omega] at h3
  rw [← rnds4Round_zero, ← hold] at h0
  rw [← h3, ← h2, ← h1, ← h0]
  rfl

/-- `E` is the `A` of four steps before, rotated. -/
theorem stateAt_E (W : Nat → Word) (i : Nat) (cv : ChainingValue) :
    (stateAt W (i + 4) cv).E = (stateAt W i cv).A.rotateLeft 30 := by
  rw [stateAt_succ, stateAt_succ, stateAt_succ, stateAt_succ]
  rfl

/-! ### Pieces of the body -/

/-- The window before step `i`: the sixteen words before it, and the block itself up to 16. -/
def Window (W : Nat → Word) (i : Nat) (Wrn16n1 : Vector V4u32 4) : Prop :=
  ∀ q, (h : q < 4) → Wrn16n1[q] = revWords W (max 16 i - 16 + 4 * q)

/-- The message instructions compute the next four words of the recurrence. -/
theorem sha1msg2_eq {W : Nat → Word} (hW : IsExpansion W) {b : Nat} (h : b + 20 ≤ 80) :
    sha1msg2 (xorV4u32 (sha1msg1 (revWords W b) (revWords W (b + 4))) (revWords W (b + 8)))
      (revWords W (b + 12)) = revWords W (b + 16) := by
  have h0 := hW (b + 16) (by omega) (by omega)
  have h1 := hW (b + 17) (by omega) (by omega)
  have h2 := hW (b + 18) (by omega) (by omega)
  have h3 := hW (b + 19) (by omega) (by omega)
  simp only [show b + 16 - 3 = b + 13 by omega, show b + 16 - 8 = b + 8 by omega,
    show b + 16 - 14 = b + 2 by omega, show b + 16 - 16 = b by omega] at h0
  simp only [show b + 17 - 3 = b + 14 by omega, show b + 17 - 8 = b + 9 by omega,
    show b + 17 - 14 = b + 3 by omega, show b + 17 - 16 = b + 1 by omega] at h1
  simp only [show b + 18 - 3 = b + 15 by omega, show b + 18 - 8 = b + 10 by omega,
    show b + 18 - 14 = b + 4 by omega, show b + 18 - 16 = b + 2 by omega] at h2
  simp only [show b + 19 - 3 = b + 16 by omega, show b + 19 - 8 = b + 11 by omega,
    show b + 19 - 14 = b + 5 by omega, show b + 19 - 16 = b + 3 by omega, h0] at h3
  refine vector4_ext ?_ ?_ ?_ ?_ <;>
    simp [sha1msg2, sha1msg1, xorV4u32, revWords, Nat.add_assoc, h0, h1, h2, h3] <;>
    ac_rfl

theorem wp_shiftWindow {W : Nat → Word} (hW : IsExpansion W) {i : Nat} (hi : i % 4 = 0) (h : i < 80)
    {Wrn16n1 : Vector V4u32 4} (hw : Window W i Wrn16n1) :
    wp (shiftWindow i Wrn16n1) fun (Wrn16n1', v) => Window W (i + 4) Wrn16n1' ∧ v = revWords W i := by
  by_cases h16 : i < 16
  · rw [shiftWindow, if_pos h16, rd_eq _ (show i / 4 < 4 by omega), ok_bind, wp_pure]
    refine ⟨fun q hq => ?_, ?_⟩
    · rw [hw q hq]; congr 1; omega
    · rw [hw _ (by omega)]; congr 1; omega
  · obtain ⟨b, rfl⟩ : ∃ b, i = b + 16 := ⟨i - 16, by omega⟩
    have hq : ∀ q, (hq : q < 4) → Wrn16n1[q] = revWords W (b + 4 * q) := fun q hq => by
      rw [hw q hq, show max 16 (b + 16) - 16 = b by omega]
    have hv : sha1msg2 (xorV4u32 (sha1msg1 Wrn16n1[0] Wrn16n1[1]) Wrn16n1[2]) Wrn16n1[3] =
        revWords W (b + 16) := by
      rw [hq 0, hq 1, hq 2, hq 3]
      exact sha1msg2_eq hW (by omega)
    rw [shiftWindow, if_neg h16, wp_pure]
    refine ⟨fun q hq' => ?_, by simpa [Vector.getElem_set] using hv⟩
    rw [show max 16 (b + 16 + 4) - 16 + 4 * q = b + 4 * (q + 1) by omega]
    match q, hq' with
    | 0, _ | 1, _ | 2, _ => simpa [Vector.getElem_set] using hq _ (by decide)
    | 3, _ => simpa [Vector.getElem_set] using hv

theorem indexV4u32_rev (W : Nat → Word) (i : Nat) :
    indexV4u32 (revWords W i) v4u32Rev = #v[W i, W (i + 1), W (i + 2), W (i + 3)] :=
  vector4_ext rfl rfl rfl rfl

theorem wp_storeV4u32 {m : Block} {i : Nat} {W : ExpandedBlock} (h : Expanded m i W)
    (hi : i + 4 ≤ 80) :
    wp (storeV4u32 W i (indexV4u32 (revWords (expand m).seq i) v4u32Rev)) (Expanded m (i + 4)) := by
  rw [storeV4u32, indexV4u32_rev, wr_eq _ _ (show i < 80 by omega), ok_bind,
    wr_eq _ _ (show i + 1 < 80 by omega), ok_bind, wr_eq _ _ (show i + 2 < 80 by omega), ok_bind,
    wr_eq _ _ (show i + 3 < 80 by omega), wp_ok]
  exact (((h.set (by omega)).set (by omega)).set (by omega)).set (by omega)

section saves
variable {need : NeedTable n} {S : Nat → ChainingValue} {T U : Nat → Prop}
  {states : Vector ChainingValue n} {cv : ChainingValue}

theorem wp_saveAt (h : Saves need S T states) {t : Nat} (ht : t < 81) (hcv : cv = S t)
    (hT : ∀ t', U t' → t' = t ∨ T t') : wp (saveAt need.table states t cv) (Saves need S U) := by
  subst hcv
  rw [saveAt, rdI_natCast, rd_table need.table ht, ok_bind]
  by_cases hn : need.Needed t
  · rw [if_pos (show _ ≠ _ from hn), hn.needAt_eq, wrI_natCast, wr_eq _ _ hn.idx_lt, wp_ok]
    exact h.set hn hT
  · rw [if_neg (show ¬ _ ≠ _ from hn), wp_pure]
    exact h.of_not_needed hn hT

/-- The loop over `j = 0, -1` saves the state `i` and what stepping back from it gives. -/
theorem wp_backLoop (h : Saves need S T states) (Wn1p2 : V4u32) {i : Nat} (hi : i ≤ 80)
    (hcv : cv = S i) (hback : 0 < i → stepBack (i - 1) Wn1p2[0] cv = S (i - 1))
    (hT : ∀ t', U t' → t' = i ∨ t' + 1 = i ∨ T t') :
    wp (loop (backBody need.table Wn1p2 i) 2 ⟨0, cv, states⟩) fun s => Saves need S U s.states := by
  have hsave := wp_saveAt (U := fun t' => t' = i ∨ T t') h (show i < 81 by omega) hcv fun _ h => h
  rw [loop, backBody, Int.add_zero, bind_assoc, wp_bind]
  refine wp_mono hsave fun states₁ h₁ => ?_
  dsimp only
  by_cases h0 : i = 0
  · rw [if_pos (by omega), pure_bind, wp_pure]
    exact fun t' ht' hn => h₁ t' ((hT t' ht').imp id (Or.resolve_left · (by omega))) hn
  · rw [if_neg (by omega), show (1 : Int) + (0 - 1) = (0 : Nat) by omega, rdI_natCast,
      rd_eq _ (show 0 < 4 by decide), ok_bind, show (i : Int) + (0 - 1) = (i - 1 : Nat) by omega,
      Int.toNat_natCast, sha1StepBw_eq _ _ (by omega), ok_bind, pure_bind]
    dsimp only
    rw [loop, backBody, show (i : Int) + (0 - 1) = (i - 1 : Nat) by omega, bind_assoc, wp_bind]
    refine wp_mono (wp_saveAt (U := U) h₁ (by omega) (hback (by omega)) fun t' ht' => ?_)
      fun states₂ h₂ => ?_
    · rcases hT t' ht' with h | h | h
      · exact .inr (.inl h)
      · exact .inl (by omega)
      · exact .inr (.inr h)
    · dsimp only
      rw [if_pos (by omega), pure_bind, wp_pure]
      exact h₂

/-- Below 80 the loop over `j = 0, 1, 2` saves the states `i + 1` and `i + 2`. -/
theorem wp_forwLoop (h : Saves need S T states) {W : Nat → Word} {c : ChainingValue} {Wn1p2 : V4u32}
    {i : Nat} (hi : i + 2 < 80) (hcv : cv = stateAt W i c)
    (hw : ∀ k, (hk : k < 3) → Wn1p2[1 + k] = W (i + k))
    (hS : ∀ k, 0 < k → k < 3 → stateAt W (i + k) c = S (i + k))
    (hT : ∀ t', U t' → i < t' ∧ t' < i + 3 ∨ T t') :
    wp (loop (forwBody need.table Wn1p2 i) 3 ⟨0, cv, states, false⟩) fun s =>
      s.breakSteps = false ∧ Saves need S U s.states := by
  refine wp_loop (fun s : ForwLoop n => ∃ k : Nat, k < 3 ∧ s.j = k ∧ s.curForw = stateAt W (i + k) c ∧
    s.breakSteps = false ∧ Saves need S (fun t => i < t ∧ t ≤ i + k ∨ T t) s.states)
    (fun s => 2 - s.j.toNat) _ ?_ ⟨0, by decide, rfl, hcv, rfl, ?_⟩ (by simp)
  · rintro ⟨_, _, states, _⟩ ⟨k, hk, rfl, rfl, rfl, hs⟩
    dsimp only at hs ⊢
    rw [forwBody, if_neg (by dsimp only; omega)]
    dsimp only
    rw [show (1 : Int) + (k : Nat) = (1 + k : Nat) by omega, rdI_natCast, rd_eq _ (by omega), ok_bind,
      show (i : Int) + (k : Nat) = (i + k : Nat) by omega, Int.toNat_natCast, hw k hk,
      sha1Step_eq _ _ (by omega), ok_bind, ← stateAt_succ]
    by_cases h2 : k = 2
    · subst h2
      rw [if_pos (by omega), wp_pure]
      refine ⟨rfl, fun t ht => hs t ((hT t ht).imp (fun h => ?_) id)⟩
      omega
    · rw [if_neg (by omega), wp_bind, show (i : Int) + ((k : Nat) + 1) = (i + (k + 1) : Nat) by omega]
      refine wp_mono (wp_saveAt (U := fun t => i < t ∧ t ≤ i + (k + 1) ∨ T t) hs (by omega)
        (hS (k + 1) (by omega) (by omega)) fun t ht => ?_) fun states' h' => ?_
      · rcases ht with ht | ht
        · exact (by omega : t = i + (k + 1) ∨ i < t ∧ t ≤ i + k).imp id .inl
        · exact .inr (.inr ht)
      · rw [wp_pure]
        exact ⟨⟨k + 1, by omega, rfl, rfl, rfl, h'⟩, by dsimp only; omega⟩
  · exact fun t ht => h t (ht.resolve_left (by omega))

theorem forwLoop_eighty (Wn1p2 : V4u32) (s : ForwLoop n) (hj : s.j = 0) :
    loop (forwBody need.table Wn1p2 (80 : Nat)) 3 s = .ok { s with breakSteps := true } := by
  rw [loop, forwBody, if_pos (by omega)]
  rfl

end saves

/-! ### The run -/

/-- What is saved for the state `t`: the state after `t` steps, or one step back from the next with
the lane that the code does not initialise. -/
def savedState (u : ShaUninit) (W : Nat → Word) (cv : ChainingValue) (t : Nat) : ChainingValue :=
  if t % 4 = 3 then stepBack t u.Wn1p2[0] (stateAt W (t + 1) cv) else stateAt W t cv

/-- What the variables hold before the vector at `i`. -/
structure ShaInv (need : NeedTable n) (u : ShaUninit) (cv : ChainingValue) (m : Block) (s : ShaLoop n) :
    Prop where
  dvd : s.i % 4 = 0
  le : s.i ≤ 80
  cur : s.curAbcd = abcdLanes (stateAt (expand m).seq s.i cv)
  old : s.oldAbcd[3].rotateLeft 30 = (stateAt (expand m).seq s.i cv).E
  window : Window (expand m).seq s.i s.Wrn16n1
  words : Expanded m s.i s.W
  junk : s.Wn1p2[0] = u.Wn1p2[0]
  states : Saves need (savedState u (expand m).seq cv) (· + 2 ≤ s.i) s.states

namespace ShaInv
variable {need : NeedTable n} {u : ShaUninit} {cv : ChainingValue} {m : Block} {s : ShaLoop n}

theorem forw (h : ShaInv need u cv m s) :
    (⟨s.curAbcd[3], s.curAbcd[2], s.curAbcd[1], s.curAbcd[0], sha1RotateRight s.oldAbcd[3] 2⟩ :
      ChainingValue) = stateAt (expand m).seq s.i cv := by
  rw [sha1RotateRight_two, h.old, h.cur]
  rfl

theorem wp_shaWords (h : ShaInv need u cv m s) (hi : s.i < 80) (Wrp0p3 : V4u32) :
    wp (shaWords s Wrp0p3) fun (s', v) => ∃ Wrn16n1 W Wn1p2, s' = { s with Wrn16n1, W, Wn1p2 } ∧
      Window (expand m).seq (s.i + 4) Wrn16n1 ∧ Expanded m (s.i + 4) W ∧ Wn1p2[0] = u.Wn1p2[0] ∧
      (∀ k, (hk : k < 3) → Wn1p2[1 + k] = (expand m).seq (s.i + k)) ∧
      v = sha1nexte s.oldAbcd (revWords (expand m).seq s.i) := by
  have hdvd := h.dvd
  rw [shaWords, if_pos hi, wp_bind]
  refine wp_mono (wp_shiftWindow (isExpansion_expand m) hdvd hi h.window) ?_
  rintro ⟨Wrn16n1, _⟩ ⟨hwindow, rfl⟩
  dsimp only
  rw [wp_bind]
  refine wp_mono (wp_storeV4u32 h.words (by omega)) fun W hW => ?_
  rw [wp_pure]
  refine ⟨Wrn16n1, W, _, rfl, hwindow, hW, by simpa using h.junk, fun k hk => ?_, rfl⟩
  match k, hk with
  | 0, _ | 1, _ | 2, _ => simp [revWords]

/-- Stepping back from the state `i` with the uninitialised lane. -/
theorem back (h : ShaInv need u cv m s) (hi : 0 < s.i) :
    stepBack (s.i - 1) u.Wn1p2[0] (stateAt (expand m).seq s.i cv) =
      savedState u (expand m).seq cv (s.i - 1) := by
  have := h.dvd
  rw [savedState, if_pos (by omega), show s.i - 1 + 1 = s.i by omega]

theorem savedState_eq {W : Nat → Word} {c : ChainingValue} {t : Nat} (ht : t % 4 ≠ 3) :
    stateAt W t c = savedState u W c t := by
  rw [savedState, if_neg ht]

theorem wp_shaBody (h : ShaInv need u cv m s) :
    wp (shaBody need.table u s) (Ctl.Holds
      (fun s' => ShaInv need u cv m s' ∧ (80 - s'.i) / 4 < (80 - s.i) / 4)
      fun s' => s'.curForw = stateAt (expand m).seq 80 cv ∧ s'.W = expand m ∧
        Saves need (savedState u (expand m).seq cv) (· < 81) s'.states) := by
  have hdvd := h.dvd
  have hle := h.le
  have hS := savedState_eq (u := u) (c := cv) (W := (expand m).seq) (show s.i % 4 ≠ 3 by omega)
  rw [shaBody]
  dsimp only
  rw [h.forw]
  by_cases hi : s.i < 80
  · rw [wp_bind]
    refine wp_mono (h.wp_shaWords hi _) ?_
    rintro ⟨_, _⟩ ⟨Wrn16n1, W, Wn1p2, rfl, hwindow, hW, hjunk, hw, rfl⟩
    dsimp only
    rw [wp_bind]
    refine wp_mono (wp_backLoop (U := fun t => t ≤ s.i) h.states Wn1p2 hle hS
      (fun h0 => hjunk ▸ h.back h0) fun t ht => by omega) fun back hback => ?_
    rw [wp_bind]
    refine wp_mono (wp_forwLoop (U := (· + 2 ≤ s.i + 4)) hback (by omega) rfl hw
      (fun k h0 hk => savedState_eq (by omega)) fun t ht => by omega) ?_
    rintro ⟨_, _, states, _⟩ ⟨rfl, hstates⟩
    dsimp only
    rw [if_neg Bool.false_ne_true, wp_pure]
    refine ⟨⟨by dsimp only; omega, by dsimp only; omega, ?_, ?_, hwindow, hW, hjunk, hstates⟩, by
      dsimp only; omega⟩
    · dsimp only
      rw [h.cur]
      exact sha1rnds4_eq _ hdvd hi cv h.old
    · dsimp only
      rw [h.cur]
      exact (stateAt_E _ _ _).symm
  · obtain hi : s.i = 80 := by omega
    rw [shaWords, if_neg (by omega), pure_bind]
    dsimp only
    rw [wp_bind]
    refine wp_mono (wp_backLoop (U := (· < 81)) h.states s.Wn1p2 hle hS
      (fun h0 => h.junk ▸ h.back h0) fun t ht => by omega) fun back hback => ?_
    rw [hi, forwLoop_eighty _ _ rfl, ok_bind]
    dsimp only
    rw [if_pos rfl, wp_pure]
    have hW := h.words
    rw [hi] at hW
    exact ⟨rfl, hW.eq, hback⟩

end ShaInv

/-- The fast path compresses and expands the block, and saves `savedState` for each needed state. -/
theorem wp_savingX86v2sha (need : NeedTable n) (u : ShaUninit) (cv : ChainingValue) (m : Block)
    (W : ExpandedBlock) (states : Vector ChainingValue n) :
    wp (sha1AddBlockExpandingSavingX86v2sha need.table u cv m W states) fun (cv', W', states') =>
      cv' = compress (expand m).seq cv ∧ W' = expand m ∧
        Saves need (savedState u (expand m).seq cv) (· < 81) states' := by
  rw [sha1AddBlockExpandingSavingX86v2sha, wp_bind]
  refine wp_mono (load_revWords m (i := 0) (by decide)) fun v0 h0 => ?_
  rw [wp_bind]
  refine wp_mono (load_revWords m (i := 4) (by decide)) fun v1 h1 => ?_
  rw [wp_bind]
  refine wp_mono (load_revWords m (i := 8) (by decide)) fun v2 h2 => ?_
  rw [wp_bind]
  refine wp_mono (load_revWords m (i := 12) (by decide)) fun v3 h3 => ?_
  dsimp only
  rw [wp_bind]
  refine wp_mono (wp_loop (ShaInv need u cv m) (fun s => (80 - s.i) / 4) _ (fun s h => h.wp_shaBody) ?_
    (by simp)) ?_
  · -- before the first vector nothing is saved and only the window is filled
    refine ⟨rfl, by simp, rfl, ?_, fun q hq => ?_, fun t ht => absurd ht t.not_lt_zero, rfl, fun t ht =>
      absurd ht (by simp)⟩
    · dsimp only
      rw [Vector.getElem_set_self, sha1RotateLeft_two]
      exact rotl_rotl _ (by decide) (by decide) rfl
    · match q, hq with
      | 0, _ => exact h0
      | 1, _ => exact h1
      | 2, _ => exact h2
      | 3, _ => exact h3
  · rintro s ⟨hstate, hW, hstates⟩
    rw [wp_pure, hstate]
    exact ⟨rfl, hW, hstates⟩

/-- No state of the table that ships is stepped back to. -/
theorem shipped_needed_ne {t : Nat} (h : shipped.Needed t) : t % 4 ≠ 3 := by
  have hall : ∀ t < 81, shipped.Needed t → t % 4 ≠ 3 := by decide +kernel
  exact hall t h.lt h

/-- Whatever the uninitialised variables hold, the fast path ends with the chaining value, the words
and the saved states of the portable one; the chaining value is the reference's. -/
theorem savingX86v2sha_eq_portable (u : ShaUninit) (cv : ChainingValue) (m : Block)
    (W₀ W W' : ExpandedBlock) (states states' : Vector ChainingValue nNeededStates) :
    ∃ r, sha1AddBlockExpandingSavingPortable needState cv m W states = .ok r ∧
      sha1AddBlockExpandingSavingX86v2sha needState u cv m W' states' = .ok r ∧
      sha1AddBlockExpanding cv m W₀ = .ok r.1 := by
  obtain ⟨r, hr, hcv, hW, hstates⟩ := wp_savingPortable shipped cv m W states
  obtain ⟨r', hr', hcv', hW', hstates'⟩ := wp_savingX86v2sha shipped u cv m W' states'
  have heq : r' = r := by
    refine Prod.ext (hcv'.trans hcv.symm) (Prod.ext (hW'.trans hW.symm) ?_)
    exact hstates'.eq_of hstates fun t ht => (ShaInv.savedState_eq (shipped_needed_ne ht)).symm
  refine ⟨r, hr, heq ▸ hr', ?_⟩
  rw [sha1AddBlockExpanding_eq, hcv]

/-! ### Other tables -/

theorem stepBack_inj {t : Nat} {w w' : Word} {s : ChainingValue} :
    stepBack t w s = stepBack t w' s ↔ w = w' := by
  constructor
  · intro h
    have hE := congrArg ChainingValue.E h
    simp only [stepBack, BitVec.sub_right_inj, BitVec.add_right_inj] at hE
    exact hE
  · rintro rfl
    rfl

theorem stepBack_stateAt (W : Nat → Word) (t : Nat) (c : ChainingValue) :
    stepBack t (W t) (stateAt W (t + 1) c) = stateAt W t c := by
  rw [stateAt_succ]
  exact (steps W t).symm_apply_apply _

/-- Stepping back is right if and only if the uninitialised lane happens to hold the word. -/
theorem savedState_eq_stateAt_iff {u : ShaUninit} {W : Nat → Word} {cv : ChainingValue} {t : Nat} :
    savedState u W cv t = stateAt W t cv ↔ (t % 4 = 3 → u.Wn1p2[0] = W t) := by
  rw [savedState]
  by_cases h3 : t % 4 = 3
  · rw [if_pos h3, ← stepBack_stateAt W t cv, stepBack_inj, forall_prop_of_true h3]
  · rw [if_neg h3]
    exact iff_of_true rfl fun h => absurd h h3

/-- The fast path leaves every needed state in its slot, as the portable version does. -/
def SavesStates (need : NeedTable n) (u : ShaUninit) (cv : ChainingValue) (m : Block) : Prop :=
  ∀ (W W' : ExpandedBlock) (states states' : Vector ChainingValue n), ∃ r r',
    sha1AddBlockExpandingSavingX86v2sha need.table u cv m W states = .ok r ∧
    sha1AddBlockExpandingSavingPortable need.table cv m W' states' = .ok r' ∧
    ∀ t, need.Needed t →
      rdI r.2.2 (needAt need.table t) = .ok (stateAt (expand m).seq t cv) ∧
      rdI r.2.2 (needAt need.table t) = rdI r'.2.2 (needAt need.table t)

section
variable {need : NeedTable n} {u : ShaUninit} {cv : ChainingValue} {m : Block}

theorem savesStates_iff_savedState : SavesStates need u cv m ↔
    ∀ t, need.Needed t → savedState u (expand m).seq cv t = stateAt (expand m).seq t cv := by
  constructor
  · intro h t ht
    obtain ⟨r, _, hr, _, hright⟩ :=
      h (.replicate 80 0) (.replicate 80 0) (.replicate n cv) (.replicate n cv)
    obtain ⟨r', hr', -, -, hsaved⟩ :=
      wp_savingX86v2sha need u cv m (.replicate 80 0) (.replicate n cv)
    obtain rfl : r' = r := Except.ok.inj (hr'.symm.trans hr)
    exact Except.ok.inj ((hsaved.rdI_eq ht.lt ht).symm.trans (hright t ht).1)
  · intro h W W' states states'
    obtain ⟨r, hr, -, -, hsaved⟩ := wp_savingX86v2sha need u cv m W states
    obtain ⟨r', hr', -, -, hsaved'⟩ := wp_savingPortable need cv m W' states'
    refine ⟨r, r', hr, hr', fun t ht => ?_⟩
    have hslot := hsaved.rdI_eq ht.lt ht
    rw [h t ht] at hslot
    exact ⟨hslot, hslot.trans (hsaved'.rdI_eq ht.lt ht).symm⟩

theorem savesStates_iff_lane : SavesStates need u cv m ↔
    ∀ t, need.Needed t → t % 4 = 3 → u.Wn1p2[0] = (expand m).seq t := by
  rw [savesStates_iff_savedState]
  exact forall₂_congr fun t _ => savedState_eq_stateAt_iff

end

/-- With one value of the uninitialised lane a table is served if that is the word of every state
`3 mod 4` it needs; with every value if it needs none. -/
theorem savesStates_iff (need : NeedTable n) (cv : ChainingValue) (m : Block) :
    ((∀ u, SavesStates need u cv m) ↔ ∀ t, need.Needed t → t % 4 ≠ 3) ∧
    ∀ u, SavesStates need u cv m ↔ ∀ t, need.Needed t → t % 4 = 3 → u.Wn1p2[0] = (expand m).seq t := by
  refine ⟨⟨fun h t ht h3 => ?_, fun h u => ?_⟩, fun u => savesStates_iff_lane⟩
  · have hword : ∀ w : Word, w = (expand m).seq t := fun w =>
      savesStates_iff_lane.mp (h ⟨.replicate 4 w, .replicate 4 w, .replicate 4 w, cv⟩) t ht h3
    have : (0 : Word) = 1 := (hword 0).trans (hword 1).symm
    exact absurd this (by decide)
  · exact savesStates_iff_lane.mpr fun t ht h3 => absurd h3 (h t ht)

/-- A table that asks for the state `3` only. -/
def needThird : NeedTable 1 where
  table := .ofFn fun t => if t = 3 then 0 else -1
  numbered := by decide +kernel
  count := by decide +kernel

theorem not_savesStates_third : ¬ SavesStates needThird
    ⟨.replicate 4 1, .replicate 4 1, .replicate 4 1, H0⟩ H0 (.replicate 64 0) := by
  intro h
  have hneeded : needThird.Needed 3 := by decide +kernel
  have hword := savesStates_iff_lane.mp h 3 hneeded rfl
  rw [seq_expand _ (by decide), schedule_lt _ (by decide)] at hword
  exact absurd hword (by decide)

end Sha1dc
