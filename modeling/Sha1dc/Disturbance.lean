import Sha1dc.Twin

/-!
# Disturbance vectors

Why the masks of the table lead a block and its twin to the same state. In the version of SHA-1 in which
every operation is xor-linear, a difference of one bit is made to vanish by a local collision, differences
in five more words. A disturbance vector says where the local collisions start; it satisfies the recurrence
of the message schedule from its first word on, five steps in front of the block, so what its local
collisions add up to is a difference of expanded blocks (`isExpansion_localCollisions`). The states differ
in its last five words (`linearAt_localCollisions`). Every mask is of this kind, with five words of zeros in
front of its test state, where the linear runs of any block and its twin meet (`twin_linear`).
-/

namespace Sha1dc
open Fips

/-! ### Recurrent sequences -/

/-- The recurrence of the message schedule, up to the word `n`. -/
def Recurs (n : Nat) (d : Nat → Word) : Prop :=
  ∀ t, 16 ≤ t → t < n → d t = (d (t - 3) ^^^ d (t - 8) ^^^ d (t - 14) ^^^ d (t - 16)).rotateLeft 1

namespace Recurs
variable {n : Nat} {d d' : Nat → Word}

theorem xor (h : Recurs n d) (h' : Recurs n d') : Recurs n fun t => d t ^^^ d' t := by
  intro t ht htn
  dsimp only
  rw [h t ht htn, h' t ht htn, ← rotl_xor _ _ (by decide)]
  congr 1
  ac_rfl

theorem shift (h : Recurs n d) (i : Nat) : Recurs (n - i) fun t => d (t + i) := by
  intro t ht htn
  dsimp only
  rw [h (t + i) (by omega) (by omega), show t + i - 3 = t - 3 + i by omega, show t + i - 8 = t - 8 + i by omega,
    show t + i - 14 = t - 14 + i by omega, show t + i - 16 = t - 16 + i by omega]

theorem rotl (h : Recurs n d) {r : Nat} (hr : r < 32) : Recurs n fun t => (d t).rotateLeft r := by
  intro t ht htn
  dsimp only
  rw [h t ht htn, rotl_comm _ (by decide) hr, rotl_xor _ _ hr, rotl_xor _ _ hr, rotl_xor _ _ hr]

theorem mono {n' : Nat} (h : Recurs n d) (hn : n' ≤ n) : Recurs n' d :=
  fun t ht htn => h t ht (Nat.lt_of_lt_of_le htn hn)

end Recurs

/-! ### The xor-linear version -/

namespace ChainingValue

def xor (s s' : ChainingValue) : ChainingValue :=
  ⟨s.A ^^^ s'.A, s.B ^^^ s'.B, s.C ^^^ s'.C, s.D ^^^ s'.D, s.E ^^^ s'.E⟩

end ChainingValue

def linearStep (w : Word) (s : ChainingValue) : ChainingValue :=
  ⟨s.A.rotateLeft 5 ^^^ s.B ^^^ s.C ^^^ s.D ^^^ s.E ^^^ w, s.A, s.B.rotateLeft 30, s.C, s.D⟩

/-- The state after `t` linear steps with `W` from `s`. -/
def linearAt (W : Nat → Word) : Nat → ChainingValue → ChainingValue
  | 0, s => s
  | t + 1, s => linearStep (W t) (linearAt W t s)

theorem linearStep_xor (w w' : Word) (s s' : ChainingValue) :
    linearStep (w ^^^ w') (s.xor s') = (linearStep w s).xor (linearStep w' s') := by
  rw [linearStep, linearStep, linearStep, ChainingValue.xor, ChainingValue.xor]
  ext1 <;> dsimp only
  · rw [rotl_xor _ _ (by decide)]
    ac_rfl
  · exact rotl_xor _ _ (by decide)

theorem linearAt_xor (V W : Nat → Word) (t : Nat) (s s' : ChainingValue) :
    linearAt (fun i => V i ^^^ W i) t (s.xor s') = (linearAt V t s).xor (linearAt W t s') := by
  induction t with
  | zero => rfl
  | succ t ih => rw [linearAt, ih, linearStep_xor, linearAt, linearAt]

theorem linearAt_congr {V W : Nat → Word} {t : Nat} (h : ∀ i < t, V i = W i) (s : ChainingValue) :
    linearAt V t s = linearAt W t s := by
  induction t with
  | zero => rfl
  | succ t ih => rw [linearAt, linearAt, ih fun i hi => h i (by omega), h t (Nat.lt_succ_self t)]

/-! ### Local collisions -/

/-- The differences of the words if a local collision starts wherever `d` has a bit; `d (t + 5)` belongs to
step `t`. -/
def localCollisions (d : Nat → Word) (t : Nat) : Word :=
  d (t + 5) ^^^ (d (t + 4)).rotateLeft 5 ^^^ d (t + 3) ^^^ (d (t + 2)).rotateLeft 30 ^^^
    (d (t + 1)).rotateLeft 30 ^^^ (d t).rotateLeft 30

/-- The differences of the states. -/
def disturbed (d : Nat → Word) (t : Nat) : ChainingValue :=
  ⟨d (t + 4), d (t + 3), (d (t + 2)).rotateLeft 30, (d (t + 1)).rotateLeft 30, (d t).rotateLeft 30⟩

theorem linearStep_localCollisions (d : Nat → Word) (t : Nat) :
    linearStep (localCollisions d t) (disturbed d t) = disturbed d (t + 1) := by
  have hcancel : ∀ x y : Word, x ^^^ (y ^^^ x) = y := fun x y => by
    rw [BitVec.xor_comm y, ← BitVec.xor_assoc, BitVec.xor_self, BitVec.zero_xor]
  rw [linearStep, localCollisions, disturbed, disturbed]
  ext1 <;> dsimp only
  refine Eq.trans ?_ (hcancel ((d (t + 4)).rotateLeft 5 ^^^ d (t + 3) ^^^ (d (t + 2)).rotateLeft 30 ^^^
    (d (t + 1)).rotateLeft 30 ^^^ (d t).rotateLeft 30) (d (t + 5)))
  ac_rfl

theorem linearAt_localCollisions (d : Nat → Word) (t : Nat) :
    linearAt (localCollisions d) t (disturbed d 0) = disturbed d t := by
  induction t with
  | zero => rfl
  | succ t ih => rw [linearAt, ih, linearStep_localCollisions]

theorem isExpansion_localCollisions {d : Nat → Word} (h : Recurs 85 d) :
    IsExpansion (localCollisions d) := by
  have hword : ∀ i ≤ 5, Recurs 80 fun t => d (t + i) := fun i hi => (h.shift i).mono (by omega)
  exact ((((hword 5 (by decide)).xor ((hword 4 (by decide)).rotl (by decide))).xor (hword 3 (by decide))).xor
    ((hword 2 (by decide)).rotl (by decide))).xor ((hword 1 (by decide)).rotl (by decide)) |>.xor
      ((hword 0 (by decide)).rotl (by decide))

/-- The local collisions along a list. -/
def collide : List Word → List Word
  | a :: b :: c :: d :: e :: f :: ds =>
    (f ^^^ e.rotateLeft 5 ^^^ d ^^^ c.rotateLeft 30 ^^^ b.rotateLeft 30 ^^^ a.rotateLeft 30) ::
      collide (b :: c :: d :: e :: f :: ds)
  | _ => []

theorem getD_collide (ds : List Word) {t : Nat} (ht : t + 5 < ds.length) :
    (collide ds).getD t 0 = localCollisions (ds.getD · 0) t := by
  fun_induction collide ds generalizing t with
  | case1 a b c d e f ds ih =>
    cases t with
    | zero => rfl
    | succ t => exact ih (by simp only [List.length_cons] at ht ⊢; omega)
  | case2 ds hshort =>
    rcases ds with _ | ⟨a, _ | ⟨b, _ | ⟨c, _ | ⟨d, _ | ⟨e, _ | ⟨f, ds⟩⟩⟩⟩⟩⟩ <;>
      first
      | exact absurd rfl (hshort a b c d e f ds)
      | simp only [List.length_cons, List.length_nil] at ht; omega

theorem localCollisions_rotl (d : Nat → Word) {r : Nat} (hr : r < 32) (t : Nat) :
    localCollisions (fun t => (d t).rotateLeft r) t = (localCollisions d t).rotateLeft r := by
  rw [localCollisions, localCollisions, rotl_xor _ _ hr, rotl_xor _ _ hr, rotl_xor _ _ hr, rotl_xor _ _ hr,
    rotl_xor _ _ hr, rotl_comm _ hr (show 5 < 32 by decide),
    rotl_comm (d (t + 2)) hr (show 30 < 32 by decide),
    rotl_comm (d (t + 1)) hr (show 30 < 32 by decide),
    rotl_comm (d t) hr (show 30 < 32 by decide)]

/-! ### The vectors of the table -/

/-- `sha1dc_disturbance_vector_class` -/
inductive DvClass
  | I
  | II

/-- The sixteen words from `k` on, before they are rotated by `b`. -/
def DvClass.window : DvClass → List Word
  | I => [0, 0, 0, 0, 0, 0, 0, 0, 0, 0, 0, 0, 0, 0, 0, 1]
  | II => [0, 0x80000000, 0, 0x80000000, 0, 0, 0, 0, 0, 0, 0, 0, 0, 0, 0, 1]

/-- The recurrence, read forwards on a list whose last word comes first. -/
def expandForth : Nat → List Word → List Word
  | 0, d => d
  | n + 1, d =>
    expandForth n ((d.getD 2 0 ^^^ d.getD 7 0 ^^^ d.getD 13 0 ^^^ d.getD 15 0).rotateLeft 1 :: d)

/-- The recurrence, read backwards. -/
def expandBack : Nat → List Word → List Word
  | 0, d => d
  | n + 1, d =>
    expandBack n (((d.getD 15 0).rotateLeft 31 ^^^ d.getD 12 0 ^^^ d.getD 7 0 ^^^ d.getD 1 0) :: d)

/-- The words from 61 in front of the window to 21 behind it. -/
def DvClass.sequence (dvClass : DvClass) : List Word :=
  expandBack 61 (expandForth 21 dvClass.window.reverse).reverse

/-- The first columns of `sha1dc_disturbance_vectors`. -/
structure DvName where
  dvClass : DvClass
  k : Nat
  b : Nat

def dvNames : List DvName := [
  ⟨.I, 43, 0⟩, ⟨.I, 44, 0⟩, ⟨.I, 45, 0⟩, ⟨.I, 46, 0⟩, ⟨.I, 46, 2⟩, ⟨.I, 47, 0⟩, ⟨.I, 47, 2⟩, ⟨.I, 48, 0⟩,
  ⟨.I, 48, 2⟩, ⟨.I, 49, 0⟩, ⟨.I, 49, 2⟩, ⟨.I, 50, 0⟩, ⟨.I, 50, 2⟩, ⟨.I, 51, 0⟩, ⟨.I, 51, 2⟩, ⟨.I, 52, 0⟩,
  ⟨.II, 45, 0⟩, ⟨.II, 46, 0⟩, ⟨.II, 46, 2⟩, ⟨.II, 47, 0⟩, ⟨.II, 48, 0⟩, ⟨.II, 49, 0⟩, ⟨.II, 49, 2⟩,
  ⟨.II, 50, 0⟩, ⟨.II, 50, 2⟩, ⟨.II, 51, 0⟩, ⟨.II, 51, 2⟩, ⟨.II, 52, 0⟩, ⟨.II, 53, 0⟩, ⟨.II, 54, 0⟩,
  ⟨.II, 55, 0⟩, ⟨.II, 56, 0⟩]

def dvName (k : Dv) : DvName := dvNames.getD k.val ⟨.I, 43, 0⟩

/-- The words of a vector, from five steps in front of the block on. -/
def DvName.words (name : DvName) (t : Nat) : Word :=
  (name.dvClass.sequence.getD (t + (56 - name.k)) 0).rotateLeft name.b

theorem DvClass.length_sequence (dvClass : DvClass) : dvClass.sequence.length = 98 := by
  cases dvClass <;> decide +kernel

theorem DvClass.recurs_sequence (dvClass : DvClass) : Recurs 98 (dvClass.sequence.getD · 0) := by
  have hcheck : checkRecurrence dvClass.sequence = true := by cases dvClass <;> decide +kernel
  intro t ht ht'
  have hword := getD_of_checkRecurrence hcheck (t := t - 16) (by rw [dvClass.length_sequence]; omega)
  rwa [show t - 16 + 16 = t by omega, show t - 16 + 13 = t - 3 by omega, show t - 16 + 8 = t - 8 by omega,
    show t - 16 + 2 = t - 14 by omega] at hword

theorem dvName_bounds (k : Dv) : 43 ≤ (dvName k).k ∧ (dvName k).k ≤ 56 ∧ (dvName k).b < 32 := by
  revert k
  decide

theorem recurs_words (k : Dv) : Recurs 85 (dvName k).words := by
  obtain ⟨hlow, hhigh, hb⟩ := dvName_bounds k
  exact (((dvName k).dvClass.recurs_sequence.shift (56 - (dvName k).k)).mono (by omega)).rotl hb

theorem toList_messageMask (k : Dv) : (messageMask k).toList =
    (((collide (dvName k).dvClass.sequence).drop (56 - (dvName k).k)).take 80).map
      (·.rotateLeft (dvName k).b) := by
  revert k
  decide +kernel

/-- The mask is the sum of the local collisions of the vector that its row names. -/
theorem messageMask_eq (k : Dv) {t : Nat} (ht : t < 80) :
    (messageMask k).seq t = localCollisions (dvName k).words t := by
  obtain ⟨hlow, hhigh, hb⟩ := dvName_bounds k
  have hrotl : (0 : Word).rotateLeft (dvName k).b = 0 := by
    refine BitVec.eq_of_getLsbD_eq fun i hi => ?_
    rw [getLsbD_rotl _ hb hi]
    exact BitVec.getLsbD_zero.trans BitVec.getLsbD_zero.symm
  have hget : (messageMask k).seq t = (messageMask k).toList.getD t 0 := by
    rw [(messageMask k).seq_eq ht]
    simp [ht]
  have hlen : t + (56 - (dvName k).k) + 5 < (dvName k).dvClass.sequence.length := by
    rw [DvClass.length_sequence]
    omega
  rw [hget, toList_messageMask, List.getD_eq_getElem?_getD, List.getElem?_map, List.getElem?_take_of_lt ht,
    List.getElem?_drop, Nat.add_comm, ← hrotl, Option.getD_map, ← List.getD_eq_getElem?_getD,
    getD_collide _ hlen]
  exact (localCollisions_rotl (fun t => (dvName k).dvClass.sequence.getD t 0) hb _).symm.trans (by
    rw [localCollisions, localCollisions]
    simp only [DvName.words, Nat.add_right_comm])

/-- The vector is zero in the five words in front of the test state. -/
theorem disturbed_testState (k : Dv) : disturbed (dvName k).words (testState k) = ⟨0, 0, 0, 0, 0⟩ := by
  revert k
  decide +kernel

/-- The mask of each vector of the table is the sum of the local collisions of the recurrent sequence that
its row names, which makes it a difference of expanded blocks, and in the xor-linear version every block and
its twin, from chaining values that differ as this sequence starts, meet at the test state. -/
theorem twin_linear (k : Dv) : Recurs 85 (dvName k).words ∧
    IsExpansion (localCollisions (dvName k).words) ∧
    (∀ t < 80, (messageMask k).seq t = localCollisions (dvName k).words t) ∧
    ∀ (W : ExpandedBlock) (c : ChainingValue),
      linearAt (twinOf k W).seq (testState k) (c.xor (disturbed (dvName k).words 0)) =
        linearAt W.seq (testState k) c := by
  refine ⟨recurs_words k, isExpansion_localCollisions (recurs_words k), fun t => messageMask_eq k, fun W c => ?_⟩
  have hts := testState_le k
  have hxor : ∀ s : ChainingValue, s.xor ⟨0, 0, 0, 0, 0⟩ = s := by
    intro s
    rw [ChainingValue.xor]
    ext1 <;> exact BitVec.xor_zero
  have hwords : ∀ t < testState k, (twinOf k W).seq t =
      W.seq t ^^^ localCollisions (dvName k).words t := by
    intro t ht
    rw [seq_twinOf k W (by omega), messageMask_eq k (by omega)]
  rw [linearAt_congr hwords, linearAt_xor, linearAt_localCollisions, disturbed_testState, hxor]

end Sha1dc
