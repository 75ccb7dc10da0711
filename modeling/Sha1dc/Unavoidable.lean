import Mathlib.Tactic.MkIffOfInductiveProp
import Sha1dc.Characteristic
import Sha1dc.Collisions
import Sha1dc.Disturbance

/-!
# Unavoidable bit conditions

Why the filter costs no detection. An attack for a disturbance vector brings a block and its twin along the
path that the vector has in the xor-linear version, at least in the steps from 35 on (`FollowsPath`). Along
this path the bit conditions of the vector cannot be avoided: each of them is a sum of equations that the
differences of a few steps make (`justifies_path`), so the filter lets the vector through
(`ubcCheck_followsPath`). A message with one block of a collision of this kind is reported with the filter as
it is without it (`hash_found_followsPath`).
-/

namespace Sha1dc
open Checked Fips

/-! ### The path of a vector -/

/-- `x` is the difference `d` of the xor-linear version, or its lowest bit: two neighbouring differences may
be a single one that is carried. -/
def OnPath (d x : Word) : Prop := x = d ∨ x = d &&& -d

instance (d x : Word) : Decidable (OnPath d x) := inferInstanceAs (Decidable (_ ∨ _))

/-- The round function of the step `t` differs where an odd number of its inputs do. -/
def Passes (t : Nat) (s s' : ChainingValue) : Prop :=
  f t s.B s.C s.D ^^^ f t s'.B s'.C s'.D = s.B ^^^ s'.B ^^^ (s.C ^^^ s'.C) ^^^ (s.D ^^^ s'.D)

instance (t : Nat) (s s' : ChainingValue) : Decidable (Passes t s s') := inferInstanceAs (Decidable (_ = _))

/-- From `c` and `c'` the block and its twin for `k` differ as in the xor-linear version, from the last five
registers in front of step 35 to the first one behind step 64, and all differences pass through `Maj`. -/
@[mk_iff]
structure FollowsPath (k : Dv) (W : ExpandedBlock) (c c' : ChainingValue) : Prop where
  register : ∀ t < 66, 31 ≤ t → OnPath (disturbed (dvName k).words t).A
    ((stateAt W.seq t c).A ^^^ (stateAt (twinOf k W).seq t c').A)
  round : ∀ t < 60, 40 ≤ t → Passes t (stateAt W.seq t c) (stateAt (twinOf k W).seq t c')

instance (k : Dv) (W : ExpandedBlock) (c c' : ChainingValue) : Decidable (FollowsPath k W c c') :=
  decidable_of_iff _ (followsPath_iff k W c c').symm

/-- The words of the vector, read from one list for all vectors of a class. -/
def pathWord (k : Dv) (t : Nat) : Word :=
  let name := dvName k
  let sequence := match name.dvClass with
    | .I => DvClass.I.sequence
    | .II => DvClass.II.sequence
  (sequence.getD (t + (56 - name.k)) 0).rotateLeft name.b

theorem words_eq (k : Dv) : (dvName k).words = pathWord k := by
  funext t
  rw [DvName.words, pathWord]
  cases (dvName k).dvClass <;> rfl

/-- The differences along the path, where a pair of them is or is not carried. -/
def path (k : Dv) (carried : Bool) : Characteristic where
  register t :=
    let d := pathWord k (t + 4)
    if carried then d else d &&& -d
  word := localCollisions (pathWord k)

/-- Where a difference of the path may be carried. -/
def carryAt (k : Dv) : Nat :=
  ((List.range' 31 35).find? fun t => (path k true).register t ≠ (path k false).register t).getD 0

theorem eq_carryAt : ∀ k : Dv, ∀ t < 66, 31 ≤ t →
    (path k true).register t ≠ (path k false).register t → t = carryAt k := by
  decide +kernel

theorem atLeast_path : ∀ (k : Dv) (carried : Bool), ∀ t < 61, 31 ≤ t →
    Carry.atLeast 3 ((path k carried).flips t) = 0 := by
  decide +kernel

/-- The conditions of a vector follow from its path. -/
theorem justifies_path : ∀ u ∈ ubcs, ∀ k : Dv, dvBit u.dvmask k = true →
    ∀ carried, (path k carried).justifies u = true := by
  decide +kernel

theorem path_testState : ∀ k : Dv, 35 ≤ testState k ∧ testState k < 66 ∧
    ∀ i < 5, ∀ carried, (path k carried).register (testState k - 4 + i) = 0 := by
  decide +kernel

namespace FollowsPath
variable {k : Dv} {W : ExpandedBlock} {c c' : ChainingValue}

theorem register_path (h : FollowsPath k W c c') {t : Nat} (ht : t < 66) (ht' : 31 ≤ t) :
    Sha1dc.register W.seq c t ^^^ Sha1dc.register (twinOf k W).seq c' t = (path k true).register t ∨
    Sha1dc.register W.seq c t ^^^ Sha1dc.register (twinOf k W).seq c' t = (path k false).register t := by
  have hpath := h.register t ht ht'
  rw [words_eq] at hpath
  exact hpath

theorem exists_path (h : FollowsPath k W c c') : ∃ carried, ∀ t < 66, 31 ≤ t →
    Sha1dc.register W.seq c t ^^^ Sha1dc.register (twinOf k W).seq c' t = (path k carried).register t := by
  by_cases hlow : ∀ t < 66, 31 ≤ t →
      Sha1dc.register W.seq c t ^^^ Sha1dc.register (twinOf k W).seq c' t = (path k false).register t
  · exact ⟨false, hlow⟩
  · simp only [not_forall] at hlow
    obtain ⟨j, hj, hj', hne⟩ := hlow
    have hhigh := (h.register_path hj hj').resolve_right hne
    have hat : j = carryAt k := eq_carryAt k j hj hj' fun hsame => hne (hhigh.trans hsame)
    -- elsewhere the two paths are the same
    refine ⟨true, fun t ht ht' => ?_⟩
    rcases h.register_path ht ht' with heq | heq
    · exact heq
    · by_cases hsame : (path k true).register t = (path k false).register t
      · exact heq.trans hsame.symm
      · rw [eq_carryAt k t ht ht' hsame, ← hat]
        exact hhigh

theorem describes (h : FollowsPath k W c c') :
    ∃ carried, (path k carried).Describes W.seq (twinOf k W).seq c c' := by
  obtain ⟨carried, hregister⟩ := h.exists_path
  refine ⟨carried, ⟨fun t ht ht' => hregister t (by omega) ht, fun t ht ht' => ?_, fun t ht => ?_,
    fun t ht ht' => Carry.countP_le_of_atLeast (atLeast_path k carried t ht' ht)⟩⟩
  · rw [seq_twinOf k W (by omega), messageMask_eq k (by omega), words_eq, ← BitVec.xor_assoc, BitVec.xor_self,
      BitVec.zero_xor]
    rfl
  · rw [majority, Bool.and_eq_true, decide_eq_true_iff, decide_eq_true_iff] at ht
    have hpass := h.round (t + 4) (by omega) (by omega)
    rw [Passes, stateAt_add_four, stateAt_add_four] at hpass
    rw [roundAt, roundAt, hpass, Characteristic.round, ← hregister (t + 3) (by omega) (by omega),
      ← hregister (t + 2) (by omega) (by omega), ← hregister (t + 1) (by omega) (by omega),
      rotl_xor _ _ (by decide), rotl_xor _ _ (by decide)]

/-- The runs meet at the test state, where the vector is zero. -/
theorem meets (h : FollowsPath k W c c') :
    stateAt (twinOf k W).seq (testState k) c' = stateAt W.seq (testState k) c := by
  obtain ⟨hts, hts', hzero⟩ := path_testState k
  obtain ⟨t, ht⟩ := Nat.exists_eq_add_of_le' (show 4 ≤ testState k by omega)
  obtain ⟨carried, hregister⟩ := h.exists_path
  have heq : ∀ i < 5, Sha1dc.register (twinOf k W).seq c' (t + i) = Sha1dc.register W.seq c (t + i) := by
    intro i hi
    have hzero := hzero i hi carried
    rw [show testState k - 4 + i = t + i by omega] at hzero
    rw [← Characteristic.xor_of_xor (hregister (t + i) (by omega) (by omega)), hzero]
    exact BitVec.xor_zero
  have hfirst : Sha1dc.register (twinOf k W).seq c' t = Sha1dc.register W.seq c t := heq 0 (by decide)
  rw [ht, stateAt_add_four, stateAt_add_four, heq 4 (by decide), heq 3 (by decide), heq 2 (by decide),
    heq 1 (by decide), hfirst]

theorem possible (h : FollowsPath k W c c') : Possible ubcs W.seq k := by
  obtain ⟨carried, hdescribes⟩ := h.describes
  exact fun u hu hk => hdescribes.holds_of_justifies (justifies_path u hu k hk carried)

end FollowsPath

/-! ### The filter and whole messages -/

theorem followsPath_shattered :
    FollowsPath 27 (expand shatteredBlock) shatteredCtx.cv shatteredTwinIn := by
  have hpath : (do
      let r ← portable.addBlockExpandingSaving shatteredCtx shatteredBlock
      return decide (FollowsPath 27 r.2.1 shatteredCtx.cv shatteredTwinIn)) = (.ok true : Chk Bool) := by
    decide +kernel
  rw [addBlockExpandingSaving_eq, ok_bind] at hpath
  exact of_decide_eq_true (Except.ok.inj hpath)

/-- The conditions of a vector cannot be avoided along its path, so no filter of any build rules it out. -/
theorem ubcCheck_followsPath (b : Build) (ctx : Ctx) {k : Dv} {W : ExpandedBlock} {c c' : ChainingValue}
    (h : FollowsPath k W c c') : ∃ dvs, b.ubcCheck ctx W = .ok dvs ∧ dvBit dvs k = true := by
  obtain ⟨dvs, hdvs, hbit⟩ := wp_ubcCheck b ctx W
  exact ⟨dvs, hdvs, (hbit k (byte_lt_dvmaskBytes k)).mpr h.possible⟩

theorem ubcCheck_followsPath_shattered :
    ∃ dvs, portable.ubcCheck shatteredCtx (expand shatteredBlock) = .ok dvs ∧ dvBit dvs 27 = true :=
  ubcCheck_followsPath portable shatteredCtx followsPath_shattered

/-- Whatever the settings, a message is reported if detection is on and one of its blocks collides with its
twin for some vector along the path of the vector, on the chain of plain SHA-1. -/
theorem hash_found_followsPath (b : Build) (ctx₀ : Ctx) (sets : List Setter) (chunks : List (List Byte))
    {k : Dv} {j : Nat} {B : Block} {c' : ChainingValue}
    (hB : (messageBlocks (pad chunks.flatten))[j]? = some B)
    (hpath : FollowsPath k (expand B) (plainCv (messageBlocks (pad chunks.flatten)) j) c')
    (hcollides : compress (twinOf k (expand B)).seq c' =
      compress (expand B).seq (plainCv (messageBlocks (pad chunks.flatten)) j))
    (hdetect : (b.setUp ctx₀ sets).detectColl = true) :
    ∃ r, b.hash ctx₀ sets chunks = .ok r ∧ r.foundCollision = true := by
  obtain ⟨r, hr, -, hfound, -⟩ := wp_hash b ctx₀ sets chunks
  have hin := eq_twinIn_iff.mpr hpath.meets
  refine ⟨r, hr, hfound.trans ((Machine.found_runBlocks_iff _ _).mpr ⟨j, B, hB, ?_⟩)⟩
  refine detect_isSome_iff.mpr ⟨hdetect, k, fun _ => hpath.possible, .inl ?_⟩
  rw [← hin]
  exact hcollides

theorem hash_found_followsPath_shattered :
    ∃ r, portable.hash shatteredCtx [] [shattered1] = .ok r ∧ r.foundCollision = true := by
  have hcollides := shattered_twins.collides
  rw [shattered_twins.expand_eq, plainCv_shattered2] at hcollides
  refine hash_found_followsPath portable shatteredCtx [] [shattered1] shattered_twins.left ?_ hcollides rfl
  rw [plainCv_shattered1]
  exact followsPath_shattered

end Sha1dc
