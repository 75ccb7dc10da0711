import Sha1dc.Process

/-!
# Processing a block detects its twins

`sha1dc_process` refines `detect` and `hashBlock`, in every build and whatever the context holds
(`wp_process`): the states it reads back are those of the block, the mask it tests is that of the
filter, and the vector its loop stops at is the least one that is confirmed.
-/

namespace Sha1dc
open Checked Fips

namespace Ctx

def settings (ctx : Ctx) : Settings where
  doSafeHash := ctx.doSafeHash
  detectColl := ctx.detectColl
  ubcCheck := ctx.ubcCheck
  reducedRoundColl := ctx.reducedRoundColl
  collision := ctx.collision
  collisionClosure := ctx.collisionClosure

end Ctx

/-! ### Saved states -/

def savedStates (W : Nat → Word) (c : ChainingValue) : Vector ChainingValue nNeededStates :=
  #v[stateAt W 58 c, stateAt W 65 c]

theorem saves_savedStates (W : Nat → Word) (c : ChainingValue) :
    Saves shipped (fun t => stateAt W t c) (· < 81) (savedStates W c) := by
  have hall : ∀ t < 81, shipped.Needed t → t = 58 ∧ shipped.idx t = 0 ∨ t = 65 ∧ shipped.idx t = 1 := by
    decide +kernel
  intro t ht hn
  rcases hall t ht hn with ⟨rfl, hidx⟩ | ⟨rfl, hidx⟩ <;> rw [hidx] <;> rfl

theorem needed_testState (k : Dv) : shipped.Needed (testState k) := by
  revert k; decide +kernel

theorem savingPortable_eq (cv : ChainingValue) (m : Block) (W : ExpandedBlock)
    (states : Vector ChainingValue nNeededStates) :
    sha1AddBlockExpandingSavingPortable needState cv m W states =
      .ok (compress (expand m).seq cv, expand m, savedStates (expand m).seq cv) := by
  obtain ⟨r, hr, hcv, hW, hstates⟩ := wp_savingPortable shipped cv m W states
  rw [show sha1AddBlockExpandingSavingPortable needState cv m W states = .ok r from hr]
  exact congrArg Except.ok
    (Prod.ext hcv (Prod.ext hW (hstates.eq_of (saves_savedStates _ _) fun _ _ => rfl)))

theorem savingX86v2sha_eq (u : ShaUninit) (cv : ChainingValue) (m : Block) (W : ExpandedBlock)
    (states : Vector ChainingValue nNeededStates) :
    sha1AddBlockExpandingSavingX86v2sha needState u cv m W states =
      .ok (compress (expand m).seq cv, expand m, savedStates (expand m).seq cv) := by
  obtain ⟨r, hr, hcv, hW, hstates⟩ := wp_savingX86v2sha shipped u cv m W states
  rw [show sha1AddBlockExpandingSavingX86v2sha needState u cv m W states = .ok r from hr]
  refine congrArg Except.ok (Prod.ext hcv (Prod.ext hW (hstates.eq_of (saves_savedStates _ _) ?_)))
  exact fun t ht => (ShaInv.savedState_eq (shipped_needed_ne ht)).symm

theorem addBlockExpandingSaving_eq (b : Build) (ctx : Ctx) (block : Block) :
    b.addBlockExpandingSaving ctx block =
      .ok (compress (expand block).seq ctx.cv, expand block, savedStates (expand block).seq ctx.cv) := by
  rw [Build.addBlockExpandingSaving]
  split
  · exact savingX86v2sha_eq _ _ _ _ _
  · exact savingPortable_eq _ _ _ _

/-! ### The mask -/

theorem wp_ubcCheck (b : Build) (ctx : Ctx) (W : ExpandedBlock) : wp (b.ubcCheck ctx W) fun dvs =>
    ∀ k, k / 8 < dvmaskBytes → (dvBit dvs k = true ↔ Possible ubcs W.seq k) := by
  rw [Build.ubcCheck]
  split
  · exact wp_ubcCheckAvx512 _ _ _ W
  · exact wp_ubcCheckBaseline b.order (by decide) valid_ubcs W

theorem byte_lt_dvmaskBytes (k : Dv) : k.val / 8 < dvmaskBytes := by
  revert k; decide

/-- The filter treats both blocks of a pair of `k` alike, whatever its variables held in either call. -/
theorem ubcCheck_twinOf (b : Build) (ctx ctx' : Ctx) (W : ExpandedBlock) (k : Dv) :
    ∃ dvs dvs', b.ubcCheck ctx W = .ok dvs ∧ b.ubcCheck ctx' (twinOf k W) = .ok dvs' ∧
      dvBit dvs k = dvBit dvs' k := by
  obtain ⟨dvs, hdvs, h⟩ := wp_ubcCheck b ctx W
  obtain ⟨dvs', hdvs', h'⟩ := wp_ubcCheck b ctx' (twinOf k W)
  refine ⟨dvs, dvs', hdvs, hdvs', Bool.eq_iff_iff.mpr ?_⟩
  rw [h k (byte_lt_dvmaskBytes k), h' k (byte_lt_dvmaskBytes k), possible_twinOf]

theorem wp_processDvs (b : Build) (ctx : Ctx) : wp (b.processDvs ctx) fun dvs =>
    ∀ k : Dv, dvBit dvs k = true ↔ (ctx.ubcCheck = true → Possible ubcs ctx.blockW.seq k) := by
  rw [Build.processDvs]
  cases ctx.ubcCheck with
  | true =>
    refine wp_mono (wp_ubcCheck b ctx ctx.blockW) fun dvs h k => ?_
    rw [h k (byte_lt_dvmaskBytes k), forall_prop_of_true rfl]
  | false =>
    rw [if_neg Bool.false_ne_true, wp_pure]
    intro k
    have hbit : dvBit (.replicate dvmaskBytes (-1) : Vector Byte dvmaskBytes) k = true := by
      revert k; decide
    exact iff_of_true hbit fun h => absurd h Bool.false_ne_true

/-- No bit is set in a mask that does not pass the check. -/
theorem dvBit_of_checkDvmask {order : ByteOrder} {dvs : Vector Byte dvmaskBytes}
    (h : ¬ checkDvmask order dvs.toList = true) (k : Dv) : dvBit dvs k = false := by
  have hlist : dvs.toList = [dvs[0], dvs[1], dvs[2], dvs[3]] :=
    List.ext_getElem (dvs.length_toList.trans (show dvmaskBytes = 4 by decide)) fun q h₁ h₂ => by
      match q, h₂ with
      | 0, _ | 1, _ | 2, _ | 3, _ => simp
  have hzero : loadDvmask order dvs.toList = 0 := by
    rw [hlist] at h ⊢
    by_contra hne
    exact h (by rw [checkDvmask, if_pos hne])
  rw [← getLsbD_loadDvmask order dvs (show k.val < 32 from k.isLt), hzero]
  exact BitVec.getLsbD_zero

theorem loadDvmask_eq_zero_iff (order : ByteOrder) {mask : List Byte} (h : mask.length ≤ 4) :
    loadDvmask order mask = 0 ↔ ∀ x ∈ mask, x = 0 := by
  constructor
  · intro hzero x hx
    obtain ⟨q, hq, rfl⟩ := List.mem_iff_getElem.mp hx
    have hpos : order.pos (order.pos q) = q := by
      cases order
      · rfl
      · rw [ByteOrder.pos, ByteOrder.pos]; omega
    have hlt : order.pos q < 4 := by cases order <;> rw [ByteOrder.pos] <;> omega
    refine BitVec.eq_of_getLsbD_eq fun i hi => ?_
    have hbit := congrArg (BitVec.getLsbD · (8 * order.pos q + i)) hzero
    rw [loadDvmask, getLsbD_bytes (fun p => mask.getD (order.pos p) 0) (by omega),
      show (8 * order.pos q + i) / 8 = order.pos q by omega, show (8 * order.pos q + i) % 8 = i by omega, hpos,
      List.getD_eq_getElem _ _ hq] at hbit
    exact hbit.trans (by simp)
  · intro hall
    have hbyte : ∀ p, mask.getD (order.pos p) 0 = 0 := by
      intro p
      by_cases hp : order.pos p < mask.length
      · rw [List.getD_eq_getElem _ _ hp]
        exact hall _ (List.getElem_mem hp)
      · exact List.getD_eq_default _ _ (Nat.le_of_not_lt hp)
    rw [loadDvmask]
    simp only [hbyte]
    rfl

theorem checkDvmask_iff_byte (order : ByteOrder) (mask : List Byte) :
    checkDvmask order mask = true ↔ ∃ x ∈ mask, x ≠ 0 := by
  fun_induction checkDvmask order mask with
  | case1 b0 b1 b2 b3 mask hne =>
    have hword := loadDvmask_eq_zero_iff order (show [b0, b1, b2, b3].length ≤ 4 from Nat.le_refl 4)
    refine iff_of_true rfl ?_
    by_contra hnone
    refine hne (hword.mpr fun x hx => ?_)
    by_contra hx'
    exact hnone ⟨x, List.mem_append_left mask hx, hx'⟩
  | case2 b0 b1 b2 b3 mask hzero ih =>
    have hword := loadDvmask_eq_zero_iff order (show [b0, b1, b2, b3].length ≤ 4 from Nat.le_refl 4)
    have hfront := hword.mp (not_not.mp hzero)
    rw [ih]
    constructor
    · rintro ⟨x, hx, hne⟩
      exact ⟨x, List.mem_append_right [b0, b1, b2, b3] hx, hne⟩
    · rintro ⟨x, hx, hne⟩
      rcases List.mem_append.mp (show x ∈ [b0, b1, b2, b3] ++ mask from hx) with hx | hx
      · exact absurd (hfront x hx) hne
      · exact ⟨x, hx, hne⟩
  | case3 mask hshort =>
    have hlen : mask.length ≤ 4 := by
      rcases mask with _ | ⟨b0, _ | ⟨b1, _ | ⟨b2, _ | ⟨b3, mask⟩⟩⟩⟩
      · simp
      · simp
      · simp
      · simp
      · exact absurd rfl (hshort b0 b1 b2 b3 mask)
    rw [decide_eq_true_iff, ne_eq, loadDvmask_eq_zero_iff order hlen]
    simp

/-- Any DVs are specified in the mask, however long it is and in either byte order. -/
theorem checkDvmask_iff (order : ByteOrder) (mask : List Byte) : checkDvmask order mask = true ↔
    ∃ k, k / 8 < mask.length ∧ (mask.getD (k / 8) 0).getLsbD (k % 8) = true := by
  rw [checkDvmask_iff_byte]
  constructor
  · rintro ⟨x, hx, hne⟩
    obtain ⟨q, hq, rfl⟩ := List.mem_iff_getElem.mp hx
    by_contra hnone
    refine hne (BitVec.eq_of_getLsbD_eq fun i hi => ?_)
    refine Eq.trans ?_ BitVec.getLsbD_zero.symm
    rw [← Bool.not_eq_true]
    intro hbit
    have hdiv : (8 * q + i) / 8 = q := by omega
    refine hnone ⟨8 * q + i, by rwa [hdiv], ?_⟩
    rwa [hdiv, show (8 * q + i) % 8 = i by omega, List.getD_eq_getElem _ _ hq]
  · rintro ⟨k, hk, hbit⟩
    rw [List.getD_eq_getElem _ _ hk] at hbit
    refine ⟨_, List.getElem_mem hk, fun hzero => ?_⟩
    rw [hzero] at hbit
    exact Bool.false_ne_true (BitVec.getLsbD_zero.symm.trans hbit)

/-! ### The loop over the vectors -/

/-- The members that hold what belongs to a block with the words `W` and the chaining value `c`. -/
structure Holds (ctx : Ctx) (W : ExpandedBlock) (c : ChainingValue) : Prop where
  blockIn : ctx.blockIn = c
  cv : ctx.cv = compress W.seq c
  blockW : ctx.blockW = W
  blockState : ctx.blockState = savedStates W.seq c

/-- The context once the twin for `k` is recompressed. -/
def Ctx.withTwin (ctx : Ctx) (W : ExpandedBlock) (c : ChainingValue) (k : Dv) : Ctx :=
  { ctx with
    twinW := twinOf k W
    twinIn := Sha1dc.twinIn k W c
    twinOut := compress (twinOf k W).seq (Sha1dc.twinIn k W c) }

variable {ctx : Ctx} {W : ExpandedBlock} {c : ChainingValue}

theorem Holds.withTwin (h : Holds ctx W c) (k : Dv) : Holds (ctx.withTwin W c k) W c :=
  ⟨h.blockIn, h.cv, h.blockW, h.blockState⟩

theorem twinW_loop (W : ExpandedBlock) (k : Dv) (twinW : ExpandedBlock) :
    forUp (fun j twinW => do
      let twinW ← wr twinW j (← rd W j)
      wr twinW j ((← rd twinW j) ^^^ (← rd (messageMask k) j))) 0 80 twinW =
    .ok (twinOf k W) := by
  rw [← wp_eq_iff]
  refine wp_mono (wp_forUp (fun j (twinW : ExpandedBlock) => ∀ t < j, twinW.seq t = (twinOf k W).seq t) _
    ?_ fun t ht => absurd ht t.not_lt_zero) fun twinW h => ExpandedBlock.ext_seq (by simpa using h)
  intro j twinW _ hj h
  have hj : j < 80 := by omega
  rw [W.rd_eq_seq hj, ok_bind, wr_eq _ _ hj, ok_bind, ExpandedBlock.rd_eq_seq _ hj, ok_bind,
    ExpandedBlock.rd_eq_seq _ hj, ok_bind, wr_eq _ _ hj, wp_ok]
  intro t ht
  rw [ExpandedBlock.seq_set _ _ hj (by omega)]
  split
  · next heq =>
    rw [ExpandedBlock.seq_set _ _ hj hj, if_pos rfl, heq, seq_twinOf k W hj]
  · next hne =>
    rw [ExpandedBlock.seq_set _ _ hj (by omega), if_neg hne]
    exact h t (by omega)

/-- The state that is read back is the block's own at the test state. -/
theorem Holds.rd_blockState (h : Holds ctx W c) (k : Dv) :
    rdI ctx.blockState (needAt needState (testState k)) = .ok (stateAt W.seq (testState k) c) := by
  have hn := needed_testState k
  rw [h.blockState]
  exact (saves_savedStates W.seq c).rdI_eq hn.lt hn

theorem Holds.recompressTwin (h : Holds ctx W c) (k : Dv) :
    Build.recompressTwin ctx k = .ok (ctx.withTwin W c k) := by
  have ht := testState_le k
  have hneed : rd needState (testState k) = .ok (needAt needState (testState k)) :=
    rd_table needState (by omega)
  have hdv : rd disturbanceVectors k = .ok ⟨testState k, messageMask k⟩ := rd_eq _ k.isLt
  have hne : needAt needState (testState k) ≠ -1 := needed_testState k
  obtain rfl := h.blockW
  rw [Build.recompressTwin, hdv, ok_bind, twinW_loop, ok_bind]
  dsimp only
  rw [hneed, ok_bind, h.rd_blockState, ok_bind, sha1RecompressAt, if_pos ht, hneed, ok_bind, if_neg hne,
    sha1AddBlockPredict_eq ht]
  rfl

theorem Holds.rehash (h : Holds ctx W c) :
    wp (Build.rehash ctx) fun ctx' => ∃ cv, cv = safeHash ctx.doSafeHash W c ∧ ctx' = { ctx with cv } := by
  rw [Build.rehash, safeHash]
  by_cases hsafe : ctx.doSafeHash = true
  · rw [if_pos hsafe, if_pos hsafe, sha1AddBlock_eq, ok_bind, sha1AddBlock_eq, ok_bind, h.cv, h.blockW,
      wp_pure]
    exact ⟨_, rfl, rfl⟩
  · rw [if_neg hsafe, if_neg hsafe, wp_pure]
    exact ⟨ctx.cv, h.cv, rfl⟩

def twinCall (s : Settings) (bytes : BitVec 64) (W : ExpandedBlock) (c : ChainingValue) (k : Dv)
    (collision : Pointer) : HandlerCall :=
  let wordsTwinW := (twinOf k W).toList ++ (savedStates W.seq c).toList.flatMap ChainingValue.toList
  let wordsBlockW := W.toList ++ wordsTwinW
  let wordsTwinIn := (twinIn k W c).toList ++
    ((compress (twinOf k W).seq (twinIn k W c)).toList ++ wordsBlockW)
  ⟨collision, s.collisionClosure, bytes, c.toList ++ wordsTwinIn, wordsTwinIn, wordsBlockW, wordsTwinW⟩

def blockCalls (s : Settings) (bytes : BitVec 64) (W : ExpandedBlock) (c : ChainingValue) :
    List HandlerCall :=
  match detect s W c with
  | none => []
  | some k => s.collision.toList.map (twinCall s bytes W c k)

theorem Holds.callHandler (h : Holds ctx W c) (k : Dv) : Build.callHandler (ctx.withTwin W c k) =
    ctx.collision.toList.map (twinCall ctx.settings ctx.bytes W c k) := by
  rw [Build.callHandler]
  cases hcoll : (ctx.withTwin W c k).collision with
  | none =>
    have : ctx.collision = none := hcoll
    rw [this]
    rfl
  | some collision =>
    have : ctx.collision = some collision := hcoll
    rw [this, Ctx.wordsBlockIn, Ctx.wordsTwinIn, Ctx.wordsTwinOut, Ctx.wordsBlockW, Ctx.wordsTwinW,
      Ctx.wordsBlockState, show (ctx.withTwin W c k).blockW = W from h.blockW,
      show (ctx.withTwin W c k).blockIn = c from h.blockIn,
      show (ctx.withTwin W c k).blockState = savedStates W.seq c from h.blockState]
    rfl

/-- `dvs[i / 8] & UINT8_C(1) << i % 8` -/
theorem testBit_eq_zero_iff (x : Byte) (i : Nat) : x &&& (1 <<< (i % 8)) = 0 ↔ x.getLsbD (i % 8) = false := by
  rw [← and_twoPow_ne_zero x (Nat.mod_lt i (by decide))]
  exact (bne_eq_false_iff_eq (a := x &&& BitVec.twoPow 8 (i % 8)) (b := 0)).symm

/-- How the loop ends from `i` on: at the least vector that is confirmed, or with a changed twin. -/
def LoopEnd (W : ExpandedBlock) (c : ChainingValue) (ctx : Ctx) (i : Nat) (r : Ctx × List HandlerCall) :
    Prop :=
  ((∀ k : Dv, i ≤ k → ¬ Hits ctx.settings W c k) ∧
    ∃ twinW twinIn twinOut, r = ({ ctx with twinW, twinIn, twinOut }, [])) ∨
  ∃ k : Dv, i ≤ k ∧ Hits ctx.settings W c k ∧ (∀ j : Dv, i ≤ j → j < k → ¬ Hits ctx.settings W c j) ∧
    ∃ cv, cv = safeHash ctx.doSafeHash W c ∧ r = ({ ctx.withTwin W c k with foundCollision := true, cv },
      ctx.collision.toList.map (twinCall ctx.settings ctx.bytes W c k))

theorem LoopEnd.of_succ {k : Dv} {r : Ctx × List HandlerCall} (hk : ¬ Hits ctx.settings W c k)
    (h : LoopEnd W c ctx (k + 1) r) : LoopEnd W c ctx k r := by
  have hcase : ∀ j : Dv, k.val ≤ j → j = k ∨ k.val + 1 ≤ j := fun j hj =>
    (Nat.eq_or_lt_of_le hj).imp (fun h => Fin.ext h.symm) id
  rcases h with ⟨hnone, hr⟩ | ⟨k', hk', hit, hleast, hr⟩
  · exact .inl ⟨fun j hj => (hcase j hj).elim (fun h => h ▸ hk) (hnone j), hr⟩
  · exact .inr ⟨k', by omega, hit, fun j hj => (hcase j hj).elim (fun h _ => h ▸ hk) (hleast j), hr⟩

theorem wp_dvLoop {dvs : Vector Byte dvmaskBytes} {i n : Nat} (h : Holds ctx W c)
    (hdvs : ∀ k : Dv, dvBit dvs k = true ↔ (ctx.ubcCheck = true → Possible ubcs W.seq k))
    (hn : i + n = nDisturbanceVectors) : wp (Build.dvLoop dvs i n ctx) (LoopEnd W c ctx i) := by
  induction n generalizing i ctx with
  | zero =>
    rw [Build.dvLoop, wp_pure]
    exact .inl ⟨fun k hk => absurd k.isLt (by omega), _, _, _, rfl⟩
  | succ n ih =>
    obtain ⟨k, rfl⟩ : ∃ k : Dv, i = k := ⟨⟨i, by omega⟩, rfl⟩
    have hk8 := byte_lt_dvmaskBytes k
    have hbit : dvBit dvs k = dvs[k.val / 8].getLsbD (k % 8) := dif_pos hk8
    rw [Build.dvLoop, rd_eq _ hk8, ok_bind]
    by_cases hzero : dvs[k.val / 8] &&& (1 <<< (k.val % 8)) = 0
    · rw [if_pos hzero]
      rw [testBit_eq_zero_iff, ← hbit] at hzero
      refine wp_mono (ih h hdvs (by omega)) fun r => LoopEnd.of_succ fun hit => ?_
      rw [(hdvs k).mpr hit.1] at hzero
      exact Bool.false_ne_true hzero.symm
    · rw [if_neg hzero, h.recompressTwin k, ok_bind]
      rw [testBit_eq_zero_iff, ← hbit, Bool.not_eq_false, hdvs] at hzero
      have hconf : ((ctx.withTwin W c k).twinOut = (ctx.withTwin W c k).cv ∨
          (ctx.withTwin W c k).reducedRoundColl = true ∧
            (ctx.withTwin W c k).twinIn = (ctx.withTwin W c k).blockIn) ↔
          Confirms ctx.reducedRoundColl k W c := by
        rw [show (ctx.withTwin W c k).cv = compress W.seq c from h.cv,
          show (ctx.withTwin W c k).blockIn = c from h.blockIn]
        rfl
      by_cases hc : Confirms ctx.reducedRoundColl k W c
      · rw [if_pos (hconf.mpr hc)]
        have hfound : Holds { ctx.withTwin W c k with foundCollision := true } W c :=
          ⟨h.blockIn, h.cv, h.blockW, h.blockState⟩
        dsimp only
        rw [wp_bind]
        refine wp_mono hfound.rehash ?_
        rintro _ ⟨cv, hcv, rfl⟩
        rw [wp_pure]
        refine .inr ⟨k, Nat.le_refl _, ⟨hzero, hc⟩, fun j hj hjk => absurd hjk (Nat.not_lt.mpr hj), cv,
          hcv, ?_⟩
        exact Prod.ext rfl (h.callHandler k)
      · rw [if_neg (hc ∘ hconf.mp)]
        exact wp_mono (ih (h.withTwin k) hdvs (by omega)) fun r => LoopEnd.of_succ fun hit => hc hit.2

/-! ### The whole -/

/-- What processing the block from `ctx` leaves in the context, and the calls it makes. -/
structure Processed (ctx : Ctx) (block : Block) (r : Ctx × List HandlerCall) : Prop where
  buffer : r.1.buffer = ctx.buffer
  bytes : r.1.bytes = ctx.bytes
  settings : r.1.settings = ctx.settings
  holds : r.1.blockIn = ctx.cv ∧ r.1.blockW = expand block ∧
    r.1.blockState = savedStates (expand block).seq ctx.cv
  cv : r.1.cv = hashBlock ctx.settings (expand block) ctx.cv
  found : r.1.foundCollision =
    (ctx.foundCollision || (detect ctx.settings (expand block) ctx.cv).isSome)
  twin : ∀ k, detect ctx.settings (expand block) ctx.cv = some k →
    r.1.twinW = twinOf k (expand block) ∧ r.1.twinIn = twinIn k (expand block) ctx.cv
  calls : r.2 = blockCalls ctx.settings ctx.bytes (expand block) ctx.cv

def Ctx.added (ctx : Ctx) (cv : ChainingValue) (W : ExpandedBlock)
    (blockState : Vector ChainingValue nNeededStates) : Ctx :=
  { ctx with blockIn := ctx.cv, cv, blockW := W, blockState }

section
variable {block : Block} {cv : ChainingValue} {blockState : Vector ChainingValue nNeededStates}

theorem detect_eq_none (h : ∀ k, ctx.detectColl = true → ¬ Hits ctx.settings (expand block) ctx.cv k) :
    detect ctx.settings (expand block) ctx.cv = none := by
  rw [← Option.not_isSome_iff_eq_none, detect_isSome_iff]
  exact fun ⟨hdetect, k, hit⟩ => h k hdetect hit

theorem processed_of_none (h : Holds (ctx.added cv W blockState) (expand block) ctx.cv)
    (hnone : detect ctx.settings (expand block) ctx.cv = none)
    (twinW : ExpandedBlock) (twinIn twinOut : ChainingValue) :
    Processed ctx block ({ ctx.added cv W blockState with twinW, twinIn, twinOut }, []) where
  buffer := rfl
  bytes := rfl
  settings := rfl
  holds := ⟨rfl, h.blockW, h.blockState⟩
  cv := by
    rw [hashBlock, hnone, if_neg (by simp)]
    exact h.cv
  found := by
    rw [hnone, Option.isSome_none, Bool.or_false]
    rfl
  twin k hk := absurd (hnone.symm.trans hk) (by simp)
  calls := by rw [blockCalls, hnone]

theorem processed_of_some {k : Dv} (h : Holds (ctx.added cv W blockState) (expand block) ctx.cv)
    (hsome : detect ctx.settings (expand block) ctx.cv = some k) {cv' : ChainingValue}
    (hcv' : cv' = safeHash ctx.doSafeHash (expand block) ctx.cv) :
    Processed ctx block ({ (ctx.added cv W blockState).withTwin (expand block) ctx.cv k with
      foundCollision := true, cv := cv' },
      ctx.collision.toList.map (twinCall ctx.settings ctx.bytes (expand block) ctx.cv k)) where
  buffer := rfl
  bytes := rfl
  settings := rfl
  holds := ⟨rfl, h.blockW, h.blockState⟩
  cv := by
    rw [hashBlock, hsome, Option.isSome_some, if_pos rfl]
    exact hcv'
  found := by
    rw [hsome, Option.isSome_some, Bool.or_true]
  twin k' hk := by
    obtain rfl : k = k' := Option.some.inj (hsome.symm.trans hk)
    exact ⟨rfl, rfl⟩
  calls := by
    rw [blockCalls, hsome]
    rfl

end

theorem wp_process (b : Build) (ctx : Ctx) (block : Block) :
    wp (b.process ctx block) (Processed ctx block) := by
  rw [Build.process, addBlockExpandingSaving_eq, ok_bind]
  have hcv : ∃ cv, cv = compress (expand block).seq ctx.cv := ⟨_, rfl⟩
  have hstate : ∃ blockState, blockState = savedStates (expand block).seq ctx.cv := ⟨_, rfl⟩
  obtain ⟨cv, hcv⟩ := hcv
  obtain ⟨blockState, hstate⟩ := hstate
  dsimp only
  rw [← hcv, ← hstate]
  have h : Holds (ctx.added cv (expand block) blockState) (expand block) ctx.cv :=
    ⟨rfl, hcv, rfl, hstate⟩
  clear hcv hstate
  change wp (if ¬ ctx.detectColl = true then pure (ctx.added cv (expand block) blockState, []) else do
    let dvs ← b.processDvs (ctx.added cv (expand block) blockState)
    if ¬ checkDvmask b.order dvs.toList = true then pure (ctx.added cv (expand block) blockState, [])
    else Build.dvLoop dvs 0 nDisturbanceVectors (ctx.added cv (expand block) blockState)) _
  by_cases hdetect : ctx.detectColl = true
  · rw [if_neg (not_not.mpr hdetect), wp_bind]
    refine wp_mono (wp_processDvs b (ctx.added cv (expand block) blockState)) fun dvs hdvs => ?_
    by_cases hcheck : checkDvmask b.order dvs.toList = true
    · rw [if_neg (not_not.mpr hcheck)]
      refine wp_mono (wp_dvLoop h hdvs rfl) ?_
      rintro _ (⟨hnone, twinW, twinIn, twinOut, rfl⟩ | ⟨k, -, hit, hleast, cv', hcv', rfl⟩)
      · exact processed_of_none h (detect_eq_none fun k _ => hnone k (Nat.zero_le _)) _ _ _
      · exact processed_of_some h (detect_eq_some_iff.mpr
          ⟨hdetect, hit, fun j hj => hleast j (Nat.zero_le _) hj⟩) hcv'
    · rw [if_pos hcheck, wp_pure]
      refine processed_of_none h (detect_eq_none fun k _ hit => ?_) ctx.twinW ctx.twinIn ctx.twinOut
      have hbit := (hdvs k).mpr hit.1
      rw [dvBit_of_checkDvmask hcheck] at hbit
      exact Bool.false_ne_true hbit
  · rw [if_pos hdetect, wp_pure]
    exact processed_of_none h (detect_eq_none fun k h => absurd h hdetect) ctx.twinW ctx.twinIn ctx.twinOut

end Sha1dc
