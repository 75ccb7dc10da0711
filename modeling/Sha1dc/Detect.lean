import Sha1dc.ProcessSim

/-!
# What a flagged block shows

`sha1dc_process` flags exactly the blocks that have a twin by one of the vectors (`process_flags_iff`); a
flagged block and its twin are a collision of the compression function (`flagged_collides`), and the
twin is flagged in its turn (`twin_flagged`). The handler is called once for it, but with its pointer
arguments in another order than `sha1dc_collision_handler` declares them (`handlerContract_fails`).
-/

namespace Sha1dc
open Checked Fips

/-- Whether processing the block sets `found_collision`. -/
def Build.flags (b : Build) (ctx : Ctx) (block : Block) : Bool :=
  match b.process { ctx with foundCollision := false } block with
  | .ok (ctx', _) => ctx'.foundCollision
  | .error _ => false

variable {b : Build} {ctx : Ctx} {block : Block}

theorem flags_eq (b : Build) (ctx : Ctx) (block : Block) :
    b.flags ctx block = (detect ctx.settings (expand block) ctx.cv).isSome := by
  obtain ⟨r, hr, h⟩ := wp_process b { ctx with foundCollision := false } block
  rw [Build.flags, hr]
  exact h.found

theorem exists_of_flags (h : b.flags ctx block = true) :
    ∃ k, detect ctx.settings (expand block) ctx.cv = some k := by
  rw [flags_eq, Option.isSome_iff_exists] at h
  exact h

/-! ### A flagged block -/

def portable : Build where
  order := .little
  allowUnalignedAccess := true
  sizeT32 := false
  doSafeHashDefault := true
  sha := false
  avx512 := false
  unrollingLoops := true
  optimize := true
  shaUninit _ _ := ⟨.replicate 4 0, .replicate 4 0, .replicate 4 0, ⟨0, 0, 0, 0, 0⟩⟩
  avx512Uninit _ := ⟨.replicate 16 0, .replicate 4 0⟩
  x86_little := by simp

def shatteredCtx : Ctx where
  buffer := .replicate 64 0
  cv := shatteredIn
  bytes := 320
  foundCollision := false
  doSafeHash := true
  detectColl := true
  ubcCheck := true
  reducedRoundColl := false
  collision := some 1
  collisionClosure := 2
  blockIn := default
  twinIn := default
  twinOut := default
  blockW := .replicate 80 0
  twinW := .replicate 80 0
  blockState := .replicate nNeededStates default

theorem shattered_flagged : portable.flags shatteredCtx shatteredBlock = true := by decide +kernel

/-! ### The criterion -/

/-- From `c'` the words of the twin for `k` collide with the block, which the filter does not rule out. -/
structure Criterion (b : Build) (ctx : Ctx) (W : ExpandedBlock) (k : Dv) (c' : ChainingValue) : Prop where
  filter : ctx.ubcCheck = false ∨ ∃ dvs, b.ubcCheck ctx W = .ok dvs ∧ dvBit dvs k = true
  state : stateAt (twinOf k W).seq (testState k) c' = stateAt W.seq (testState k) ctx.cv
  collides : compress (twinOf k W).seq c' = compress W.seq ctx.cv ∨
    ctx.reducedRoundColl = true ∧ c' = ctx.cv

theorem criterion_iff {W : ExpandedBlock} {k : Dv} {c' : ChainingValue} :
    Criterion b ctx W k c' ↔ c' = twinIn k W ctx.cv ∧ Hits ctx.settings W ctx.cv k := by
  obtain ⟨dvs, hdvs, hbit⟩ := wp_ubcCheck b ctx W
  have hfilter : (ctx.ubcCheck = false ∨ ∃ dvs, b.ubcCheck ctx W = .ok dvs ∧ dvBit dvs k = true) ↔
      (ctx.ubcCheck = true → Possible ubcs W.seq k) := by
    rw [← hbit k (byte_lt_dvmaskBytes k), hdvs]
    cases ctx.ubcCheck <;> simp
  constructor
  · rintro ⟨hfil, hstate, hcoll⟩
    obtain rfl := eq_twinIn_iff.mpr hstate
    exact ⟨rfl, hfilter.mp hfil, hcoll⟩
  · rintro ⟨rfl, hfil, hcoll⟩
    exact ⟨hfilter.mpr hfil, stateAt_twinIn k W ctx.cv, hcoll⟩

theorem exists_criterion_iff {W : ExpandedBlock} {k : Dv} :
    (∃ c', Criterion b ctx W k c') ↔ Hits ctx.settings W ctx.cv k := by
  simp only [criterion_iff, exists_eq_left]

/-- A block is flagged if and only if some vector and some chaining value meet the criterion; the least
such vector gives the twin. -/
theorem process_flags_iff (b : Build) (ctx : Ctx) (block : Block) (hdetect : ctx.detectColl = true) :
    (b.flags ctx block = true ↔ ∃ k c', Criterion b ctx (expand block) k c') ∧
    ∃ ctx' calls, b.process ctx block = .ok (ctx', calls) ∧
      ((¬ ∃ k c', Criterion b ctx (expand block) k c') →
        ctx'.foundCollision = ctx.foundCollision ∧ ctx'.cv = compress (expand block).seq ctx.cv) ∧
      ∀ k c', Criterion b ctx (expand block) k c' →
        (∀ j < k, ¬ ∃ c'', Criterion b ctx (expand block) j c'') →
        ctx'.foundCollision = true ∧ ctx'.twinW = twinOf k (expand block) ∧ ctx'.twinIn = c' ∧
        ctx'.cv = if ctx.doSafeHash then
            compress (expand block).seq (compress (expand block).seq (compress (expand block).seq ctx.cv))
          else compress (expand block).seq ctx.cv := by
  simp only [exists_criterion_iff]
  have hflags : b.flags ctx block = true ↔ ∃ k, Hits ctx.settings (expand block) ctx.cv k := by
    rw [flags_eq, detect_isSome_iff, and_iff_right (show ctx.settings.detectColl = true from hdetect)]
  obtain ⟨⟨ctx', calls⟩, hr, h⟩ := wp_process b ctx block
  refine ⟨hflags, ctx', calls, hr, fun hnone => ?_, fun k c' hk hleast => ?_⟩
  · have hdet := detect_eq_none fun k _ hit => hnone ⟨k, hit⟩
    refine ⟨?_, ?_⟩
    · rw [h.found, hdet, Option.isSome_none, Bool.or_false]
    · rw [h.cv, hashBlock, hdet, Option.isSome_none, if_neg Bool.false_ne_true]
  · obtain ⟨rfl, hit⟩ := criterion_iff.mp hk
    have hdet := detect_eq_some_iff.mpr ⟨hdetect, hit, hleast⟩
    have htwin := h.twin k hdet
    refine ⟨?_, htwin.1, htwin.2, ?_⟩
    · rw [h.found, hdet, Option.isSome_some, Bool.or_true]
    · rw [h.cv, hashBlock, hdet, Option.isSome_some, if_pos rfl]
      rfl

theorem process_flags_iff_shattered :
    ∃ k c', Criterion portable shatteredCtx (expand shatteredBlock) k c' :=
  (process_flags_iff portable shatteredCtx shatteredBlock rfl).1.mp shattered_flagged

/-! ### The twin of a flagged block -/

/-- The twin of a flagged block is another block with the words `twin_W`, and collides with it; with
reduced rounds it may instead start from the same chaining value and meet the block at the test state.
Behind it is that every mask turns expansions into expansions. -/
theorem flagged_collides (b : Build) (ctx : Ctx) (block : Block) (h : b.flags ctx block = true) :
    (∃ ctx' calls, b.process ctx block = .ok (ctx', calls) ∧
      let twin := blockOfWords ctx'.twinW.seq
      twin ≠ block ∧ ctx'.twinW = expand twin ∧ IsExpansion ctx'.twinW.seq ∧
      (compress (expand twin).seq ctx'.twinIn = compress (expand block).seq ctx.cv ∨
        ctx.reducedRoundColl = true ∧ ctx'.twinIn = ctx.cv ∧
          ∃ k, ctx'.twinW = twinOf k (expand block) ∧
            stateAt (expand twin).seq (testState k) ctx.cv =
              stateAt (expand block).seq (testState k) ctx.cv)) ∧
    ∀ (k : Dv) (W : Nat → Word), IsExpansion W → IsExpansion fun t => W t ^^^ (messageMask k).seq t := by
  refine ⟨?_, fun k W => isExpansion_xor_messageMask k⟩
  obtain ⟨⟨ctx', calls⟩, hr, hp⟩ := wp_process b ctx block
  obtain ⟨k, hk⟩ := exists_of_flags h
  obtain ⟨hW, hin⟩ := hp.twin k hk
  have hconf := (detect_eq_some_iff.mp hk).2.1.2
  refine ⟨ctx', calls, hr, ?_⟩
  dsimp only at hW hin ⊢
  rw [hW, hin, show blockOfWords (twinOf k (expand block)).seq = twinBlock k block from rfl,
    expand_twinBlock]
  refine ⟨twinBlock_ne k block, rfl, isExpansion_twinOf k (isExpansion_expand block), ?_⟩
  refine hconf.imp id fun ⟨hreduced, heq⟩ => ⟨hreduced, heq, k, rfl, ?_⟩
  have hstate := stateAt_twinIn k (expand block) ctx.cv
  rwa [heq] at hstate

theorem flagged_collides_shattered : ∃ ctx' calls,
    portable.process shatteredCtx shatteredBlock = .ok (ctx', calls) ∧
      let twin := blockOfWords ctx'.twinW.seq
      twin ≠ shatteredBlock ∧ ctx'.twinW = expand twin ∧ IsExpansion ctx'.twinW.seq ∧
      compress (expand twin).seq ctx'.twinIn = compress (expand shatteredBlock).seq shatteredCtx.cv := by
  obtain ⟨⟨ctx', calls, hr, hne, hexpand, hexp, hcollides⟩, -⟩ :=
    flagged_collides portable _ _ shattered_flagged
  exact ⟨ctx', calls, hr, hne, hexpand, hexp,
    hcollides.resolve_right fun h => absurd h.1 Bool.false_ne_true⟩

/-- Processing the twin of a flagged block from its own chaining value flags it, too, in every build and
from every context with the same three settings. -/
theorem twin_flagged (b : Build) (ctx : Ctx) (block : Block) (h : b.flags ctx block = true) :
    ∃ ctx' calls, b.process ctx block = .ok (ctx', calls) ∧ ∀ (b₂ : Build) (ctx₂ : Ctx),
      b₂.flags { ctx₂ with
        cv := ctx'.twinIn
        detectColl := ctx.detectColl
        ubcCheck := ctx.ubcCheck
        reducedRoundColl := ctx.reducedRoundColl } (blockOfWords ctx'.twinW.seq) = true := by
  obtain ⟨⟨ctx', calls⟩, hr, hp⟩ := wp_process b ctx block
  obtain ⟨k, hk⟩ := exists_of_flags h
  obtain ⟨hW, hin⟩ := hp.twin k hk
  obtain ⟨hdetect, hit, -⟩ := detect_eq_some_iff.mp hk
  refine ⟨ctx', calls, hr, fun b₂ ctx₂ => ?_⟩
  dsimp only at hW hin ⊢
  rw [hW, hin, show blockOfWords (twinOf k (expand block)).seq = twinBlock k block from rfl, flags_eq,
    expand_twinBlock, detect_isSome_iff]
  exact ⟨hdetect, k, hit.twin⟩

theorem twin_flagged_shattered : ∃ ctx' calls,
    portable.process shatteredCtx shatteredBlock = .ok (ctx', calls) ∧
      portable.flags { shatteredCtx with cv := ctx'.twinIn } (blockOfWords ctx'.twinW.seq) = true :=
  have ⟨ctx', calls, hr, hflags⟩ := twin_flagged portable _ _ shattered_flagged
  ⟨ctx', calls, hr, hflags portable shatteredCtx⟩

/-! ### The handler -/

/-- The handler is called by its declaration: once, with the closure, the offset, the words of the block and
of its twin, and their chaining values. -/
def CalledAsDeclared (b : Build) (ctx : Ctx) (block : Block) : Prop :=
  ∃ ctx' call k, b.process ctx block = .ok (ctx', [call]) ∧
    ctx.collision = some call.handler ∧ call.closure = ctx.collisionClosure ∧
    call.byteOffset = ctx.bytes ∧ detect ctx.settings (expand block) ctx.cv = some k ∧
    call.blockW.take 80 = (expand block).toList ∧
    call.twinW.take 80 = (twinOf k (expand block)).toList ∧
    call.blockIn.take 5 = ctx.cv.toList ∧
    ∃ c', call.twinIn.take 5 = c'.toList ∧ (ctx.reducedRoundColl = false →
      compress (twinOf k (expand block)).seq c' = compress (expand block).seq ctx.cv)

/-- The contract of the handler: a flagged block calls it by its declaration, if it is set. -/
def HandlerContract (b : Build) (ctx : Ctx) (block : Block) : Prop :=
  b.flags ctx block = true → ctx.collision ≠ none → CalledAsDeclared b ctx block

/-- Words read through a pointer to something in front of `block_W`. -/
theorem getElem?_wordsBlockW (front : List Word) (W : ExpandedBlock) (rest : List Word) {i : Nat}
    (hi : i < 80) : (front ++ (W.toList ++ rest))[front.length + i]? = some (W.seq i) := by
  rw [List.getElem?_append_right (Nat.le_add_right _ _), Nat.add_sub_cancel_left,
    List.getElem?_append_left (by simpa using hi)]
  simp [W.seq_eq hi, hi]

theorem getElem?_of_take {l : List Word} {V : ExpandedBlock} (h : l.take 80 = V.toList) {i : Nat}
    (hi : i < 80) : l[i]? = some (V.seq i) := by
  rw [← List.getElem?_take_of_lt hi, h]
  simp [V.seq_eq hi, hi]

/-- The words passed as `block_W` and `twin_W` are never those of the block and of its twin: they start
with the chaining values, so the block would repeat itself with the periods 15 and, up to the mask, 10. -/
theorem twinCall_ne (s : Settings) (bytes : BitVec 64) (W : ExpandedBlock) (c : ChainingValue) (k : Dv)
    (collision : Pointer) (hblock : (twinCall s bytes W c k collision).blockW.take 80 = W.toList) :
    (twinCall s bytes W c k collision).twinW.take 80 ≠ (twinOf k W).toList := by
  intro htwin
  let rest := (twinOf k W).toList ++ (savedStates W.seq c).toList.flatMap ChainingValue.toList
  let out := compress (twinOf k W).seq (twinIn k W c)
  have hblockW : (twinCall s bytes W c k collision).blockW =
      (c.toList ++ (twinIn k W c).toList ++ out.toList) ++ (W.toList ++ rest) := by
    simp [twinCall, rest, out]
  have htwinW : (twinCall s bytes W c k collision).twinW =
      ((twinIn k W c).toList ++ out.toList) ++ (W.toList ++ rest) := by
    simp [twinCall, rest, out]
  have h15 : ∀ i < 65, W.seq (15 + i) = W.seq i := fun i hi => by
    have h₁ := getElem?_of_take hblock (show 15 + i < 80 by omega)
    have h₂ := getElem?_wordsBlockW (c.toList ++ (twinIn k W c).toList ++ out.toList) W rest
      (show i < 80 by omega)
    rw [← hblockW] at h₂
    exact Option.some.inj (h₁.symm.trans h₂)
  have h10 : ∀ i < 70, W.seq (10 + i) ^^^ (messageMask k).seq (10 + i) = W.seq i := fun i hi => by
    have h₁ := getElem?_of_take htwin (show 10 + i < 80 by omega)
    have h₂ := getElem?_wordsBlockW ((twinIn k W c).toList ++ out.toList) W rest
      (show i < 80 by omega)
    rw [← htwinW] at h₂
    rw [← seq_twinOf k W (by omega)]
    exact Option.some.inj (h₁.symm.trans h₂)
  refine messageMask_ten_ne k ?_
  have hmask : W.seq 10 ^^^ (messageMask k).seq 10 = W.seq 10 ^^^ (messageMask k).seq 25 :=
    calc W.seq 10 ^^^ (messageMask k).seq 10 = W.seq 0 := h10 0 (by decide)
      _ = W.seq 15 := (h15 0 (by decide)).symm
      _ = W.seq 25 ^^^ (messageMask k).seq 25 := (h10 15 (by decide)).symm
      _ = W.seq 10 ^^^ (messageMask k).seq 25 := by rw [← h15 10 (by decide)]
  have := congrArg (W.seq 10 ^^^ ·) hmask
  simpa [← BitVec.xor_assoc] using this

theorem not_calledAsDeclared (b : Build) (ctx : Ctx) (block : Block) : ¬ CalledAsDeclared b ctx block := by
  rintro ⟨ctx', call, k, hr, -, -, -, hk, hblock, htwin, -⟩
  obtain ⟨r, hr', h⟩ := wp_process b ctx block
  obtain rfl : (ctx', [call]) = r := Except.ok.inj (hr.symm.trans hr')
  have hcalls := h.calls
  rw [blockCalls, hk] at hcalls
  cases hcoll : ctx.settings.collision with
  | none => simp [hcoll] at hcalls
  | some collision =>
    obtain rfl : call = twinCall ctx.settings ctx.bytes (expand block) ctx.cv k collision := by
      simpa [hcoll] using hcalls
    exact twinCall_ne _ _ _ _ _ _ hblock htwin

/-- The call as it is made: once, with the chaining values where the words are declared. -/
theorem flagged_calls {collision : Pointer} (hcoll : ctx.collision = some collision)
    (h : b.flags ctx block = true) : ∃ ctx' k call, b.process ctx block = .ok (ctx', [call]) ∧
      detect ctx.settings (expand block) ctx.cv = some k ∧
      call.handler = collision ∧ call.closure = ctx.collisionClosure ∧ call.byteOffset = ctx.bytes ∧
      call.blockW.take 5 = ctx.cv.toList ∧ call.twinW.take 5 = (twinIn k (expand block) ctx.cv).toList ∧
      call.blockIn.take 80 = (expand block).toList ∧
      call.twinIn.take 80 = (twinOf k (expand block)).toList := by
  obtain ⟨⟨ctx', calls⟩, hr, hp⟩ := wp_process b ctx block
  obtain ⟨k, hk⟩ := exists_of_flags h
  obtain rfl : calls = [twinCall ctx.settings ctx.bytes (expand block) ctx.cv k collision] := by
    refine Eq.trans hp.calls ?_
    rw [blockCalls, hk, show ctx.settings.collision = some collision from hcoll]
    rfl
  exact ⟨ctx', k, _, hr, hk, rfl, rfl, rfl, List.take_left' (by simp), List.take_left' (by simp),
    List.take_left' (by simp), List.take_left' (by simp)⟩

/-- Whenever a block is flagged and a handler is set, the call breaks the contract. -/
theorem handlerContract_fails (b : Build) (ctx : Ctx) (block : Block) (hcoll : ctx.collision ≠ none)
    (hflags : b.flags ctx block = true) : ¬ HandlerContract b ctx block :=
  fun h => not_calledAsDeclared b ctx block (h hflags hcoll)

theorem handlerContract_fails_shattered : ¬ HandlerContract portable shatteredCtx shatteredBlock :=
  handlerContract_fails portable _ _ (by decide) shattered_flagged

theorem handlerContract_counterexample : portable.flags shatteredCtx shatteredBlock = true ∧
    shatteredCtx.collision = some 1 ∧ ¬ HandlerContract portable shatteredCtx shatteredBlock :=
  ⟨shattered_flagged, rfl, fun h => not_calledAsDeclared _ _ _ (h shattered_flagged (by decide))⟩

end Sha1dc
