import Sha1dc.Hash

/-!
# No fault in any sequence of calls

Calls to `unreachable()`, accesses outside an array, subtractions below zero and failed checks are faults
of the model. After `sha1dc_init` no sequence of calls of the interface meets one, whatever the bytes and
the build, and a block can be processed from every context that is reached, on either path of the
compression and by either filter (`runCalls_safe`).
-/

namespace Sha1dc
open Checked Fips Feed

inductive Call
  | init
  | stream (op : Op)
  | finish

def Call.exec (b : Build) (ctx : Ctx) : Call → Chk Ctx
  | init => return b.init ctx
  | stream op => do return (← op.exec b ctx).1
  | finish => do return (← b.finish ctx).ctx

def runCalls (b : Build) : Ctx → List Call → Chk Ctx
  | ctx, [] => return ctx
  | ctx, call :: calls => do runCalls b (← call.exec b ctx) calls

/-- The context is that of some feed. -/
def Fitting (ctx : Ctx) : Prop := ∃ feed calls, Sim feed ctx calls

variable {b : Build} {ctx : Ctx}

theorem Fitting.wp_exec (b : Build) (h : Fitting ctx) (call : Call) : wp (call.exec b ctx) Fitting := by
  obtain ⟨feed, calls, h⟩ := h
  cases call with
  | init =>
    rw [Call.exec, wp_pure]
    exact ⟨[], [], sim_init b ctx⟩
  | stream op =>
    rw [Call.exec, wp_bind]
    refine wp_mono (h.wp_exec b op) ?_
    rintro r ⟨hsim, -⟩
    rw [wp_pure]
    exact ⟨_, _, hsim⟩
  | finish =>
    rw [Call.exec, wp_bind]
    refine wp_mono (h.wp_finish b) ?_
    rintro r ⟨hsim, -⟩
    rw [wp_pure]
    exact ⟨_, _, hsim⟩

theorem Fitting.wp_runCalls (b : Build) (h : Fitting ctx) (calls : List Call) :
    wp (runCalls b ctx calls) Fitting := by
  induction calls generalizing ctx with
  | nil =>
    rw [runCalls, wp_pure]
    exact h
  | cons call calls ih =>
    rw [runCalls, wp_bind]
    exact wp_mono (h.wp_exec b call) fun ctx' h' => ih h'

/-! ### One block, on every path -/

/-- The slot that a vector's state is read back from exists and holds the state of this block, so the
twin can be recompressed. -/
structure SlotSafe (ctx : Ctx) (block : Block) (states : Vector ChainingValue nNeededStates) (k : Dv) :
    Prop where
  slot : ∃ slot : Nat, rd needState (testState k) = .ok (slot : Int) ∧
    states[slot]? = some (stateAt (expand block).seq (testState k) ctx.cv)
  recompress : ∀ W tCv, ∃ r, sha1RecompressAt (testState k) W tCv = .ok r

/-- Everything that may run when the block is processed ends without a fault. -/
structure BlockSafe (ctx : Ctx) (block : Block) : Prop where
  saving : ∀ u, ∃ r,
    sha1AddBlockExpandingSavingPortable needState ctx.cv block ctx.blockW ctx.blockState = .ok r ∧
    sha1AddBlockExpandingSavingX86v2sha needState u ctx.cv block ctx.blockW ctx.blockState = .ok r ∧
    ∀ k, SlotSafe ctx block r.2.2 k
  baseline : ∀ order W, ∃ dvs, ubcCheckBaseline order ubcs W = .ok dvs
  avx512 : ∀ unrollingLoops optimize u W, ∃ dvs, ubcCheckAvx512 unrollingLoops optimize u W = .ok dvs
  rehash : ∀ cv W, ∃ r, sha1AddBlock cv W = .ok r
  process : ∀ b : Build, ∃ r, b.process ctx block = .ok r

theorem slotSafe {block : Block} {states : Vector ChainingValue nNeededStates}
    (h : Saves shipped (fun t => stateAt (expand block).seq t ctx.cv) (· < 81) states) (k : Dv) :
    SlotSafe ctx block states k := by
  have ht := testState_le k
  have hn := needed_testState k
  have hneed : rd needState (testState k) = .ok (needAt needState (testState k)) :=
    rd_table needState (by omega)
  refine ⟨⟨shipped.idx (testState k), hneed.trans (congrArg Except.ok hn.needAt_eq), h _ hn.lt hn⟩,
    fun W tCv => ?_⟩
  rw [sha1RecompressAt, if_pos ht, hneed, ok_bind, if_neg (show needAt needState (testState k) ≠ -1 from hn),
    sha1AddBlockPredict_eq ht]
  exact ⟨_, rfl⟩

theorem blockSafe (ctx : Ctx) (block : Block) : BlockSafe ctx block where
  saving u := ⟨_, savingPortable_eq ctx.cv block ctx.blockW ctx.blockState,
    savingX86v2sha_eq u ctx.cv block ctx.blockW ctx.blockState, slotSafe (saves_savedStates _ _)⟩
  baseline order W :=
    have ⟨dvs, h, _⟩ := wp_ubcCheckBaseline order (by decide) valid_ubcs W
    ⟨dvs, h⟩
  avx512 unrollingLoops optimize u W :=
    have ⟨dvs, h, _⟩ := wp_ubcCheckAvx512 unrollingLoops optimize u W
    ⟨dvs, h⟩
  rehash cv W := ⟨_, sha1AddBlock_eq cv W⟩
  process b :=
    have ⟨r, h, _⟩ := wp_process b ctx block
    ⟨r, h⟩

/-- No sequence of calls faults, and from where it leads no block does. -/
theorem runCalls_safe (b : Build) (ctx₀ : Ctx) (calls : List Call) :
    ∃ ctx, runCalls b (b.init ctx₀) calls = .ok ctx ∧ ∀ block, BlockSafe ctx block :=
  have ⟨ctx, h, _⟩ := Fitting.wp_runCalls b ⟨[], [], sim_init b ctx₀⟩ calls
  ⟨ctx, h, blockSafe ctx⟩

end Sha1dc
