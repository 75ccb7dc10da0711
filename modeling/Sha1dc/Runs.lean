import Sha1dc.IngestSim

/-!
# Sequences of calls

Any interleaving of `sha1dc_ingest` and the setters after `sha1dc_init` leaves the context and the
handler with what the block machine says about the bytes fed so far (`runOps_simulates`).
-/

namespace Sha1dc
open Checked Blocks Fips Feed

inductive Setter
  | setDoSafeHash (doSafeHash : Bool)
  | setUseUbc (ubcCheck : Bool)
  | setDetectColl (detectColl : Bool)
  | setDetectReducedRoundColl (reducedRoundColl : Bool)
  | setCallback (collision : Option Pointer) (closure : Pointer)

namespace Setter

def exec (ctx : Ctx) : Setter → Ctx
  | setDoSafeHash doSafeHash => ctx.setDoSafeHash doSafeHash
  | setUseUbc ubcCheck => ctx.setUseUbc ubcCheck
  | setDetectColl detectColl => ctx.setDetectColl detectColl
  | setDetectReducedRoundColl reducedRoundColl => ctx.setDetectReducedRoundColl reducedRoundColl
  | setCallback collision closure => ctx.setCallback collision closure

def apply (s : Settings) : Setter → Settings
  | setDoSafeHash doSafeHash => { s with doSafeHash }
  | setUseUbc ubcCheck => { s with ubcCheck }
  | setDetectColl detectColl => { s with detectColl }
  | setDetectReducedRoundColl reducedRoundColl => { s with reducedRoundColl }
  | setCallback collision closure => { s with collision, collisionClosure := closure }

theorem settings_exec (ctx : Ctx) (σ : Setter) : (σ.exec ctx).settings = σ.apply ctx.settings := by
  cases σ <;> rfl

end Setter

/-- A call between `sha1dc_init` and `sha1dc_finish`. -/
inductive Op
  | ingest (chunk : List Byte)
  | set (σ : Setter)

namespace Op

def chunk : Op → List Byte
  | ingest chunk => chunk
  | set _ => []

def settings (s : Settings) : Op → Settings
  | ingest _ => s
  | set σ => σ.apply s

def exec (b : Build) (ctx : Ctx) : Op → Chk (Ctx × List HandlerCall)
  | ingest chunk => b.ingest ctx chunk chunk.length
  | set σ => return (σ.exec ctx, [])

end Op

def runOps (b : Build) : Ctx → List Op → Chk (Ctx × List HandlerCall)
  | ctx, [] => return (ctx, [])
  | ctx, op :: ops => do
    let (ctx, calls) ← op.exec b ctx
    let (ctx, calls') ← runOps b ctx ops
    return (ctx, calls ++ calls')

/-- The bytes that `ops` supply, each with the settings it comes under. -/
def feedOf : Settings → List Op → Feed
  | _, [] => []
  | s, op :: ops => under op.chunk s ++ feedOf (op.settings s) ops

variable {b : Build} {feed : Feed} {ctx : Ctx} {calls : List HandlerCall}

/-- Changing the settings does not touch what the machine describes. -/
theorem Sim.set (h : Sim feed ctx calls) (σ : Setter) : Sim feed (σ.exec ctx) calls := by
  cases σ <;> exact ⟨h.bytes, h.buffer, h.cv, h.found, h.calls⟩

theorem Sim.wp_exec (b : Build) (h : Sim feed ctx calls) (op : Op) : wp (op.exec b ctx) fun r =>
    Sim (feed ++ under op.chunk ctx.settings) r.1 (calls ++ r.2) ∧
      r.1.settings = op.settings ctx.settings := by
  cases op with
  | ingest chunk =>
    have hfed := h.wp_ingest b (Nat.le_refl chunk.length)
    rwa [List.take_length] at hfed
  | set σ =>
    rw [Op.exec, wp_pure]
    refine ⟨?_, σ.settings_exec ctx⟩
    simp only [Op.chunk, under, List.map_nil, List.append_nil]
    exact h.set σ

theorem Sim.wp_runOps (b : Build) (h : Sim feed ctx calls) (ops : List Op) :
    wp (runOps b ctx ops) fun r => Sim (feed ++ feedOf ctx.settings ops) r.1 (calls ++ r.2) ∧
      r.1.settings = ops.foldl Op.settings ctx.settings := by
  induction ops generalizing feed ctx calls with
  | nil =>
    rw [runOps, wp_pure, feedOf, List.append_nil, List.append_nil]
    exact ⟨h, rfl⟩
  | cons op ops ih =>
    rw [runOps, wp_bind]
    refine wp_mono (h.wp_exec b op) ?_
    rintro ⟨ctx₁, calls₁⟩ ⟨h₁, hset₁⟩
    dsimp only
    rw [wp_bind]
    refine wp_mono (ih h₁) ?_
    rintro ⟨ctx₂, calls₂⟩ ⟨h₂, hset₂⟩
    rw [wp_pure, feedOf, List.foldl_cons, ← hset₁, ← List.append_assoc, ← List.append_assoc]
    exact ⟨h₂, hset₂⟩

theorem sim_init (b : Build) (ctx : Ctx) : Sim [] (b.init ctx) [] :=
  ⟨rfl, rfl, rfl, rfl, rfl⟩

theorem feedOf_append (s : Settings) (ops ops' : List Op) :
    feedOf s (ops ++ ops') = feedOf s ops ++ feedOf (ops.foldl Op.settings s) ops' := by
  induction ops generalizing s with
  | nil => rfl
  | cons op ops ih => rw [List.cons_append, feedOf, ih, feedOf, List.append_assoc, List.foldl_cons]

/-- What shows of a context: the counter, the bytes held, the chaining value, the flag, and the calls of
the handler so far. -/
def observe (r : Ctx × List HandlerCall) :
    BitVec 64 × List Byte × ChainingValue × Bool × List HandlerCall :=
  (r.1.bytes, r.1.buffer.toList.take (r.1.bytes.toNat % 64), r.1.cv, r.1.foundCollision, r.2)

theorem Sim.observe_eq (h : Sim feed ctx calls) : observe (ctx, calls) =
    (BitVec.ofNat 64 feed.length, Feed.bytes (tail 64 feed), (Machine.run feed).cv,
      (Machine.run feed).found, (Machine.run feed).calls) := by
  rw [observe]
  dsimp only
  rw [h.held, h.buffer, h.cv, h.found, ← h.calls, h.bytes]

theorem wp_runOps_init (b : Build) (ctx : Ctx) (ops : List Op) :
    wp (runOps b (b.init ctx) ops) fun r => Sim (feedOf (b.init ctx).settings ops) r.1 r.2 :=
  wp_mono ((sim_init b ctx).wp_runOps b ops) fun _ hr => hr.1

/-- For every sequence of calls after `sha1dc_init` the context shows what the machine does with the
blocks of the bytes that came; once found, a collision stays found; the handler is called once for each
block that is flagged while it is installed; and how the bytes are cut into chunks does not show. -/
theorem runOps_simulates (b : Build) (ctx₀ : Ctx) (ops : List Op) :
    let feed := feedOf (b.init ctx₀).settings ops
    (∃ ctx calls, runOps b (b.init ctx₀) ops = .ok (ctx, calls) ∧
      ctx.bytes = BitVec.ofNat 64 feed.length ∧
      ctx.buffer.toList.take (ctx.bytes.toNat % 64) = Feed.bytes (tail 64 feed) ∧
      ctx.cv = (Machine.run feed).cv ∧
      ctx.foundCollision = (List.range (feed.length / 64)).any (Machine.flagged feed) ∧
      calls = (Machine.run feed).calls ∧
      calls.map HandlerCall.byteOffset =
        ((List.range (feed.length / 64)).filter (Machine.reported feed)).map
          (fun j => BitVec.ofNat 64 (64 * (j + 1))) ∧
      ∀ ops', ∃ ctx' calls', runOps b (b.init ctx₀) (ops ++ ops') = .ok (ctx', calls') ∧
        ctx.foundCollision ≤ ctx'.foundCollision) ∧
    ∀ chunk chunk' ops',
      (runOps b (b.init ctx₀) (ops ++ .ingest chunk :: .ingest chunk' :: ops')).map observe =
      (runOps b (b.init ctx₀) (ops ++ .ingest (chunk ++ chunk') :: ops')).map observe := by
  intro feed
  refine ⟨?_, fun chunk chunk' ops' => ?_⟩
  · obtain ⟨⟨ctx, calls⟩, hr, hsim⟩ := wp_runOps_init b ctx₀ ops
    have hfound : ctx.foundCollision = (List.range (feed.length / 64)).any (Machine.flagged feed) := by
      rw [hsim.found, ← Machine.before_last, Machine.found_before (Nat.le_refl _)]
    refine ⟨ctx, calls, hr, hsim.bytes, by rw [hsim.held]; exact hsim.buffer, hsim.cv, hfound, hsim.calls,
      ?_, fun ops' => ?_⟩
    · have hcalls : calls = (Machine.run feed).calls := hsim.calls
      rw [hcalls, ← Machine.before_last, Machine.offsets_before (Nat.le_refl _)]
    · obtain ⟨⟨ctx', calls'⟩, hr', hsim'⟩ := wp_runOps_init b ctx₀ (ops ++ ops')
      refine ⟨ctx', calls', hr', ?_⟩
      rw [hsim.found, hsim'.found, feedOf_append]
      exact Machine.found_append _ _
  · obtain ⟨r, hr, hsim⟩ := wp_runOps_init b ctx₀ (ops ++ .ingest chunk :: .ingest chunk' :: ops')
    obtain ⟨r', hr', hsim'⟩ := wp_runOps_init b ctx₀ (ops ++ .ingest (chunk ++ chunk') :: ops')
    have hfeed : feedOf (b.init ctx₀).settings (ops ++ .ingest chunk :: .ingest chunk' :: ops') =
        feedOf (b.init ctx₀).settings (ops ++ .ingest (chunk ++ chunk') :: ops') := by
      simp only [feedOf_append, feedOf, Op.chunk, Op.settings, under_append, List.append_assoc]
    rw [hr, hr']
    refine congrArg Except.ok ?_
    rw [hsim.observe_eq, hsim'.observe_eq, hfeed]

end Sha1dc
