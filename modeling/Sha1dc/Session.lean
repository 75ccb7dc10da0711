import Sha1dc.Safety
import Sha1dc.Lib.Simulation

/-!
# The interface as a machine of its own

What a client of the library sees of a context, over any sequence of calls from `sha1dc_init` on: the
calls of its handler and what `sha1dc_finish` writes and returns. A `Session` is the block machine with
the bytes held back for the next block; it knows neither buffers, counters nor builds. The library
simulates it (`runCalls_refines`), so no two builds can be told apart (`builds_agree`), and a context that
is not initialised again after `sha1dc_finish` goes on behind the padding (`finish_as_ingest`).
-/

namespace Sha1dc
open Checked Blocks Fips Feed

inductive Event
  | called (call : HandlerCall)
  | finished (output : List Byte) (foundCollision : Bool)
deriving DecidableEq

/-- A call with what it shows. -/
def Call.trace (b : Build) (ctx : Ctx) : Call → Chk (Ctx × List Event)
  | init => return (b.init ctx, [])
  | stream op => do
    let (ctx, calls) ← op.exec b ctx
    return (ctx, calls.map .called)
  | finish => do
    let r ← b.finish ctx
    return (r.ctx, r.calls.map .called ++ [.finished r.output r.foundCollision])

/-! ### The machine over a chunk -/

namespace Machine

/-- The same machine with an empty log. -/
def quiet (M : Machine) : Machine := { M with calls := [] }

/-- What is in the log already stays in front of what is added to it. -/
theorem steps_eq_quiet (M : Machine) (s : Settings) (Bs : List Block) :
    M.steps s Bs = { M.quiet.steps s Bs with calls := M.calls ++ (M.quiet.steps s Bs).calls } := by
  have halike : Alike M M.quiet := ⟨rfl, rfl, rfl⟩
  obtain ⟨hsteps, calls, hcalls, hcalls'⟩ := halike.steps s Bs
  have hdone : (M.steps s Bs).done = (M.quiet.steps s Bs).done := by
    rw [done_steps, done_steps]
    rfl
  have hquiet : (M.quiet.steps s Bs).calls = calls := hcalls'
  rw [hquiet, ← hcalls]
  dsimp only
  rw [← hsteps.cv, ← hsteps.found, ← hdone]

end Machine

/-! ### Sessions -/

/-- The block machine, the bytes that wait for the rest of their block, and the settings. -/
structure Session where
  M : Machine
  held : List Byte
  settings : Settings

namespace Session

def start (doSafeHashDefault : Bool) (closure : Pointer) : Session where
  M := Machine.start
  held := []
  settings :=
    { doSafeHash := doSafeHashDefault
      detectColl := true
      ubcCheck := true
      reducedRoundColl := false
      collision := none
      collisionClosure := closure }

def length (S : Session) : Nat := 64 * S.M.done + S.held.length

/-- Takes the bytes `l` and gives out the calls of the handler that they lead to. -/
def absorb (S : Session) (l : List Byte) : Session × List HandlerCall :=
  let M := S.M.steps S.settings (messageBlocks (S.held ++ l))
  ({ S with M := M.quiet, held := tail 64 (S.held ++ l) }, M.calls)

def step (doSafeHashDefault : Bool) (S : Session) : Call → Session × List Event
  | .init => (start doSafeHashDefault S.settings.collisionClosure, [])
  | .stream (.ingest chunk) => ((S.absorb chunk).1, (S.absorb chunk).2.map .called)
  | .stream (.set σ) => ({ S with settings := σ.apply S.settings }, [])
  | .finish =>
    let (S, calls) := S.absorb (padding S.length)
    (S, calls.map .called ++ [.finished (digest S.M.cv) S.M.found])

end Session

/-- The context stands where the session stands, after some feed. -/
structure Follows (feed : Feed) (calls : List HandlerCall) (ctx : Ctx) (S : Session) : Prop where
  sim : Sim feed ctx calls
  M : S.M = (Machine.run feed).quiet
  held : S.held = bytes (tail 64 feed)
  settings : S.settings = ctx.settings

variable {b b' : Build} {feed : Feed} {calls calls' : List HandlerCall} {ctx ctx' : Ctx} {S S' : Session}
  {l : List Byte}

namespace Follows

theorem length_eq (h : Follows feed calls ctx S) : S.length = feed.length := by
  rw [Session.length, h.M, h.held, Machine.quiet, Machine.done_run, Feed.bytes, List.length_map, length_tail]
  omega

theorem absorb (h : Follows feed calls ctx S)
    (hsim : Sim (feed ++ under l ctx.settings) ctx' (calls ++ calls')) (hset : ctx'.settings = ctx.settings) :
    Follows (feed ++ under l ctx.settings) (calls ++ calls') ctx' (S.absorb l).1 ∧
      calls' = (S.absorb l).2 := by
  have hrun := Machine.run_append_under feed l ctx.settings
  rw [Machine.steps_eq_quiet, ← h.M, ← h.held, ← h.settings] at hrun
  rw [← h.settings] at hsim hset ⊢
  refine ⟨⟨hsim, ?_, ?_, hset.symm⟩, ?_⟩
  · rw [hrun]
    rfl
  · rw [Session.absorb, h.held]
    dsimp only
    rw [bytes_tail, bytes_tail, bytes_append, bytes_under, ← tail_append (by decide)]
  · have hlog := hsim.calls
    rw [hrun, h.sim.calls] at hlog
    exact List.append_cancel_left hlog

theorem init (b : Build) (ctx : Ctx) :
    Follows [] [] (b.init ctx) (Session.start b.doSafeHashDefault ctx.collisionClosure) :=
  ⟨sim_init b ctx, rfl, rfl, rfl⟩

theorem cv_eq (h : Follows feed calls ctx S) : S.M.cv = ctx.cv := by
  rw [h.M, h.sim.cv]
  rfl

theorem found_eq (h : Follows feed calls ctx S) : S.M.found = ctx.foundCollision := by
  rw [h.M, h.sim.found]
  rfl

theorem wp_trace (b : Build) (h : Follows feed calls ctx S) (call : Call) : wp (call.trace b ctx) fun r =>
    (∃ feed calls, Follows feed calls r.1 (S.step b.doSafeHashDefault call).1) ∧
      r.2 = (S.step b.doSafeHashDefault call).2 := by
  cases call with
  | init =>
    rw [Call.trace, wp_pure, Session.step, h.settings]
    exact ⟨⟨[], [], init b ctx⟩, rfl⟩
  | stream op =>
    rw [Call.trace, wp_bind]
    cases op with
    | ingest chunk =>
      refine wp_mono (h.sim.wp_exec b (.ingest chunk)) ?_
      rintro ⟨ctx', calls'⟩ ⟨hsim, hset⟩
      obtain ⟨hfollows, hcalls⟩ := h.absorb hsim hset
      rw [wp_pure]
      exact ⟨⟨_, _, hfollows⟩, congrArg _ hcalls⟩
    | set σ =>
      rw [Op.exec, wp_pure, wp_pure]
      refine ⟨⟨feed, calls, h.sim.set σ, h.M, h.held, ?_⟩, rfl⟩
      rw [σ.settings_exec, ← h.settings]
      rfl
  | finish =>
    rw [Call.trace, wp_bind]
    refine wp_mono (h.sim.wp_finish b) ?_
    rintro r ⟨hsim, hset, hout, hfound⟩
    obtain ⟨hfollows, hcalls⟩ := h.absorb hsim hset
    rw [← h.length_eq] at hfollows hcalls
    rw [wp_pure]
    refine ⟨⟨_, _, hfollows⟩, ?_⟩
    rw [hcalls, hout, hfound, ← hfollows.cv_eq, ← hfollows.found_eq]
    rfl

end Follows

/-! ### Any sequence of calls -/

theorem simulates_session (b : Build) :
    Simulation.Simulates (fun ctx S => ∃ feed calls, Follows feed calls ctx S) (Call.trace b)
      (Session.step b.doSafeHashDefault) := by
  rintro ctx S call ⟨feed, calls, h⟩
  exact h.wp_trace b call

/-- Whatever the memory held, a client sees what the session shows. -/
theorem runCalls_refines (b : Build) (ctx₀ : Ctx) (cs : List Call) :
    ∃ ctx, Simulation.run (Call.trace b) (b.init ctx₀) cs = .ok (ctx,
      (Simulation.runSpec (Session.step b.doSafeHashDefault)
        (Session.start b.doSafeHashDefault ctx₀.collisionClosure) cs).2) := by
  obtain ⟨⟨ctx, events⟩, hrun, -, rfl⟩ :=
    (simulates_session b).wp_run ⟨[], [], Follows.init b ctx₀⟩ cs
  exact ⟨ctx, hrun⟩

/-- The same settings, except that the closure does not matter without a handler. -/
structure Settings.Like (s s' : Settings) : Prop where
  eq : s' = { s with collisionClosure := s'.collisionClosure }
  closure : s.collision ≠ none → s'.collisionClosure = s.collisionClosure

namespace Settings.Like
variable {s s' : Settings}

theorem step (h : s.Like s') (M : Machine) (B : Block) : M.step s B = M.step s' B := by
  by_cases hcoll : s.collision = none
  · have hnone : s'.collision = none := by
      rw [h.eq]
      exact hcoll
    have hdetect : ∀ W c, detect s' W c = detect s W c := by
      intro W c
      rw [h.eq]
      rfl
    have hhash : hashBlock s' (expand B) M.cv = hashBlock s (expand B) M.cv := by
      rw [hashBlock, hashBlock, hdetect, h.eq]
    have hcalls : ∀ t : Settings, t.collision = none → ∀ bytes W c, blockCalls t bytes W c = [] := by
      intro t ht bytes W c
      rw [blockCalls, ht]
      cases detect t W c <;> rfl
    rw [Machine.step, Machine.step, hhash, hdetect, hcalls s hcoll, hcalls s' hnone]
  · have heq : s' = s := by
      rw [h.eq, h.closure hcoll]
    rw [heq]

theorem steps (h : s.Like s') (M : Machine) (Bs : List Block) : M.steps s Bs = M.steps s' Bs :=
  List.foldl_ext _ _ _ fun M B _ => h.step M B

theorem apply (h : s.Like s') (σ : Setter) : (σ.apply s).Like (σ.apply s') := by
  obtain ⟨heq, hclosure⟩ := h
  cases σ with
  | setCallback collision closure => exact ⟨by rw [heq]; rfl, fun _ => rfl⟩
  | _ => exact ⟨by rw [heq]; rfl, hclosure⟩

end Settings.Like

/-- Sessions that only a client who reads the closure without a handler could tell apart. -/
structure Session.Like (S S' : Session) : Prop where
  M : S.M = S'.M
  held : S.held = S'.held
  settings : S.settings.Like S'.settings

namespace Session.Like

theorem start (doSafeHashDefault : Bool) (closure closure' : Pointer) :
    (Session.start doSafeHashDefault closure).Like (Session.start doSafeHashDefault closure') :=
  ⟨rfl, rfl, rfl, fun h => absurd rfl h⟩

theorem absorb (h : S.Like S') (l : List Byte) :
    (S.absorb l).1.Like (S'.absorb l).1 ∧ (S.absorb l).2 = (S'.absorb l).2 := by
  have hsteps : S.M.steps S.settings (messageBlocks (S.held ++ l)) =
      S'.M.steps S'.settings (messageBlocks (S'.held ++ l)) := by
    rw [h.M, h.held, h.settings.steps]
  refine ⟨⟨congrArg Machine.quiet hsteps, ?_, h.settings⟩, congrArg Machine.calls hsteps⟩
  rw [Session.absorb, Session.absorb, h.held]

theorem step (h : S.Like S') (d : Bool) (call : Call) :
    (S.step d call).1.Like (S'.step d call).1 ∧ (S.step d call).2 = (S'.step d call).2 := by
  cases call with
  | init => exact ⟨start d _ _, rfl⟩
  | stream op =>
    cases op with
    | ingest chunk =>
      obtain ⟨hlike, hcalls⟩ := h.absorb chunk
      exact ⟨hlike, congrArg (List.map Event.called) hcalls⟩
    | set σ => exact ⟨⟨h.M, h.held, h.settings.apply σ⟩, rfl⟩
  | finish =>
    have hlen : S.length = S'.length := by rw [Session.length, Session.length, h.M, h.held]
    obtain ⟨hlike, hcalls⟩ := h.absorb (padding S'.length)
    rw [Session.step, Session.step, hlen]
    refine ⟨hlike, ?_⟩
    dsimp only
    rw [hcalls, hlike.M]

end Session.Like

/-- Two builds with the same default answer every sequence of calls alike, whatever their memory held. -/
theorem builds_agree (b b' : Build) (h : b.doSafeHashDefault = b'.doSafeHashDefault) (ctx₀ ctx₀' : Ctx)
    (cs : List Call) : ∃ ctx ctx' events,
      Simulation.run (Call.trace b) (b.init ctx₀) cs = .ok (ctx, events) ∧
      Simulation.run (Call.trace b') (b'.init ctx₀') cs = .ok (ctx', events) := by
  have hagree : Simulation.Agrees Session.Like (Session.step b.doSafeHashDefault)
      (Session.step b'.doSafeHashDefault) := by
    intro S S' call hlike
    rw [← h]
    exact hlike.step b.doSafeHashDefault call
  refine (simulates_session b).same_events (simulates_session b') hagree
    ⟨[], [], Follows.init b ctx₀⟩ ⟨[], [], Follows.init b' ctx₀'⟩ ?_ cs
  rw [← h]
  exact Session.Like.start _ _ _

/-- A processor with both extensions; its variables hold something else than those of `portable`. -/
def accelerated : Build where
  order := .little
  allowUnalignedAccess := true
  sizeT32 := false
  doSafeHashDefault := true
  sha := true
  avx512 := true
  unrollingLoops := false
  optimize := true
  shaUninit _ _ := ⟨.replicate 4 1, .replicate 4 2, .replicate 4 3, ⟨4, 5, 6, 7, 8⟩⟩
  avx512Uninit _ := ⟨.replicate 16 9, .replicate 4 10⟩
  x86_little _ := rfl

theorem builds_agree_accelerated : ∃ ctx ctx' events,
    Simulation.run (Call.trace portable) (portable.init shatteredCtx)
      [.stream (.ingest [0x61, 0x62]), .finish, .stream (.ingest [0x63]), .finish] = .ok (ctx, events) ∧
    Simulation.run (Call.trace accelerated) (accelerated.init { shatteredCtx with
        buffer := .replicate 64 9, cv := default, bytes := 7, foundCollision := true
        collision := none, collisionClosure := 3, blockW := .replicate 80 5 })
      [.stream (.ingest [0x61, 0x62]), .finish, .stream (.ingest [0x63]), .finish] = .ok (ctx', events) :=
  builds_agree portable accelerated rfl _ _ _

/-! ### Going on after the end -/

/-- The number of bytes that a context has taken since it was initialised, after one more call. -/
def Call.fed (n : Nat) : Call → Nat
  | init => 0
  | stream op => n + op.chunk.length
  | finish => n + (padding n).length

theorem Session.length_absorb (S : Session) (l : List Byte) :
    (S.absorb l).1.length = S.length + l.length := by
  rw [absorb, length, length]
  dsimp only [Machine.quiet]
  rw [Machine.done_steps, messageBlocks, List.length_map, length_blocks, length_tail, List.length_append]
  omega

theorem Session.length_step (S : Session) (d : Bool) (call : Call) :
    (S.step d call).1.length = call.fed S.length := by
  cases call with
  | init => rfl
  | stream op =>
    cases op with
    | ingest chunk => exact S.length_absorb chunk
    | set σ => rfl
  | finish => exact S.length_absorb (padding S.length)

theorem Session.length_runSpec (d : Bool) (S : Session) (cs : List Call) :
    (Simulation.runSpec (Session.step d) S cs).1.length = cs.foldl Call.fed S.length := by
  induction cs generalizing S with
  | nil => rfl
  | cons call cs ih =>
    rw [List.foldl_cons, ← S.length_step d call]
    exact ih (S.step d call).1

theorem Session.runSpec_finish (d : Bool) (S : Session) (cs cs' : List Call) :
    ∃ events calls output foundCollision events',
      (Simulation.runSpec (Session.step d) S (cs ++ .finish :: cs')).2 =
        events ++ (calls ++ .finished output foundCollision :: events') ∧
      (Simulation.runSpec (Session.step d) S
        (cs ++ .stream (.ingest (padding (cs.foldl Call.fed S.length))) :: cs')).2 =
        events ++ (calls ++ events') := by
  rw [Simulation.runSpec_append, Simulation.runSpec_append, ← Session.length_runSpec d S cs]
  generalize (Simulation.runSpec (Session.step d) S cs).1 = T
  refine ⟨(Simulation.runSpec (Session.step d) S cs).2, (T.absorb (padding T.length)).2.map .called,
    digest (T.absorb (padding T.length)).1.M.cv, (T.absorb (padding T.length)).1.M.found,
    (Simulation.runSpec (Session.step d) (T.absorb (padding T.length)).1 cs').2, ?_, rfl⟩
  simp only [Simulation.runSpec, Session.step, List.append_assoc, List.singleton_append]

/-- `sha1dc_finish` shows the hash and leaves the context as if its client had fed the padding: whatever
is called next, without `sha1dc_init` the padding counts as a part of the message. -/
theorem finish_as_ingest (b : Build) (ctx₀ : Ctx) (cs cs' : List Call) :
    ∃ ctx ctx' events calls output foundCollision events',
      Simulation.run (Call.trace b) (b.init ctx₀) (cs ++ .finish :: cs') =
        .ok (ctx, events ++ (calls ++ .finished output foundCollision :: events')) ∧
      Simulation.run (Call.trace b) (b.init ctx₀)
        (cs ++ .stream (.ingest (padding (cs.foldl Call.fed 0))) :: cs') =
        .ok (ctx', events ++ (calls ++ events')) := by
  let S := Session.start b.doSafeHashDefault ctx₀.collisionClosure
  obtain ⟨events, calls, output, foundCollision, events', hevents, hevents'⟩ :=
    Session.runSpec_finish b.doSafeHashDefault S cs cs'
  rw [show S.length = 0 from rfl] at hevents'
  have hsim := (simulates_session b).wp_run ⟨[], [], Follows.init b ctx₀⟩
  obtain ⟨⟨ctx, shown⟩, hrun, -, hshown⟩ := hsim (cs ++ .finish :: cs')
  obtain ⟨⟨ctx', shown'⟩, hrun', -, hshown'⟩ :=
    hsim (cs ++ .stream (.ingest (padding (cs.foldl Call.fed 0))) :: cs')
  obtain rfl := hshown.trans hevents
  obtain rfl := hshown'.trans hevents'
  exact ⟨ctx, ctx', events, calls, output, foundCollision, events', hrun, hrun'⟩

end Sha1dc
