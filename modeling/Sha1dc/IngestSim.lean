import Sha1dc.Ingest
import Sha1dc.Machine

/-!
# The context simulates the block machine

What a call of `sha1dc_ingest` does to a context, wherever the context comes from: the bytes held and those
fed are cut into blocks, each block is a step of the machine, and the rest is held (`Absorbed`). Every
piece of the call is either a block that completes (`Fed.wp_process`) or bytes that stay in the buffer
(`Fed.wp_rest`). `Sim` relates a context and the calls made so far to the machine after the bytes that
came, and is kept by what is absorbed (`Sim.absorbed`).
-/

namespace Sha1dc
open Checked Blocks Fips Feed

theorem blockOf_toList (B : Block) : blockOf B.toList = B := by
  refine Vector.ext fun i hi => ?_
  simp [blockOf]

theorem messageBlocks_append (l l' : List Byte) :
    messageBlocks (l ++ l') = messageBlocks l ++ messageBlocks (tail 64 l ++ l') := by
  rw [messageBlocks, blocks_append (n := 64) (by decide), List.map_append]
  rfl

theorem messageBlocks_of_lt {l : List Byte} (h : l.length < 64) : messageBlocks l = [] := by
  rw [messageBlocks, blocks_of_lt h, List.map_nil]

theorem messageBlocks_of_eq {l : List Byte} (h : l.length = 64) : messageBlocks l = [blockOf l] := by
  rw [messageBlocks, blocks_of_eq (by decide) h, List.map_singleton]

theorem toNat_add_ofNat_mod (bytes : BitVec 64) (n : Nat) :
    (bytes + BitVec.ofNat 64 n).toNat % 64 = (bytes.toNat + n) % 64 := by
  rw [BitVec.toNat_add, BitVec.toNat_ofNat]
  omega

/-! ### A context as a machine -/

namespace Ctx

/-- The bytes that wait in the buffer for the rest of their block. -/
def held (ctx : Ctx) : List Byte := ctx.buffer.toList.take (ctx.bytes.toNat % 64)

/-- The machine between the last block and the next; only the counter knows what was called. -/
def machine (ctx : Ctx) : Machine := ⟨ctx.cv, ctx.foundCollision, [], ctx.bytes.toNat / 64⟩

/-- The machine after the blocks that `l` completes. -/
def absorb (ctx : Ctx) (l : List Byte) : Machine :=
  ctx.machine.steps ctx.settings (messageBlocks (ctx.held ++ l))

@[simp] theorem length_held (ctx : Ctx) : ctx.held.length = ctx.bytes.toNat % 64 := by
  have hlt := Nat.mod_lt ctx.bytes.toNat (show 64 > 0 by decide)
  rw [held, List.length_take, Vector.length_toList, Nat.min_eq_left (Nat.le_of_lt hlt)]

theorem held_eq_nil {ctx : Ctx} (h : ctx.bytes.toNat % 64 = 0) : ctx.held = [] :=
  List.eq_nil_of_length_eq_zero (by rw [length_held, h])

theorem absorb_of_lt {ctx : Ctx} {l : List Byte} (h : (ctx.held ++ l).length < 64) :
    ctx.absorb l = ctx.machine := by
  rw [absorb, messageBlocks_of_lt h]
  rfl

theorem absorb_of_eq {ctx : Ctx} {l : List Byte} (h : (ctx.held ++ l).length = 64) :
    ctx.absorb l = ctx.machine.step ctx.settings (blockOf (ctx.held ++ l)) := by
  rw [absorb, messageBlocks_of_eq h]
  rfl

end Ctx

/-- `l` has been fed to `ctx`: the machine has made the blocks it completes, the rest is held. -/
structure Absorbed (ctx : Ctx) (l : List Byte) (ctx' : Ctx) (calls : List HandlerCall) : Prop where
  bytes : ctx'.bytes = ctx.bytes + BitVec.ofNat 64 l.length
  held : ctx'.held = tail 64 (ctx.held ++ l)
  settings : ctx'.settings = ctx.settings
  cv : ctx'.cv = (ctx.absorb l).cv
  found : ctx'.foundCollision = (ctx.absorb l).found
  calls : calls = (ctx.absorb l).calls

variable {b : Build} {ctx ctx' ctx'' : Ctx} {calls calls' : List HandlerCall} {l l' : List Byte}

namespace Absorbed

theorem refl (ctx : Ctx) : Absorbed ctx [] ctx [] := by
  have hlt : (ctx.held ++ []).length < 64 := by
    rw [List.append_nil, Ctx.length_held]
    exact Nat.mod_lt _ (by decide)
  have habsorb := Ctx.absorb_of_lt hlt
  refine ⟨?_, ?_, rfl, ?_, ?_, ?_⟩
  · exact (BitVec.add_zero ctx.bytes).symm
  · rw [tail_of_lt hlt, List.append_nil]
  · rw [habsorb]; rfl
  · rw [habsorb]; rfl
  · rw [habsorb]; rfl

/-- The counter may have wrapped around, but the offsets of the blocks to come are the same. -/
theorem alike (h : Absorbed ctx l ctx' calls) : Machine.Alike (ctx.absorb l) ctx'.machine := by
  refine ⟨h.cv.symm, h.found.symm, ?_⟩
  rw [Ctx.absorb, Machine.done_steps, messageBlocks, List.length_map, length_blocks, List.length_append,
    Ctx.length_held, Ctx.machine, Ctx.machine, h.bytes]
  refine BitVec.eq_of_toNat_eq ?_
  rw [BitVec.toNat_ofNat, BitVec.toNat_ofNat, BitVec.toNat_add, BitVec.toNat_ofNat]
  dsimp only
  omega

/-- Any machine that is like the context's own can make the blocks in its place. -/
theorem steps_of_alike (h : Absorbed ctx l ctx' calls) {M : Machine} (hM : M.Alike ctx.machine) :
    let M' := M.steps ctx.settings (messageBlocks (ctx.held ++ l))
    ctx'.cv = M'.cv ∧ ctx'.foundCollision = M'.found ∧ M.calls ++ calls = M'.calls := by
  intro M'
  obtain ⟨hsteps, more, hmore, hmore'⟩ := hM.steps ctx.settings (messageBlocks (ctx.held ++ l))
  refine ⟨h.cv.trans hsteps.cv.symm, h.found.trans hsteps.found.symm, ?_⟩
  rw [hmore]
  exact congrArg _ (h.calls.trans hmore')

theorem trans (h : Absorbed ctx l ctx' calls) (h' : Absorbed ctx' l' ctx'' calls') :
    Absorbed ctx (l ++ l') ctx'' (calls ++ calls') := by
  have habsorb : ctx.absorb (l ++ l') =
      (ctx.absorb l).steps ctx'.settings (messageBlocks (ctx'.held ++ l')) := by
    rw [Ctx.absorb, ← List.append_assoc, messageBlocks_append, Machine.steps_append, h.held, h.settings]
    rfl
  obtain ⟨hcv, hfound, hcalls⟩ := h'.steps_of_alike h.alike
  rw [← habsorb] at hcv hfound hcalls
  refine ⟨?_, ?_, h'.settings.trans h.settings, hcv, hfound, ?_⟩
  · rw [h'.bytes, h.bytes, List.length_append, BitVec.ofNat_add, BitVec.add_assoc]
  · rw [h'.held, h.held, ← tail_append (by decide), List.append_assoc]
  · rw [h.calls, hcalls]

/-- The block that `l` completes is processed, once the counter has been advanced. -/
theorem wp_process (hl : ctx.held.length + l.length = 64) {bytes : BitVec 64}
    (hbytes : bytes = ctx.bytes + BitVec.ofNat 64 l.length) (buffer : Vector Byte 64) {B : Block}
    (hB : B = blockOf (ctx.held ++ l)) :
    wp (b.process { ctx with bytes, buffer } B) fun r => Absorbed ctx l r.1 r.2 := by
  refine wp_mono (Sha1dc.wp_process b { ctx with bytes, buffer } B) fun r hr => ?_
  have hlen : (ctx.held ++ l).length = 64 := by rw [List.length_append, hl]
  have habsorb : ctx.absorb l = ctx.machine.step ctx.settings B := by rw [Ctx.absorb_of_eq hlen, hB]
  have hr_bytes : r.1.bytes = ctx.bytes + BitVec.ofNat 64 l.length := hr.bytes.trans hbytes
  rw [Ctx.length_held] at hl
  refine ⟨hr_bytes, ?_, hr.settings, ?_, ?_, ?_⟩
  · have hmod : r.1.bytes.toNat % 64 = 0 := by
      rw [hr_bytes, toNat_add_ofNat_mod]
      omega
    rw [Ctx.held_eq_nil hmod, tail_eq_nil (by rw [hlen])]
  · rw [hr.cv, habsorb]
    rfl
  · rw [hr.found, habsorb]
    rfl
  · have hcount : bytes = BitVec.ofNat 64 (64 * (ctx.bytes.toNat / 64 + 1)) := by
      refine BitVec.eq_of_toNat_eq ?_
      rw [hbytes, BitVec.toNat_add, BitVec.toNat_ofNat, BitVec.toNat_ofNat]
      omega
    rw [hr.calls, habsorb]
    dsimp only
    rw [hcount]
    rfl

end Absorbed

/-! ### A call -/

/-- How far a call with `chunk` has got: its front is absorbed, the rest is still to be read. -/
structure Fed (ctx : Ctx) (chunk : List Byte) (s : IngestState) : Prop where
  le : s.n ≤ s.buf.length
  absorbed : ∃ l, chunk = l ++ s.buf.take s.n ∧ Absorbed ctx l s.ctx s.calls

namespace Fed
variable {chunk : List Byte} {held need : Nat} {s : IngestState}

/-- A block that starts with the bytes held and takes `need` more from the chunk. -/
theorem wp_process (h : Fed ctx chunk s) (hneed : s.ctx.held.length + need = 64) (hn : need ≤ s.n)
    {bytes : BitVec 64} (hbytes : bytes = s.ctx.bytes + BitVec.ofNat 64 need) (buffer : Vector Byte 64)
    {B : Block} (hB : B = blockOf (s.ctx.held ++ s.buf.take need)) :
    wp (b.process { s.ctx with bytes, buffer } B) fun r =>
      r.1.held = [] ∧ Fed ctx chunk ⟨r.1, s.calls ++ r.2, s.buf.drop need, s.n - need⟩ := by
  have hle := h.le
  obtain ⟨l, hchunk, habs⟩ := h.absorbed
  have hlen : (s.buf.take need).length = need := List.length_take_of_le (by omega)
  refine wp_mono (Absorbed.wp_process (by rw [hlen]; exact hneed) (by rw [hlen]; exact hbytes) buffer hB)
    fun r hr => ⟨?_, ?_, l ++ s.buf.take need, ?_, habs.trans hr⟩
  · rw [hr.held, tail_eq_nil (by rw [List.length_append, hlen, hneed])]
  · rw [List.length_drop]
    exact Nat.sub_le_sub_right hle need
  · rw [hchunk, List.append_assoc]
    congr 1
    rw [← List.take_add, Nat.add_sub_cancel' hn]

theorem blockOf_copy (hneed : s.ctx.held.length + need = 64) {buffer : Vector Byte 64}
    (hbuffer : buffer.toList.take (s.ctx.held.length + need) =
      s.ctx.buffer.toList.take s.ctx.held.length ++ s.buf.take need) :
    buffer = blockOf (s.ctx.held ++ s.buf.take need) := by
  have hheld : s.ctx.buffer.toList.take s.ctx.held.length = s.ctx.held := by
    rw [Ctx.length_held, Ctx.held]
  rw [← hheld, ← hbuffer, hneed, List.take_of_length_le (by simp), blockOf_toList]

/-- A partial block is topped up if the chunk completes it; afterwards none is held, or the chunk is
too short to complete it. -/
theorem wp_topUp (h : Fed ctx chunk s) (hheld : held = s.ctx.held.length) (hneed : held + need = 64) :
    wp (b.ingestTopUp held need s) fun (s', held') => s'.n ≤ s.n ∧ Fed ctx chunk s' ∧
      held' = s'.ctx.held.length ∧ (held' = 0 ∨ held' + s'.n < 64) := by
  subst hheld
  rw [Build.ingestTopUp]
  by_cases hfull : s.ctx.held.length ≠ 0 ∧ s.n ≥ need
  · have hle := h.le
    rw [if_pos hfull]
    dsimp only
    rw [wp_bind]
    refine wp_mono (wp_copyAt s.ctx.buffer (by omega) (by omega)) fun buffer hbuffer => ?_
    rw [wp_bind]
    refine wp_mono (h.wp_process hneed hfull.2 rfl buffer (blockOf_copy hneed hbuffer)) ?_
    rintro r ⟨hnil, hfed⟩
    rw [sub_eq hfull.2, ok_bind, wp_pure]
    exact ⟨Nat.sub_le _ _, hfed, (congrArg List.length hnil).symm, .inl rfl⟩
  · rw [if_neg hfull, wp_pure]
    exact ⟨Nat.le_refl _, h, rfl, by omega⟩

theorem wp_processWhole (h : Fed ctx chunk s) (hnil : s.ctx.held = []) (hn : 64 ≤ s.n) :
    wp (b.processWhole { s.ctx with bytes := s.ctx.bytes + 64 } s.buf) fun r =>
      r.1.held = [] ∧ Fed ctx chunk ⟨r.1, s.calls ++ r.2, s.buf.drop 64, s.n - 64⟩ := by
  have hle := h.le
  have hneed : s.ctx.held.length + 64 = 64 := by rw [hnil]; rfl
  rw [Build.processWhole]
  by_cases hun : b.allowUnalignedAccess = true
  · rw [if_pos hun, slice_eq (by omega), ok_bind]
    exact h.wp_process hneed hn rfl s.ctx.buffer (by rw [hnil]; rfl)
  · rw [if_neg hun, wp_bind]
    refine wp_mono (wp_copyAt s.ctx.buffer (by omega) (by omega)) fun buffer hbuffer => ?_
    refine h.wp_process hneed hn rfl buffer (blockOf_copy hneed ?_)
    rw [hnil]
    exact hbuffer

theorem wp_loop (h : Fed ctx chunk s) (hheld : held = s.ctx.held.length)
    (hsmall : held = 0 ∨ held + s.n < 64) {n : Nat} (hn : s.n ≤ n) :
    wp (loop b.ingestBody (n + 1) s) fun s' =>
      Fed ctx chunk s' ∧ held = s'.ctx.held.length ∧ held + s'.n < 64 := by
  refine Checked.wp_loop (fun s => Fed ctx chunk s ∧ held = s.ctx.held.length ∧
    (held = 0 ∨ held + s.n < 64)) (fun s => s.n) _ ?_ ⟨h, hheld, hsmall⟩ (by omega)
  rintro s ⟨h, hheld, hsmall⟩
  rw [Build.ingestBody]
  by_cases h64 : s.n ≥ 64
  · have hzero : held = 0 := by omega
    have hnil : s.ctx.held = [] := List.eq_nil_of_length_eq_zero (hheld.symm.trans hzero)
    rw [if_pos h64]
    dsimp only
    rw [wp_bind]
    refine wp_mono (h.wp_processWhole hnil h64) ?_
    rintro r ⟨hnil', hfed⟩
    rw [sub_eq h64, ok_bind, wp_pure]
    exact ⟨⟨hfed, hheld.trans (by rw [hnil, hnil']), .inl hzero⟩, by dsimp only; omega⟩
  · rw [if_neg h64, wp_pure]
    exact ⟨h, hheld, by omega⟩

/-- Bytes that do not complete a block stay in the buffer. -/
theorem wp_rest (h : Fed ctx chunk s) (hheld : held = s.ctx.held.length) (hlt : held + s.n < 64) :
    wp (Build.ingestRest held s) fun ctx' => Absorbed ctx chunk ctx' s.calls := by
  subst hheld
  have hle := h.le
  obtain ⟨l, rfl, habs⟩ := h.absorbed
  suffices hrest : wp (Build.ingestRest s.ctx.held.length s) fun ctx' =>
      Absorbed s.ctx (s.buf.take s.n) ctx' [] by
    refine wp_mono hrest fun ctx' h' => ?_
    rw [← List.append_nil s.calls]
    exact habs.trans h'
  have hlen : (s.buf.take s.n).length = s.n := List.length_take_of_le hle
  have hshort : (s.ctx.held ++ s.buf.take s.n).length < 64 := by rwa [List.length_append, hlen]
  have habsorb := Ctx.absorb_of_lt hshort
  rw [Build.ingestRest]
  by_cases h0 : s.n > 0
  · rw [if_pos h0]
    dsimp only
    rw [wp_bind]
    refine wp_mono (wp_copyAt s.ctx.buffer hle (Nat.le_of_lt hlt)) fun buffer hbuffer => ?_
    rw [wp_pure]
    refine ⟨?_, ?_, rfl, ?_, ?_, ?_⟩
    · rw [hlen]
    · rw [Ctx.length_held] at hlt hbuffer
      rw [tail_of_lt hshort, Ctx.held]
      dsimp only
      rw [toNat_add_ofNat_mod, show (s.ctx.bytes.toNat + s.n) % 64 = s.ctx.bytes.toNat % 64 + s.n by omega]
      exact hbuffer
    · rw [habsorb]; rfl
    · rw [habsorb]; rfl
    · rw [habsorb]; rfl
  · rw [if_neg h0, wp_pure, show s.n = 0 by omega, List.take_zero]
    exact Absorbed.refl s.ctx

end Fed

/-- Feeding a chunk to any context. -/
theorem Absorbed.wp_ingest (b : Build) (ctx : Ctx) {buf : List Byte} {n : Nat} (hn : n ≤ buf.length) :
    wp (b.ingest ctx buf n) fun r => Absorbed ctx (buf.take n) r.1 r.2 := by
  rw [Build.ingest]
  by_cases h0 : n = 0
  · rw [if_pos h0, wp_pure, h0]
    exact refl ctx
  · have hlt := Nat.mod_lt ctx.bytes.toNat (show 64 > 0 by decide)
    have hfed : Fed ctx (buf.take n) ⟨ctx, [], buf, n⟩ := ⟨hn, [], rfl, refl ctx⟩
    rw [if_neg h0]
    dsimp only
    rw [sub_eq (Nat.le_of_lt hlt), ok_bind, wp_bind]
    refine wp_mono (hfed.wp_topUp ctx.length_held.symm (by omega)) ?_
    rintro ⟨s, held⟩ ⟨hle, hfed, hheld, hsmall⟩
    dsimp only
    rw [wp_bind]
    refine wp_mono (hfed.wp_loop hheld hsmall hle) ?_
    rintro s' ⟨hfed', hheld', hlt'⟩
    rw [wp_bind]
    refine wp_mono (hfed'.wp_rest hheld' hlt') fun ctx' h => ?_
    rw [wp_pure]
    exact h

/-! ### The machine over all that came -/

/-- The context holds the state of the machine, the length of the feed and its unprocessed tail. -/
structure Sim (feed : Feed) (ctx : Ctx) (calls : List HandlerCall) : Prop where
  bytes : ctx.bytes = BitVec.ofNat 64 feed.length
  buffer : ctx.buffer.toList.take (feed.length % 64) = Feed.bytes (tail 64 feed)
  cv : ctx.cv = (Machine.run feed).cv
  found : ctx.foundCollision = (Machine.run feed).found
  calls : calls = (Machine.run feed).calls

theorem bytes_tail (feed : Feed) : Feed.bytes (tail 64 feed) = tail 64 (Feed.bytes feed) :=
  (tail_map Prod.fst 64 feed).symm

namespace Sim
variable {feed : Feed}

theorem held (h : Sim feed ctx calls) : ctx.bytes.toNat % 64 = feed.length % 64 := by
  rw [h.bytes, BitVec.toNat_ofNat]
  omega

theorem held_eq (h : Sim feed ctx calls) : ctx.held = Feed.bytes (tail 64 feed) := by
  rw [Ctx.held, h.held, h.buffer]

theorem alike (h : Sim feed ctx calls) : Machine.Alike (Machine.run feed) ctx.machine := by
  refine ⟨h.cv.symm, h.found.symm, BitVec.eq_of_toNat_eq ?_⟩
  rw [Machine.done_run, Ctx.machine, h.bytes, BitVec.toNat_ofNat, BitVec.toNat_ofNat, BitVec.toNat_ofNat]
  dsimp only
  omega

/-- What a context absorbs is appended to the feed, under its settings. -/
theorem absorbed (h : Sim feed ctx calls) (h' : Absorbed ctx l ctx' calls') :
    Sim (feed ++ under l ctx.settings) ctx' (calls ++ calls') := by
  have hrun : Machine.run (feed ++ under l ctx.settings) =
      (Machine.run feed).steps ctx.settings (messageBlocks (ctx.held ++ l)) := by
    rw [Machine.run_append_under, h.held_eq]
  have hbytes : ctx'.bytes = BitVec.ofNat 64 (feed ++ under l ctx.settings).length := by
    rw [h'.bytes, h.bytes, List.length_append, length_under, BitVec.ofNat_add]
  obtain ⟨hcv, hfound, hcalls⟩ := h'.steps_of_alike h.alike
  rw [← hrun] at hcv hfound hcalls
  refine ⟨hbytes, ?_, hcv, hfound, ?_⟩
  · have hmod : (feed ++ under l ctx.settings).length % 64 = ctx'.bytes.toNat % 64 := by
      rw [hbytes, BitVec.toNat_ofNat]
      omega
    rw [hmod, bytes_tail, bytes_append, bytes_under, tail_append (by decide), ← bytes_tail, ← h.held_eq]
    exact h'.held
  · rw [h.calls, hcalls]

/-- Feeding a chunk appends it to the feed, under the settings of the context. -/
theorem wp_ingest (b : Build) (h : Sim feed ctx calls) {buf : List Byte} {n : Nat} (hn : n ≤ buf.length) :
    wp (b.ingest ctx buf n) fun r =>
      Sim (feed ++ under (buf.take n) ctx.settings) r.1 (calls ++ r.2) ∧ r.1.settings = ctx.settings :=
  wp_mono (Absorbed.wp_ingest b ctx hn) fun _ hr => ⟨h.absorbed hr, hr.settings⟩

end Sim

end Sha1dc
