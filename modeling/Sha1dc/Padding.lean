import Sha1dc.IngestSim

/-!
# Padding from any counter

`sha1dc_finish` on a context that need not come from a hash. Whatever 64 bits the counter holds, and
whether or not it wraps on the way, the padding is the shortest that leaves room for the length
(`paddingSize_least`), so the two calls of `sha1dc_ingest` complete one or two blocks and leave nothing in
the buffer (`finish_completes`). Behind a message they feed the padding of the standard (`Sim.wp_finish`).
-/

namespace Sha1dc
open Checked Blocks Fips Feed

/-! ### The padding -/

theorem setWidth_sub {v w : Nat} (x y : BitVec v) (h : w ≤ v) :
    (x - y).setWidth w = x.setWidth w - y.setWidth w := by
  rw [BitVec.sub_eq_add_neg, BitVec.setWidth_add _ _ h, BitVec.setWidth_neg_of_le h,
    ← BitVec.sub_eq_add_neg]

/-- The low eight bits do not depend on how wide a `size_t` is. -/
theorem paddingSize_eq (b : Build) (bytes : BitVec 64) : b.paddingSize bytes =
    ((bytes.setWidth 8 + 72) &&& 0xC0) - bytes.setWidth 8 - 8 := by
  have hmask : b.negSizeofBuffer.setWidth 8 = (0xC0 : BitVec 8) := by
    rw [Build.negSizeofBuffer]
    split <;> decide
  have hsum : bytes + 1 + 8 + 64 - 1 = bytes + 72 := by
    rw [BitVec.sub_eq_add_neg, BitVec.add_assoc, BitVec.add_assoc, BitVec.add_assoc]
    rfl
  rw [Build.paddingSize, hsum, setWidth_sub _ _ (by decide), setWidth_sub _ _ (by decide),
    BitVec.setWidth_and, BitVec.setWidth_add _ _ (by decide), hmask]
  rfl

theorem toNat_paddingSize (b : Build) (bytes : BitVec 64) :
    (b.paddingSize bytes).toNat = 1 + (119 - bytes.toNat % 64) % 64 := by
  have hall : ∀ n < 256, (((BitVec.ofNat 8 n + 72) &&& 0xC0) - BitVec.ofNat 8 n - 8).toNat =
      1 + (119 - n % 64) % 64 := by decide +kernel
  have hx : bytes.setWidth 8 = BitVec.ofNat 8 (bytes.toNat % 256) := by
    refine BitVec.eq_of_toNat_eq ?_
    simp
  rw [paddingSize_eq, hx, hall _ (Nat.mod_lt _ (by decide)), Nat.mod_mod_of_dvd _ (by decide)]

theorem paddingSize_le (b : Build) (bytes : BitVec 64) :
    (b.paddingSize bytes).toNat ≤ sha1Padding.length := by
  have hlt := Nat.mod_lt (119 - bytes.toNat % 64) (show 64 > 0 by decide)
  rw [toNat_paddingSize, sha1Padding, List.length_cons, List.length_replicate]
  omega

theorem length_sha1Store8Beu64 (bits : BitVec 64) : (sha1Store8Beu64 bits).length = 8 := by
  rw [sha1Store8Beu64_eq]
  rfl

theorem take_sha1Padding {n : Nat} (h : n < 64) :
    sha1Padding.take (1 + n) = 0x80 :: List.replicate n 0 := by
  rw [sha1Padding, Nat.add_comm, List.take_succ_cons, List.take_replicate, Nat.min_eq_left (by omega)]

theorem paddingSize_least (b : Build) (bytes : BitVec 64) :
    1 ≤ (b.paddingSize bytes).toNat ∧ 64 ∣ bytes.toNat + (b.paddingSize bytes).toNat + 8 ∧
      ∀ p, 1 ≤ p → 64 ∣ bytes.toNat + p + 8 → (b.paddingSize bytes).toNat ≤ p := by
  rw [toNat_paddingSize]
  refine ⟨by omega, by omega, fun p hp hdvd => ?_⟩
  omega

/-- What the two calls of `sha1dc_ingest` feed. -/
def Build.finishBytes (b : Build) (ctx : Ctx) : List Byte :=
  sha1Padding.take (b.paddingSize ctx.bytes).toNat ++ sha1Store8Beu64 (8 * ctx.bytes)

theorem length_finishBytes (b : Build) (ctx : Ctx) :
    (b.finishBytes ctx).length = (b.paddingSize ctx.bytes).toNat + 8 := by
  rw [Build.finishBytes, List.length_append, List.length_take_of_le (paddingSize_le b ctx.bytes),
    length_sha1Store8Beu64]

/-! ### Finishing -/

/-- The two calls feed `finishBytes`, which end a block: the check behind them does not fail. -/
theorem wp_finish (b : Build) (ctx : Ctx) : wp (b.finish ctx) fun r =>
    Absorbed ctx (b.finishBytes ctx) r.ctx r.calls ∧ r.ctx.bytes.toNat % 64 = 0 ∧
      r.output = digest r.ctx.cv ∧ r.foundCollision = r.ctx.foundCollision := by
  rw [Build.finish]
  dsimp only
  rw [wp_bind]
  refine wp_mono (Absorbed.wp_ingest b ctx (paddingSize_le b ctx.bytes)) ?_
  rintro ⟨ctx₁, calls₁⟩ h₁
  dsimp only at h₁ ⊢
  rw [wp_bind]
  have hlen := length_sha1Store8Beu64 (8 * ctx.bytes)
  refine wp_mono (Absorbed.wp_ingest b ctx₁ (Nat.le_of_eq hlen.symm)) ?_
  rintro ⟨ctx₂, calls₂⟩ h₂
  dsimp only at h₂ ⊢
  rw [List.take_of_length_le (Nat.le_of_eq hlen)] at h₂
  have h : Absorbed ctx (b.finishBytes ctx) ctx₂ (calls₁ ++ calls₂) := h₁.trans h₂
  have hmod : ctx₂.bytes.toNat % 64 = 0 := by
    obtain ⟨-, hdvd, -⟩ := paddingSize_least b ctx.bytes
    rw [h.bytes, toNat_add_ofNat_mod, length_finishBytes, ← Nat.add_assoc]
    exact Nat.mod_eq_zero_of_dvd hdvd
  rw [if_neg (not_not.mpr hmod), wp_pure]
  refine ⟨h, hmod, ?_, rfl⟩
  rw [digest, show sha1Store8Beu32 = wordBytes from funext sha1Store8Beu32_eq]

/-- The padding is as short as it can be, lies in `sha1_padding`, and completes one or two blocks with
the length behind it. -/
theorem finish_completes (b : Build) (ctx : Ctx) :
    let p := (b.paddingSize ctx.bytes).toNat
    let last := ctx.held ++ (sha1Padding.take p ++ sha1Store8Beu64 (8 * ctx.bytes))
    (1 ≤ p ∧ 64 ∣ ctx.bytes.toNat + p + 8 ∧ ∀ q, 1 ≤ q → 64 ∣ ctx.bytes.toNat + q + 8 → p ≤ q) ∧
      p ≤ 64 ∧ p ≤ sha1Padding.length ∧ (last.length = 64 ∨ last.length = 128) ∧
      ∃ r, b.finish ctx = .ok r ∧ r.ctx.bytes = ctx.bytes + BitVec.ofNat 64 (p + 8) ∧
        r.ctx.bytes.toNat % 64 = 0 ∧ r.ctx.held = [] ∧
        r.ctx.cv = (messageBlocks last).foldl (fun c B => hashBlock ctx.settings (expand B) c) ctx.cv := by
  intro p last
  have hle : p ≤ sha1Padding.length := paddingSize_le b ctx.bytes
  have hpad : sha1Padding.length = 64 := by rw [sha1Padding, List.length_cons, List.length_replicate]
  have hsize : p = 1 + (119 - ctx.bytes.toNat % 64) % 64 := toNat_paddingSize b ctx.bytes
  have hlast : last.length = ctx.bytes.toNat % 64 + (p + 8) := by
    rw [List.length_append, Ctx.length_held]
    exact congrArg _ (length_finishBytes b ctx)
  obtain ⟨r, hr, h, hmod, -⟩ := wp_finish b ctx
  refine ⟨paddingSize_least b ctx.bytes, by omega, hle, by omega, r, hr, ?_, hmod, ?_, ?_⟩
  · rw [h.bytes, length_finishBytes]
  · exact Ctx.held_eq_nil hmod
  · exact h.cv.trans (Machine.cv_steps ctx.machine ctx.settings _)

/-- Behind `n` bytes the two calls feed what the standard puts there. -/
theorem finishBytes_eq (b : Build) {ctx : Ctx} {n : Nat} (h : ctx.bytes = BitVec.ofNat 64 n) :
    b.finishBytes ctx = padding n := by
  have hlt := Nat.mod_lt (119 - n % 64) (show 64 > 0 by decide)
  have hsize : (b.paddingSize ctx.bytes).toNat = 1 + (119 - n % 64) % 64 := by
    rw [toNat_paddingSize, h, BitVec.toNat_ofNat]
    omega
  have hbits : 8 * ctx.bytes = BitVec.ofNat 64 (8 * n) := by
    rw [h, BitVec.ofNat_mul]
    rfl
  rw [Build.finishBytes, sha1Store8Beu64_eq, hbits, hsize, take_sha1Padding hlt, padding]

theorem Sim.wp_finish (b : Build) {feed : Feed} {ctx : Ctx} {calls : List HandlerCall}
    (h : Sim feed ctx calls) : wp (b.finish ctx) fun r =>
      Sim (feed ++ under (padding feed.length) ctx.settings) r.ctx (calls ++ r.calls) ∧
        r.ctx.settings = ctx.settings ∧ r.output = digest r.ctx.cv ∧
        r.foundCollision = r.ctx.foundCollision := by
  refine wp_mono (Sha1dc.wp_finish b ctx) ?_
  rintro r ⟨habs, -, hout, hfound⟩
  rw [finishBytes_eq b h.bytes] at habs
  exact ⟨h.absorbed habs, habs.settings, hout, hfound⟩

end Sha1dc
