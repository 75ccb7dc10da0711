import Sha1dc.Detect
import Sha1dc.Padding
import Sha1dc.Runs

/-!
# Whole hashes

A complete hash is a fold over the blocks of the padded message, in which a flagged block counts once or
three times (`hash_eq_fold`). More sensitive settings flag a message that less sensitive ones do, and only
a flagged block can tell two hashes of one message apart (`hash_mono`).
-/

namespace Sha1dc
open Checked Blocks Fips Feed

/-! ### A hash from the first call to the last -/

/-- A context that is ready for the first byte. -/
def Build.setUp (b : Build) (ctx₀ : Ctx) (sets : List Setter) : Ctx := sets.foldl Setter.exec (b.init ctx₀)

/-- `sha1dc_init`, the setters, `sha1dc_ingest` for each of the chunks and `sha1dc_finish`. -/
def Build.hash (b : Build) (ctx₀ : Ctx) (sets : List Setter) (chunks : List (List Byte)) :
    Chk Finished := do
  let (ctx, calls) ← runOps b (b.setUp ctx₀ sets) (chunks.map .ingest)
  let r ← b.finish ctx
  return { r with calls := calls ++ r.calls }

theorem sim_setUp (b : Build) (ctx₀ : Ctx) (sets : List Setter) : Sim [] (b.setUp ctx₀ sets) [] := by
  suffices h : ∀ ctx, Sim [] ctx [] → Sim [] (sets.foldl Setter.exec ctx) [] from h _ (sim_init b ctx₀)
  induction sets with
  | nil => exact fun ctx h => h
  | cons σ sets ih => exact fun ctx h => ih (σ.exec ctx) (h.set σ)

theorem feedOf_ingest (s : Settings) (chunks : List (List Byte)) :
    feedOf s (chunks.map .ingest) = under chunks.flatten s := by
  induction chunks with
  | nil => rfl
  | cons chunk chunks ih => rw [List.map_cons, feedOf, List.flatten_cons, under_append, ← ih]; rfl

theorem settings_ingest (s : Settings) (chunks : List (List Byte)) :
    (chunks.map Op.ingest).foldl Op.settings s = s := by
  induction chunks with
  | nil => rfl
  | cons chunk chunks ih => exact ih

/-- What comes out is the state of the machine after the blocks of the padded message. -/
theorem wp_hash (b : Build) (ctx₀ : Ctx) (sets : List Setter) (chunks : List (List Byte)) :
    wp (b.hash ctx₀ sets chunks) fun r =>
      let M := Machine.runBlocks (b.setUp ctx₀ sets).settings (messageBlocks (pad chunks.flatten))
      r.output = digest M.cv ∧ r.foundCollision = M.found ∧ r.calls = M.calls := by
  rw [Build.hash, wp_bind]
  refine wp_mono ((sim_setUp b ctx₀ sets).wp_runOps b _) ?_
  rintro ⟨ctx, calls⟩ ⟨h, hset⟩
  rw [settings_ingest] at hset
  rw [feedOf_ingest, List.nil_append, List.nil_append] at h
  dsimp only at h hset ⊢
  rw [wp_bind]
  refine wp_mono (h.wp_finish b) ?_
  rintro r ⟨h', -, hout, hfound⟩
  rw [hset, length_under, ← under_append] at h'
  have hrun := Machine.run_under (pad chunks.flatten) (b.setUp ctx₀ sets).settings
  rw [wp_pure, ← hrun]
  exact ⟨hout.trans (congrArg digest h'.cv), hfound.trans h'.found, h'.calls⟩

theorem hashBlock_eq (b : Build) (ctx : Ctx) (B : Block) (c : ChainingValue) :
    hashBlock ctx.settings (expand B) c =
      if b.flags { ctx with cv := c } B ∧ ctx.doSafeHash then
        compress (expand B).seq (compress (expand B).seq (compress (expand B).seq c))
      else compress (expand B).seq c := by
  have hflags : b.flags { ctx with cv := c } B = (detect ctx.settings (expand B) c).isSome := flags_eq b _ B
  rw [hflags, hashBlock, safeHash]
  by_cases hsome : (detect ctx.settings (expand B) c).isSome = true
  · rw [if_pos hsome]
    simp only [hsome, true_and]
    rfl
  · rw [if_neg hsome, if_neg fun h => hsome h.1]

/-- From any context, under any settings and however the message is cut, the hash folds over the blocks
of the padded message, a flagged block counting three times with safe hashing; it is SHA-1 if none is
flagged, or without safe hashing or detection. -/
theorem hash_eq_fold (b : Build) (ctx₀ : Ctx) (sets : List Setter) (chunks : List (List Byte)) :
    let ctx := b.setUp ctx₀ sets
    let m := chunks.flatten
    ∃ r, b.hash ctx₀ sets chunks = .ok r ∧
      r.output = digest ((messageBlocks (pad m)).foldl (fun c B =>
        if b.flags { ctx with cv := c } B ∧ ctx.doSafeHash then
          compress (expand B).seq (compress (expand B).seq (compress (expand B).seq c))
        else compress (expand B).seq c) H0) ∧
      (r.foundCollision = false ∨ ctx.doSafeHash = false ∨ ctx.detectColl = false →
        r.output = sha1 m) := by
  intro ctx m
  obtain ⟨r, hr, hout, hfound, -⟩ := wp_hash b ctx₀ sets chunks
  refine ⟨r, hr, ?_, fun h => ?_⟩
  · rw [hout, Machine.cv_runBlocks]
    exact congrArg digest (List.foldl_ext _ _ _ fun c B _ => hashBlock_eq b ctx B c)
  · rw [hout, sha1]
    refine congrArg digest ?_
    rcases h with hnone | hplain
    · exact Machine.cv_runBlocks_of_found (hfound.symm.trans hnone)
    · exact Machine.cv_runBlocks_plain hplain.symm _

example : (portable.hash shatteredCtx [] [[0x61, 0x62], [], [0x63]]).toOption.map Finished.output = some
    [0xa9, 0x99, 0x3e, 0x36, 0x47, 0x06, 0x81, 0x6a, 0xba, 0x3e, 0x25, 0x71, 0x78, 0x50, 0xc2, 0x6c,
      0x9c, 0xd0, 0xd8, 0x9d] := by decide +kernel

/-! ### A message with a flagged block -/

/-- The code's own compression makes the chain computable. -/
theorem foldlM_sha1AddBlockExpanding (Bs : List Block) (c : ChainingValue) (W : ExpandedBlock) :
    Bs.foldlM (fun c B => sha1AddBlockExpanding c B W) c =
      .ok (Bs.foldl (fun c B => compress (expand B).seq c) c) := by
  induction Bs generalizing c with
  | nil => rfl
  | cons B Bs ih =>
    rw [List.foldlM_cons, sha1AddBlockExpanding_eq, ok_bind, ih, List.foldl_cons]

theorem plainCv_eq {Bs : List Block} {j : Nat} {c : ChainingValue}
    (h : (Bs.take j).foldlM (fun c B => sha1AddBlockExpanding c B (.replicate 80 0)) H0 = .ok c) :
    plainCv Bs j = c := by
  rw [foldlM_sha1AddBlockExpanding] at h
  exact Except.ok.inj h

/-- The first bytes of `test/shattered-1.pdf` and `test/shattered-2.pdf`, up to the collision. -/
def shatteredFront : List Byte := [
  0x25, 0x50, 0x44, 0x46, 0x2d, 0x31, 0x2e, 0x33, 0x0a, 0x25, 0xe2, 0xe3, 0xcf, 0xd3, 0x0a, 0x0a,
  0x0a, 0x31, 0x20, 0x30, 0x20, 0x6f, 0x62, 0x6a, 0x0a, 0x3c, 0x3c, 0x2f, 0x57, 0x69, 0x64, 0x74,
  0x68, 0x20, 0x32, 0x20, 0x30, 0x20, 0x52, 0x2f, 0x48, 0x65, 0x69, 0x67, 0x68, 0x74, 0x20, 0x33,
  0x20, 0x30, 0x20, 0x52, 0x2f, 0x54, 0x79, 0x70, 0x65, 0x20, 0x34, 0x20, 0x30, 0x20, 0x52, 0x2f,
  0x53, 0x75, 0x62, 0x74, 0x79, 0x70, 0x65, 0x20, 0x35, 0x20, 0x30, 0x20, 0x52, 0x2f, 0x46, 0x69,
  0x6c, 0x74, 0x65, 0x72, 0x20, 0x36, 0x20, 0x30, 0x20, 0x52, 0x2f, 0x43, 0x6f, 0x6c, 0x6f, 0x72,
  0x53, 0x70, 0x61, 0x63, 0x65, 0x20, 0x37, 0x20, 0x30, 0x20, 0x52, 0x2f, 0x4c, 0x65, 0x6e, 0x67,
  0x74, 0x68, 0x20, 0x38, 0x20, 0x30, 0x20, 0x52, 0x2f, 0x42, 0x69, 0x74, 0x73, 0x50, 0x65, 0x72,
  0x43, 0x6f, 0x6d, 0x70, 0x6f, 0x6e, 0x65, 0x6e, 0x74, 0x20, 0x38, 0x3e, 0x3e, 0x0a, 0x73, 0x74,
  0x72, 0x65, 0x61, 0x6d, 0x0a, 0xff, 0xd8, 0xff, 0xfe, 0x00, 0x24, 0x53, 0x48, 0x41, 0x2d, 0x31,
  0x20, 0x69, 0x73, 0x20, 0x64, 0x65, 0x61, 0x64, 0x21, 0x21, 0x21, 0x21, 0x21, 0x85, 0x2f, 0xec,
  0x09, 0x23, 0x39, 0x75, 0x9c, 0x39, 0xb1, 0xa1, 0xc6, 0x3c, 0x4c, 0x97, 0xe1, 0xff, 0xfe, 0x01]

def shattered1 : List Byte := shatteredFront ++ [
  0x73, 0x46, 0xdc, 0x91, 0x66, 0xb6, 0x7e, 0x11, 0x8f, 0x02, 0x9a, 0xb6, 0x21, 0xb2, 0x56, 0x0f,
  0xf9, 0xca, 0x67, 0xcc, 0xa8, 0xc7, 0xf8, 0x5b, 0xa8, 0x4c, 0x79, 0x03, 0x0c, 0x2b, 0x3d, 0xe2,
  0x18, 0xf8, 0x6d, 0xb3, 0xa9, 0x09, 0x01, 0xd5, 0xdf, 0x45, 0xc1, 0x4f, 0x26, 0xfe, 0xdf, 0xb3,
  0xdc, 0x38, 0xe9, 0x6a, 0xc2, 0x2f, 0xe7, 0xbd, 0x72, 0x8f, 0x0e, 0x45, 0xbc, 0xe0, 0x46, 0xd2,
  0x3c, 0x57, 0x0f, 0xeb, 0x14, 0x13, 0x98, 0xbb, 0x55, 0x2e, 0xf5, 0xa0, 0xa8, 0x2b, 0xe3, 0x31,
  0xfe, 0xa4, 0x80, 0x37, 0xb8, 0xb5, 0xd7, 0x1f, 0x0e, 0x33, 0x2e, 0xdf, 0x93, 0xac, 0x35, 0x00,
  0xeb, 0x4d, 0xdc, 0x0d, 0xec, 0xc1, 0xa8, 0x64, 0x79, 0x0c, 0x78, 0x2c, 0x76, 0x21, 0x56, 0x60,
  0xdd, 0x30, 0x97, 0x91, 0xd0, 0x6b, 0xd0, 0xaf, 0x3f, 0x98, 0xcd, 0xa4, 0xbc, 0x46, 0x29, 0xb1]

theorem plainCv_shattered1 : plainCv (messageBlocks (pad [shattered1].flatten)) 4 = shatteredCtx.cv :=
  plainCv_eq (by decide +kernel)

theorem getElem?_shattered1 : (messageBlocks (pad [shattered1].flatten))[4]? = some shatteredBlock := by
  decide +kernel

/-- Settings that are at least as sensitive as the defaults find the collision. -/
theorem found_shattered1 {s : Settings} (hle : shatteredCtx.settings.Le s) :
    (Machine.runBlocks s (messageBlocks (pad [shattered1].flatten))).found = true := by
  have hflagged : (detect shatteredCtx.settings (expand shatteredBlock) shatteredCtx.cv).isSome = true :=
    (flags_eq portable shatteredCtx shatteredBlock).symm.trans shattered_flagged
  refine (Machine.found_runBlocks_iff s _).mpr ⟨4, shatteredBlock, getElem?_shattered1, ?_⟩
  rw [plainCv_shattered1]
  exact detect_mono hle hflagged

/-! ### More and less sensitive settings -/

/-- Of two hashes of one message the more sensitive one finds a collision if the other does; if it finds
none, or without safe hashing, the outputs are the same. -/
theorem hash_mono (b b' : Build) (ctx₀ ctx₀' : Ctx) (sets sets' : List Setter)
    (chunks chunks' : List (List Byte)) (hm : chunks.flatten = chunks'.flatten)
    (hle : (b.setUp ctx₀ sets).settings.Le (b'.setUp ctx₀' sets').settings)
    (hsafe : (b.setUp ctx₀ sets).doSafeHash = (b'.setUp ctx₀' sets').doSafeHash) :
    ∃ r r', b.hash ctx₀ sets chunks = .ok r ∧ b'.hash ctx₀' sets' chunks' = .ok r' ∧
      (r.foundCollision = true → r'.foundCollision = true) ∧
      (r'.foundCollision = false → r.output = r'.output) ∧
      ((b.setUp ctx₀ sets).doSafeHash = false → r.output = r'.output) := by
  obtain ⟨r, hr, hout, hfound, -⟩ := wp_hash b ctx₀ sets chunks
  obtain ⟨r', hr', hout', hfound', -⟩ := wp_hash b' ctx₀' sets' chunks'
  have hagree := Machine.agree_runBlocks hle (messageBlocks (pad chunks'.flatten))
  rw [hm] at hout hfound
  refine ⟨r, r', hr, hr', fun h => ?_, fun h => ?_, fun h => ?_⟩
  · by_contra hne
    have hnone := (hagree (hfound'.symm.trans (Bool.eq_false_iff.mpr hne))).1
    exact Bool.false_ne_true (hnone.symm.trans (hfound.symm.trans h))
  · rw [hout, hout', (hagree (hfound'.symm.trans h)).2]
  · rw [hout, hout', Machine.cv_runBlocks_plain (.inr h),
      Machine.cv_runBlocks_plain (.inr (hsafe.symm.trans h))]

/-- Cut in two ways, one message is flagged by the defaults and by settings that are more sensitive; without
safe hashing the outputs are the same. -/
theorem hash_mono_shattered : ∃ r r',
    portable.hash shatteredCtx [.setDoSafeHash false]
      [shattered1.take 100, [], shattered1.drop 100] = .ok r ∧
    portable.hash shatteredCtx [.setUseUbc false, .setDetectReducedRoundColl true, .setDoSafeHash false]
      [shattered1] = .ok r' ∧
      r.foundCollision = true ∧ r'.foundCollision = true ∧ r.output = r'.output := by
  have hm : [shattered1.take 100, [], shattered1.drop 100].flatten = [shattered1].flatten := by simp
  obtain ⟨r, r', hr, hr', hmono, -, hout⟩ := hash_mono portable portable shatteredCtx shatteredCtx
    [.setDoSafeHash false] [.setUseUbc false, .setDetectReducedRoundColl true, .setDoSafeHash false] _ _ hm
    ⟨id, fun _ => rfl, fun _ => rfl⟩ rfl
  obtain ⟨-, hfound, -⟩ := (wp_hash portable shatteredCtx [.setDoSafeHash false] _).of_eq hr
  rw [hm] at hfound
  have h : r.foundCollision = true := hfound.trans (found_shattered1 ⟨id, id, id⟩)
  exact ⟨r, r', hr, hr', h, hmono h, hout rfl⟩

end Sha1dc
