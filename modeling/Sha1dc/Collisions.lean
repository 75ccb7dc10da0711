import Mathlib.Logic.Function.Iterate
import Mathlib.Tactic.IntervalCases
import Sha1dc.Hash

/-!
# Collisions in whole messages

What the detection says about messages, not blocks. A hash reports a collision if and only if some block
meets the criterion from the chaining value that plain SHA-1 has before it, however often the hash itself
has left that chain with safe hashing (`hash_found_iff`). Two messages that meet as a block and its twin are
both reported, and have the same SHA-1 hash if they go on in the same way (`hash_found_twins`). Every call of
the handler shows a collision of the compression function (`hash_calls`). Conversely two messages with the
same safe hash lead to a collision of the compression function, or one of them reaches the chaining value
that the other has in the middle of a flagged block (`hash_collision`).
-/

namespace Sha1dc.Fips
open Blocks

/-! ### The encoding can be read back -/

theorem blockOf_injective {l l' : List Byte} (hl : l.length = 64) (hl' : l'.length = 64)
    (h : blockOf l = blockOf l') : l = l' := by
  refine List.ext_getElem (hl.trans hl'.symm) fun i hi hi' => ?_
  have hget := congrArg (fun B : Block => B[i]?.getD 0) h
  have h64 : i < 64 := by omega
  simpa [blockOf, h64, hi, hi'] using hget

theorem toList_messageBlocks (l : List Byte) : (messageBlocks l).map Vector.toList = blocks 64 l := by
  have hmem : ∀ l' ∈ blocks 64 l, (blockOf l').toList = l' := by
    intro l' hl'
    have hlen := length_of_mem_blocks hl'
    exact blockOf_injective (by simp) hlen (blockOf_toList _)
  rw [messageBlocks, List.map_map]
  exact (List.map_congr_left hmem).trans (List.map_id _)

theorem wordBytes_injective {x y : Word} (h : wordBytes x = wordBytes y) : x = y := by
  simp only [wordBytes, List.cons.injEq, and_true] at h
  rw [← extract_append x, ← extract_append y, h.1, h.2.1, h.2.2.1, h.2.2.2]

theorem lengthBytes_injective {x y : BitVec 64} (h : lengthBytes x = lengthBytes y) : x = y := by
  simp only [lengthBytes, List.cons.injEq, and_true] at h
  obtain ⟨h7, h6, h5, h4, h3, h2, h1, h0⟩ := h
  have hbyte : ∀ p < 8, x.extractLsb' (8 * p) 8 = y.extractLsb' (8 * p) 8 := by
    intro p hp
    interval_cases p <;> assumption
  refine BitVec.eq_of_getLsbD_eq fun i hi => ?_
  have hbit := congrArg (BitVec.getLsbD · (i % 8)) (hbyte (i / 8) (by omega))
  simpa [BitVec.getLsbD_extractLsb', Nat.mod_lt, Nat.div_add_mod] using hbit

theorem digest_injective {c c' : ChainingValue} (h : digest c = digest c') : c = c' := by
  simp only [digest, ChainingValue.toList, List.flatMap_cons] at h
  obtain ⟨hA, h⟩ := List.append_inj h rfl
  obtain ⟨hB, h⟩ := List.append_inj h rfl
  obtain ⟨hC, h⟩ := List.append_inj h rfl
  obtain ⟨hD, h⟩ := List.append_inj h rfl
  obtain ⟨hE, -⟩ := List.append_inj h rfl
  exact ChainingValue.ext (wordBytes_injective hA) (wordBytes_injective hB) (wordBytes_injective hC)
    (wordBytes_injective hD) (wordBytes_injective hE)

theorem length_pad_mod (m : List Byte) : (pad m).length % 64 = 0 := by
  rw [pad, List.length_append, length_padding_mod]

/-- The length at the end of the padding keeps the blocks of one message from being the last blocks of
another. -/
theorem eq_of_messageBlocks_suffix {m m' : List Byte} (hm : m.length < 2 ^ 61) (hm' : m'.length < 2 ^ 61)
    (h : messageBlocks (pad m) <:+ messageBlocks (pad m')) : m = m' := by
  obtain ⟨Bs, hBs⟩ := h
  have hpad : (Bs.map Vector.toList).flatten ++ pad m = pad m' := by
    have hlists : ((Bs ++ messageBlocks (pad m)).map Vector.toList).flatten =
        ((messageBlocks (pad m')).map Vector.toList).flatten := by rw [hBs]
    rwa [List.map_append, List.flatten_append, toList_messageBlocks, toList_messageBlocks,
      flatten_blocks (by decide) (length_pad_mod m), flatten_blocks (by decide) (length_pad_mod m')] at hlists
  have hlen : m.length = m'.length := by
    rw [pad, pad, padding, padding, ← List.append_assoc, ← List.append_assoc, ← List.append_assoc] at hpad
    obtain ⟨-, hbytes⟩ := List.append_inj' hpad rfl
    have hnat := congrArg BitVec.toNat (lengthBytes_injective hbytes)
    rw [BitVec.toNat_ofNat, BitVec.toNat_ofNat] at hnat
    omega
  have hnil : (Bs.map Vector.toList).flatten = [] := by
    have hlens := congrArg List.length hpad
    refine List.eq_nil_of_length_eq_zero ?_
    rw [List.length_append, pad, pad, List.length_append, List.length_append, hlen] at hlens
    omega
  rw [hnil, List.nil_append, pad, pad] at hpad
  exact List.append_inj_left hpad hlen

end Sha1dc.Fips

namespace Sha1dc
open Checked Blocks Fips Chain

/-! ### Whole messages -/

/-- Whatever the safe hash does to the chaining value behind a flagged block, a hash returns `true` if and
only if some block of the padded message meets the criterion on the chain of plain SHA-1. -/
theorem hash_found_iff (b : Build) (ctx₀ : Ctx) (sets : List Setter) (chunks : List (List Byte)) :
    let ctx := b.setUp ctx₀ sets
    let Bs := messageBlocks (pad chunks.flatten)
    ∃ r, b.hash ctx₀ sets chunks = .ok r ∧ (r.foundCollision = true ↔ ctx.detectColl = true ∧
      ∃ j B k c', Bs[j]? = some B ∧ Criterion b { ctx with cv := plainCv Bs j } (expand B) k c') := by
  intro ctx Bs
  obtain ⟨r, hr, -, hfound, -⟩ := wp_hash b ctx₀ sets chunks
  have hcriterion : ∀ B k cv, (∃ c', Criterion b { ctx with cv } (expand B) k c') ↔
      Hits ctx.settings (expand B) cv k := fun B k cv => exists_criterion_iff
  refine ⟨r, hr, ?_⟩
  rw [hfound, Machine.found_runBlocks_iff]
  constructor
  · rintro ⟨j, B, hB, hsome⟩
    obtain ⟨hdetect, k, hit⟩ := detect_isSome_iff.mp hsome
    obtain ⟨c', hc'⟩ := (hcriterion B k (plainCv Bs j)).mpr hit
    exact ⟨hdetect, j, B, k, c', hB, hc'⟩
  · rintro ⟨hdetect, j, B, k, c', hB, hc'⟩
    exact ⟨j, B, hB, detect_isSome_iff.mpr ⟨hdetect, k, (hcriterion B k (plainCv Bs j)).mp ⟨c', hc'⟩⟩⟩

/-- In block `j` two messages are a block and its twin for `k`, whose runs meet at the test state and end
in the same chaining value. -/
structure Twins (k : Dv) (Bs Bs' : List Block) (j : Nat) (B B' : Block) : Prop where
  left : Bs[j]? = some B
  right : Bs'[j]? = some B'
  words : ∀ i < 16, message B' i = message B i ^^^ (messageMask k).seq i
  state : stateAt (expand B').seq (testState k) (plainCv Bs' j) =
    stateAt (expand B).seq (testState k) (plainCv Bs j)
  collides : compress (expand B').seq (plainCv Bs' j) = compress (expand B).seq (plainCv Bs j)

namespace Twins
variable {k : Dv} {Bs Bs' : List Block} {j : Nat} {B B' : Block}

theorem expand_eq (h : Twins k Bs Bs' j B B') : expand B' = twinOf k (expand B) := by
  refine ExpandedBlock.ext_seq fun t ht => ?_
  rw [seq_expand B' ht]
  refine ((isExpansion_twinOf k (isExpansion_expand B)).eq_schedule (fun i hi => ?_) ht).symm
  rw [h.words i hi, seq_twinOf k _ (by omega), seq_expand B (by omega), schedule_lt _ hi]

theorem of_plainCv {c c' : ChainingValue} (hcv : plainCv Bs j = c) (hcv' : plainCv Bs' j = c')
    (left : Bs[j]? = some B) (right : Bs'[j]? = some B')
    (words : ∀ i < 16, message B' i = message B i ^^^ (messageMask k).seq i)
    (state : stateAt (expand B').seq (testState k) c' = stateAt (expand B).seq (testState k) c)
    (collides : compress (expand B').seq c' = compress (expand B).seq c) : Twins k Bs Bs' j B B' :=
  ⟨left, right, words, by rw [hcv, hcv', state], by rw [hcv, hcv', collides]⟩

theorem symm (h : Twins k Bs Bs' j B B') : Twins k Bs' Bs j B' B where
  left := h.right
  right := h.left
  words i hi := by rw [h.words i hi, BitVec.xor_assoc, BitVec.xor_self, BitVec.xor_zero]
  state := h.state.symm
  collides := h.collides.symm

theorem found {s : Settings} (h : Twins k Bs Bs' j B B') (hdetect : s.detectColl = true)
    (hubc : s.ubcCheck = true → Possible ubcs (expand B).seq k) :
    (Machine.runBlocks s Bs).found = true := by
  have hin : plainCv Bs' j = twinIn k (expand B) (plainCv Bs j) := by
    rw [eq_twinIn_iff, ← h.expand_eq]
    exact h.state
  have hconf : Confirms s.reducedRoundColl k (expand B) (plainCv Bs j) := by
    refine .inl ?_
    rw [← hin, ← h.expand_eq]
    exact h.collides
  exact (Machine.found_runBlocks_iff s Bs).mpr
    ⟨j, B, h.left, detect_isSome_iff.mpr ⟨hdetect, k, hubc, hconf⟩⟩

theorem foldl_eq (h : Twins k Bs Bs' j B B') (hdrop : Bs.drop (j + 1) = Bs'.drop (j + 1)) :
    Bs.foldl (fun c B => compress (expand B).seq c) H0 =
      Bs'.foldl (fun c B => compress (expand B).seq c) H0 := by
  refine foldl_eq_of_chainAt ?_ hdrop
  rw [chainAt_succ h.left, chainAt_succ h.right]
  exact h.collides.symm

end Twins

def shattered2 : List Byte := shatteredFront ++ [
  0x7f, 0x46, 0xdc, 0x93, 0xa6, 0xb6, 0x7e, 0x01, 0x3b, 0x02, 0x9a, 0xaa, 0x1d, 0xb2, 0x56, 0x0b,
  0x45, 0xca, 0x67, 0xd6, 0x88, 0xc7, 0xf8, 0x4b, 0x8c, 0x4c, 0x79, 0x1f, 0xe0, 0x2b, 0x3d, 0xf6,
  0x14, 0xf8, 0x6d, 0xb1, 0x69, 0x09, 0x01, 0xc5, 0x6b, 0x45, 0xc1, 0x53, 0x0a, 0xfe, 0xdf, 0xb7,
  0x60, 0x38, 0xe9, 0x72, 0x72, 0x2f, 0xe7, 0xad, 0x72, 0x8f, 0x0e, 0x49, 0x04, 0xe0, 0x46, 0xc2,
  0x30, 0x57, 0x0f, 0xe9, 0xd4, 0x13, 0x98, 0xab, 0xe1, 0x2e, 0xf5, 0xbc, 0x94, 0x2b, 0xe3, 0x35,
  0x42, 0xa4, 0x80, 0x2d, 0x98, 0xb5, 0xd7, 0x0f, 0x2a, 0x33, 0x2e, 0xc3, 0x7f, 0xac, 0x35, 0x14,
  0xe7, 0x4d, 0xdc, 0x0f, 0x2c, 0xc1, 0xa8, 0x74, 0xcd, 0x0c, 0x78, 0x30, 0x5a, 0x21, 0x56, 0x64,
  0x61, 0x30, 0x97, 0x89, 0x60, 0x6b, 0xd0, 0xbf, 0x3f, 0x98, 0xcd, 0xa8, 0x04, 0x46, 0x29, 0xa1]

/-- The fifth block of `test/shattered-2.pdf`. -/
def shatteredTwin : Block := blockOf (shattered2.drop 256)

/-- The chaining value in front of it. -/
def shatteredTwinIn : ChainingValue := ⟨0x8d64d617, 0xffed5352, 0xebc85915, 0x5ec7eb34, 0xf38a5a7b⟩

theorem plainCv_shattered2 : plainCv (messageBlocks (pad [shattered2].flatten)) 4 = shatteredTwinIn :=
  plainCv_eq (by decide +kernel)

theorem shattered_twins : Twins 27 (messageBlocks (pad [shattered1].flatten))
    (messageBlocks (pad [shattered2].flatten)) 4 shatteredBlock shatteredTwin := by
  have hsaved : ((portable.addBlockExpandingSaving shatteredCtx shatteredBlock).map fun r =>
        (r.1, r.2.2[1])) =
      (portable.addBlockExpandingSaving { shatteredCtx with cv := shatteredTwinIn } shatteredTwin).map
        fun r => (r.1, r.2.2[1]) := by decide +kernel
  rw [addBlockExpandingSaving_eq, addBlockExpandingSaving_eq] at hsaved
  obtain ⟨hcollides, hstate⟩ := Prod.mk.inj (Except.ok.inj hsaved)
  refine Twins.of_plainCv ?_ ?_ getElem?_shattered1 (by decide +kernel) (by decide +kernel) hstate.symm
    hcollides.symm
  · exact plainCv_shattered1
  · exact plainCv_shattered2

theorem drop_shattered : (messageBlocks (pad [shattered1].flatten)).drop 5 =
    (messageBlocks (pad [shattered2].flatten)).drop 5 := by
  decide +kernel

/-- Of two messages that meet as a block and its twin, any two builds under any settings report both, if the
filter is off or lets the vector through; if the messages go on in the same way they have the same hash. -/
theorem hash_found_twins (b b' : Build) (ctx₀ ctx₀' : Ctx) (sets sets' : List Setter)
    (chunks chunks' : List (List Byte)) {k : Dv} {j : Nat} {B B' : Block}
    (h : Twins k (messageBlocks (pad chunks.flatten)) (messageBlocks (pad chunks'.flatten)) j B B')
    (hdetect : (b.setUp ctx₀ sets).detectColl = true) (hdetect' : (b'.setUp ctx₀' sets').detectColl = true)
    (hubc : (b.setUp ctx₀ sets).ubcCheck = true → Possible ubcs (expand B).seq k)
    (hubc' : (b'.setUp ctx₀' sets').ubcCheck = true → Possible ubcs (expand B).seq k) :
    ∃ r r', b.hash ctx₀ sets chunks = .ok r ∧ b'.hash ctx₀' sets' chunks' = .ok r' ∧
      r.foundCollision = true ∧ r'.foundCollision = true ∧
      ((messageBlocks (pad chunks.flatten)).drop (j + 1) =
          (messageBlocks (pad chunks'.flatten)).drop (j + 1) →
        sha1 chunks.flatten = sha1 chunks'.flatten) := by
  obtain ⟨r, hr, -, hfound, -⟩ := wp_hash b ctx₀ sets chunks
  obtain ⟨r', hr', -, hfound', -⟩ := wp_hash b' ctx₀' sets' chunks'
  refine ⟨r, r', hr, hr', hfound.trans (h.found hdetect hubc), hfound'.trans (h.symm.found hdetect' ?_), ?_⟩
  · intro hon
    rw [h.expand_eq, possible_twinOf]
    exact hubc' hon
  · exact fun hdrop => congrArg digest (h.foldl_eq hdrop)

theorem hash_found_twins_shattered : ∃ r r',
    portable.hash shatteredCtx [.setUseUbc false] [shattered1] = .ok r ∧
    portable.hash shatteredCtx [.setUseUbc false] [shattered2] = .ok r' ∧
      r.foundCollision = true ∧ r'.foundCollision = true ∧
      sha1 [shattered1].flatten = sha1 [shattered2].flatten :=
  have ⟨r, r', hr, hr', hfound, hfound', hsha1⟩ := hash_found_twins portable portable shatteredCtx
    shatteredCtx [.setUseUbc false] [.setUseUbc false] [shattered1] [shattered2] shattered_twins rfl rfl
    (fun h => absurd h Bool.false_ne_true) fun h => absurd h Bool.false_ne_true
  ⟨r, r', hr, hr', hfound, hfound', hsha1 drop_shattered⟩

/-! ### What the handler is shown -/

/-- The chaining value of the hash under the settings `s` before block `j`. -/
def hashCv (s : Settings) (Bs : List Block) (j : Nat) : ChainingValue :=
  chainAt (fun c B => hashBlock s (expand B) c) H0 Bs j

/-- The block and its twin, as the pointers of the call reach them: two different blocks that the
compression function takes to the same chaining value. -/
structure HandlerCall.Shows (call : HandlerCall) (reducedRoundColl : Bool) (B B' : Block)
    (c c' : ChainingValue) : Prop where
  ne : B' ≠ B
  blockIn : call.blockW.take 5 = c.toList
  twinIn : call.twinW.take 5 = c'.toList
  blockW : call.blockIn.take 80 = (expand B).toList
  twinW : call.twinIn.take 80 = (expand B').toList
  collides : compress (expand B').seq c' = compress (expand B).seq c ∨ reducedRoundColl = true ∧ c' = c

theorem shows_twinCall {s : Settings} {B : Block} {c : ChainingValue} {k : Dv} (h : Hits s (expand B) c k)
    (bytes : BitVec 64) (collision : Pointer) : (twinCall s bytes (expand B) c k collision).Shows
      s.reducedRoundColl B (twinBlock k B) c (twinIn k (expand B) c) := by
  refine ⟨twinBlock_ne k B, List.take_left' (by simp), List.take_left' (by simp),
    List.take_left' (by simp), ?_, ?_⟩
  · rw [expand_twinBlock]
    exact List.take_left' (by simp)
  · rw [expand_twinBlock]
    exact h.2

namespace Machine
variable {s : Settings} {Bs : List Block}

theorem hashCv_length (s : Settings) (Bs : List Block) : hashCv s Bs Bs.length = (runBlocks s Bs).cv := by
  rw [hashCv, chainAt_length, cv_runBlocks]

/-- Whether block `j` is flagged where the hash meets it. -/
def flaggedAt (s : Settings) (Bs : List Block) (j : Nat) : Bool :=
  Bs[j]?.any fun B => (detect s (expand B) (hashCv s Bs j)).isSome

theorem flaggedAt_append {Bs' : List Block} {j : Nat} (h : j < Bs.length) :
    flaggedAt s (Bs ++ Bs') j = flaggedAt s Bs j := by
  rw [flaggedAt, flaggedAt, hashCv, hashCv, chainAt_append (Nat.le_of_lt h), List.getElem?_append_left h]

/-- The log of a hash with a handler, block by block. -/
theorem offsets_runBlocks {collision : Pointer} (hcoll : s.collision = some collision) (Bs : List Block) :
    (runBlocks s Bs).calls.map HandlerCall.byteOffset =
      ((List.range Bs.length).filter (flaggedAt s Bs)).map fun j => BitVec.ofNat 64 (64 * (j + 1)) := by
  induction Bs using List.reverseRecOn with
  | nil => rfl
  | append_singleton Bs B ih =>
    have hlast : flaggedAt s (Bs ++ [B]) Bs.length =
        (detect s (expand B) (runBlocks s Bs).cv).isSome := by
      rw [flaggedAt, hashCv, chainAt_append (Nat.le_refl _), ← hashCv, hashCv_length]
      simp
    have hfront : (List.range Bs.length).filter (flaggedAt s (Bs ++ [B])) =
        (List.range Bs.length).filter (flaggedAt s Bs) :=
      List.filter_congr fun j hj => flaggedAt_append (List.mem_range.mp hj)
    rw [runBlocks_concat, step, List.map_append, ih, offsets_blockCalls, hcoll, Option.isSome_some,
      Bool.and_true, ← hlast, done_runBlocks, List.length_append, List.length_singleton, List.range_succ,
      List.filter_append, List.map_append, hfront]
    cases hflag : flaggedAt s (Bs ++ [B]) Bs.length <;> simp [hflag]

theorem found_eq_calls {collision : Pointer} (hcoll : s.collision = some collision) (Bs : List Block) :
    (runBlocks s Bs).found = true ↔ (runBlocks s Bs).calls ≠ [] := by
  induction Bs using List.reverseRecOn with
  | nil => simp [runBlocks, start, steps]
  | append_singleton Bs B ih =>
    rw [runBlocks_concat, step, Bool.or_eq_true, ih, blockCalls, hcoll]
    cases detect s (expand B) (runBlocks s Bs).cv <;> simp

theorem shows_of_mem_calls {call : HandlerCall} (h : call ∈ (runBlocks s Bs).calls) :
    ∃ j B B' c', Bs[j]? = some B ∧ call.byteOffset = BitVec.ofNat 64 (64 * (j + 1)) ∧
      s.collision = some call.handler ∧ call.closure = s.collisionClosure ∧
      call.Shows s.reducedRoundColl B B' (hashCv s Bs j) c' := by
  induction Bs using List.reverseRecOn with
  | nil => exact absurd h List.not_mem_nil
  | append_singleton Bs B ih =>
    rw [runBlocks_concat, step, List.mem_append] at h
    rcases h with h | h
    · obtain ⟨j, D, D', c', hD, hcall⟩ := ih h
      obtain ⟨hj, -⟩ := List.getElem?_eq_some_iff.mp hD
      refine ⟨j, D, D', c', ?_, ?_⟩
      · rw [List.getElem?_append_left hj, hD]
      · rwa [hashCv, chainAt_append (Nat.le_of_lt hj)]
    · rw [blockCalls] at h
      cases hk : detect s (expand B) (runBlocks s Bs).cv with
      | none =>
        rw [hk] at h
        exact absurd h List.not_mem_nil
      | some k =>
        rw [hk] at h
        obtain ⟨collision, hcoll, rfl⟩ := List.mem_map.mp h
        have hit := (detect_eq_some_iff.mp hk).2.1
        refine ⟨Bs.length, B, twinBlock k B, twinIn k (expand B) (runBlocks s Bs).cv, by simp, ?_, ?_, rfl, ?_⟩
        · rw [← done_runBlocks s Bs]
          rfl
        · exact Option.mem_toList.mp hcoll
        · rw [hashCv, chainAt_append (Nat.le_refl _), ← hashCv, hashCv_length]
          exact shows_twinCall hit _ _

end Machine

/-- While a hash is computed the handler is called once for each flagged block, at the end of the block and
in the order of the message, and only with a collision of the compression function to show. -/
theorem hash_calls (b : Build) (ctx₀ : Ctx) (sets : List Setter) (chunks : List (List Byte)) :
    let ctx := b.setUp ctx₀ sets
    let Bs := messageBlocks (pad chunks.flatten)
    ∃ r, b.hash ctx₀ sets chunks = .ok r ∧
      (ctx.collision = none → r.calls = []) ∧
      (ctx.collision ≠ none → (r.foundCollision = true ↔ r.calls ≠ []) ∧
        r.calls.map HandlerCall.byteOffset = ((List.range Bs.length).filter fun j =>
          Bs[j]?.any fun B => b.flags { ctx with cv := hashCv ctx.settings Bs j } B).map
            fun j => BitVec.ofNat 64 (64 * (j + 1))) ∧
      ∀ call ∈ r.calls, ∃ j B B' c', Bs[j]? = some B ∧
        call.byteOffset = BitVec.ofNat 64 (64 * (j + 1)) ∧ ctx.collision = some call.handler ∧
        call.closure = ctx.collisionClosure ∧
        call.Shows ctx.reducedRoundColl B B' (hashCv ctx.settings Bs j) c' := by
  intro ctx Bs
  obtain ⟨r, hr, -, hfound, hcalls⟩ := wp_hash b ctx₀ sets chunks
  refine ⟨r, hr, fun hnone => ?_, fun hsome => ⟨?_, ?_⟩, fun call hcall => ?_⟩
  · refine List.eq_nil_iff_forall_not_mem.mpr fun call hcall => ?_
    rw [hcalls] at hcall
    obtain ⟨j, B, B', c', -, -, hcoll, -⟩ := Machine.shows_of_mem_calls hcall
    exact absurd (hnone.symm.trans hcoll) (by simp)
  · obtain ⟨collision, hcoll⟩ := Option.ne_none_iff_exists'.mp hsome
    rw [hfound, hcalls]
    exact Machine.found_eq_calls hcoll Bs
  · obtain ⟨collision, hcoll⟩ := Option.ne_none_iff_exists'.mp hsome
    rw [hcalls, Machine.offsets_runBlocks hcoll]
    refine congrArg _ (List.filter_congr fun j _ => ?_)
    have hflags : ∀ cv B, b.flags { ctx with cv } B = (detect ctx.settings (expand B) cv).isSome :=
      fun cv B => flags_eq b _ B
    simp only [hflags]
    rfl
  · rw [hcalls] at hcall
    exact Machine.shows_of_mem_calls hcall

/-! ### Two messages with the same hash -/

section
variable {s : Settings} {B B' : Block} {c c' : ChainingValue}

/-- How often the block is compressed before the last time. -/
def extraRounds (s : Settings) (B : Block) (c : ChainingValue) : Nat :=
  if (detect s (expand B) c).isSome ∧ s.doSafeHash then 2 else 0

theorem hashBlock_eq_iterate (s : Settings) (B : Block) (c : ChainingValue) :
    hashBlock s (expand B) c =
      compress (expand B).seq ((compress (expand B).seq)^[extraRounds s B c] c) := by
  rw [hashBlock, safeHash, extraRounds]
  by_cases hsome : (detect s (expand B) c).isSome = true <;> by_cases hsafe : s.doSafeHash = true <;>
    simp [hsome, hsafe]

/-- The chaining values from which the two blocks are compressed the `n`-th and the `n'`-th time collide. -/
structure RoundsCollide (s : Settings) (B B' : Block) (c c' : ChainingValue) (n n' : Nat) : Prop where
  le : n ≤ extraRounds s B c
  le' : n' ≤ extraRounds s B' c'
  ne : (compress (expand B).seq)^[n] c ≠ (compress (expand B').seq)^[n'] c' ∨ B ≠ B'
  eq : compress (expand B).seq ((compress (expand B).seq)^[n] c) =
    compress (expand B').seq ((compress (expand B').seq)^[n'] c')

/-- The hash of a flagged block from `c` goes through `c'`, from where the same block is not flagged. -/
structure Enters (s : Settings) (B : Block) (c c' : ChainingValue) : Prop where
  flagged : extraRounds s B c = 2
  unflagged : extraRounds s B c' = 0
  eq : compress (expand B).seq (compress (expand B).seq c) = c'

/-- Two blocks that are hashed to the same chaining value. The last compressions collide, unless they are
the same; then two flagged blocks collide earlier, and otherwise one enters the other. -/
theorem roundsCollide_or_enters (hne : c ≠ c' ∨ B ≠ B')
    (heq : hashBlock s (expand B) c = hashBlock s (expand B') c') :
    (∃ n n', RoundsCollide s B B' c c' n n') ∨ B = B' ∧ (Enters s B c c' ∨ Enters s B c' c) := by
  rw [hashBlock_eq_iterate, hashBlock_eq_iterate] at heq
  by_cases hlast : (compress (expand B).seq)^[extraRounds s B c] c ≠
      (compress (expand B').seq)^[extraRounds s B' c'] c' ∨ B ≠ B'
  · exact .inl ⟨_, _, Nat.le_refl _, Nat.le_refl _, hlast, heq⟩
  · rw [not_or, not_not, not_not] at hlast
    obtain ⟨hlast, rfl⟩ := hlast
    have hcv : c ≠ c' := hne.resolve_right fun h => h rfl
    have hrounds : ∀ c, extraRounds s B c = 0 ∨ extraRounds s B c = 2 := by
      intro c
      rw [extraRounds]
      split
      · exact .inr rfl
      · exact .inl rfl
    rcases hrounds c with h | h <;> rcases hrounds c' with h' | h' <;> rw [h, h'] at hlast
    · exact absurd hlast hcv
    · exact .inr ⟨rfl, .inr ⟨h', h, hlast.symm⟩⟩
    · exact .inr ⟨rfl, .inl ⟨h, h', hlast⟩⟩
    · by_cases hfirst : compress (expand B).seq c = compress (expand B).seq c'
      · exact .inl ⟨0, 0, Nat.zero_le _, Nat.zero_le _, .inl hcv, hfirst⟩
      · exact .inl ⟨1, 1, by omega, by omega, .inl hfirst, hlast⟩

theorem hashCv_eq_plainCv (h : s.detectColl = false ∨ s.doSafeHash = false) (Bs : List Block) (j : Nat) :
    hashCv s Bs j = plainCv Bs j :=
  List.foldl_ext _ _ _ fun _ _ _ => hashBlock_eq_compress h

end

/-- If two messages have the same hash under the same settings, then two of their blocks collide under the
compression function, where the hash compresses them, or one message reaches the chaining value that the
other has in the middle of the same, flagged, block. Without safe hashing or without detection only a
collision on the chains of plain SHA-1 is left. -/
theorem hash_collision (b : Build) (ctx₀ : Ctx) (sets : List Setter) (chunks chunks' : List (List Byte))
    (hm : chunks.flatten.length < 2 ^ 61) (hm' : chunks'.flatten.length < 2 ^ 61)
    (hne : chunks.flatten ≠ chunks'.flatten) :
    let s := (b.setUp ctx₀ sets).settings
    let Bs := messageBlocks (pad chunks.flatten)
    let Bs' := messageBlocks (pad chunks'.flatten)
    ∃ r r', b.hash ctx₀ sets chunks = .ok r ∧ b.hash ctx₀ sets chunks' = .ok r' ∧
      (r.output = r'.output → ∃ i j B B', Bs[i]? = some B ∧ Bs'[j]? = some B' ∧
        ((∃ n n', RoundsCollide s B B' (hashCv s Bs i) (hashCv s Bs' j) n n') ∨ B = B' ∧
          (Enters s B (hashCv s Bs i) (hashCv s Bs' j) ∨ Enters s B (hashCv s Bs' j) (hashCv s Bs i))) ∧
        (s.detectColl = false ∨ s.doSafeHash = false →
          (plainCv Bs i ≠ plainCv Bs' j ∨ B ≠ B') ∧
          compress (expand B).seq (plainCv Bs i) = compress (expand B').seq (plainCv Bs' j))) := by
  intro s Bs Bs'
  obtain ⟨r, hr, hout, -, -⟩ := wp_hash b ctx₀ sets chunks
  obtain ⟨r', hr', hout', -, -⟩ := wp_hash b ctx₀ sets chunks'
  refine ⟨r, r', hr, hr', fun heq => ?_⟩
  rw [hout, hout'] at heq
  have hcv := digest_injective heq
  rw [Machine.cv_runBlocks, Machine.cv_runBlocks] at hcv
  obtain ⟨i, j, B, B', hcoll⟩ := exists_collision hcv
    (fun h => hne (eq_of_messageBlocks_suffix hm hm' h))
    fun h => hne (eq_of_messageBlocks_suffix hm' hm h).symm
  have hcv_ne : hashCv s Bs i ≠ hashCv s Bs' j ∨ B ≠ B' := hcoll.ne
  have hcv_eq : hashBlock s (expand B) (hashCv s Bs i) = hashBlock s (expand B') (hashCv s Bs' j) := hcoll.eq
  refine ⟨i, j, B, B', hcoll.left, hcoll.right, roundsCollide_or_enters hcv_ne hcv_eq, fun hplain => ?_⟩
  rw [hashBlock_eq_compress hplain, hashBlock_eq_compress hplain] at hcv_eq
  rw [hashCv_eq_plainCv hplain, hashCv_eq_plainCv hplain] at hcv_ne hcv_eq
  exact ⟨hcv_ne, hcv_eq⟩

/-- Without safe hashing the two files up to the collision have the same hash. -/
theorem hash_collision_shattered :
    let s := (portable.setUp shatteredCtx [.setDoSafeHash false]).settings
    let Bs := messageBlocks (pad [shattered1].flatten)
    let Bs' := messageBlocks (pad [shattered2].flatten)
    ∃ r r', portable.hash shatteredCtx [.setDoSafeHash false] [shattered1] = .ok r ∧
      portable.hash shatteredCtx [.setDoSafeHash false] [shattered2] = .ok r' ∧ r.output = r'.output ∧
      ∃ i j B B', Bs[i]? = some B ∧ Bs'[j]? = some B' ∧
        ((∃ n n', RoundsCollide s B B' (hashCv s Bs i) (hashCv s Bs' j) n n') ∨ B = B' ∧
          (Enters s B (hashCv s Bs i) (hashCv s Bs' j) ∨ Enters s B (hashCv s Bs' j) (hashCv s Bs i))) ∧
        (plainCv Bs i ≠ plainCv Bs' j ∨ B ≠ B') ∧
        compress (expand B).seq (plainCv Bs i) = compress (expand B').seq (plainCv Bs' j) := by
  intro s Bs Bs'
  obtain ⟨r, r', hr, hr', hcollision⟩ := hash_collision portable shatteredCtx [.setDoSafeHash false]
    [shattered1] [shattered2] (by decide +kernel) (by decide +kernel) (by decide +kernel)
  obtain ⟨hout, -, -⟩ := (wp_hash portable shatteredCtx [.setDoSafeHash false] [shattered1]).of_eq hr
  obtain ⟨hout', -, -⟩ := (wp_hash portable shatteredCtx [.setDoSafeHash false] [shattered2]).of_eq hr'
  have hsame : r.output = r'.output := by
    rw [hout, hout', Machine.cv_runBlocks_plain (.inr rfl), Machine.cv_runBlocks_plain (.inr rfl),
      shattered_twins.foldl_eq drop_shattered]
  obtain ⟨i, j, B, B', hB, hB', hrounds, hplain⟩ := hcollision hsame
  exact ⟨r, r', hr, hr', hsame, i, j, B, B', hB, hB', hrounds, hplain (.inr rfl)⟩

end Sha1dc
