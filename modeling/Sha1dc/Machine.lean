import Sha1dc.Lib.Chain
import Sha1dc.ProcessSim

/-!
# The block machine

What a context does with a stream, apart from buffers and counters: the stream is cut into blocks of
64 bytes, and each is processed once, in order, under the settings in force when its last byte came
(`run`). Machines that are `Alike` stay so over blocks under one setting (`Alike.steps`), and such blocks
show a collision if and only if one of them is flagged on the chain of plain SHA-1 (`found_runBlocks_iff`).
-/

namespace Sha1dc
open Blocks Fips Chain

/-- The bytes that came, each with the settings in force during the call that supplied it. -/
abbrev Feed := List (Byte × Settings)

namespace Feed

def bytes (feed : Feed) : List Byte := feed.map Prod.fst

def under (l : List Byte) (s : Settings) : Feed := l.map (·, s)

@[simp] theorem bytes_append (feed feed' : Feed) :
    bytes (feed ++ feed') = bytes feed ++ bytes feed' := List.map_append

@[simp] theorem bytes_under (l : List Byte) (s : Settings) : bytes (under l s) = l := by
  simp [bytes, under, Function.comp_def]

@[simp] theorem length_under (l : List Byte) (s : Settings) : (under l s).length = l.length := by
  simp [under]

theorem under_append (l l' : List Byte) (s : Settings) : under (l ++ l') s = under l s ++ under l' s :=
  List.map_append

end Feed

/-- The chaining value of plain SHA-1 before block `j`. -/
def plainCv (Bs : List Block) (j : Nat) : ChainingValue :=
  chainAt (fun c B => compress (expand B).seq c) H0 Bs j

/-- The state of the machine between two blocks, `done` of which are behind it. -/
structure Machine where
  cv : ChainingValue
  found : Bool
  calls : List HandlerCall
  done : Nat

namespace Machine
open Feed

def start : Machine := ⟨H0, false, [], 0⟩

def step (M : Machine) (s : Settings) (B : Block) : Machine where
  cv := hashBlock s (expand B) M.cv
  found := M.found || (detect s (expand B) M.cv).isSome
  calls := M.calls ++ blockCalls s (.ofNat 64 (64 * (M.done + 1))) (expand B) M.cv
  done := M.done + 1

/-- The next block of a feed; its last byte decides on the settings. -/
def stepLast (M : Machine) (l : Feed) : Machine :=
  match l.getLast? with
  | none => M
  | some (_, s) => M.step s (blockOf (bytes l))

/-- The machine after the complete blocks of a feed. -/
def run (feed : Feed) : Machine := (blocks 64 feed).foldl stepLast start

/-- The machine after the blocks `Bs` that come under the settings `s`. -/
def steps (M : Machine) (s : Settings) (Bs : List Block) : Machine := Bs.foldl (·.step s ·) M

variable {feed : Feed} {l : List Byte} {s : Settings} {M M' : Machine} {Bs : List Block}

/-! ### Blocks under one setting -/

theorem steps_append (M : Machine) (s : Settings) (Bs Bs' : List Block) :
    M.steps s (Bs ++ Bs') = (M.steps s Bs).steps s Bs' := List.foldl_append

theorem done_steps (M : Machine) (s : Settings) (Bs : List Block) :
    (M.steps s Bs).done = M.done + Bs.length := by
  induction Bs using List.reverseRecOn with
  | nil => rfl
  | append_singleton Bs B ih =>
    rw [steps_append, List.length_append, List.length_singleton, ← Nat.add_assoc, ← ih]
    rfl

theorem cv_steps (M : Machine) (s : Settings) (Bs : List Block) :
    (M.steps s Bs).cv = Bs.foldl (fun c B => hashBlock s (expand B) c) M.cv :=
  (List.foldl_hom Machine.cv fun _ _ => rfl).symm

/-- The same chaining value and flag, and offsets that no handler can tell apart. -/
structure Alike (M M' : Machine) : Prop where
  cv : M.cv = M'.cv
  found : M.found = M'.found
  offset : BitVec.ofNat 64 (64 * M.done) = BitVec.ofNat 64 (64 * M'.done)

theorem Alike.step (h : Alike M M') (s : Settings) (B : Block) : Alike (M.step s B) (M'.step s B) ∧
    ∃ calls, (M.step s B).calls = M.calls ++ calls ∧ (M'.step s B).calls = M'.calls ++ calls := by
  have hoffset : BitVec.ofNat 64 (64 * (M.done + 1)) = BitVec.ofNat 64 (64 * (M'.done + 1)) := by
    rw [Nat.mul_succ, Nat.mul_succ, BitVec.ofNat_add, BitVec.ofNat_add, h.offset]
  refine ⟨⟨?_, ?_, hoffset⟩, _, rfl, ?_⟩
  · rw [Machine.step, Machine.step, h.cv]
  · rw [Machine.step, Machine.step, h.cv, h.found]
  · rw [Machine.step, h.cv, hoffset]

/-- Machines that are alike stay so, and put the same calls behind their logs. -/
theorem Alike.steps (h : Alike M M') (s : Settings) (Bs : List Block) :
    Alike (M.steps s Bs) (M'.steps s Bs) ∧ ∃ calls,
      (M.steps s Bs).calls = M.calls ++ calls ∧ (M'.steps s Bs).calls = M'.calls ++ calls := by
  induction Bs using List.reverseRecOn with
  | nil => exact ⟨h, [], (List.append_nil _).symm, (List.append_nil _).symm⟩
  | append_singleton Bs B ih =>
    obtain ⟨hBs, calls, hcalls, hcalls'⟩ := ih
    obtain ⟨hB, calls', hstep, hstep'⟩ := hBs.step s B
    rw [steps_append, steps_append]
    refine ⟨hB, calls ++ calls', ?_, ?_⟩
    · rw [← List.append_assoc, ← hcalls]
      exact hstep
    · rw [← List.append_assoc, ← hcalls']
      exact hstep'

/-! ### The blocks of a feed, one behind the other -/

theorem stepLast_under (M : Machine) (t : Feed) (hl : l ≠ []) (s : Settings) :
    M.stepLast (t ++ under l s) = M.step s (blockOf (bytes t ++ l)) := by
  obtain ⟨l', x, rfl⟩ := l.eq_nil_or_concat.resolve_left hl
  simp [stepLast, under, bytes, List.getLast?_append, Function.comp_def]

theorem foldl_stepLast_under (M : Machine) (l : List Byte) (s : Settings) :
    (blocks 64 (under l s)).foldl stepLast M = M.steps s (messageBlocks l) := by
  have hstep : ∀ l' ∈ blocks 64 l, ∀ M, stepLast M (under l' s) = M.step s (blockOf l') := by
    intro l' hl' M
    have hlen := length_of_mem_blocks hl'
    exact stepLast_under M [] (List.ne_nil_of_length_pos (by omega)) s
  rw [under, blocks_map, List.foldl_map, steps, messageBlocks, List.foldl_map]
  exact List.foldl_ext _ _ _ fun M l' hl' => hstep l' hl' M

theorem done_foldl (ls : List Feed) (hls : ∀ l ∈ ls, l ≠ []) (M : Machine) :
    (ls.foldl stepLast M).done = M.done + ls.length := by
  induction ls generalizing M with
  | nil => rfl
  | cons l ls ih =>
    obtain ⟨l', x, hl⟩ := l.eq_nil_or_concat.resolve_left (hls l List.mem_cons_self)
    rw [List.foldl_cons, ih fun l' hl' => hls l' (List.mem_cons_of_mem l hl')]
    simp only [stepLast, hl, List.concat_eq_append, List.getLast?_append, List.length_cons]
    simp [step]
    omega

@[simp] theorem done_run (feed : Feed) : (run feed).done = feed.length / 64 := by
  rw [run, done_foldl _ fun l hl => ?_]
  · simp [start]
  · have := length_of_mem_blocks hl
    exact List.ne_nil_of_length_pos (by omega)

theorem run_append_rest {l : Feed} (h : feed.length % 64 + l.length < 64) : run (feed ++ l) = run feed := by
  have hlt : (tail 64 feed ++ l).length < 64 := by simpa using h
  rw [run, blocks_append (n := 64) (by decide), blocks_of_lt hlt, List.append_nil, run]

theorem run_append_block {l : Feed} (h : feed.length % 64 + l.length = 64) :
    run (feed ++ l) = (run feed).stepLast (tail 64 feed ++ l) := by
  have hlen : (tail 64 feed ++ l).length = 64 := by simpa using h
  rw [run, blocks_append (n := 64) (by decide), blocks_of_eq (by decide) hlen, List.foldl_append,
    List.foldl_cons, List.foldl_nil, run]

/-- Every block that ends in bytes under `s` comes under `s`, whatever the front of the first one did. -/
theorem foldl_stepLast_append (M : Machine) {t : Feed} (ht : t.length < 64) (l : List Byte) (s : Settings) :
    (blocks 64 (t ++ under l s)).foldl stepLast M = M.steps s (messageBlocks (bytes t ++ l)) := by
  by_cases hlt : t.length + l.length < 64
  · rw [blocks_of_lt (by simpa using hlt), messageBlocks, blocks_of_lt (by simpa [bytes] using hlt)]
    rfl
  · have hlen : t.length = (bytes t).length := by rw [bytes, List.length_map]
    have htake : (t ++ under l s).take 64 = t ++ under (l.take (64 - t.length)) s := by
      rw [List.take_append, List.take_of_length_le (by omega), under, under, List.map_take]
    have hdrop : (t ++ under l s).drop 64 = under (l.drop (64 - t.length)) s := by
      rw [List.drop_append, List.drop_eq_nil_of_le (by omega), List.nil_append, under, under, List.map_drop]
    have hblocks : messageBlocks (bytes t ++ l) =
        blockOf (bytes t ++ l.take (64 - t.length)) :: messageBlocks (l.drop (64 - t.length)) := by
      rw [messageBlocks, blocks_of_le (by decide) (by simp [bytes]; omega), List.take_append,
        List.take_of_length_le (by omega), List.drop_append, List.drop_eq_nil_of_le (by omega), ← hlen]
      rfl
    have hne : l.take (64 - t.length) ≠ [] :=
      List.ne_nil_of_length_pos (by rw [List.length_take]; omega)
    rw [blocks_of_le (by decide) (by simp; omega), htake, hdrop, List.foldl_cons, stepLast_under _ _ hne,
      foldl_stepLast_under, hblocks]
    rfl

theorem run_append_under (feed : Feed) (l : List Byte) (s : Settings) :
    run (feed ++ under l s) = (run feed).steps s (messageBlocks (bytes (tail 64 feed) ++ l)) := by
  have hlt : (tail 64 feed).length < 64 := by
    rw [length_tail]
    exact Nat.mod_lt _ (by decide)
  rw [run, blocks_append (n := 64) (by decide), List.foldl_append, foldl_stepLast_append _ hlt, run]

theorem found_foldl (ls : List Feed) (M : Machine) : M.found ≤ (ls.foldl stepLast M).found := by
  induction ls generalizing M with
  | nil => exact Bool.le_refl _
  | cons l ls ih =>
    refine Bool.le_trans ?_ (ih _)
    rw [stepLast]
    split
    · exact Bool.le_refl _
    · exact fun h => by simp [step, h]

theorem found_append (feed feed' : Feed) : (run feed).found ≤ (run (feed ++ feed')).found := by
  rw [run, run, blocks_append (n := 64) (by decide), List.foldl_append]
  exact found_foldl _ _

/-! ### A stream under one setting -/

/-- The machine after the blocks `Bs`, all of them under the settings `s`. -/
def runBlocks (s : Settings) (Bs : List Block) : Machine := start.steps s Bs

theorem run_under (l : List Byte) (s : Settings) : run (under l s) = runBlocks s (messageBlocks l) :=
  foldl_stepLast_under start l s

theorem runBlocks_concat (s : Settings) (Bs : List Block) (B : Block) :
    runBlocks s (Bs ++ [B]) = (runBlocks s Bs).step s B := steps_append start s Bs [B]

@[simp] theorem done_runBlocks (s : Settings) (Bs : List Block) : (runBlocks s Bs).done = Bs.length :=
  (done_steps start s Bs).trans (Nat.zero_add _)

theorem cv_runBlocks (s : Settings) (Bs : List Block) :
    (runBlocks s Bs).cv = Bs.foldl (fun c B => hashBlock s (expand B) c) H0 := cv_steps start s Bs

theorem cv_runBlocks_plain (h : s.detectColl = false ∨ s.doSafeHash = false) (Bs : List Block) :
    (runBlocks s Bs).cv = Bs.foldl (fun c B => compress (expand B).seq c) H0 := by
  rw [cv_runBlocks]
  exact List.foldl_ext _ _ _ fun c B _ => hashBlock_eq_compress h

/-- Unless the second has found a collision, neither has, and both have the same chaining value. -/
def Agree (M M' : Machine) : Prop := M'.found = false → M.found = false ∧ M.cv = M'.cv

theorem Agree.step {s' : Settings} {M M' : Machine} (hle : s.Le s') (h : Agree M M') (B : Block) :
    Agree (M.step s B) (M'.step s' B) := by
  intro hfound
  obtain ⟨hfound', hnone'⟩ := Bool.or_eq_false_iff.mp hfound
  obtain ⟨hM, hcv⟩ := h hfound'
  rw [← hcv] at hnone'
  have hnone : (detect s (expand B) M.cv).isSome = false := by
    by_contra hsome
    rw [detect_mono hle (Bool.not_eq_false _ ▸ hsome)] at hnone'
    exact Bool.false_ne_true hnone'.symm
  refine ⟨Bool.or_eq_false_iff.mpr ⟨hM, hnone⟩, ?_⟩
  change hashBlock s (expand B) M.cv = hashBlock s' (expand B) M'.cv
  rw [← hcv, hashBlock, hashBlock, hnone, hnone']
  rfl

/-- More sensitive settings agree with less sensitive ones up to the first collision they find. -/
theorem agree_runBlocks {s' : Settings} (hle : s.Le s') (Bs : List Block) :
    Agree (runBlocks s Bs) (runBlocks s' Bs) :=
  List.foldl_rel (fun _ => ⟨rfl, rfl⟩) fun B _ _ _ h => h.step hle B

/-! ### What is found under one setting -/

/-- Up to the first block that is flagged the hash has the chaining values of SHA-1. -/
theorem cv_runBlocks_of_found (h : (runBlocks s Bs).found = false) :
    (runBlocks s Bs).cv = Bs.foldl (fun c B => compress (expand B).seq c) H0 := by
  -- a hash without detection is the least sensitive one
  have hle : Settings.Le { s with detectColl := false } s :=
    ⟨fun h => absurd h Bool.false_ne_true, id, id⟩
  obtain ⟨-, hcv⟩ := agree_runBlocks hle Bs h
  rw [← hcv, cv_runBlocks_plain (.inl rfl)]

theorem found_runBlocks_iff (s : Settings) (Bs : List Block) : (runBlocks s Bs).found = true ↔
    ∃ j B, Bs[j]? = some B ∧ (detect s (expand B) (plainCv Bs j)).isSome = true := by
  induction Bs using List.reverseRecOn with
  | nil => exact ⟨fun h => absurd h Bool.false_ne_true, fun ⟨j, B, hB, _⟩ => by simp at hB⟩
  | append_singleton Bs B ih =>
    have hstep : (runBlocks s (Bs ++ [B])).found =
        ((runBlocks s Bs).found || (detect s (expand B) (runBlocks s Bs).cv).isSome) := by
      rw [runBlocks_concat]
      rfl
    have hlast : (Bs ++ [B])[Bs.length]? = some B := by simp
    rw [hstep]
    cases hfound : (runBlocks s Bs).found with
    | true =>
      obtain ⟨j, D, hD, hdetect⟩ := ih.mp hfound
      obtain ⟨hj, -⟩ := List.getElem?_eq_some_iff.mp hD
      refine ⟨fun _ => ⟨j, D, ?_, ?_⟩, fun _ => rfl⟩
      · rw [List.getElem?_append_left hj, hD]
      · rwa [plainCv, chainAt_append (Nat.le_of_lt hj)]
    | false =>
      have hcv : plainCv (Bs ++ [B]) Bs.length = (runBlocks s Bs).cv := by
        rw [cv_runBlocks_of_found hfound, plainCv, chainAt_append (Nat.le_refl _), chainAt_length]
      rw [Bool.false_or]
      constructor
      · exact fun h => ⟨Bs.length, B, hlast, by rwa [hcv]⟩
      · rintro ⟨j, D, hD, hdetect⟩
        rcases Nat.lt_or_ge j Bs.length with hj | hj
        · rw [List.getElem?_append_left hj] at hD
          rw [plainCv, chainAt_append (Nat.le_of_lt hj)] at hdetect
          rw [ih.mpr ⟨j, D, hD, hdetect⟩] at hfound
          exact absurd hfound.symm Bool.false_ne_true
        · obtain ⟨hlt, -⟩ := List.getElem?_eq_some_iff.mp hD
          rw [List.length_append, List.length_singleton] at hlt
          obtain rfl : j = Bs.length := by omega
          obtain rfl : B = D := Option.some.inj (hlast.symm.trans hD)
          rwa [← hcv]

/-! ### The blocks of a feed by their numbers -/

def block (feed : Feed) (j : Nat) : Feed := (feed.drop (64 * j)).take 64

def before (feed : Feed) (j : Nat) : Machine := run (feed.take (64 * j))

def flagged (feed : Feed) (j : Nat) : Bool :=
  (block feed j).getLast?.any fun (_, s) =>
    (detect s (expand (blockOf (bytes (block feed j)))) (before feed j).cv).isSome

/-- Whether it is flagged while a handler is installed. -/
def reported (feed : Feed) (j : Nat) : Bool :=
  flagged feed j && (block feed j).getLast?.any fun (_, s) => s.collision.isSome

theorem length_block {j : Nat} (h : j < feed.length / 64) : (block feed j).length = 64 := by
  rw [block, List.length_take, List.length_drop]
  omega

theorem before_zero (feed : Feed) : before feed 0 = start := by
  rw [before, Nat.mul_zero, List.take_zero]
  rfl

theorem before_succ {j : Nat} (h : j < feed.length / 64) :
    before feed (j + 1) = (before feed j).stepLast (block feed j) := by
  have hlen : (feed.take (64 * j)).length = 64 * j := List.length_take_of_le (by omega)
  have htail : tail 64 (feed.take (64 * j)) = [] := tail_eq_nil (by rw [hlen, Nat.mul_mod_right])
  have hblock := length_block h
  rw [before, before, Nat.mul_succ, List.take_add, ← block, run_append_block (by omega), htail,
    List.nil_append]

theorem before_last (feed : Feed) : before feed (feed.length / 64) = run feed := by
  have hlen : (feed.take (64 * (feed.length / 64))).length = 64 * (feed.length / 64) :=
    List.length_take_of_le (by omega)
  conv_rhs => rw [← List.take_append_drop (64 * (feed.length / 64)) feed]
  rw [run_append_rest (by rw [hlen, List.length_drop]; omega), before]

theorem done_before {j : Nat} (h : j ≤ feed.length / 64) : (before feed j).done = j := by
  rw [before, done_run, List.length_take_of_le (by omega)]
  omega

theorem stepLast_eq (M : Machine) {l : Feed} (h : 0 < l.length) :
    ∃ x s, l.getLast? = some (x, s) ∧ M.stepLast l = M.step s (blockOf (bytes l)) := by
  obtain ⟨l', ⟨x, s⟩, rfl⟩ := l.eq_nil_or_concat.resolve_left (List.ne_nil_of_length_pos h)
  exact ⟨x, s, by simp, by simp [stepLast]⟩

theorem before_succ_eq {j : Nat} (h : j < feed.length / 64) :
    ∃ x s, (block feed j).getLast? = some (x, s) ∧
      before feed (j + 1) = (before feed j).step s (blockOf (bytes (block feed j))) := by
  rw [before_succ h]
  exact stepLast_eq _ (by rw [length_block h]; decide)

theorem found_before {j : Nat} (h : j ≤ feed.length / 64) :
    (before feed j).found = (List.range j).any (flagged feed) := by
  induction j with
  | zero => rw [before_zero]; rfl
  | succ j ih =>
    obtain ⟨x, s, hlast, hstep⟩ := before_succ_eq (show j < feed.length / 64 by omega)
    rw [hstep, List.range_succ, List.any_append, ← ih (by omega)]
    simp [step, flagged, hlast]

theorem offsets_blockCalls (s : Settings) (bytes : BitVec 64) (W : ExpandedBlock) (c : ChainingValue) :
    (blockCalls s bytes W c).map HandlerCall.byteOffset =
      if (detect s W c).isSome && s.collision.isSome then [bytes] else [] := by
  rw [blockCalls]
  cases detect s W c with
  | none => rfl
  | some k => cases s.collision <;> rfl

/-- There is one call for each reported block, at the end of the block. -/
theorem offsets_before {j : Nat} (h : j ≤ feed.length / 64) :
    (before feed j).calls.map HandlerCall.byteOffset =
      ((List.range j).filter (reported feed)).map fun i => BitVec.ofNat 64 (64 * (i + 1)) := by
  induction j with
  | zero => rw [before_zero]; rfl
  | succ j ih =>
    obtain ⟨x, s, hlast, hstep⟩ := before_succ_eq (show j < feed.length / 64 by omega)
    have hrep : reported feed j =
        ((detect s (expand (blockOf (bytes (block feed j)))) (before feed j).cv).isSome &&
          s.collision.isSome) := by simp [reported, flagged, hlast]
    rw [hstep, step, List.map_append, ih (by omega), offsets_blockCalls, done_before (by omega), ← hrep,
      List.range_succ, List.filter_append, List.map_append]
    cases hj : reported feed j <;> simp [hj]

end Machine

end Sha1dc
