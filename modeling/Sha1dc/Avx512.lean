import Sha1dc.Avx512Tables
import Sha1dc.Ubc

/-!
# The AVX-512 filter

`sha1dc_ubc_check_avx512` tests 64 conditions at a time and collects in 16 lanes the vectors that a
condition rules out (`Acc`), 16 conditions to a chunk. Its tables describe the same conditions as the
records do (`avx512_row`, `avx512_dvmask`), and no mask stands in the padding, so it does not matter
which of the padded chunks are looked at.
-/

namespace Sha1dc
open Checked

abbrev dvmaskBytes : Nat := (nDisturbanceVectors + 7) >>> 3

/-- `impossible` before it is assigned, and the operand that `nor_v4u32` leaves undefined. -/
structure Avx512Uninit where
  impossible : V16u32
  nor : V4u32

/-- `ne`: the conditions of row `i` that fail. -/
def ubcNe (w1 w2 : V64u8) (i : Nat) : Chk (BitVec 64) := do
  let x := index2V64u8 w1 w2 (← rd avx512V64ubcAs i)
  let y := index2V64u8 w1 w2 (← rd avx512V64ubcBs i)
  let b1 := testV64u8 x (← rd avx512V64ubcMs i)
  let b2 := testV64u8 y (← rd avx512V64ubcNs i)
  return b1 ^^^ b2 ^^^ (← rd avx512V64ubcCs i)

structure ChunkLoop where
  j : Nat
  ne : BitVec 64
  impossible : V16u32

def chunkBody (unrollingLoops : Bool) (i : Nat) (s : ChunkLoop) : Chk (Ctl ChunkLoop) :=
  if ¬ s.j < 4 then return .done s
  else if unrollingLoops ∧ 64 * i + 16 * s.j ≥ ubcs.length then return .done s
  else do
    let dvmasks ← rd (← rd avx512V64ubcDvmasks i) s.j
    let impossible :=
      if unrollingLoops ∧ i = 0 ∧ s.j = 0 then loadZv16u32 s.ne dvmasks
      else orMv16u32 s.impossible s.ne s.impossible dvmasks
    return .next { j := s.j + 1, ne := s.ne >>> 16, impossible }

def ubcCheckAvx512 (unrollingLoops optimize : Bool) (u : Avx512Uninit) (W : ExpandedBlock) :
    Chk (Vector Byte dvmaskBytes) := do
  let w1 ← loaduV64u8 W avx512Bias
  let w2 ← loaduV64u8 W (avx512Bias + 16)
  if dvmaskBytes > 4 then .error .abort
  else
    let impossible ← forUp (fun i impossible => do
      let ne ← ubcNe w1 w2 i
      let s ← loop (chunkBody unrollingLoops i) 5 ⟨0, ne, impossible⟩
      return s.impossible) 0 3 (if unrollingLoops then u.impossible else .replicate 16 0)
    return storeDvmask .little (norRv16u32Vl optimize u.nor impossible)

/-! ### The tables describe the records -/

theorem length_ubcs : ubcs.length = 156 := by decide +kernel

/-- The condition with the number `q` as a word, `0` in the padding. -/
def dvmaskAt (q : Nat) : Word :=
  match ubcs[q]? with
  | some u => loadDvmask .little u.dvmask.toList
  | none => 0

theorem avx512_dvmask : ∀ i, (hi : i < 3) → ∀ j, (hj : j < 4) → ∀ l, (hl : l < 16) →
    avx512V64ubcDvmasks[i][j][l] = dvmaskAt (64 * i + 16 * j + l) := by
  decide +kernel

/-- Bit `i` of the word `a` is in the byte `p` of the window, where `m` selects it. -/
def InWindow (a i : Nat) (p m : Byte) : Prop :=
  avx512Bias ≤ a ∧ a < avx512Bias + 32 ∧ i < 32 ∧ p.toNat = 4 * (a - avx512Bias) + i / 8 ∧
    m = BitVec.twoPow 8 (i % 8)

instance (a i : Nat) (p m : Byte) : Decidable (InWindow a i p m) :=
  inferInstanceAs (Decidable (_ ∧ _))

theorem avx512_row : ∀ i, (hi : i < 3) → ∀ l, (hl : l < 64) → ∀ u ∈ ubcs[64 * i + l]?,
    InWindow u.a u.i avx512V64ubcAs[i][l] avx512V64ubcMs[i][l] ∧
    InWindow u.b u.j avx512V64ubcBs[i][l] avx512V64ubcNs[i][l] ∧
    avx512V64ubcCs[i].getLsbD l = decide (u.c ≠ 0) := by
  decide +kernel

/-! ### The conditions of a row -/

def window (W : Nat → Word) (p : Nat) : V64u8 :=
  .ofFn fun l => (W (p + l.val / 4)).extractLsb' (8 * (l.val % 4)) 8

theorem loaduV64u8_eq (W : ExpandedBlock) {p : Nat} (h : p + 16 ≤ 80) :
    loaduV64u8 W p = .ok (window W.seq p) := by
  rw [loaduV64u8, dif_pos h]
  refine congrArg Except.ok (Vector.ext fun l hl => ?_)
  rw [window, Vector.getElem_ofFn, Vector.getElem_ofFn, W.seq_eq (by omega)]

theorem getLsbD_testV64u8 (x y : V64u8) {l : Nat} (hl : l < 64) :
    (testV64u8 x y).getLsbD l = ((x[l] &&& y[l]) != 0) := by
  rw [testV64u8, BitVec.getLsbD_setWidth, decide_eq_true hl, Bool.true_and, BitVec.getLsbD_ofBoolListLE]
  simp [hl]

theorem and_twoPow_ne_zero (x : Byte) {i : Nat} (hi : i < 8) :
    ((x &&& BitVec.twoPow 8 i) != 0) = x.getLsbD i := by
  rw [BitVec.and_twoPow]
  by_cases h : x.getLsbD i = true
  · rw [if_pos h, h, bne_iff_ne]
    intro h0
    have := congrArg (·.getLsbD i) h0
    simp [hi] at this
  · rw [if_neg h, eq_false_of_ne_true h]
    rfl

/-- The two registers together are the 128 bytes from the bias on. -/
theorem index2_window (W : Nat → Word) {l : Nat} (hl : l < 64) (ps : V64u8) (hp : ps[l].toNat < 128) :
    (index2V64u8 (window W avx512Bias) (window W (avx512Bias + 16)) ps)[l] =
      (W (avx512Bias + ps[l].toNat / 4)).extractLsb' (8 * (ps[l].toNat % 4)) 8 := by
  have hbit : ps[l].getLsbD 6 = decide (64 ≤ ps[l].toNat) := by
    rw [← BitVec.testBit_toNat, Nat.testBit_eq_decide_div_mod_eq]
    exact decide_eq_decide.mpr (by omega)
  simp only [index2V64u8, Vector.getElem_ofFn, window, Fin.getElem_fin, hbit, decide_eq_true_eq]
  split
  · rw [show avx512Bias + 16 + ps[l].toNat % 64 / 4 = avx512Bias + ps[l].toNat / 4 by omega,
      show ps[l].toNat % 64 % 4 = ps[l].toNat % 4 by omega]
  · rw [show ps[l].toNat % 64 = ps[l].toNat by omega]

/-- Testing a byte of the two registers reads the bit of the word. -/
theorem test_index2 (W : Nat → Word) {a i l : Nat} (hl : l < 64) {ps ms : V64u8}
    (h : InWindow a i ps[l] ms[l]) :
    (testV64u8 (index2V64u8 (window W avx512Bias) (window W (avx512Bias + 16)) ps) ms).getLsbD l =
      (W a).getLsbD i := by
  obtain ⟨ha, ha', hi, hp, hm⟩ := h
  rw [getLsbD_testV64u8 _ _ hl, hm, and_twoPow_ne_zero _ (Nat.mod_lt _ (by decide)),
    index2_window W hl ps (by omega), BitVec.getLsbD_extractLsb']
  rw [show avx512Bias + ps[l].toNat / 4 = a by omega,
    show 8 * (ps[l].toNat % 4) + i % 8 = i by omega, decide_eq_true (Nat.mod_lt _ (by decide)),
    Bool.true_and]

theorem wp_ubcNe (W : Nat → Word) {i : Nat} (hi : i < 3) :
    wp (ubcNe (window W avx512Bias) (window W (avx512Bias + 16)) i) fun ne =>
      ∀ l < 64, ∀ u ∈ ubcs[64 * i + l]?, ne.getLsbD l = decide (¬ u.Holds W) := by
  rw [ubcNe, rd_eq _ hi, ok_bind, rd_eq _ hi, ok_bind, rd_eq _ hi, ok_bind, rd_eq _ hi, ok_bind,
    rd_eq _ hi, ok_bind, wp_pure]
  intro l hl u hu
  obtain ⟨ha, hb, hc⟩ := avx512_row i hi l hl u hu
  rw [BitVec.getLsbD_xor, BitVec.getLsbD_xor, test_index2 W hl ha, test_index2 W hl hb, hc]
  cases hx : (W u.a).getLsbD u.i ^^ (W u.b).getLsbD u.j <;> by_cases h0 : u.c = 0 <;>
    simp [Ubc.Holds, hx, h0]

/-! ### The accumulator -/

/-- Lane `l` has the vectors that a failing condition of the first `c` chunks rules out. -/
def Acc (W : Nat → Word) (c : Nat) (impossible : V16u32) : Prop :=
  ∀ l, (hl : l < 16) → ∀ p, impossible[l].getLsbD p = true ↔
    ∃ c' < c, ∃ u ∈ ubcs[16 * c' + l]?, ¬ u.Holds W ∧ (dvmaskAt (16 * c' + l)).getLsbD p = true

/-- The chunks behind the last condition add nothing. -/
theorem Acc.of_le {W : Nat → Word} {c c' : Nat} {impossible : V16u32} (h : Acc W c impossible)
    (hc : ubcs.length ≤ 16 * c) (hcc' : c ≤ c') : Acc W c' impossible := by
  intro l hl p
  rw [h l hl p]
  refine ⟨fun ⟨d, hd, h⟩ => ⟨d, by omega, h⟩, fun ⟨d, hd, u, hu, h⟩ => ⟨d, ?_, u, hu, h⟩⟩
  have := (List.getElem?_eq_some_iff.mp hu).1
  omega

theorem masked_dvmask {W : Nat → Word} {c l : Nat} {b : Bool}
    (hb : ∀ u ∈ ubcs[16 * c + l]?, b = decide (¬ u.Holds W)) (p : Nat) :
    (b = true ∧ (dvmaskAt (16 * c + l)).getLsbD p = true) ↔
      ∃ u ∈ ubcs[16 * c + l]?, ¬ u.Holds W ∧ (dvmaskAt (16 * c + l)).getLsbD p = true := by
  cases hu : ubcs[16 * c + l]? with
  | none => simp [dvmaskAt, hu]
  | some u =>
    rw [hb u hu]
    simp

theorem acc_zero (W : Nat → Word) : Acc W 0 (.replicate 16 0) := by
  intro l hl p
  simp

theorem Acc.orM {W : Nat → Word} {c : Nat} {impossible dvmasks : V16u32} (h : Acc W c impossible)
    {ne : BitVec 64} (hne : ∀ l < 16, ∀ u ∈ ubcs[16 * c + l]?, ne.getLsbD l = decide (¬ u.Holds W))
    (hd : ∀ l, (hl : l < 16) → dvmasks[l] = dvmaskAt (16 * c + l)) :
    Acc W (c + 1) (orMv16u32 impossible ne impossible dvmasks) := by
  intro l hl p
  have hstep := masked_dvmask (hne l hl) p
  have hor : (orMv16u32 impossible ne impossible dvmasks)[l].getLsbD p = true ↔
      impossible[l].getLsbD p = true ∨ ne.getLsbD l = true ∧ (dvmaskAt (16 * c + l)).getLsbD p = true := by
    simp only [orMv16u32, Vector.getElem_ofFn, Fin.getElem_fin, hd l hl]
    cases ne.getLsbD l <;> simp
  rw [hor, h l hl p, hstep]
  constructor
  · rintro (⟨d, hd, h⟩ | h)
    · exact ⟨d, by omega, h⟩
    · exact ⟨c, by omega, h⟩
  · rintro ⟨d, hd, hu⟩
    rcases Nat.lt_succ_iff_lt_or_eq.mp hd with hd | rfl
    · exact .inl ⟨d, hd, hu⟩
    · exact .inr hu

/-- The first chunk, by a load that zeroes the other lanes. -/
theorem acc_loadZ {W : Nat → Word} {dvmasks : V16u32} {ne : BitVec 64}
    (hne : ∀ l < 16, ∀ u ∈ ubcs[16 * 0 + l]?, ne.getLsbD l = decide (¬ u.Holds W))
    (hd : ∀ l, (hl : l < 16) → dvmasks[l] = dvmaskAt (16 * 0 + l)) :
    Acc W 1 (loadZv16u32 ne dvmasks) := by
  have heq : loadZv16u32 ne dvmasks = orMv16u32 (.replicate 16 0) ne (.replicate 16 0) dvmasks := by
    refine Vector.ext fun l hl => ?_
    simp [loadZv16u32, orMv16u32]
  rw [heq]
  exact (acc_zero W).orM hne hd

/-- A row: `ne` is shifted down by a chunk at a time, and the loop stops early only behind the last
condition. -/
theorem wp_chunkLoop (unrollingLoops : Bool) (W : Nat → Word) {i : Nat} (hi : i < 3) {ne : BitVec 64}
    (hne : ∀ l < 64, ∀ u ∈ ubcs[64 * i + l]?, ne.getLsbD l = decide (¬ u.Holds W))
    {impossible : V16u32} (h : Acc W (4 * i) impossible ∨ unrollingLoops = true ∧ i = 0) :
    wp (loop (chunkBody unrollingLoops i) 5 ⟨0, ne, impossible⟩) fun s =>
      Acc W (4 * (i + 1)) s.impossible := by
  refine wp_loop (fun s => ∃ j impossible, s = ⟨j, ne >>> (16 * j), impossible⟩ ∧ j ≤ 4 ∧
    (Acc W (4 * i + j) impossible ∨ unrollingLoops = true ∧ i = 0 ∧ j = 0)) (fun s => 4 - s.j) _
    ?_ ⟨0, impossible, by simp, Nat.zero_le _, by simpa using h⟩ (by simp)
  rintro _ ⟨j, impossible, rfl, hj, hacc⟩
  rw [chunkBody]
  dsimp only
  by_cases h4 : j < 4
  · rw [if_neg (not_not.mpr h4)]
    by_cases hbreak : unrollingLoops = true ∧ 64 * i + 16 * j ≥ ubcs.length
    · rw [if_pos hbreak, wp_pure]
      rcases hacc with hacc | ⟨-, rfl, rfl⟩
      · exact hacc.of_le (by omega) (by omega)
      · exact absurd hbreak.2 (by rw [length_ubcs]; decide)
    · have hshift : ∀ l < 16, ∀ u ∈ ubcs[16 * (4 * i + j) + l]?,
          (ne >>> (16 * j)).getLsbD l = decide (¬ u.Holds W) := by
        intro l hl u hu
        rw [BitVec.getLsbD_ushiftRight]
        exact hne _ (by omega) u (by rwa [show 64 * i + (16 * j + l) = 16 * (4 * i + j) + l by omega])
      have hmasks : ∀ l, (hl : l < 16) → avx512V64ubcDvmasks[i][j][l] = dvmaskAt (16 * (4 * i + j) + l) := by
        intro l hl
        rw [avx512_dvmask i hi j h4 l hl, show 64 * i + 16 * j + l = 16 * (4 * i + j) + l by omega]
      rw [if_neg hbreak, rd_eq _ hi, ok_bind, rd_eq _ h4, ok_bind, wp_pure]
      refine ⟨⟨j + 1, _, by rw [← BitVec.shiftRight_add]; rfl, by omega, .inl ?_⟩, by
        dsimp only; omega⟩
      by_cases hfirst : unrollingLoops = true ∧ i = 0 ∧ j = 0
      · rw [if_pos hfirst]
        obtain ⟨-, rfl, rfl⟩ := hfirst
        exact acc_loadZ hshift hmasks
      · rw [if_neg hfirst]
        exact (hacc.resolve_right hfirst).orM hshift hmasks
  · obtain rfl : j = 4 := by omega
    rw [if_pos (by omega), wp_pure]
    exact hacc.resolve_right (by omega)

/-- No lane of the full accumulator has a vector that is possible. -/
theorem Acc.possible_iff {W : Nat → Word} {impossible : V16u32} (h : Acc W (4 * (0 + 3)) impossible)
    {k : Nat} (hk : k < 32) :
    (∀ l, (hl : l < 16) → impossible[l].getLsbD (bitPos .little k) = false) ↔ Possible ubcs W k := by
  have hmask : ∀ q u, ubcs[q]? = some u →
      (dvmaskAt q).getLsbD (bitPos .little k) = dvBit u.dvmask k := by
    intro q u hu
    rw [dvmaskAt, hu]
    exact getLsbD_loadDvmask .little u.dvmask hk
  constructor
  · intro hfree u hu hbit
    obtain ⟨q, hqu⟩ := List.mem_iff_getElem?.mp hu
    have hq := (List.getElem?_eq_some_iff.mp hqu).1
    by_contra hholds
    have hlen := length_ubcs
    have hqu' : u ∈ ubcs[16 * (q / 16) + q % 16]? := by rwa [Nat.div_add_mod]
    have hset := (h (q % 16) (by omega) (bitPos .little k)).mpr
      ⟨q / 16, by omega, u, hqu', hholds, by rw [hmask _ u hqu', hbit]⟩
    rw [hfree _ (by omega)] at hset
    exact Bool.false_ne_true hset
  · intro hpos l hl
    refine eq_false_of_ne_true fun hset => ?_
    obtain ⟨c, -, u, hu, hholds, hbit⟩ := (h l hl _).mp hset
    rw [hmask _ u hu] at hbit
    exact hholds (hpos u (List.mem_of_getElem? hu) hbit)

/-! ### The fold of the lanes and the result -/

/-- The immediate has the two rows of the table with both operands clear. -/
theorem norV4u32_getElem (u x y : V4u32) {l : Nat} (hl : l < 4) :
    (norV4u32 u x y)[l] = ~~~(x[l] ||| y[l]) := by
  have hrows : (norV4u32 u x y)[l] =
      0 ||| (~~~u[l] &&& ~~~x[l] &&& ~~~y[l]) ||| (u[l] &&& ~~~x[l] &&& ~~~y[l]) := by
    rw [norV4u32, ternarylogicV4u32, Vector.getElem_ofFn]
    rfl
  rw [hrows]
  generalize u[l] = a, x[l] = b, y[l] = c
  refine BitVec.eq_of_getLsbD_eq fun i hi => ?_
  simp only [BitVec.getLsbD_or, BitVec.getLsbD_and, BitVec.getLsbD_not, hi, decide_true, Bool.true_and]
  cases a.getLsbD i <;> cases b.getLsbD i <;> cases c.getLsbD i <;> simp

theorem getLsbD_foldl_or (xs : List Word) (a : Word) (p : Nat) :
    (xs.foldl (· ||| ·) a).getLsbD p = (a.getLsbD p || xs.any (·.getLsbD p)) := by
  induction xs generalizing a with
  | nil => simp
  | cons x xs ih => rw [List.foldl_cons, ih, BitVec.getLsbD_or, List.any_cons, Bool.or_assoc]

/-- Folding by halves, down to the lane 0, takes in every lane. -/
theorem norRv16u32Vl_optimized (u : V4u32) (x : V16u32) :
    norRv16u32Vl true u x =
      ~~~(((x[0] ||| x[8] ||| (x[4] ||| x[12])) ||| (x[2] ||| x[10] ||| (x[6] ||| x[14]))) |||
        ((x[1] ||| x[9] ||| (x[5] ||| x[13])) ||| (x[3] ||| x[11] ||| (x[7] ||| x[15])))) := by
  rw [norRv16u32Vl, if_pos rfl]
  change (norV4u32 _ _ _)[0] = _
  rw [norV4u32_getElem _ _ _ (by decide)]
  simp only [orV4u32, indexV4u32, orHalvesV8u32, orHalvesV16u32, Vector.getElem_zipWith, Vector.getElem_ofFn]
  rfl

/-- Both ways of folding leave the bits that no lane has. -/
theorem getLsbD_norRv16u32Vl (optimize : Bool) (u : V4u32) (x : V16u32) {p : Nat} (hp : p < 32) :
    (norRv16u32Vl optimize u x).getLsbD p = true ↔ ∀ l, (hl : l < 16) → x[l].getLsbD p = false := by
  cases optimize with
  | false =>
    have hfold : norRv16u32Vl false u x = ~~~x.toList.foldl (· ||| ·) 0 := by
      simp [norRv16u32Vl, Vector.foldl, Vector.toList]
    have hzero : (0 : Word).getLsbD p = false := by simp
    rw [hfold, BitVec.getLsbD_not, getLsbD_foldl_or, decide_eq_true hp, hzero, Bool.true_and,
      Bool.false_or, Bool.not_eq_true', List.any_eq_false]
    constructor
    · exact fun h l hl => eq_false_of_ne_true (h _ (by simp))
    · intro h a ha
      obtain ⟨l, hl, rfl⟩ := List.mem_iff_getElem.mp ha
      rw [Vector.getElem_toList, h l (by simpa using hl)]
      exact Bool.false_ne_true
  | true =>
    rw [norRv16u32Vl_optimized, BitVec.getLsbD_not, decide_eq_true hp, Bool.true_and, Bool.not_eq_true']
    simp only [BitVec.getLsbD_or, Bool.or_eq_false_iff]
    constructor
    · intro h l hl
      match l, hl with
      | 0, _ | 1, _ | 2, _ | 3, _ | 4, _ | 5, _ | 6, _ | 7, _ | 8, _ | 9, _ | 10, _ | 11, _ | 12, _
      | 13, _ | 14, _ | 15, _ => simp only [h]
      | _ + 16, hl => omega
    · intro h
      simp only [h, and_self]

theorem wp_ubcCheckAvx512 (unrollingLoops optimize : Bool) (u : Avx512Uninit) (W : ExpandedBlock) :
    wp (ubcCheckAvx512 unrollingLoops optimize u W) fun dvs =>
      ∀ k, k / 8 < dvmaskBytes → (dvBit dvs k = true ↔ Possible ubcs W.seq k) := by
  have hacc : Acc W.seq (4 * 0) (if unrollingLoops then u.impossible else .replicate 16 0) ∨
      unrollingLoops = true ∧ 0 = 0 := by
    cases unrollingLoops with
    | false => exact .inl (acc_zero W.seq)
    | true => exact .inr ⟨rfl, rfl⟩
  rw [ubcCheckAvx512, loaduV64u8_eq W (by decide), ok_bind, loaduV64u8_eq W (by decide), ok_bind,
    if_neg (by decide), wp_bind]
  refine wp_mono (wp_forUp (fun i impossible => Acc W.seq (4 * i) impossible ∨
    unrollingLoops = true ∧ i = 0) _ ?_ hacc) fun impossible hacc => ?_
  · intro i impossible _ hi hacc
    rw [wp_bind]
    refine wp_mono (wp_ubcNe W.seq (by omega)) fun ne hne => ?_
    rw [wp_bind]
    refine wp_mono (wp_chunkLoop unrollingLoops W.seq (by omega) hne hacc) fun s hs => ?_
    rw [wp_pure]
    exact .inl hs
  · rw [wp_pure]
    intro k hk
    have hacc := hacc.resolve_right (by simp)
    have hk32 : k < 32 := by have : k / 8 < 4 := hk; omega
    rw [dvBit_storeDvmask .little _ hk, getLsbD_norRv16u32Vl optimize _ _ (bitPos_lt .little hk32)]
    exact hacc.possible_iff hk32

/-- Both filters write the same mask for every 80 words, in every variant of the vector one. -/
theorem ubcCheckAvx512_eq_baseline (unrollingLoops optimize : Bool) (u : Avx512Uninit)
    (W : ExpandedBlock) : ∃ dvmask, ubcCheckAvx512 unrollingLoops optimize u W = .ok dvmask ∧
      ubcCheckBaseline .little ubcs W = .ok dvmask := by
  obtain ⟨dvs, hdvs, h⟩ := wp_ubcCheckAvx512 unrollingLoops optimize u W
  obtain ⟨dvs', hdvs', h'⟩ := wp_ubcCheckBaseline .little (show 4 ≤ 4 from Nat.le_refl 4) valid_ubcs W
  have heq : dvs = dvs' := dvmask_ext fun k hk => Bool.eq_iff_iff.mpr ((h k hk).trans (h' k hk).symm)
  exact ⟨dvs, hdvs, heq ▸ hdvs'⟩

end Sha1dc
