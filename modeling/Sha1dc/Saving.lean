import Mathlib.Order.Nat
import Sha1dc.Step
import Sha1dc.Tables

/-!
# Compressing a block and saving states on the way

`sha1dc_need_state` numbers the states that some disturbance vector is tested at. `NeedTable` is such
a table as it is documented, whatever the states it asks for; `Saves` says that the array of saved
states holds, under their numbers, the wanted ones among a set of states. The portable version
visits the states in order, so the count of states saved so far is the number of the next one.
-/

namespace Sha1dc
open Checked Fips

/-! ### Need-state tables -/

/-- The entry at `t`, `-1` behind the end. -/
def needAt (table : Vector Int 81) (t : Nat) : Int := if h : t < 81 then table[t] else -1

def neededBefore (table : Vector Int 81) : Nat → Nat
  | 0 => 0
  | t + 1 => neededBefore table t + if needAt table t = -1 then 0 else 1

theorem rd_table (table : Vector Int 81) {t : Nat} (h : t < 81) : rd table t = .ok (needAt table t) := by
  rw [rd_eq _ h, needAt, dif_pos h]

theorem neededBefore_mono (table : Vector Int 81) {t t' : Nat} (h : t ≤ t') :
    neededBefore table t ≤ neededBefore table t' := by
  induction h with
  | refl => exact Nat.le_refl _
  | step _ ih => exact Nat.le_trans ih (Nat.le_add_right _ _)

/-- A table of the documented form: `-1` for a state that is never needed, otherwise the number of
that state among the needed states, of which there are `n`. -/
structure NeedTable (n : Nat) where
  table : Vector Int 81
  numbered : ∀ t < 81, needAt table t = -1 ∨ needAt table t = neededBefore table t
  count : neededBefore table 81 = n

namespace NeedTable
variable {n : Nat} (need : NeedTable n)

def Needed (t : Nat) : Prop := needAt need.table t ≠ -1

def idx (t : Nat) : Nat := neededBefore need.table t

instance (t : Nat) : Decidable (need.Needed t) := inferInstanceAs (Decidable (_ ≠ _))

variable {need} {t t' : Nat}

theorem Needed.lt (h : need.Needed t) : t < 81 := by
  by_contra hlt
  exact h (by simp [needAt, hlt])

theorem Needed.needAt_eq (h : need.Needed t) : needAt need.table t = need.idx t :=
  (need.numbered t h.lt).resolve_left h

variable (need)

theorem idx_succ_of_needed (h : need.Needed t) : need.idx (t + 1) = need.idx t + 1 := by
  rw [idx, neededBefore, if_neg h, idx]

theorem idx_succ_of_not_needed (h : ¬ need.Needed t) : need.idx (t + 1) = need.idx t := by
  rw [idx, neededBefore, if_pos (not_not.mp h), idx]; rfl

theorem idx_mono (h : t ≤ t') : need.idx t ≤ need.idx t' := neededBefore_mono need.table h

variable {need}

theorem Needed.idx_lt_idx (h : need.Needed t) (hlt : t < t') : need.idx t < need.idx t' := by
  have := need.idx_mono (show t + 1 ≤ t' from hlt)
  rw [need.idx_succ_of_needed h] at this
  exact this

theorem Needed.idx_lt (h : need.Needed t) : need.idx t < n :=
  (h.idx_lt_idx h.lt).trans_eq need.count

theorem Needed.idx_ne (h : need.Needed t) (h' : need.Needed t') (hne : t ≠ t') :
    need.idx t ≠ need.idx t' := by
  rcases Nat.lt_or_gt_of_ne hne with hlt | hlt
  · exact (h.idx_lt_idx hlt).ne
  · exact (h'.idx_lt_idx hlt).ne'

theorem exists_idx (need : NeedTable n) {j : Nat} (hj : j < n) : ∃ t, need.Needed t ∧ need.idx t = j := by
  suffices h : ∀ k, j < need.idx k → ∃ t, need.Needed t ∧ need.idx t = j from
    h 81 (hj.trans_eq need.count.symm)
  intro k
  induction k with
  | zero => exact fun h => absurd h j.not_lt_zero
  | succ k ih =>
    intro h
    by_cases hk : need.Needed k
    · rw [need.idx_succ_of_needed hk] at h
      rcases Nat.lt_succ_iff_lt_or_eq.mp h with h | h
      · exact ih h
      · exact ⟨k, hk, h.symm⟩
    · rw [need.idx_succ_of_not_needed hk] at h
      exact ih h

end NeedTable

def shipped : NeedTable nNeededStates where
  table := needState
  numbered := by decide +kernel
  count := by decide +kernel

/-- The states of `S` at the needed numbers in `T` are saved under their indices. -/
def Saves {n : Nat} (need : NeedTable n) (S : Nat → ChainingValue) (T : Nat → Prop)
    (states : Vector ChainingValue n) : Prop :=
  ∀ t, T t → need.Needed t → states[need.idx t]? = some (S t)

/-- `states[sha1dc_need_state[t]]` -/
theorem Saves.rdI_eq {n : Nat} {need : NeedTable n} {S : Nat → ChainingValue} {T : Nat → Prop}
    {states : Vector ChainingValue n} (h : Saves need S T states) {t : Nat} (hT : T t) (ht : need.Needed t) :
    rdI states (needAt need.table t) = .ok (S t) := by
  have hslot := h t hT ht
  rw [Vector.getElem?_eq_getElem ht.idx_lt, Option.some.injEq] at hslot
  rw [ht.needAt_eq, rdI_natCast, rd_eq _ ht.idx_lt, hslot]

theorem Saves.set {n : Nat} {need : NeedTable n} {S : Nat → ChainingValue} {T T' : Nat → Prop}
    {states : Vector ChainingValue n} (h : Saves need S T states) {t : Nat} (ht : need.Needed t)
    (hT : ∀ t', T' t' → t' = t ∨ T t') :
    Saves need S T' (states.set (need.idx t) (S t) ht.idx_lt) := by
  intro t' hT' ht'
  by_cases heq : t' = t
  · subst t'; simp [ht.idx_lt]
  · rw [Vector.getElem?_set_ne _ (ht.idx_ne ht' (Ne.symm heq))]
    exact h t' ((hT t' hT').resolve_left heq) ht'

theorem Saves.of_not_needed {n : Nat} {need : NeedTable n} {S : Nat → ChainingValue}
    {T T' : Nat → Prop} {states : Vector ChainingValue n} (h : Saves need S T states) {t : Nat}
    (ht : ¬ need.Needed t) (hT : ∀ t', T' t' → t' = t ∨ T t') : Saves need S T' states := by
  intro t' hT' ht'
  by_cases heq : t' = t
  · subst t'; exact absurd ht' ht
  · exact h t' ((hT t' hT').resolve_left heq) ht'

/-- Arrays that save the same needed states are the same: no slot is left over. -/
theorem Saves.eq_of {n : Nat} {need : NeedTable n} {S S' : Nat → ChainingValue}
    {states states' : Vector ChainingValue n} (h : Saves need S (· < 81) states)
    (h' : Saves need S' (· < 81) states') (hS : ∀ t, need.Needed t → S t = S' t) : states = states' := by
  refine Vector.ext fun j hj => ?_
  obtain ⟨t, ht, rfl⟩ := need.exists_idx hj
  have h₁ := h t ht.lt ht
  have h₂ := h' t ht.lt ht
  rw [Vector.getElem?_eq_getElem hj, Option.some.injEq] at h₁ h₂
  rw [h₁, h₂, hS t ht]

/-! ### The portable version -/

section
variable {n : Nat}

/-- The variables of the loop; `W` and `states` belong to the caller. -/
structure SavingLoop (n : Nat) where
  i : Nat
  state : ChainingValue
  saved : Nat
  W : ExpandedBlock
  states : Vector ChainingValue n

/-- `if(signed char slot = sha1dc_need_state[i]; slot != -1) …` -/
def savePortable (needState : Vector Int 81) (s : SavingLoop n) : Chk (SavingLoop n) := do
  let slot ← rd needState s.i
  if slot ≠ -1 then
    if slot ≠ s.saved then .error .unreachable
    else
      let states ← wr s.states s.saved s.state
      return { s with saved := s.saved + 1, states }
  else return s

def savingPortableBody (needState : Vector Int 81) (m : Block) (s : SavingLoop n) :
    Chk (Ctl (SavingLoop n)) := do
  let s ← savePortable needState s
  if s.i ≥ 80 then return .done s
  else
    let w ← nextWord m s.W s.i
    let W ← wr s.W s.i w
    let state ← sha1Step s.state w s.i
    return .next { s with i := s.i + 1, W, state }

/-- The new chaining value, the expanded block and the saved states. -/
def sha1AddBlockExpandingSavingPortable (needState : Vector Int 81) (cv : ChainingValue) (m : Block)
    (W : ExpandedBlock) (states : Vector ChainingValue n) :
    Chk (ChainingValue × ExpandedBlock × Vector ChainingValue n) := do
  let s ← loop (savingPortableBody needState m) 81 ⟨0, cv, 0, W, states⟩
  return (cv + s.state, s.W, s.states)

/-- What the loop has done before step `i`. -/
structure SavingInv (need : NeedTable n) (cv : ChainingValue) (m : Block) (s : SavingLoop n) : Prop where
  le : s.i ≤ 80
  state : s.state = stateAt (expand m).seq s.i cv
  saved : s.saved = need.idx s.i
  words : Expanded m s.i s.W
  states : Saves need (fun t => stateAt (expand m).seq t cv) (· < s.i) s.states

/-- The slot of a needed state is the number of states saved so far: its check does not fail. -/
theorem wp_savePortable {need : NeedTable n} {cv : ChainingValue} {m : Block} {s : SavingLoop n}
    (h : SavingInv need cv m s) :
    wp (savePortable need.table s) fun s' => ∃ states, s' = { s with saved := need.idx (s.i + 1), states } ∧
      Saves need (fun t => stateAt (expand m).seq t cv) (· < s.i + 1) states := by
  have hT : ∀ t, t < s.i + 1 → t = s.i ∨ t < s.i := fun t ht => by omega
  have hle := h.le
  rw [savePortable, rd_table need.table (by omega), ok_bind]
  by_cases hn : need.Needed s.i
  · have hsaved : s.saved < n := h.saved ▸ hn.idx_lt
    rw [if_pos (show _ ≠ _ from hn), if_neg (by rw [hn.needAt_eq, h.saved]; simp), wr_eq _ _ hsaved,
      ok_bind, wp_pure]
    refine ⟨_, by rw [need.idx_succ_of_needed hn, ← h.saved], ?_⟩
    simpa only [← h.saved, ← h.state] using h.states.set hn hT
  · rw [if_neg (show ¬ _ ≠ _ from hn), wp_pure]
    exact ⟨s.states, by rw [need.idx_succ_of_not_needed hn, ← h.saved], h.states.of_not_needed hn hT⟩

theorem wp_savingPortableBody {need : NeedTable n} {cv : ChainingValue} {m : Block}
    {s : SavingLoop n} (h : SavingInv need cv m s) :
    wp (savingPortableBody need.table m s) (Ctl.Holds
      (fun s' => SavingInv need cv m s' ∧ 80 - s'.i < 80 - s.i)
      fun s' => s'.state = stateAt (expand m).seq 80 cv ∧ s'.W = expand m ∧
        Saves need (fun t => stateAt (expand m).seq t cv) (· < 81) s'.states) := by
  have hle := h.le
  rw [savingPortableBody, wp_bind]
  refine wp_mono (wp_savePortable h) ?_
  rintro _ ⟨states, rfl, hstates⟩
  dsimp only
  by_cases h80 : s.i ≥ 80
  · obtain hi : s.i = 80 := by omega
    rw [if_pos h80, wp_pure]
    have hw := h.words
    have hs := h.state
    rw [hi] at hw hs hstates
    exact ⟨hs, hw.eq, hstates⟩
  · have hi : s.i < 80 := by omega
    rw [if_neg h80, h.words.nextWord hi, ok_bind, wr_eq _ _ hi, ok_bind, sha1Step_eq _ _ hi, ok_bind,
      wp_pure]
    exact ⟨⟨hi, by rw [h.state, stateAt_succ], rfl, h.words.set hi, hstates⟩, by dsimp only; omega⟩

/-- The portable version compresses, expands and saves every needed state; neither its slot check
nor an array bound fails. -/
theorem wp_savingPortable (need : NeedTable n) (cv : ChainingValue) (m : Block) (W : ExpandedBlock)
    (states : Vector ChainingValue n) :
    wp (sha1AddBlockExpandingSavingPortable need.table cv m W states) fun (cv', W', states') =>
      cv' = compress (expand m).seq cv ∧ W' = expand m ∧
        Saves need (fun t => stateAt (expand m).seq t cv) (· < 81) states' := by
  rw [sha1AddBlockExpandingSavingPortable, wp_bind]
  refine wp_mono (wp_loop (SavingInv need cv m) (fun s => 80 - s.i) _
    (fun s h => wp_savingPortableBody h) (n := 81) ?_ (by dsimp only; omega)) ?_
  · exact ⟨by simp, rfl, rfl, fun t ht => absurd ht t.not_lt_zero, fun t ht => absurd ht t.not_lt_zero⟩
  · rintro s ⟨hstate, hW, hstates⟩
    rw [wp_pure]
    exact ⟨by rw [hstate]; rfl, hW, hstates⟩

/-! ### The slot check -/

/-- The entry at `t` is one that the portable version gets past. -/
def SlotPasses (table : Vector Int 81) (n t : Nat) : Prop :=
  needAt table t = -1 ∨ needAt table t = neededBefore table t ∧ neededBefore table t < n

/-- The entries all pass if and only if the table has the documented form and there is room for its states. -/
theorem slotPasses_iff (table : Vector Int 81) (n : Nat) : (∀ t < 81, SlotPasses table n t) ↔
    (∀ t < 81, needAt table t = -1 ∨ needAt table t = neededBefore table t) ∧ neededBefore table 81 ≤ n := by
  constructor
  · intro h
    refine ⟨fun t ht => (h t ht).imp id And.left, ?_⟩
    suffices hle : ∀ t ≤ 81, neededBefore table t ≤ n from hle 81 (Nat.le_refl _)
    intro t ht
    induction t with
    | zero => exact Nat.zero_le n
    | succ t ih =>
      rw [neededBefore]
      rcases h t ht with hnone | ⟨hslot, hlt⟩
      · rw [if_pos hnone]
        exact ih (by omega)
      · split
        · exact ih (by omega)
        · exact hlt
  · rintro ⟨hform, hroom⟩ t ht
    by_cases hnone : needAt table t = -1
    · exact .inl hnone
    · refine .inr ⟨(hform t ht).resolve_left hnone, ?_⟩
      have hle := neededBefore_mono table (show t + 1 ≤ 81 from ht)
      rw [neededBefore, if_neg hnone] at hle
      omega

theorem savePortable_of_passes {table : Vector Int 81} {s : SavingLoop n} (hi : s.i < 81)
    (hsaved : s.saved = neededBefore table s.i) (h : SlotPasses table n s.i) :
    wp (savePortable table s) fun s' =>
      ∃ states, s' = { s with saved := neededBefore table (s.i + 1), states } := by
  rw [savePortable, rd_table table hi, ok_bind, neededBefore]
  rcases h with hnone | ⟨hslot, hlt⟩
  · rw [if_neg (not_not.mpr hnone), if_pos hnone, wp_pure, Nat.add_zero, ← hsaved]
    exact ⟨s.states, rfl⟩
  · have hne : needAt table s.i ≠ -1 := by omega
    rw [if_pos hne, if_neg hne, hslot, ← hsaved, if_neg (not_not.mpr rfl), wr_eq _ _ (hsaved ▸ hlt), ok_bind,
      wp_pure]
    exact ⟨_, rfl⟩

theorem passes_of_savePortable {table : Vector Int 81} {s s' : SavingLoop n} (hi : s.i < 81)
    (hsaved : s.saved = neededBefore table s.i) (h : savePortable table s = .ok s') :
    SlotPasses table n s.i := by
  rw [savePortable, rd_table table hi, ok_bind] at h
  by_cases hnone : needAt table s.i = -1
  · exact .inl hnone
  · rw [if_pos hnone] at h
    by_cases hslot : needAt table s.i = s.saved
    · rw [if_neg (not_not.mpr hslot)] at h
      by_cases hlt : s.saved < n
      · exact .inr ⟨hsaved ▸ hslot, hsaved ▸ hlt⟩
      · rw [wr, dif_neg hlt] at h
        exact absurd h (by simp [bind, Except.bind])
    · rw [if_pos hslot] at h
      exact absurd h (by simp)

/-- Induction on the steps that are left. -/
theorem loop_savingPortableBody_ok_iff (table : Vector Int 81) (m : Block) {k : Nat} {s : SavingLoop n}
    (hk : s.i + k = 81) (hpos : 0 < k) (hsaved : s.saved = neededBefore table s.i) (hW : Expanded m s.i s.W) :
    (∃ r, loop (savingPortableBody table m) k s = .ok r) ↔
      ∀ t, s.i ≤ t → t < 81 → SlotPasses table n t := by
  induction k generalizing s with
  | zero => exact absurd hpos (Nat.lt_irrefl 0)
  | succ k ih =>
    have hi : s.i < 81 := by omega
    constructor
    · rintro ⟨r, hr⟩
      rw [loop, savingPortableBody] at hr
      cases hsave : savePortable table s with
      | error e =>
        rw [hsave] at hr
        exact absurd hr (by simp [bind, Except.bind])
      | ok s' =>
        have hpass := passes_of_savePortable hi hsaved hsave
        obtain ⟨states, rfl⟩ := (savePortable_of_passes hi hsaved hpass).of_eq hsave
        intro t ht ht'
        rcases Nat.eq_or_lt_of_le ht with rfl | hlt
        · exact hpass
        · have h80 : s.i < 80 := by omega
          rw [hsave, ok_bind, if_neg (by dsimp only; omega), hW.nextWord h80, ok_bind, wr_eq _ _ h80, ok_bind,
            sha1Step_eq _ _ h80, ok_bind, pure_bind] at hr
          exact (ih (s := ⟨s.i + 1, _, _, _, _⟩) (by dsimp only; omega) (by omega) rfl (hW.set h80)).mp
            ⟨r, hr⟩ t hlt ht'
    · intro h
      obtain ⟨s', hsave, states, rfl⟩ := savePortable_of_passes hi hsaved (h s.i (Nat.le_refl _) hi)
      rw [loop, savingPortableBody, hsave, ok_bind]
      by_cases h80 : s.i < 80
      · rw [if_neg (by dsimp only; omega), hW.nextWord h80, ok_bind, wr_eq _ _ h80, ok_bind,
          sha1Step_eq _ _ h80, ok_bind, pure_bind]
        exact (ih (s := ⟨s.i + 1, _, _, _, _⟩) (by dsimp only; omega) (by omega) rfl (hW.set h80)).mpr
          fun t ht ht' => h t (by dsimp only at ht; omega) ht'
      · rw [if_pos (by dsimp only; omega)]
        exact ⟨_, rfl⟩

/-- The portable version ends without a fault if and only if the table numbers the needed states in
increasing order and the array has room for them. -/
theorem savingPortable_ok_iff (table : Vector Int 81) (cv : ChainingValue) (m : Block) (W : ExpandedBlock)
    (states : Vector ChainingValue n) :
    (∃ r, sha1AddBlockExpandingSavingPortable table cv m W states = .ok r) ↔
      (∀ t < 81, needAt table t = -1 ∨ needAt table t = neededBefore table t) ∧
        neededBefore table 81 ≤ n := by
  have hloop := loop_savingPortableBody_ok_iff table m (k := 81) (s := ⟨0, cv, 0, W, states⟩) rfl (by decide) rfl
    fun t ht => absurd ht t.not_lt_zero
  rw [← slotPasses_iff, sha1AddBlockExpandingSavingPortable]
  constructor
  · rintro ⟨r, hr⟩
    cases hrun : loop (savingPortableBody table m) 81 ⟨0, cv, 0, W, states⟩ with
    | error e =>
      rw [hrun] at hr
      exact absurd hr (by simp [bind, Except.bind])
    | ok s => exact fun t ht => hloop.mp ⟨s, hrun⟩ t (Nat.zero_le t) ht
  · intro h
    obtain ⟨s, hs⟩ := hloop.mpr fun t _ ht => h t ht
    rw [hs, ok_bind]
    exact ⟨_, rfl⟩

end

end Sha1dc
