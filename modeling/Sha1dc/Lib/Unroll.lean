import Mathlib.Logic.Equiv.Basic

/-!
# Runs of invertible steps

A family `f : ℕ → S ≃ S` of invertible steps, run forward from the first one (`run`), forward from
the middle (`runFrom`) and backward to the start (`unrun`). Running back undoes running forward, so
a state in the middle determines the whole run: what `unrun` finds is the only start that leads
there, and going on from the middle ends where the whole run from that start ends.
-/

namespace Unroll

variable {S : Type} (f : ℕ → S ≃ S)

def runFrom : ℕ → ℕ → S → S
  | _, 0, s => s
  | lo, n + 1, s => runFrom (lo + 1) n (f lo s)

def run (t : ℕ) (s : S) : S := runFrom f 0 t s

/-- The first `t` steps undone, the last one first. -/
def unrun : ℕ → S → S
  | 0, s => s
  | t + 1, s => unrun t ((f t).symm s)

@[simp] theorem run_zero (s : S) : run f 0 s = s := rfl

@[simp] theorem unrun_zero (s : S) : unrun f 0 s = s := rfl

theorem runFrom_add (lo m n : ℕ) (s : S) :
    runFrom f lo (m + n) s = runFrom f (lo + m) n (runFrom f lo m s) := by
  induction m generalizing lo s with
  | zero => simp [runFrom]
  | succ m ih =>
    rw [show m + 1 + n = (m + n) + 1 by omega, runFrom, ih, runFrom]
    rw [show lo + (m + 1) = lo + 1 + m by omega]

/-- A run splices at any step in its middle. -/
theorem runFrom_run (t n : ℕ) (s : S) : runFrom f t n (run f t s) = run f (t + n) s := by
  rw [run, run, runFrom_add, Nat.zero_add]

theorem runFrom_succ (lo n : ℕ) (s : S) :
    runFrom f lo (n + 1) s = f (lo + n) (runFrom f lo n s) := by
  rw [runFrom_add]; rfl

theorem run_succ (t : ℕ) (s : S) : run f (t + 1) s = f t (run f t s) := by
  rw [run, runFrom_succ, Nat.zero_add, run]

@[simp] theorem unrun_run (t : ℕ) (s : S) : unrun f t (run f t s) = s := by
  induction t with
  | zero => rfl
  | succ t ih => rw [run_succ, unrun, Equiv.symm_apply_apply, ih]

@[simp] theorem run_unrun (t : ℕ) (s : S) : run f t (unrun f t s) = s := by
  induction t generalizing s with
  | zero => rfl
  | succ t ih => rw [run_succ, unrun, ih, Equiv.apply_symm_apply]

/-- `unrun` finds the one and only start of a run that ends in `s`. -/
theorem run_eq_iff {t : ℕ} {c s : S} : run f t c = s ↔ c = unrun f t s := by
  constructor
  · rintro rfl; exact (unrun_run f t c).symm
  · rintro rfl; exact run_unrun f t s

end Unroll
