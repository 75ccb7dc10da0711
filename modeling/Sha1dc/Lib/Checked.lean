import Mathlib.Data.List.GetD

/-!
# Checked computations

Straight-line C code whose undefined or unintended events are errors: `wp x P` says that `x` ends
without a fault and that its result satisfies `P`. Arrays are vectors read and written with a bounds
check, loops are structural recursions whose only error of their own is running out of the given
bound (`Fault.diverged`), so a proof of `wp` is also a proof of termination within that bound.
-/

namespace Checked

inductive Fault
  /-- `unreachable()` -/
  | unreachable
  /-- an access outside an array -/
  | outOfBounds
  /-- an unsigned subtraction below zero where the code relies on it not wrapping -/
  | underflow
  /-- `abort()` -/
  | abort
  /-- a loop still running after the bound it is given here -/
  | diverged
deriving DecidableEq, Repr

abbrev Chk := Except Fault

section wp

variable {ε α β : Type} {P Q : α → Prop}

/-- `x` ends normally, with a result that satisfies `P`. -/
def wp (x : Except ε α) (P : α → Prop) : Prop := ∃ a, x = .ok a ∧ P a

@[simp] theorem wp_ok (a : α) : wp (.ok a : Except ε α) P ↔ P a := by
  simp [wp]

@[simp] theorem wp_pure (a : α) : wp (pure a : Except ε α) P ↔ P a := wp_ok a

@[simp] theorem wp_error (e : ε) : ¬ wp (.error e : Except ε α) P := by
  simp [wp]

@[simp] theorem ok_bind (a : α) (f : α → Except ε β) : (Except.ok a >>= f) = f a := rfl

@[simp] theorem wp_bind (x : Except ε β) (f : β → Except ε α) :
    wp (x >>= f) P ↔ wp x fun b => wp (f b) P := by
  cases x with
  | error e => simp [wp, bind, Except.bind]
  | ok b => simp

theorem wp_mono {x : Except ε α} (h : wp x P) (hPQ : ∀ a, P a → Q a) : wp x Q :=
  let ⟨a, ha, hP⟩ := h
  ⟨a, ha, hPQ a hP⟩

theorem wp.of_eq {x : Except ε α} {a : α} (h : wp x P) (hx : x = .ok a) : P a := by
  obtain ⟨a', ha', hP⟩ := h
  obtain rfl : a' = a := Except.ok.inj (ha'.symm.trans hx)
  exact hP

theorem wp_eq_iff {x : Except ε α} {a : α} : wp x (· = a) ↔ x = .ok a := by
  constructor
  · rintro ⟨b, hb, rfl⟩; exact hb
  · exact fun h => ⟨a, h, rfl⟩

end wp

/-! ### Arrays and unsigned subtraction -/

section arrays

variable {α : Type} {n : Nat}

def rd (v : Vector α n) (i : Nat) : Chk α := if h : i < n then pure v[i] else .error .outOfBounds

def wr (v : Vector α n) (i : Nat) (a : α) : Chk (Vector α n) :=
  if h : i < n then pure (v.set i a) else .error .outOfBounds

/-- `v[i]` for a signed `i` -/
def rdI (v : Vector α n) (i : Int) : Chk α :=
  if 0 ≤ i then rd v i.toNat else .error .outOfBounds

/-- `v[i] = a` for a signed `i` -/
def wrI (v : Vector α n) (i : Int) (a : α) : Chk (Vector α n) :=
  if 0 ≤ i then wr v i.toNat a else .error .outOfBounds

/-- `a - b` for unsigned `a` and `b` that the code takes not to wrap. -/
def sub (a b : Nat) : Chk Nat := if b ≤ a then pure (a - b) else .error .underflow

/-- The first `len` elements of the array at `src`. -/
def slice (src : List α) (len : Nat) : Chk (List α) :=
  if len ≤ src.length then pure (src.take len) else .error .outOfBounds

/-- `memcpy(dst + off, src, len)` -/
def copyAt (dst : Vector α n) (off : Nat) (src : List α) (len : Nat) : Chk (Vector α n) := do
  let src ← slice src len
  if off + len ≤ n then
    pure (.ofFn fun i => if off ≤ i.val then src.getD (i.val - off) dst[i.val] else dst[i.val])
  else .error .outOfBounds

theorem rd_eq (v : Vector α n) {i : Nat} (h : i < n) : rd v i = .ok v[i] := by
  simp [rd, h, pure, Except.pure]

theorem wr_eq (v : Vector α n) {i : Nat} (a : α) (h : i < n) : wr v i a = .ok (v.set i a) := by
  simp [wr, h, pure, Except.pure]

theorem rdI_natCast (v : Vector α n) (i : Nat) : rdI v i = rd v i := by simp [rdI]

theorem wrI_natCast (v : Vector α n) (i : Nat) (a : α) : wrI v i a = wr v i a := by simp [wrI]

theorem sub_eq {a b : Nat} (h : b ≤ a) : sub a b = .ok (a - b) := by
  simp [sub, h, pure, Except.pure]

theorem slice_eq {src : List α} {len : Nat} (h : len ≤ src.length) :
    slice src len = .ok (src.take len) := by
  simp [slice, h, pure, Except.pure]

/-- A copy that fits keeps what is in front of it and puts the source behind. -/
theorem wp_copyAt (dst : Vector α n) {off len : Nat} {src : List α} (hsrc : len ≤ src.length)
    (hdst : off + len ≤ n) :
    wp (copyAt dst off src len) fun v =>
      v.toList.take (off + len) = dst.toList.take off ++ src.take len := by
  simp only [copyAt, slice_eq hsrc, ok_bind, if_pos hdst, wp_pure]
  refine List.ext_getElem (by simp; omega) fun i h₁ h₂ => ?_
  have hi : i < off + len := by simp at h₁; omega
  rw [List.getElem_take, Vector.getElem_toList, Vector.getElem_ofFn]
  by_cases h : off ≤ i
  · rw [if_pos h, List.getElem_append_right (by simp; omega)]
    rw [List.getD_eq_getElem _ _ (by simp; omega)]
    simp [Nat.min_eq_left (show off ≤ n by omega)]
  · rw [if_neg h, List.getElem_append_left (by simp; omega)]
    simp

end arrays

/-! ### Loops -/

section loops

variable {σ : Type}

/-- `for(i = lo; i < lo + n; i++) s = body(i, s)` -/
def forUp (body : Nat → σ → Chk σ) : Nat → Nat → σ → Chk σ
  | _, 0, s => pure s
  | i, n + 1, s => body i s >>= forUp body (i + 1) n

/-- `for(i = n; i--;) s = body(i, s)` -/
def forDown (body : Nat → σ → Chk σ) : Nat → σ → Chk σ
  | 0, s => pure s
  | i + 1, s => body i s >>= forDown body i

/-- What an iteration of an open-ended loop asks for: another one, or the end (`break`). -/
inductive Ctl (σ : Type)
  | next (s : σ)
  | done (s : σ)

/-- What holds of an iteration's outcome: `next` of the state it goes on with, `done` of the last. -/
def Ctl.Holds (next done : σ → Prop) : Ctl σ → Prop
  | .next s => next s
  | .done s => done s

@[simp] theorem Ctl.holds_next (next done : σ → Prop) (s : σ) :
    (Ctl.next s).Holds next done ↔ next s := Iff.rfl

@[simp] theorem Ctl.holds_done (next done : σ → Prop) (s : σ) :
    (Ctl.done s).Holds next done ↔ done s := Iff.rfl

def loop (body : σ → Chk (Ctl σ)) : Nat → σ → Chk σ
  | 0, _ => .error .diverged
  | n + 1, s => body s >>= fun
    | .next s' => loop body n s'
    | .done s' => pure s'

theorem wp_forUp (inv : Nat → σ → Prop) (body : Nat → σ → Chk σ) {lo n : Nat}
    (step : ∀ i s, lo ≤ i → i < lo + n → inv i s → wp (body i s) (inv (i + 1)))
    {s : σ} (h : inv lo s) : wp (forUp body lo n s) (inv (lo + n)) := by
  induction n generalizing lo s with
  | zero => simpa [forUp] using h
  | succ n ih =>
    simp only [forUp, wp_bind]
    refine wp_mono (step lo s (Nat.le_refl _) (by omega) h) fun s' h' => ?_
    rw [show lo + (n + 1) = lo + 1 + n by omega]
    exact ih (fun i s hlo hi => step i s (by omega) (by omega)) h'

/-- `P` holds at the end of a loop whose body keeps `inv`, makes the measure `m` smaller at every
`next`, and establishes `P` at `done`; any bound above the measure is enough. -/
theorem wp_loop (inv : σ → Prop) (m : σ → Nat) {P : σ → Prop} (body : σ → Chk (Ctl σ))
    (step : ∀ s, inv s → wp (body s) (Ctl.Holds (fun s' => inv s' ∧ m s' < m s) P))
    {n : Nat} {s : σ} (h : inv s) (hn : m s < n) : wp (loop body n s) P := by
  induction n generalizing s with
  | zero => omega
  | succ n ih =>
    simp only [loop, wp_bind]
    refine wp_mono (step s h) fun c hc => ?_
    cases c with
    | next s' => exact ih hc.1 (by have := hc.2; omega)
    | done s' => simpa using hc

end loops

end Checked
