import Mathlib.Data.List.Basic

/-!
# Linear equations between bits

A `ParityEq` says whether an even or an odd number of some bits is set. It follows from others if it is
their sum: bits that occur twice in a sum go away (`reduce`), so this is decidable, and what it says holds
wherever the others do (`Holds.of_derives`).
-/

structure ParityEq (β : Type) where
  bits : List β
  odd : Bool

namespace ParityEq

variable {β : Type} {v : β → Bool} {l l' : List β} {x : β}

/-- Whether the number of bits that are set is odd. -/
def parity (v : β → Bool) (l : List β) : Bool := l.foldr (fun x b => v x ^^ b) false

def Holds (v : β → Bool) (e : ParityEq β) : Prop := parity v e.bits = e.odd

@[simp] theorem parity_nil : parity v [] = false := rfl

@[simp] theorem parity_cons : parity v (x :: l) = (v x ^^ parity v l) := rfl

@[simp] theorem parity_append : parity v (l ++ l') = (parity v l ^^ parity v l') := by
  induction l with
  | nil => exact (Bool.false_xor _).symm
  | cons x l ih => rw [List.cons_append, parity_cons, parity_cons, ih, Bool.xor_assoc]

theorem parity_filter (v q : β → Bool) (l : List β) :
    parity v (l.filter q) = parity (fun x => v x && q x) l := by
  induction l with
  | nil => rfl
  | cons x l ih =>
    rw [List.filter_cons, parity_cons, ← ih]
    cases q x
    · rw [if_neg Bool.false_ne_true, Bool.and_false, Bool.false_xor]
    · rw [if_pos rfl, Bool.and_true, parity_cons]

variable [DecidableEq β]

/-- A bit that is there already goes away. -/
def toggle (x : β) : List β → List β
  | [] => [x]
  | y :: l => if x = y then l else y :: toggle x l

def reduce (l : List β) : List β := l.foldr toggle []

/-- The sum of the premises is the conclusion. -/
def derives (es : List (ParityEq β)) (e : ParityEq β) : Bool :=
  reduce (es.flatMap bits ++ e.bits) = [] && (es.foldr (fun e b => e.odd ^^ b) false == e.odd)

theorem parity_toggle (v : β → Bool) (x : β) (l : List β) : parity v (toggle x l) = (v x ^^ parity v l) := by
  induction l with
  | nil => rfl
  | cons y l ih =>
    rw [toggle]
    by_cases h : x = y
    · rw [if_pos h, h, parity_cons, ← Bool.xor_assoc, Bool.xor_self, Bool.false_xor]
    · rw [if_neg h, parity_cons, ih, parity_cons, Bool.xor_left_comm]

theorem parity_reduce (v : β → Bool) (l : List β) : parity v (reduce l) = parity v l := by
  induction l with
  | nil => rfl
  | cons x l ih => rw [reduce, List.foldr_cons, parity_toggle, ← reduce, ih, parity_cons]

theorem Holds.of_derives {es : List (ParityEq β)} {e : ParityEq β} (h : ∀ e ∈ es, e.Holds v)
    (hsum : derives es e = true) : e.Holds v := by
  rw [derives, Bool.and_eq_true, decide_eq_true_iff, beq_iff_eq] at hsum
  obtain ⟨hbits, hodd⟩ := hsum
  have hes : parity v (es.flatMap bits) = es.foldr (fun e b => e.odd ^^ b) false := by
    clear hbits hodd
    induction es with
    | nil => rfl
    | cons e es ih =>
      rw [List.flatMap_cons, parity_append, List.foldr_cons, ih fun e he => h e (List.mem_cons_of_mem _ he)]
      exact congrArg (· ^^ _) (h e List.mem_cons_self)
  have hnil := parity_reduce v (es.flatMap bits ++ e.bits)
  rw [hbits, parity_nil, parity_append, hes, hodd] at hnil
  calc parity v e.bits = (e.odd ^^ (e.odd ^^ parity v e.bits)) := by
        rw [← Bool.xor_assoc, Bool.xor_self, Bool.false_xor]
    _ = e.odd := by rw [← hnil, Bool.xor_false]

end ParityEq
