import Mathlib.Data.List.Basic

/-!
# Sources of a stream

What is behind a stream that is read in chunks: items, errors and the end, which stays the end. `fread n`
takes up to `n` items and stops early only at the end or at an error, behind which a later read goes on. A
source's `items` come before either of the two, and `err` is the error that ends them, if any; a reader
with any size of chunk sees just these (`fread_of_le`, `fread_of_lt`).
-/

inductive Source (α ε : Type)
  | eof
  | error (e : ε) (rest : Source α ε)
  | item (a : α) (rest : Source α ε)

namespace Source

variable {α ε : Type} {n : ℕ} {S : Source α ε}

/-- The items read, the source behind them, and the error that was met. -/
def fread : ℕ → Source α ε → List α × Source α ε × Option ε
  | 0, S => ([], S, none)
  | _ + 1, eof => ([], eof, none)
  | _ + 1, error e rest => ([], rest, some e)
  | n + 1, item a rest =>
    let (l, S, e) := fread n rest
    (a :: l, S, e)

def items : Source α ε → List α
  | eof => []
  | error _ _ => []
  | item a rest => a :: rest.items

def err : Source α ε → Option ε
  | eof => none
  | error e _ => some e
  | item _ rest => rest.err

/-- A source without errors. -/
def ofList : List α → Source α ε
  | [] => eof
  | a :: l => item a (ofList l)

@[simp] theorem items_ofList (l : List α) : (ofList l : Source α ε).items = l := by
  induction l with
  | nil => rfl
  | cons a l ih => rw [ofList, items, ih]

@[simp] theorem err_ofList (l : List α) : (ofList l : Source α ε).err = none := by
  induction l with
  | nil => rfl
  | cons a l ih => rw [ofList, err, ih]

theorem fread_of_le (h : n ≤ S.items.length) : ∃ S', fread n S = (S.items.take n, S', none) ∧
    S'.items = S.items.drop n ∧ S'.err = S.err := by
  induction n generalizing S with
  | zero => exact ⟨S, rfl, rfl, rfl⟩
  | succ n ih =>
    cases S with
    | eof => exact absurd h (Nat.not_succ_le_zero n)
    | error e rest => exact absurd h (Nat.not_succ_le_zero n)
    | item a rest =>
      obtain ⟨S', hread, hitems, herr⟩ := ih (S := rest) (Nat.le_of_succ_le_succ h)
      refine ⟨S', ?_, hitems, herr⟩
      rw [fread, hread]
      rfl

/-- A chunk comes out short if and only if the items end in it. -/
theorem fread_of_lt (h : S.items.length < n) : ∃ S', fread n S = (S.items, S', S.err) := by
  induction n generalizing S with
  | zero => exact absurd h (Nat.not_lt_zero _)
  | succ n ih =>
    cases S with
    | eof => exact ⟨eof, rfl⟩
    | error e rest => exact ⟨rest, rfl⟩
    | item a rest =>
      obtain ⟨S', hread⟩ := ih (S := rest) (Nat.lt_of_succ_lt_succ h)
      refine ⟨S', ?_⟩
      rw [fread, hread]
      rfl

end Source
