import Mathlib.Data.List.Induction
import Mathlib.Data.List.Infix

/-!
# Iterated functions

A function `f` folded over a list of blocks, as a hash of Merkle and Damgård's kind does it. Two lists
whose folds meet once and have the same blocks behind it end in the same value (`foldl_eq_of_chainAt`);
conversely two lists that end in the same value meet at some place in different ways, unless one of them
is the end of the other (`exists_collision`).
-/

namespace Chain

variable {γ β : Type} {f : γ → β → γ} {c : γ} {Bs Bs' : List β} {B : β} {i j : ℕ}

/-- The value before block `j`. -/
def chainAt (f : γ → β → γ) (c : γ) (Bs : List β) (j : ℕ) : γ := (Bs.take j).foldl f c

theorem chainAt_length (f : γ → β → γ) (c : γ) (Bs : List β) :
    chainAt f c Bs Bs.length = Bs.foldl f c := by
  rw [chainAt, List.take_length]

theorem chainAt_append (h : j ≤ Bs.length) : chainAt f c (Bs ++ Bs') j = chainAt f c Bs j := by
  rw [chainAt, List.take_append_of_le_length h, chainAt]

theorem chainAt_succ (h : Bs[j]? = some B) : chainAt f c Bs (j + 1) = f (chainAt f c Bs j) B := by
  rw [chainAt, List.take_add_one, h, List.foldl_append]
  rfl

theorem foldl_drop (f : γ → β → γ) (c : γ) (Bs : List β) (j : ℕ) :
    (Bs.drop j).foldl f (chainAt f c Bs j) = Bs.foldl f c := by
  rw [chainAt, ← List.foldl_append, List.take_append_drop]

theorem foldl_eq_of_chainAt (h : chainAt f c Bs i = chainAt f c Bs' j) (hdrop : Bs.drop i = Bs'.drop j) :
    Bs.foldl f c = Bs'.foldl f c := by
  rw [← foldl_drop f c Bs i, ← foldl_drop f c Bs' j, h, hdrop]

/-- `f` takes the same value at two different inputs, one on the way through each of the lists. -/
structure Collision (f : γ → β → γ) (c : γ) (Bs Bs' : List β) (i j : ℕ) (B B' : β) : Prop where
  left : Bs[i]? = some B
  right : Bs'[j]? = some B'
  ne : chainAt f c Bs i ≠ chainAt f c Bs' j ∨ B ≠ B'
  eq : f (chainAt f c Bs i) B = f (chainAt f c Bs' j) B'

theorem Collision.append {B' : β} (h : Collision f c Bs Bs' i j B B') (Ds Ds' : List β) :
    Collision f c (Bs ++ Ds) (Bs' ++ Ds') i j B B' := by
  obtain ⟨hi, -⟩ := List.getElem?_eq_some_iff.mp h.left
  obtain ⟨hj, -⟩ := List.getElem?_eq_some_iff.mp h.right
  refine ⟨?_, ?_, ?_, ?_⟩
  · rw [List.getElem?_append_left hi, h.left]
  · rw [List.getElem?_append_left hj, h.right]
  · rw [chainAt_append (Nat.le_of_lt hi), chainAt_append (Nat.le_of_lt hj)]
    exact h.ne
  · rw [chainAt_append (Nat.le_of_lt hi), chainAt_append (Nat.le_of_lt hj)]
    exact h.eq

theorem Collision.last {B' : β} (hne : Bs.foldl f c ≠ Bs'.foldl f c ∨ B ≠ B')
    (heq : f (Bs.foldl f c) B = f (Bs'.foldl f c) B') :
    Collision f c (Bs ++ [B]) (Bs' ++ [B']) Bs.length Bs'.length B B' := by
  refine ⟨by simp, by simp, ?_, ?_⟩
  · rw [chainAt_append (Nat.le_refl _), chainAt_append (Nat.le_refl _), chainAt_length, chainAt_length]
    exact hne
  · rw [chainAt_append (Nat.le_refl _), chainAt_append (Nat.le_refl _), chainAt_length, chainAt_length]
    exact heq

/-- Seen from the end, the lists differ before one of them ends; there `f` collides. -/
theorem exists_collision (h : Bs.foldl f c = Bs'.foldl f c) (hl : ¬ Bs <:+ Bs') (hr : ¬ Bs' <:+ Bs) :
    ∃ i j B B', Collision f c Bs Bs' i j B B' := by
  induction Bs using List.reverseRecOn generalizing Bs' with
  | nil => exact absurd List.nil_suffix hl
  | append_singleton Bs B ih =>
    rcases Bs'.eq_nil_or_concat with rfl | ⟨Bs', B', rfl⟩
    · exact absurd List.nil_suffix hr
    · rw [List.concat_eq_append] at h hl hr ⊢
      rw [List.foldl_append, List.foldl_append] at h
      by_cases hne : Bs.foldl f c ≠ Bs'.foldl f c ∨ B ≠ B'
      · exact ⟨_, _, B, B', Collision.last hne h⟩
      · obtain ⟨heq, rfl⟩ : Bs.foldl f c = Bs'.foldl f c ∧ B = B' := by
          rwa [not_or, not_not, not_not] at hne
        have hsuffix : ∀ {Ds Ds' : List β}, Ds <:+ Ds' → Ds ++ [B] <:+ Ds' ++ [B] := by
          rintro Ds Ds' ⟨l, rfl⟩
          exact ⟨l, (List.append_assoc _ _ _).symm⟩
        obtain ⟨i, j, D, D', hcoll⟩ := ih heq (fun h' => hl (hsuffix h')) fun h' => hr (hsuffix h')
        exact ⟨i, j, D, D', hcoll.append [B] [B]⟩

end Chain
