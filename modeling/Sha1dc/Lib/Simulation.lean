import Sha1dc.Lib.Checked

/-!
# Machines that take inputs and show events

A machine takes one input at a time, may fault, and shows a list of events for each; its specification
does the same but cannot fault. If every step of the machine does what the specification does, so does
every run (`Simulates.wp_run`), and if two specifications agree step by step, their runs show the same
(`Agrees.run`). Machines that simulate agreeing specifications cannot be told apart by their events
(`Simulates.same_events`).
-/

namespace Simulation
open Checked

variable {ε σ σ' α β ι ω : Type}

def run (step : σ → ι → Except ε (σ × List ω)) : σ → List ι → Except ε (σ × List ω)
  | s, [] => pure (s, [])
  | s, i :: is => do
    let (s, events) ← step s i
    let (s, events') ← run step s is
    return (s, events ++ events')

def runSpec (spec : α → ι → α × List ω) : α → List ι → α × List ω
  | a, [] => (a, [])
  | a, i :: is =>
    let (a, events) := spec a i
    let (a, events') := runSpec spec a is
    (a, events ++ events')

theorem runSpec_append (spec : α → ι → α × List ω) (a : α) (is is' : List ι) :
    runSpec spec a (is ++ is') = ((runSpec spec (runSpec spec a is).1 is').1,
      (runSpec spec a is).2 ++ (runSpec spec (runSpec spec a is).1 is').2) := by
  induction is generalizing a with
  | nil => rfl
  | cons i is ih =>
    simp only [List.cons_append, runSpec, ih, List.append_assoc]

/-- From related states a step ends without a fault, shows what the specification shows and leads to
related states. -/
def Simulates (R : σ → α → Prop) (step : σ → ι → Except ε (σ × List ω)) (spec : α → ι → α × List ω) :
    Prop :=
  ∀ s a i, R s a → wp (step s i) fun r => R r.1 (spec a i).1 ∧ r.2 = (spec a i).2

def Agrees (Q : α → β → Prop) (spec : α → ι → α × List ω) (spec' : β → ι → β × List ω) : Prop :=
  ∀ a c i, Q a c → Q (spec a i).1 (spec' c i).1 ∧ (spec a i).2 = (spec' c i).2

variable {R : σ → α → Prop} {R' : σ' → β → Prop} {Q : α → β → Prop}
  {step : σ → ι → Except ε (σ × List ω)} {step' : σ' → ι → Except ε (σ' × List ω)}
  {spec : α → ι → α × List ω} {spec' : β → ι → β × List ω} {s : σ} {s' : σ'} {a : α} {c : β}

theorem Simulates.wp_run (h : Simulates R step spec) (hR : R s a) (is : List ι) :
    wp (run step s is) fun r => R r.1 (runSpec spec a is).1 ∧ r.2 = (runSpec spec a is).2 := by
  induction is generalizing s a with
  | nil =>
    rw [run, wp_pure]
    exact ⟨hR, rfl⟩
  | cons i is ih =>
    rw [run, wp_bind]
    refine wp_mono (h s a i hR) ?_
    rintro ⟨s₁, events⟩ ⟨h₁, hevents⟩
    dsimp only at h₁ hevents ⊢
    rw [wp_bind]
    refine wp_mono (ih h₁) ?_
    rintro ⟨s₂, events'⟩ ⟨h₂, hevents'⟩
    rw [wp_pure]
    exact ⟨h₂, congrArg₂ (· ++ ·) hevents hevents'⟩

theorem Agrees.run (h : Agrees Q spec spec') (hQ : Q a c) (is : List ι) :
    Q (runSpec spec a is).1 (runSpec spec' c is).1 ∧
      (runSpec spec a is).2 = (runSpec spec' c is).2 := by
  induction is generalizing a c with
  | nil => exact ⟨hQ, rfl⟩
  | cons i is ih =>
    obtain ⟨h₁, hevents⟩ := h a c i hQ
    obtain ⟨h₂, hevents'⟩ := ih h₁
    exact ⟨h₂, congrArg₂ (· ++ ·) hevents hevents'⟩

/-- Two machines that simulate agreeing specifications end without a fault and show the same. -/
theorem Simulates.same_events (h : Simulates R step spec) (h' : Simulates R' step' spec')
    (hagree : Agrees Q spec spec') (hR : R s a) (hR' : R' s' c) (hQ : Q a c) (is : List ι) :
    ∃ t t' events, Simulation.run step s is = .ok (t, events) ∧
      Simulation.run step' s' is = .ok (t', events) := by
  obtain ⟨⟨t, events⟩, hrun, -, hevents⟩ := h.wp_run hR is
  obtain ⟨⟨t', events'⟩, hrun', -, hevents'⟩ := h'.wp_run hR' is
  obtain rfl : events = events' := hevents.trans ((hagree.run hQ is).2.trans hevents'.symm)
  exact ⟨t, t', events, hrun, hrun'⟩

end Simulation
