import VoiceHarness.Library.Machine
import Mathlib.Order.WellFounded

/-!
Schedules. Several agents drive a machine and the schedule says whose input comes next. Where one agent
keeps getting its turn, the others do not touch a measure and each turn of that agent lowers it, the agent
gets done.
-/

set_option autoImplicit false
set_option relaxedAutoImplicit false

namespace VoiceHarness.Library.Machine

variable {σ ι ο : Type*} (machine : Machine σ ι ο)

/-- The state after the first inputs of a schedule. -/
def stateAt (state : σ) (schedule : ℕ → ι) : ℕ → σ
  | 0 => state
  | time + 1 => (machine.step (stateAt state schedule time) (schedule time)).1

@[simp] theorem stateAt_zero (state : σ) (schedule : ℕ → ι) :
    machine.stateAt state schedule 0 = state := rfl

theorem stateAt_succ (state : σ) (schedule : ℕ → ι) (time : ℕ) :
    machine.stateAt state schedule (time + 1) =
      (machine.step (machine.stateAt state schedule time) (schedule time)).1 := rfl

variable {machine} {state : σ} {schedule : ℕ → ι}

/-- A property kept by every step of the schedule holds at every time. -/
theorem forall_stateAt {P : σ → Prop} (hstate : P state)
    (hstep : ∀ time, P (machine.stateAt state schedule time) →
      P (machine.step (machine.stateAt state schedule time) (schedule time)).1) (time : ℕ) :
    P (machine.stateAt state schedule time) := by
  induction time with
  | zero => exact hstate
  | succ time ih => exact hstep time ih

/-- A property that no step ends holds from its first time on. -/
theorem stateAt_of_le {P : σ → Prop} (hstable : ∀ s input, P s → P (machine.step s input).1)
    {first later : ℕ} (hle : first ≤ later) (hfirst : P (machine.stateAt state schedule first)) :
    P (machine.stateAt state schedule later) := by
  induction later, hle using Nat.le_induction with
  | base => exact hfirst
  | succ later _ ih => exact hstable _ _ ih

/-- An agent that keeps getting its turn gets done if each turn lowers a measure that the other inputs
leave alone. The invariant `I` is what the step lemmas may assume of every state. -/
theorem exists_done {α : Type*} {r : α → α → Prop} (hwf : WellFounded r) (measure : σ → α)
    (Mine : ι → Prop) {I Done : σ → Prop}
    (hinvariant : ∀ time, I (machine.stateAt state schedule time))
    (hlive : ∀ time, ∃ later ≥ time, Mine (schedule later))
    (hmine : ∀ s input, I s → Mine input → ¬ Done s →
      r (measure (machine.step s input).1) (measure s))
    (hother : ∀ s input, ¬ Mine input → measure (machine.step s input).1 = measure s) :
    ∃ time, Done (machine.stateAt state schedule time) := by
  suffices hfrom : ∀ bound time, measure (machine.stateAt state schedule time) = bound →
      ∃ later, Done (machine.stateAt state schedule later) from hfrom _ 0 rfl
  intro bound
  induction bound using hwf.induction with
  | _ bound ih =>
    intro time hbound
    by_contra hnever
    obtain ⟨turn, hturn, hmineTurn⟩ := hlive time
    have hlowers : ∀ later, time ≤ later →
        measure (machine.stateAt state schedule later) = bound → ¬ Mine (schedule later) := by
      intro later _ hlater hmineLater
      refine hnever (ih _ ?_ (later + 1) rfl)
      rw [← hlater]
      exact hmine _ _ (hinvariant later) hmineLater fun hdone ↦ hnever ⟨later, hdone⟩
    have hkept : ∀ later, time ≤ later →
        measure (machine.stateAt state schedule later) = bound := by
      intro later hle
      induction later, hle using Nat.le_induction with
      | base => exact hbound
      | succ later hle ihLater =>
        rw [machine.stateAt_succ, hother _ _ (hlowers later hle ihLater), ihLater]
    exact hlowers turn hturn (hkept turn hturn) hmineTurn

end VoiceHarness.Library.Machine
