import Mathlib.Data.List.Basic
import Mathlib.Logic.Relation

/-!
Deterministic machines that answer each input of a run. A transactional component is one: the
input names the call together with everything its caller chooses, the step is the transaction,
and the output is what the call returns. A run is any list of inputs, so a statement about every
list of inputs is a statement about every interleaving of the callers.

The rules here are the ones the runs below are proved with. An invariant of one step holds along a
run (`invariant_exec`) and constrains every answer of the run (`forall_trace`). An answer that
establishes a stable property constrains every later answer (`forall_trace_after`).
-/

set_option autoImplicit false
set_option relaxedAutoImplicit false

namespace VoiceHarness.Library

/-- A machine answers an input and moves to its next state. -/
structure Machine (σ ι ο : Type*) where
  step : σ → ι → σ × ο

namespace Machine

variable {σ ι ο : Type*} (machine : Machine σ ι ο)

/-- The state after a run. -/
def exec (state : σ) (inputs : List ι) : σ :=
  inputs.foldl (fun s input ↦ (machine.step s input).1) state

/-- The inputs of a run, each with its answer. -/
def trace : σ → List ι → List (ι × ο)
  | _, [] => []
  | state, input :: inputs =>
    (input, (machine.step state input).2) :: trace (machine.step state input).1 inputs

@[simp] theorem exec_nil (state : σ) : machine.exec state [] = state := rfl

@[simp] theorem exec_cons (state : σ) (input : ι) (inputs : List ι) :
    machine.exec state (input :: inputs) = machine.exec (machine.step state input).1 inputs := rfl

theorem exec_append (state : σ) (first second : List ι) :
    machine.exec state (first ++ second) = machine.exec (machine.exec state first) second :=
  List.foldl_append

/-- A property kept by every step holds after every run. -/
theorem invariant_exec {P : σ → Prop} (hstep : ∀ s input, P s → P (machine.step s input).1)
    {state : σ} (hstate : P state) (inputs : List ι) : P (machine.exec state inputs) := by
  induction inputs generalizing state with
  | nil => exact hstate
  | cons input inputs ih => exact ih (hstep state input hstate)

/-- Every input of the run meets the guard in the state where it comes. -/
def Guarded (guard : σ → ι → Prop) : σ → List ι → Prop
  | _, [] => True
  | state, input :: inputs => guard state input ∧ Guarded guard (machine.step state input).1 inputs

instance decidableGuarded {guard : σ → ι → Prop} [∀ s input, Decidable (guard s input)] :
    ∀ state inputs, Decidable (machine.Guarded guard state inputs)
  | _, [] => isTrue trivial
  | state, input :: inputs =>
    have : Decidable (machine.Guarded guard (machine.step state input).1 inputs) :=
      decidableGuarded (machine.step state input).1 inputs
    inferInstanceAs (Decidable (guard state input ∧
      machine.Guarded guard (machine.step state input).1 inputs))

theorem guarded_append {guard : σ → ι → Prop} {state : σ} {first second : List ι} :
    machine.Guarded guard state (first ++ second) ↔
      machine.Guarded guard state first ∧
        machine.Guarded guard (machine.exec state first) second := by
  induction first generalizing state with
  | nil => exact ⟨fun h ↦ ⟨trivial, h⟩, fun h ↦ h.2⟩
  | cons input inputs ih =>
    simp only [List.cons_append, Guarded, exec_cons, ih, and_assoc]

/-- A property kept by every step that meets the guard holds after every run whose steps all do. -/
theorem invariant_exec_of_guarded {guard : σ → ι → Prop} {P : σ → Prop}
    (hstep : ∀ s input, guard s input → P s → P (machine.step s input).1)
    {state : σ} (hstate : P state) {inputs : List ι} (hguarded : machine.Guarded guard state inputs) :
    P (machine.exec state inputs) := by
  induction inputs generalizing state with
  | nil => exact hstate
  | cons input inputs ih => exact ih (hstep state input hguarded.1 hstate) hguarded.2

/-- Under an invariant, a bound on the answer of one step is a bound on every answer of a run. -/
theorem forall_trace {P : σ → Prop} {Q : ι × ο → Prop}
    (hstep : ∀ s input, P s → P (machine.step s input).1)
    (hanswer : ∀ s input, P s → Q (input, (machine.step s input).2))
    {state : σ} (hstate : P state) (inputs : List ι) :
    ∀ entry ∈ machine.trace state inputs, Q entry := by
  induction inputs generalizing state with
  | nil =>
    intro entry hentry
    exact absurd hentry List.not_mem_nil
  | cons input inputs ih =>
    intro entry hentry
    rcases List.mem_cons.mp hentry with rfl | htail
    · exact hanswer state input hstate
    · exact ih (hstep state input hstate) entry htail

/-- An entry of a trace was answered in some state of the run, and the rest of the trace is the
trace of a run from the state after it. -/
theorem trace_split {state : σ} {inputs : List ι} {before after : List (ι × ο)} {input : ι}
    {output : ο} (htrace : machine.trace state inputs = before ++ (input, output) :: after) :
    ∃ first second, inputs = first ++ input :: second ∧
      before = machine.trace state first ∧
      output = (machine.step (machine.exec state first) input).2 ∧
      after = machine.trace (machine.step (machine.exec state first) input).1 second := by
  induction before generalizing state inputs with
  | nil =>
    cases inputs with
    | nil => simp [trace] at htrace
    | cons head tail =>
      simp only [trace, List.nil_append, List.cons.injEq, Prod.mk.injEq] at htrace
      obtain ⟨⟨rfl, houtput⟩, hafter⟩ := htrace
      exact ⟨[], tail, rfl, rfl, houtput.symm, hafter.symm⟩
  | cons entry before ih =>
    cases inputs with
    | nil => simp [trace] at htrace
    | cons head tail =>
      simp only [trace, List.cons_append, List.cons.injEq] at htrace
      obtain ⟨hentry, htail⟩ := htrace
      obtain ⟨first, second, rfl, hbefore, houtput, hafter⟩ := ih htail
      refine ⟨head :: first, second, rfl, ?_, houtput, hafter⟩
      rw [trace, hentry, ← hbefore]

/-- An answer that establishes a stable property constrains every later answer of the run. The
invariant `I` is what the step lemmas may assume of every state of the run. -/
theorem forall_trace_after {I P : σ → Prop} {Q : ι × ο → Prop}
    (hinvariant : ∀ s input, I s → I (machine.step s input).1)
    (hstable : ∀ s input, I s → P s → P (machine.step s input).1)
    (hanswer : ∀ s input, I s → P s → Q (input, (machine.step s input).2))
    {state : σ} (hstate : I state) {inputs : List ι} {before after : List (ι × ο)} {input : ι}
    {output : ο} (htrace : machine.trace state inputs = before ++ (input, output) :: after)
    (hestablish : ∀ s, I s → (machine.step s input).2 = output → P (machine.step s input).1) :
    ∀ entry ∈ after, Q entry := by
  obtain ⟨first, second, -, -, houtput, rfl⟩ := machine.trace_split htrace
  have hreached := machine.invariant_exec hinvariant hstate first
  exact machine.forall_trace (P := fun s ↦ I s ∧ P s)
    (fun s input h ↦ ⟨hinvariant s input h.1, hstable s input h.1 h.2⟩)
    (fun s input h ↦ hanswer s input h.1 h.2)
    ⟨hinvariant _ _ hreached, hestablish _ hreached houtput.symm⟩ second

end Machine

end VoiceHarness.Library
