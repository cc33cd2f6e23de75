import Mathlib.Data.List.Basic

/-!
Statements of a transactional store. A statement either moves the store to its next state or raises
and leaves it. `runStatements` runs a list of them and keeps what was done before the one that
raised, which is what a caller sees who catches the exception inside the transaction;
`transaction` rolls everything back.
-/

set_option autoImplicit false
set_option relaxedAutoImplicit false

namespace VoiceHarness.Library

variable {σ ε : Type}

/-- A statement: the next state, or the exception it raises. -/
abbrev Statement (σ ε : Type) := σ → Except ε σ

/-- The statements in order, up to the first that raises. -/
def runStatements : List (Statement σ ε) → σ → σ × Option ε
  | [], state => (state, none)
  | statement :: statements, state =>
    match statement state with
    | .ok next => runStatements statements next
    | .error error => (state, some error)

/-- The statements as one transaction: an exception leaves the state as it was. -/
def transaction (statements : List (Statement σ ε)) (state : σ) : Except ε σ :=
  match runStatements statements state with
  | (next, none) => .ok next
  | (_, some error) => .error error

@[simp] theorem runStatements_nil (state : σ) :
    runStatements ([] : List (Statement σ ε)) state = (state, none) := rfl

theorem runStatements_cons_ok {statement : Statement σ ε} {statements : List (Statement σ ε)}
    {state next : σ} (h : statement state = .ok next) :
    runStatements (statement :: statements) state = runStatements statements next := by
  rw [runStatements, h]

theorem runStatements_cons_error {statement : Statement σ ε} {statements : List (Statement σ ε)}
    {state : σ} {error : ε} (h : statement state = .error error) :
    runStatements (statement :: statements) state = (state, some error) := by
  rw [runStatements, h]

/-- A statement that raises where a constraint is broken, and otherwise changes the state. -/
def guarded (broken : σ → Option ε) (action : σ → σ) : Statement σ ε := fun state ↦
  match broken state with
  | some error => .error error
  | none => .ok (action state)

theorem guarded_eq_ok_iff {broken : σ → Option ε} {action : σ → σ} {state next : σ} :
    guarded broken action state = .ok next ↔ broken state = none ∧ next = action state := by
  unfold guarded
  rcases hbroken : broken state with _ | error
  · simp [eq_comm]
  · simp

theorem guarded_eq_error_iff {broken : σ → Option ε} {action : σ → σ} {state : σ} {error : ε} :
    guarded broken action state = .error error ↔ broken state = some error := by
  unfold guarded
  rcases hbroken : broken state with _ | raised
  · simp
  · simp

/-- The statements run to their end and leave this state. -/
def Runs (statements : List (Statement σ ε)) (state next : σ) : Prop :=
  runStatements statements state = (next, none)

@[simp] theorem runs_nil {state next : σ} :
    Runs ([] : List (Statement σ ε)) state next ↔ next = state := by
  simp [Runs, eq_comm]

/-- A guarded statement runs when its constraints hold. -/
theorem runs_guarded_cons {broken : σ → Option ε} {action : σ → σ}
    {statements : List (Statement σ ε)} {state next : σ} :
    Runs (guarded broken action :: statements) state next ↔
      broken state = none ∧ Runs statements (action state) next := by
  unfold Runs
  rcases hbroken : broken state with _ | error
  · have hstatement : guarded broken action state = .ok (action state) :=
      guarded_eq_ok_iff.mpr ⟨hbroken, rfl⟩
    rw [runStatements_cons_ok hstatement]
    simp
  · have hstatement : guarded broken action state = .error error := by
      unfold guarded
      rw [hbroken]
    rw [runStatements_cons_error hstatement]
    simp

/-- The statements raise nothing exactly when they run to some state. -/
theorem runs_of_error_eq_none {statements : List (Statement σ ε)} {state : σ}
    (h : (runStatements statements state).2 = none) :
    Runs statements state (runStatements statements state).1 := Prod.ext rfl h

/-- Running two lists of statements in turn. -/
theorem runStatements_append (first second : List (Statement σ ε)) (state : σ) :
    runStatements (first ++ second) state =
      match runStatements first state with
      | (next, none) => runStatements second next
      | (next, some error) => (next, some error) := by
  induction first generalizing state with
  | nil => rfl
  | cons statement statements ih =>
    rw [List.cons_append]
    rcases hstatement : statement state with error | next
    · rw [runStatements_cons_error hstatement, runStatements_cons_error hstatement]
    · rw [runStatements_cons_ok hstatement, runStatements_cons_ok hstatement, ih]

/-- The second list starts where the first one ended. -/
theorem runStatements_append_ok {first : List (Statement σ ε)} {state next : σ}
    (h : Runs first state next) (second : List (Statement σ ε)) :
    runStatements (first ++ second) state = runStatements second next := by
  rw [runStatements_append, h]

/-- What the first list raises, both raise. -/
theorem runStatements_append_error {first : List (Statement σ ε)} {state next : σ} {error : ε}
    (h : runStatements first state = (next, some error)) (second : List (Statement σ ε)) :
    runStatements (first ++ second) state = (next, some error) := by
  rw [runStatements_append, h]

/-- The exception that statements leave is one that a statement of them raises. -/
theorem runStatements_error {Q : ε → Prop} {statements : List (Statement σ ε)}
    (hraises : ∀ statement ∈ statements, ∀ state error, statement state = .error error → Q error)
    {state next : σ} {error : ε} (h : runStatements statements state = (next, some error)) :
    Q error := by
  induction statements generalizing state with
  | nil => simp at h
  | cons statement statements ih =>
    rcases hstatement : statement state with raised | middle
    · rw [runStatements_cons_error hstatement] at h
      cases h
      exact hraises statement List.mem_cons_self _ _ hstatement
    · rw [runStatements_cons_ok hstatement] at h
      exact ih (fun other hother ↦ hraises other (List.mem_cons_of_mem _ hother)) h

/-- A property every statement keeps holds of what the statements leave, whether or not one of them
raised. -/
theorem runStatements_invariant {P : σ → Prop} {statements : List (Statement σ ε)}
    (hkeep : ∀ statement ∈ statements, ∀ state next, P state → statement state = .ok next → P next)
    {state : σ} (hstate : P state) : P (runStatements statements state).1 := by
  induction statements generalizing state with
  | nil => exact hstate
  | cons statement statements ih =>
    rcases hstatement : statement state with error | next
    · rw [runStatements_cons_error hstatement]
      exact hstate
    · rw [runStatements_cons_ok hstatement]
      exact ih (fun other hother ↦ hkeep other (List.mem_cons_of_mem _ hother))
        (hkeep statement List.mem_cons_self state next hstate hstatement)

end VoiceHarness.Library
