import Mathlib.Data.List.Basic

/-!
Programs over a store. A program answers or raises, and what it wrote before an exception stays
until its transaction ends: `attempt` catches inside the transaction and keeps it, `atomically` is
the transaction, which rolls it back.

`Keeps P program R` says that every run from a state with `P` that raises nothing ends in a state
with `P` and answers a value with `R`. The rules follow the constructs of a program.
-/

set_option autoImplicit false
set_option relaxedAutoImplicit false

namespace VoiceHarness.Library

variable {σ ε α β : Type}

/-- A program over a state; an exception keeps the state it was raised in. -/
abbrev Program (σ ε α : Type) := EStateM ε σ α

/-- The value of an expression that may raise. -/
def valueOrRaise : Except ε α → Program σ ε α
  | .ok value => pure value
  | .error error => throw error

/-- The value or the exception of a program, inside its transaction. -/
def attempt (program : Program σ ε α) : Program σ ε (Except ε α) := fun state ↦
  match program state with
  | .ok value next => .ok (.ok value) next
  | .error error next => .ok (.error error) next

/-- The program with its exceptions renamed. -/
def raisingAs (rename : ε → ε) (program : Program σ ε α) : Program σ ε α := fun state ↦
  match program state with
  | .ok value next => .ok value next
  | .error error next => .error (rename error) next

/-- The program as one transaction. -/
def atomically (program : Program σ ε α) (state : σ) : σ × Except ε α :=
  match program state with
  | .ok value next => (next, .ok value)
  | .error error _ => (state, .error error)

/-- The state a program leaves, whether or not it raises. -/
def finalState (program : Program σ ε α) (state : σ) : σ :=
  match program state with
  | .ok _ next => next
  | .error _ next => next

/-! ### Runs -/

theorem bind_apply (program : Program σ ε α) (rest : α → Program σ ε β) (state : σ) :
    (program >>= rest) state =
      match program state with
      | .ok value next => rest value next
      | .error error next => .error error next := by
  change EStateM.bind program rest state = _
  unfold EStateM.bind
  cases program state <;> rfl

theorem bind_of_ok {program : Program σ ε α} {rest : α → Program σ ε β} {state next : σ} {value : α}
    (h : program state = .ok value next) : (program >>= rest) state = rest value next := by
  rw [bind_apply, h]

theorem bind_of_error {program : Program σ ε α} {rest : α → Program σ ε β} {state next : σ}
    {error : ε} (h : program state = .error error next) :
    (program >>= rest) state = .error error next := by
  rw [bind_apply, h]

theorem finalState_of_ok {program : Program σ ε α} {state next : σ} {value : α}
    (h : program state = .ok value next) : finalState program state = next := by
  unfold finalState
  rw [h]

theorem finalState_of_error {program : Program σ ε α} {state next : σ} {error : ε}
    (h : program state = .error error next) : finalState program state = next := by
  unfold finalState
  rw [h]

/-- A sequence leaves what its second program leaves, or what the first left when it raised. -/
theorem finalState_bind (program : Program σ ε α) (rest : α → Program σ ε β) (state : σ) :
    finalState (program >>= rest) state =
      match program state with
      | .ok value next => finalState (rest value) next
      | .error _ next => next := by
  unfold finalState
  rw [bind_apply]
  rcases program state with ⟨value, next⟩ | ⟨error, next⟩ <;> rfl

/-- A transitive relation that both programs of a sequence stay in holds of the sequence. -/
theorem relates_bind {R : σ → σ → Prop} (htrans : ∀ {first second third}, R first second →
    R second third → R first third) {program : Program σ ε α} {rest : α → Program σ ε β}
    (h : ∀ state, R state (finalState program state))
    (hrest : ∀ value state, R state (finalState (rest value) state)) (state : σ) :
    R state (finalState (program >>= rest) state) := by
  have hfirst := h state
  rw [finalState_bind]
  rcases hrun : program state with ⟨value, next⟩ | ⟨error, next⟩
  · rw [finalState_of_ok hrun] at hfirst
    exact htrans hfirst (hrest value next)
  · rw [finalState_of_error hrun] at hfirst
    exact hfirst

@[simp] theorem finalState_pure (value : α) (state : σ) :
    finalState (pure value : Program σ ε α) state = state := rfl

@[simp] theorem finalState_throw (error : ε) (state : σ) :
    finalState (throw error : Program σ ε α) state = state := rfl

@[simp] theorem pure_apply (value : α) (state : σ) :
    (pure value : Program σ ε α) state = .ok value state := rfl

@[simp] theorem throw_apply (error : ε) (state : σ) :
    (throw error : Program σ ε α) state = .error error state := rfl

@[simp] theorem get_apply (state : σ) :
    (MonadState.get : Program σ ε σ) state = .ok state state := rfl

@[simp] theorem valueOrRaise_ok (value : α) :
    (valueOrRaise (.ok value) : Program σ ε α) = pure value := rfl

@[simp] theorem valueOrRaise_error (error : ε) :
    (valueOrRaise (.error error) : Program σ ε α) = throw error := rfl

/-- A sequence answers what its second program answers after the first. -/
theorem bind_eq_ok_iff {program : Program σ ε α} {rest : α → Program σ ε β} {state next : σ}
    {result : β} : (program >>= rest) state = .ok result next ↔
      ∃ value middle, program state = .ok value middle ∧ rest value middle = .ok result next := by
  rw [bind_apply]
  rcases program state with ⟨value, middle⟩ | ⟨error, middle⟩
  · constructor
    · intro h
      exact ⟨value, middle, rfl, h⟩
    · rintro ⟨_, _, heq, h⟩
      cases heq
      exact h
  · simp

/-- A loop answers what it answers on the tail after its first item. -/
theorem forM_cons_eq_ok_iff {item : Type} {first : item} {items : List item}
    {body : item → Program σ ε PUnit} {state next : σ} {result : PUnit} :
    (first :: items).forM body state = .ok result next ↔
      ∃ middle, body first state = .ok ⟨⟩ middle ∧ items.forM body middle = .ok result next := by
  change (body first >>= fun _ ↦ items.forM body) state = _ ↔ _
  rw [bind_eq_ok_iff]
  constructor
  · rintro ⟨⟨⟩, middle, hfirst, h⟩
    exact ⟨middle, hfirst, h⟩
  · rintro ⟨middle, hfirst, h⟩
    exact ⟨⟨⟩, middle, hfirst, h⟩

theorem map_eq_ok_iff {program : Program σ ε α} {f : α → β} {state next : σ} {result : β} :
    (f <$> program) state = .ok result next ↔
      ∃ value, program state = .ok value next ∧ f value = result := by
  change (program >>= fun value ↦ pure (f value)) state = _ ↔ _
  rw [bind_eq_ok_iff]
  constructor
  · rintro ⟨value, middle, hprogram, hvalue⟩
    cases hvalue
    exact ⟨value, hprogram, rfl⟩
  · rintro ⟨value, hprogram, rfl⟩
    exact ⟨value, next, hprogram, rfl⟩

theorem valueOrRaise_eq_ok_iff {value : Except ε α} {state next : σ} {result : α} :
    (valueOrRaise value : Program σ ε α) state = .ok result next ↔
      value = .ok result ∧ next = state := by
  cases value with
  | error error => simp
  | ok value => simp [eq_comm]

theorem bind_valueOrRaise_iff {value : Except ε α} {rest : α → Program σ ε β} {state next : σ}
    {result : β} : (valueOrRaise value >>= rest) state = .ok result next ↔
      ∃ answer, value = .ok answer ∧ rest answer state = .ok result next := by
  rw [bind_eq_ok_iff]
  simp only [valueOrRaise_eq_ok_iff]
  constructor
  · rintro ⟨answer, middle, ⟨hvalue, rfl⟩, h⟩
    exact ⟨answer, hvalue, h⟩
  · rintro ⟨answer, hvalue, h⟩
    exact ⟨answer, state, ⟨hvalue, rfl⟩, h⟩

theorem bind_get_iff {rest : σ → Program σ ε β} {state next : σ} {result : β} :
    (MonadState.get >>= rest) state = .ok result next ↔
      rest state state = .ok result next := by
  rw [bind_apply, get_apply]

theorem raisingAs_eq_ok_iff {rename : ε → ε} {program : Program σ ε α} {state next : σ}
    {result : α} :
    raisingAs rename program state = .ok result next ↔ program state = .ok result next := by
  unfold raisingAs
  rcases program state with ⟨value, middle⟩ | ⟨error, middle⟩ <;> simp

/-- A loop whose body writes nothing answers what the body answers on each item. -/
theorem mapM_reads {item : Type} {items : List item} {body : item → Program σ ε α}
    (hreads : ∀ value state answer next, body value state = .ok answer next → next = state)
    {state next : σ} {values : List α} (h : items.mapM body state = .ok values next) :
    next = state ∧
      List.Forall₂ (fun value answer ↦ body value state = .ok answer state) items values := by
  induction items generalizing values with
  | nil =>
    rw [List.mapM_nil] at h
    cases h
    exact ⟨rfl, .nil⟩
  | cons first items ih =>
    rw [List.mapM_cons, bind_eq_ok_iff] at h
    obtain ⟨answer, middle, hfirst, h⟩ := h
    have hmiddle := hreads first state answer middle hfirst
    subst hmiddle
    rw [bind_eq_ok_iff] at h
    obtain ⟨answers, after, hitems, h⟩ := h
    cases h
    obtain ⟨hafter, hanswers⟩ := ih hitems
    exact ⟨hafter, .cons hfirst hanswers⟩

/-- A transaction answers what its program answers. -/
theorem atomically_eq_ok_iff {program : Program σ ε α} {state next : σ} {result : α} :
    atomically program state = (next, .ok result) ↔ program state = .ok result next := by
  unfold atomically
  rcases program state with ⟨value, middle⟩ | ⟨error, middle⟩
  · simp [and_comm]
  · simp

theorem atomically_of_error {program : Program σ ε α} {state next : σ} {error : ε}
    (h : program state = .error error next) : atomically program state = (state, .error error) := by
  unfold atomically
  rw [h]

/-- A transaction that raises leaves the state as it was. -/
theorem atomically_error {program : Program σ ε α} {state : σ} {error : ε}
    (h : (atomically program state).2 = .error error) : (atomically program state).1 = state := by
  unfold atomically at h ⊢
  rcases hrun : program state with ⟨value, next⟩ | ⟨raised, next⟩
  · rw [hrun] at h
    exact absurd h (by simp)
  · rfl

/-- Every run that raises nothing keeps the property of the state, and answers a value of the
kind. -/
def Keeps (P : σ → Prop) (program : Program σ ε α) (R : α → Prop) : Prop :=
  ∀ state, P state → ∀ value next, program state = .ok value next → P next ∧ R value

namespace Keeps

variable {P : σ → Prop} {R : α → Prop} {R' : β → Prop}

theorem pure {value : α} (h : R value) : Keeps P (Pure.pure value : Program σ ε α) R := by
  intro state hstate result next hrun
  cases hrun
  exact ⟨hstate, h⟩

theorem throw {error : ε} : Keeps P (MonadExcept.throw error : Program σ ε α) R := by
  intro state _ result next hrun
  cases hrun

/-- The state that is read has the property. -/
theorem get : Keeps P (MonadState.get : Program σ ε σ) P := by
  intro state hstate result next hrun
  cases hrun
  exact ⟨hstate, hstate⟩

theorem set {state : σ} (h : P state) : Keeps P (set state : Program σ ε PUnit) fun _ ↦ True := by
  intro _ _ result next hrun
  cases hrun
  exact ⟨h, trivial⟩

theorem modify {f : σ → σ} (h : ∀ state, P state → P (f state)) :
    Keeps P (modify f : Program σ ε PUnit) fun _ ↦ True := by
  intro state hstate result next hrun
  cases hrun
  exact ⟨h _ hstate, trivial⟩

theorem weaken {R' : α → Prop} {program : Program σ ε α} (h : Keeps P program R)
    (hvalue : ∀ value, R value → R' value) : Keeps P program R' := by
  intro state hstate result next hrun
  obtain ⟨hnext, hresult⟩ := h state hstate result next hrun
  exact ⟨hnext, hvalue result hresult⟩

/-- A sequence keeps what both programs keep; the second may use the kind of the first value. -/
theorem bind {program : Program σ ε α} {rest : α → Program σ ε β} (h : Keeps P program R)
    (hrest : ∀ value, R value → Keeps P (rest value) R') : Keeps P (program >>= rest) R' := by
  intro state hstate result next hrun
  change EStateM.bind program rest state = .ok result next at hrun
  unfold EStateM.bind at hrun
  rcases hprogram : program state with ⟨value, middle⟩ | ⟨error, middle⟩
  · rw [hprogram] at hrun
    obtain ⟨hmiddle, hvalue⟩ := h state hstate value middle hprogram
    exact hrest value hvalue middle hmiddle result next hrun
  · rw [hprogram] at hrun
    cases hrun

theorem map {program : Program σ ε α} {f : α → β} (h : Keeps P program R)
    (hf : ∀ value, R value → R' (f value)) : Keeps P (f <$> program) R' :=
  bind h fun value hvalue ↦ pure (hf value hvalue)

theorem valueOrRaise {value : Except ε α} (h : ∀ result, value = .ok result → R result) :
    Keeps P (Library.valueOrRaise value : Program σ ε α) R := by
  cases value with
  | error error => exact throw
  | ok result => exact pure (h result rfl)

theorem raisingAs {rename : ε → ε} {program : Program σ ε α} (h : Keeps P program R) :
    Keeps P (Library.raisingAs rename program) R := by
  intro state hstate result next hrun
  unfold Library.raisingAs at hrun
  rcases hprogram : program state with ⟨value, after⟩ | ⟨error, after⟩
  · rw [hprogram] at hrun
    cases hrun
    exact h state hstate result next hprogram
  · rw [hprogram] at hrun
    cases hrun

theorem ite {condition : Prop} [Decidable condition] {first second : Program σ ε α}
    (hfirst : Keeps P first R) (hsecond : Keeps P second R) :
    Keeps P (if condition then first else second) R := by
  split_ifs
  · exact hfirst
  · exact hsecond

/-- A loop over a list keeps what its body keeps, and each of its values is of the kind. -/
theorem mapM {item : Type} {items : List item} {body : item → Program σ ε α}
    (h : ∀ value ∈ items, Keeps P (body value) R) :
    Keeps P (items.mapM body) fun values ↦ ∀ value ∈ values, R value := by
  induction items with
  | nil =>
    refine pure fun value hvalue ↦ ?_
    exact absurd hvalue List.not_mem_nil
  | cons first items ih =>
    have hitems := ih fun other hother ↦ h other (List.mem_cons_of_mem _ hother)
    rw [List.mapM_cons]
    refine bind (h first List.mem_cons_self) fun value hvalue ↦ ?_
    refine bind hitems fun values hvalues ↦ ?_
    exact pure (List.forall_mem_cons.mpr ⟨hvalue, hvalues⟩)

theorem forM {item : Type} {items : List item} {body : item → Program σ ε PUnit}
    (h : ∀ value ∈ items, Keeps P (body value) fun _ ↦ True) :
    Keeps P (items.forM body) fun _ ↦ True := by
  induction items with
  | nil => exact pure trivial
  | cons first items ih =>
    exact bind (h first List.mem_cons_self) fun _ _ ↦
      ih fun other hother ↦ h other (List.mem_cons_of_mem _ hother)

/-- A transaction keeps what its program keeps, whether or not it raises. -/
theorem atomically {program : Program σ ε α} (h : Keeps P program R) {state : σ}
    (hstate : P state) : P (Library.atomically program state).1 := by
  unfold Library.atomically
  rcases hrun : program state with ⟨value, next⟩ | ⟨error, next⟩
  · exact (h state hstate value next hrun).1
  · exact hstate

end Keeps

end VoiceHarness.Library
