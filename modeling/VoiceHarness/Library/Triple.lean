import VoiceHarness.Library.Process

/-!
Triples of processes that raise and catch exceptions and run loops.

An `Assertion` of a setting is what the others leave true. A `Triple` says what a process returns, and what it raises,
where it starts with an assertion; each of its requests keeps the invariant of the setting. As the others leave every
assertion, the rules have no side conditions about them. `attempt` turns an exception into a value, `loop` runs rounds
of a body, and `frame` carries along what every request leaves.
-/

set_option autoImplicit false
set_option relaxedAutoImplicit false

namespace VoiceHarness.Library

namespace Process

variable {Request : Type} {Answer : Request → Type} {ω σ ε ε' α β : Type}

/-! ### Exceptions and loops -/

/-- What a process comes to, an exception included. -/
def attempt : Process Request Answer ε α → Process Request Answer ε' (Except ε α)
  | .pure value => .pure (.ok value)
  | .throw error => .pure (.error error)
  | .ask request next => .ask request fun answer ↦ (next answer).attempt

/-- The same process with other exceptions. -/
def mapError (f : ε → ε') : Process Request Answer ε α → Process Request Answer ε' α
  | .pure value => .pure value
  | .throw error => .throw (f error)
  | .ask request next => .ask request fun answer ↦ (next answer).mapError f

/-- Rounds of a loop up to one that ends it. A loop that has had all its rounds is left by `exhausted`. -/
def loop (exhausted : ε) (round : α → Process Request Answer ε (α ⊕ β)) : ℕ → α → Process Request Answer ε β
  | 0, _ => .throw exhausted
  | rounds + 1, state => round state >>= Sum.elim (loop exhausted round rounds) .pure

/-! ### Assertions -/

/-- What the others leave true. -/
structure Assertion (setting : Setting Request Answer ω σ) where
  Holds : σ → Prop
  stable : ∀ {before after}, setting.Rely before after → Holds before → Holds after

variable {setting : Setting Request Answer ω σ}

instance : CoeFun (Assertion setting) fun _ ↦ σ → Prop := ⟨Assertion.Holds⟩

namespace Assertion

/-- Nothing. -/
def any : Assertion setting where
  Holds _ := True
  stable _ _ := trivial

/-- A fact that is not about the state. -/
def fact (φ : Prop) : Assertion setting where
  Holds _ := φ
  stable _ h := h

def and (P Q : Assertion setting) : Assertion setting where
  Holds state := P state ∧ Q state
  stable hrely h := ⟨P.stable hrely h.1, Q.stable hrely h.2⟩

/-- One of what is returned, another of what is raised. -/
@[reducible] def either {ε α : Type} (returned : α → Assertion setting) (raised : ε → Assertion setting) :
    Except ε α → Assertion setting
  | .ok value => returned value
  | .error error => raised error

end Assertion

/-! ### Triples -/

/-- Every request keeps the invariant, whatever the others did before it; what is returned meets `Post` and what is
raised meets `Raised`. -/
def Ensures (setting : Setting Request Answer ω σ) (Post : α → Assertion setting) (Raised : ε → Assertion setting) :
    Process Request Answer ε α → σ → Prop
  | .pure value, state => setting.Invariant state → Post value state
  | .throw error, state => setting.Invariant state → Raised error state
  | .ask request next, state => ∀ later, setting.Rely state later → setting.Invariant later → ∀ oracle,
      setting.Invariant (setting.perform oracle request later).2 ∧
        Ensures setting Post Raised (next (setting.perform oracle request later).1)
          (setting.perform oracle request later).2

/-- From where `Pre` holds, `Post` holds of what is returned and `Raised` of what is raised. -/
def Triple (Pre : Assertion setting) (program : Process Request Answer ε α) (Post : α → Assertion setting)
    (Raised : ε → Assertion setting) : Prop :=
  ∀ state, setting.Invariant state → Pre state → Ensures setting Post Raised program state

variable {Pre : Assertion setting} {Post : α → Assertion setting} {Raised : ε → Assertion setting}
  {program : Process Request Answer ε α} {state : σ}

theorem Ensures.weaken {Other : α → Assertion setting} {Otherwise : ε → Assertion setting}
    (h : Ensures setting Post Raised program state)
    (hpost : ∀ value state, setting.Invariant state → Post value state → Other value state)
    (hraised : ∀ error state, setting.Invariant state → Raised error state → Otherwise error state) :
    Ensures setting Other Otherwise program state := by
  induction program generalizing state with
  | pure value => exact fun hinvariant ↦ hpost value state hinvariant (h hinvariant)
  | throw error => exact fun hinvariant ↦ hraised error state hinvariant (h hinvariant)
  | ask request next ih =>
    intro later hrely hinvariant oracle
    obtain ⟨hafter, hnext⟩ := h later hrely hinvariant oracle
    exact ⟨hafter, ih _ hnext⟩

theorem Ensures.bind {Other : β → Assertion setting} {rest : α → Process Request Answer ε β}
    (h : Ensures setting Post Raised program state) (hinvariant : setting.Invariant state)
    (hrest : ∀ value, Triple (Post value) (rest value) Other Raised) :
    Ensures setting Other Raised (program >>= rest) state := by
  induction program generalizing state with
  | pure value => exact hrest value state hinvariant (h hinvariant)
  | throw error => exact h
  | ask request next ih =>
    intro later hrely hlater oracle
    obtain ⟨hafter, hnext⟩ := h later hrely hlater oracle
    exact ⟨hafter, ih _ hnext hafter⟩

/-- Caught, an exception is a value. -/
theorem Ensures.attempt {Either : Except ε α → Assertion setting} {Never : ε' → Assertion setting}
    (h : Ensures setting Post Raised program state)
    (hok : ∀ value state, setting.Invariant state → Post value state → Either (.ok value) state)
    (herror : ∀ error state, setting.Invariant state → Raised error state → Either (.error error) state) :
    Ensures setting Either Never program.attempt state := by
  induction program generalizing state with
  | pure value => exact fun hinvariant ↦ hok value state hinvariant (h hinvariant)
  | throw error => exact fun hinvariant ↦ herror error state hinvariant (h hinvariant)
  | ask request next ih =>
    intro later hrely hlater oracle
    obtain ⟨hafter, hnext⟩ := h later hrely hlater oracle
    exact ⟨hafter, ih _ hnext⟩

theorem Ensures.mapError {f : ε → ε'} {Otherwise : ε' → Assertion setting}
    (h : Ensures setting Post Raised program state)
    (hraised : ∀ error state, setting.Invariant state → Raised error state → Otherwise (f error) state) :
    Ensures setting Post Otherwise (program.mapError f) state := by
  induction program generalizing state with
  | pure value => exact h
  | throw error => exact fun hinvariant ↦ hraised error state hinvariant (h hinvariant)
  | ask request next ih =>
    intro later hrely hlater oracle
    obtain ⟨hafter, hnext⟩ := h later hrely hlater oracle
    exact ⟨hafter, ih _ hnext⟩

/-- What every request leaves is left by the process. -/
theorem Ensures.frame {F : Assertion setting} (h : Ensures setting Post Raised program state)
    (hkept : ∀ oracle asked state, setting.Invariant state → F state → F (setting.perform oracle asked state).2)
    (hstate : F state) :
    Ensures setting (fun value ↦ (Post value).and F) (fun error ↦ (Raised error).and F) program state := by
  induction program generalizing state with
  | pure value => exact fun hinvariant ↦ ⟨h hinvariant, hstate⟩
  | throw error => exact fun hinvariant ↦ ⟨h hinvariant, hstate⟩
  | ask request next ih =>
    intro later hrely hlater oracle
    obtain ⟨hafter, hnext⟩ := h later hrely hlater oracle
    exact ⟨hafter, ih _ hnext (hkept oracle request later hlater (F.stable hrely hstate))⟩

/-- A process that ensures its postcondition is safe. -/
theorem Ensures.safe (h : Ensures setting Post Raised program state) (hinvariant : setting.Invariant state) :
    Safe setting (fun value ↦ (Post value).Holds) program state := by
  induction program generalizing state with
  | pure value => exact fun later hrely _ ↦ (Post value).stable hrely (h hinvariant)
  | throw error => exact trivial
  | ask request next ih =>
    intro later hrely hlater oracle
    obtain ⟨hafter, hnext⟩ := h later hrely hlater oracle
    exact ⟨hafter, ih _ hnext hafter⟩

namespace Triple

theorem conseq {Stronger : Assertion setting} {Other : α → Assertion setting} {Otherwise : ε → Assertion setting}
    (h : Triple Pre program Post Raised) (hpre : ∀ state, setting.Invariant state → Stronger state → Pre state)
    (hpost : ∀ value state, setting.Invariant state → Post value state → Other value state)
    (hraised : ∀ error state, setting.Invariant state → Raised error state → Otherwise error state) :
    Triple Stronger program Other Otherwise :=
  fun state hinvariant hstronger ↦ (h state hinvariant (hpre state hinvariant hstronger)).weaken hpost hraised

theorem pre {Stronger : Assertion setting} (h : Triple Pre program Post Raised)
    (hpre : ∀ state, setting.Invariant state → Stronger state → Pre state) : Triple Stronger program Post Raised :=
  fun state hinvariant hstronger ↦ h state hinvariant (hpre state hinvariant hstronger)

theorem raises {Otherwise : ε → Assertion setting} (h : Triple Pre program Post Raised)
    (hraised : ∀ error state, setting.Invariant state → Raised error state → Otherwise error state) :
    Triple Pre program Post Otherwise :=
  h.conseq (fun _ _ hstate ↦ hstate) (fun _ _ _ hstate ↦ hstate) hraised

/-- A precondition that follows from one of several is one at a time. -/
theorem of_exists {ι : Type} (P : ι → Assertion setting) (h : ∀ index, Triple (P index) program Post Raised)
    (hpre : ∀ state, setting.Invariant state → Pre state → ∃ index, P index state) :
    Triple Pre program Post Raised := by
  intro state hinvariant hstate
  obtain ⟨index, hindex⟩ := hpre state hinvariant hstate
  exact h index state hinvariant hindex

/-- What the precondition says about no state may be used for the whole process. -/
theorem of_fact {φ : Prop} (hpre : ∀ state, setting.Invariant state → Pre state → φ)
    (h : φ → Triple Pre program Post Raised) : Triple Pre program Post Raised :=
  fun state hinvariant hstate ↦ h (hpre state hinvariant hstate) state hinvariant hstate

theorem pure {value : α} (h : ∀ state, setting.Invariant state → Pre state → Post value state) :
    Triple Pre (Process.pure value : Process Request Answer ε α) Post Raised :=
  fun state hinvariant hstate _ ↦ h state hinvariant hstate

theorem throw {error : ε} (h : ∀ state, setting.Invariant state → Pre state → Raised error state) :
    Triple Pre (Process.throw error : Process Request Answer ε α) Post Raised :=
  fun state hinvariant hstate _ ↦ h state hinvariant hstate

theorem bind {Other : β → Assertion setting} {rest : α → Process Request Answer ε β}
    (h : Triple Pre program Post Raised) (hrest : ∀ value, Triple (Post value) (rest value) Other Raised) :
    Triple Pre (program >>= rest) Other Raised :=
  fun state hinvariant hstate ↦ (h state hinvariant hstate).bind hinvariant hrest

/-- One request that keeps the invariant and establishes its postcondition. -/
theorem request {asked : Request} {Post : Answer asked → Assertion setting}
    (h : ∀ state, setting.Invariant state → Pre state → ∀ oracle,
      setting.Invariant (setting.perform oracle asked state).2 ∧
        Post (setting.perform oracle asked state).1 (setting.perform oracle asked state).2) :
    Triple Pre (Process.request asked : Process Request Answer ε (Answer asked)) Post Raised := by
  intro state _ hstate later hrely hlater oracle
  obtain ⟨hafter, hpost⟩ := h later hlater (Pre.stable hrely hstate) oracle
  exact ⟨hafter, fun _ ↦ hpost⟩

theorem ofExcept {value : Except ε α} (hok : ∀ result, value = .ok result → ∀ state, setting.Invariant state →
      Pre state → Post result state)
    (herror : ∀ error, value = .error error → ∀ state, setting.Invariant state → Pre state → Raised error state) :
    Triple Pre (Process.ofExcept value : Process Request Answer ε α) Post Raised := by
  cases value with
  | error error => exact throw (herror error rfl)
  | ok result => exact pure (hok result rfl)

theorem ite {condition : Prop} [Decidable condition] {other : Process Request Answer ε α}
    (hpos : condition → Triple Pre program Post Raised) (hneg : ¬ condition → Triple Pre other Post Raised) :
    Triple Pre (if condition then program else other) Post Raised := by
  by_cases hcondition : condition
  · rw [if_pos hcondition]
    exact hpos hcondition
  · rw [if_neg hcondition]
    exact hneg hcondition

theorem attempt {Either : Except ε α → Assertion setting} {Never : ε' → Assertion setting}
    (h : Triple Pre program Post Raised)
    (hok : ∀ value state, setting.Invariant state → Post value state → Either (.ok value) state)
    (herror : ∀ error state, setting.Invariant state → Raised error state → Either (.error error) state) :
    Triple Pre (program.attempt : Process Request Answer ε' (Except ε α)) Either Never :=
  fun state hinvariant hstate ↦ (h state hinvariant hstate).attempt hok herror

theorem mapError {f : ε → ε'} {Otherwise : ε' → Assertion setting} (h : Triple Pre program Post Raised)
    (hraised : ∀ error state, setting.Invariant state → Raised error state → Otherwise (f error) state) :
    Triple Pre (program.mapError f) Post Otherwise :=
  fun state hinvariant hstate ↦ (h state hinvariant hstate).mapError hraised

/-- The rule of a loop: each round starts with the invariant of the loop, and leaves it or ends the loop. -/
theorem loop {exhausted : ε} {round : α → Process Request Answer ε (α ⊕ β)} {Result : β → Assertion setting}
    (Each : α → Assertion setting)
    (hround : ∀ current, Triple (Each current) (round current) (Sum.elim Each Result) Raised)
    (hexhausted : ∀ current state, setting.Invariant state → Each current state → Raised exhausted state) (rounds : ℕ)
    (start : α) : Triple (Each start) (loop exhausted round rounds start) Result Raised := by
  induction rounds generalizing start with
  | zero => exact throw (hexhausted start)
  | succ rounds ih =>
    refine (hround start).bind fun next ↦ ?_
    cases next with
    | inl next => exact ih next
    | inr result => exact pure fun _ _ h ↦ h

/-- The rule of the frame. -/
theorem frame {F : Assertion setting} (h : Triple Pre program Post Raised)
    (hkept : ∀ oracle asked state, setting.Invariant state → F state → F (setting.perform oracle asked state).2) :
    Triple (Pre.and F) program (fun value ↦ (Post value).and F) (fun error ↦ (Raised error).and F) :=
  fun state hinvariant hstate ↦ (h state hinvariant hstate.1).frame hkept hstate.2

/-- A process with a triple is safe where the precondition holds. -/
theorem safe (h : Triple Pre program Post Raised) (hinvariant : setting.Invariant state) (hstate : Pre state) :
    Safe setting (fun value ↦ (Post value).Holds) program state :=
  (h state hinvariant hstate).safe hinvariant

end Triple

end Process

end VoiceHarness.Library
