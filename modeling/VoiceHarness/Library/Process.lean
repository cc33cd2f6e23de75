import VoiceHarness.Library.Machine

/-!
Processes. A process asks the world one request after another, and goes on with the answers until it returns or raises.
Others may change the world between any two of its requests, and it may be stopped before any of them; what it has
asked by then has happened.

A `Setting` says what the answers do to the world, which changes the others make (`Rely`) and what always holds of it
(`Invariant`). `Safe` is the triple of a process in a setting: each of its requests keeps the invariant, and where it
returns, its postcondition holds. `host` runs processes one at a time among the others, and `safe_exec` carries the
invariant along its runs.
-/

set_option autoImplicit false
set_option relaxedAutoImplicit false

namespace VoiceHarness.Library

inductive Process (Request : Type) (Answer : Request → Type) (ε α : Type) where
  | pure (value : α)
  | throw (error : ε)
  | ask (request : Request) (next : Answer request → Process Request Answer ε α)

/-- What a request does, what the others do, and what always holds. -/
structure Setting (Request : Type) (Answer : Request → Type) (ω σ : Type) where
  perform : ω → (request : Request) → σ → Answer request × σ
  Rely : σ → σ → Prop
  Invariant : σ → Prop
  refl : ∀ state, Rely state state
  trans : ∀ {first second third}, Rely first second → Rely second third → Rely first third

namespace Process

variable {Request : Type} {Answer : Request → Type} {ω σ ε α β : Type}

def bind : Process Request Answer ε α → (α → Process Request Answer ε β) → Process Request Answer ε β
  | .pure value, rest => rest value
  | .throw error, _ => .throw error
  | .ask request next, rest => .ask request fun answer ↦ (next answer).bind rest

instance : Monad (Process Request Answer ε) where
  pure := .pure
  bind := bind

@[simp] theorem pure_bind (value : α) (rest : α → Process Request Answer ε β) :
    (Process.pure value >>= rest) = rest value := rfl

@[simp] theorem throw_bind (error : ε) (rest : α → Process Request Answer ε β) :
    (Process.throw error >>= rest) = .throw error := rfl

@[simp] theorem ask_bind (request : Request) (next : Answer request → Process Request Answer ε α)
    (rest : α → Process Request Answer ε β) :
    (Process.ask request next >>= rest) = .ask request fun answer ↦ next answer >>= rest := rfl

/-- The answer to one request. -/
def request (asked : Request) : Process Request Answer ε (Answer asked) := .ask asked .pure

/-- The value, or the exception, of an answer. -/
def ofExcept : Except ε α → Process Request Answer ε α
  | .ok value => .pure value
  | .error error => .throw error

/-- Every request keeps the invariant, whatever the others did before it, and the postcondition holds of what is
returned. -/
def Safe (setting : Setting Request Answer ω σ) (Post : α → σ → Prop) : Process Request Answer ε α → σ → Prop
  | .pure value, state => ∀ later, setting.Rely state later → setting.Invariant later → Post value later
  | .throw _, _ => True
  | .ask request next, state => ∀ later, setting.Rely state later → setting.Invariant later → ∀ oracle,
      setting.Invariant (setting.perform oracle request later).2 ∧
        Safe setting Post (next (setting.perform oracle request later).1) (setting.perform oracle request later).2

section Rules

variable {setting : Setting Request Answer ω σ} {Post : α → σ → Prop} {program : Process Request Answer ε α}
  {state later : σ}

/-- What the others do leaves a process safe. -/
theorem Safe.rely (h : Safe setting Post program state) (hrely : setting.Rely state later) :
    Safe setting Post program later := by
  cases program with
  | pure value =>
    intro last hlast hinvariant
    exact h last (setting.trans hrely hlast) hinvariant
  | throw error => exact trivial
  | ask request next =>
    intro last hlast hinvariant oracle
    exact h last (setting.trans hrely hlast) hinvariant oracle

theorem Safe.weaken {Other : α → σ → Prop} (h : Safe setting Post program state)
    (hpost : ∀ value state, setting.Invariant state → Post value state → Other value state) :
    Safe setting Other program state := by
  induction program generalizing state with
  | pure value =>
    intro last hlast hinvariant
    exact hpost value last hinvariant (h last hlast hinvariant)
  | throw error => exact trivial
  | ask request next ih =>
    intro last hlast hinvariant oracle
    obtain ⟨hafter, hnext⟩ := h last hlast hinvariant oracle
    exact ⟨hafter, ih _ hnext⟩

/-- A sequence is safe where its second program is safe from what the first establishes. -/
theorem Safe.bind {Other : β → σ → Prop} {rest : α → Process Request Answer ε β}
    (h : Safe setting Post program state)
    (hrest : ∀ value later, setting.Invariant later → Post value later → Safe setting Other (rest value) later) :
    Safe setting Other (program >>= rest) state := by
  induction program generalizing state with
  | pure value =>
    rw [pure_bind]
    -- the postcondition may be used at every later state, so the rest is safe at each of them
    cases hvalue : rest value with
    | pure result =>
      intro last hlast hinvariant
      have hsafe := hrest value last hinvariant (h last hlast hinvariant)
      rw [hvalue] at hsafe
      exact hsafe last (setting.refl last) hinvariant
    | throw error => exact trivial
    | ask request next =>
      intro last hlast hinvariant oracle
      have hsafe := hrest value last hinvariant (h last hlast hinvariant)
      rw [hvalue] at hsafe
      exact hsafe last (setting.refl last) hinvariant oracle
  | throw error => exact trivial
  | ask request next ih =>
    intro last hlast hinvariant oracle
    obtain ⟨hafter, hnext⟩ := h last hlast hinvariant oracle
    exact ⟨hafter, ih _ hnext⟩

/-- A postcondition that the others keep is returned. -/
theorem Safe.pure {value : α} (hkept : ∀ later, setting.Rely state later → setting.Invariant later → Post value later) :
    Safe setting Post (Process.pure value : Process Request Answer ε α) state :=
  hkept

theorem Safe.throw {error : ε} : Safe setting Post (Process.throw error : Process Request Answer ε α) state :=
  trivial

/-- One request is safe that keeps the invariant and establishes what the others keep. -/
theorem Safe.request {asked : Request} {Post : Answer asked → σ → Prop}
    (h : ∀ later, setting.Rely state later → setting.Invariant later → ∀ oracle,
      setting.Invariant (setting.perform oracle asked later).2 ∧
        ∀ last, setting.Rely (setting.perform oracle asked later).2 last → setting.Invariant last →
          Post (setting.perform oracle asked later).1 last) :
    Safe setting Post (Process.request asked : Process Request Answer ε (Answer asked)) state :=
  h

theorem Safe.ofExcept {value : Except ε α}
    (h : ∀ result, value = .ok result → ∀ later, setting.Rely state later → setting.Invariant later →
      Post result later) :
    Safe setting Post (Process.ofExcept value : Process Request Answer ε α) state := by
  cases value with
  | error error => exact trivial
  | ok result => exact h result rfl

theorem Safe.ite {condition : Prop} [Decidable condition] {other : Process Request Answer ε α}
    (hpos : condition → Safe setting Post program state) (hneg : ¬ condition → Safe setting Post other state) :
    Safe setting Post (if condition then program else other) state := by
  by_cases hcondition : condition
  · rw [if_pos hcondition]
    exact hpos hcondition
  · rw [if_neg hcondition]
    exact hneg hcondition

end Rules

/-! ### Running processes among others -/

/-- A world, and the process that runs in it with the task that it is for. -/
structure Hosted (Task : Type) (Request : Type) (Answer : Request → Type) (ε α σ : Type) where
  world : σ
  running : Option (Task × Process Request Answer ε α)

/-- Whose turn it is. -/
inductive Turn (Action Task ω : Type) where
  | act (action : Action)
  | start (task : Task)
  | proceed (oracle : ω)
  | stop

variable {Action Task : Type}

/-- One process runs at a time; it proceeds by one request, and is lost where it is stopped. -/
def host (setting : Setting Request Answer ω σ) (others : σ → Action → σ)
    (process : Task → Process Request Answer ε α) :
    Machine (Hosted Task Request Answer ε α σ) (Turn Action Task ω) (Option (Task × Except ε α)) where
  step hosted
    | .act action => ({ hosted with world := others hosted.world action }, none)
    | .start task =>
      match hosted.running with
      | none => ({ hosted with running := some (task, process task) }, none)
      | some _ => (hosted, none)
    | .proceed oracle =>
      match hosted.running with
      | none => (hosted, none)
      | some (task, .pure value) => ({ hosted with running := none }, some (task, .ok value))
      | some (task, .throw error) => ({ hosted with running := none }, some (task, .error error))
      | some (task, .ask request next) =>
        (⟨(setting.perform oracle request hosted.world).2,
          some (task, next (setting.perform oracle request hosted.world).1)⟩, none)
    | .stop => ({ hosted with running := none }, none)

section Host

variable (setting : Setting Request Answer ω σ) (Post : Task → α → σ → Prop)

/-- The invariant holds, and what runs is safe. -/
structure Hosted.Safe (hosted : Hosted Task Request Answer ε α σ) : Prop where
  invariant : setting.Invariant hosted.world
  running : ∀ task program, hosted.running = some (task, program) →
    Process.Safe setting (Post task) program hosted.world

variable {setting Post} {others : σ → Action → σ} {process : Task → Process Request Answer ε α}
  {hosted : Hosted Task Request Answer ε α σ}

/-- One turn keeps the invariant, and what is returned meets the postcondition of its task. -/
theorem Hosted.Safe.step (h : hosted.Safe setting Post)
    (hothers : ∀ world action, setting.Invariant world →
      setting.Invariant (others world action) ∧ setting.Rely world (others world action))
    (hprocess : ∀ task world, setting.Invariant world → Process.Safe setting (Post task) (process task) world)
    (turn : Turn Action Task ω) :
    ((host setting others process).step hosted turn).1.Safe setting Post ∧
      ∀ task value, ((host setting others process).step hosted turn).2 = some (task, .ok value) →
        Post task value hosted.world := by
  obtain ⟨world, running⟩ := hosted
  cases turn with
  | act action =>
    obtain ⟨hafter, hrely⟩ := hothers world action h.invariant
    refine ⟨⟨hafter, ?_⟩, ?_⟩
    · intro task program hrunning
      exact (h.running task program hrunning).rely hrely
    · intro task value hreturned
      cases hreturned
  | start task =>
    cases running with
    | none =>
      refine ⟨⟨h.invariant, ?_⟩, ?_⟩
      · intro other program hrunning
        cases hrunning
        exact hprocess task world h.invariant
      · intro other value hreturned
        cases hreturned
    | some current =>
      refine ⟨h, ?_⟩
      intro other value hreturned
      cases hreturned
  | stop =>
    refine ⟨⟨h.invariant, ?_⟩, ?_⟩
    · intro task program hrunning
      cases hrunning
    · intro task value hreturned
      cases hreturned
  | proceed oracle =>
    cases running with
    | none =>
      refine ⟨h, ?_⟩
      intro task value hreturned
      cases hreturned
    | some current =>
      obtain ⟨task, program⟩ := current
      have hsafe := h.running task program rfl
      cases program with
      | pure value =>
        refine ⟨⟨h.invariant, ?_⟩, ?_⟩
        · intro other program hrunning
          cases hrunning
        · intro other result hreturned
          cases hreturned
          exact hsafe world (setting.refl world) h.invariant
      | throw error =>
        refine ⟨⟨h.invariant, ?_⟩, ?_⟩
        · intro other program hrunning
          cases hrunning
        · intro other result hreturned
          cases hreturned
      | ask request next =>
        obtain ⟨hafter, hnext⟩ := hsafe world (setting.refl world) h.invariant oracle
        refine ⟨⟨hafter, ?_⟩, ?_⟩
        · intro other program hrunning
          cases hrunning
          exact hnext
        · intro other result hreturned
          cases hreturned

/-- Every run keeps the invariant. -/
theorem Hosted.Safe.exec (h : hosted.Safe setting Post)
    (hothers : ∀ world action, setting.Invariant world →
      setting.Invariant (others world action) ∧ setting.Rely world (others world action))
    (hprocess : ∀ task world, setting.Invariant world → Process.Safe setting (Post task) (process task) world)
    (turns : List (Turn Action Task ω)) : ((host setting others process).exec hosted turns).Safe setting Post :=
  (host setting others process).invariant_exec (fun _ turn hsafe ↦ (hsafe.step hothers hprocess turn).1) h turns

end Host

end Process

end VoiceHarness.Library
