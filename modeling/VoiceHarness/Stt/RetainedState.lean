import VoiceHarness.Library.Machine
import VoiceHarness.Stt.Metadata

/-!
# Updates of the state of a retained delivery

`_update_retained_state` loads the metadata, checks the state it loaded, writes a replacement beside the
file and replaces the file by it. Each connection has its own thread and no lock spans the four steps.
-/

set_option autoImplicit false
set_option relaxedAutoImplicit false

namespace VoiceHarness.Stt

open Library

/-- Where a call of `_update_retained_state` stands. -/
inductive UpdatePhase
  | called
  | loaded (delivery : Retained)
  | checked (metadata : Dict)
  | written (replacement : Dict)
  | replaced
  | returned
  | raised
  deriving DecidableEq, Repr

/-- A call `_update_retained_state(delivery_id, state)` of one connection. -/
structure UpdateCall where
  state : RetainedState
  phase : UpdatePhase
  deriving DecidableEq, Repr

/-- One delivery: its identifier, its `delivery.json` and the calls on it. -/
structure RetainedDelivery where
  deliveryId : String
  stored : MetadataText
  calls : List UpdateCall
  deriving DecidableEq, Repr

/-- What happens next: a connection makes a call, a call takes its next step, or the system call of that
step fails. -/
inductive UpdateEvent
  | call (state : RetainedState)
  | advance (index : ℕ)
  | fail (index : ℕ)
  deriving DecidableEq, Repr

namespace UpdateCall

/-- The call has returned to a connection that asked for `terminal`. -/
def IsAcknowledged (call : UpdateCall) : Prop := call.state = .terminal ∧ call.phase = .returned

instance (call : UpdateCall) : Decidable call.IsAcknowledged :=
  inferInstanceAs (Decidable (call.state = .terminal ∧ call.phase = .returned))

/-- The next step of the call replaces the file. -/
def isReplacing (call : UpdateCall) : Bool :=
  match call.phase with
  | .written _ => true
  | _ => false

/-- The next step of a call: its next phase, and the file if the step replaces it. -/
def advance (deliveryId : String) (stored : MetadataText) (call : UpdateCall) :
    UpdatePhase × MetadataText :=
  match call.phase with
  | .called =>
    match loadMetadata deliveryId stored with
    | .ok delivery => (.loaded delivery, stored)
    | .error _ => (.raised, stored)
  | .loaded delivery =>
    if delivery.state = .terminal then
      if call.state = .terminal then (.returned, stored) else (.raised, stored)
    else (.checked (delivery.metadata.set "state" (.str call.state.value)), stored)
  | .checked metadata => (.written metadata, stored)
  | .written replacement => (.replaced, .value (.obj replacement))
  | .replaced => (.returned, stored)
  | .returned => (.returned, stored)
  | .raised => (.raised, stored)

/-- A failing system call ends a call that has not returned. -/
def fail (call : UpdateCall) : UpdateCall :=
  if call.phase = .returned then call else { call with phase := .raised }

end UpdateCall

namespace RetainedDelivery

/-- The state that the file holds. -/
def state? (delivery : RetainedDelivery) : Option Json :=
  match delivery.stored with
  | .value content => content.asDict.get? "state"
  | .unreadable _ => none

/-- The file says that the delivery is final. -/
def IsTerminal (delivery : RetainedDelivery) : Prop :=
  delivery.state? = some (.str RetainedState.terminal.value)

instance (delivery : RetainedDelivery) : Decidable delivery.IsTerminal :=
  inferInstanceAs (Decidable (delivery.state? = some (.str RetainedState.terminal.value)))

/-- The call at `index` takes its next step. -/
def advanceCall (delivery : RetainedDelivery) (index : ℕ) (call : UpdateCall) : RetainedDelivery :=
  let next := call.advance delivery.deliveryId delivery.stored
  { delivery with
    stored := next.2
    calls := delivery.calls.set index { call with phase := next.1 } }

def step (delivery : RetainedDelivery) : UpdateEvent → RetainedDelivery
  | .call state => { delivery with calls := delivery.calls ++ [{ state, phase := .called }] }
  | .advance index =>
    match delivery.calls[index]? with
    | none => delivery
    | some call => delivery.advanceCall index call
  | .fail index =>
    match delivery.calls[index]? with
    | none => delivery
    | some call => { delivery with calls := delivery.calls.set index call.fail }

/-- Some connection was told that the delivery is final. -/
def Acknowledged (delivery : RetainedDelivery) : Prop :=
  ∃ call ∈ delivery.calls, call.IsAcknowledged

instance (delivery : RetainedDelivery) : Decidable delivery.Acknowledged :=
  inferInstanceAs (Decidable (∃ call ∈ delivery.calls, call.IsAcknowledged))

/-- The event is not the replacement of a terminal file by a call that asked for another state. -/
def StillReplaceable (delivery : RetainedDelivery) : UpdateEvent → Prop
  | .advance index => ∀ call ∈ delivery.calls[index]?,
      call.isReplacing = true → call.state ≠ .terminal → ¬ delivery.IsTerminal
  | _ => True

instance (delivery : RetainedDelivery) : ∀ event, Decidable (delivery.StillReplaceable event)
  | .advance index => inferInstanceAs (Decidable (∀ call ∈ delivery.calls[index]?,
      call.isReplacing = true → call.state ≠ .terminal → ¬ delivery.IsTerminal))
  | .call _ => isTrue trivial
  | .fail _ => isTrue trivial

end RetainedDelivery

/-- A delivery whose updates interleave. -/
def updateMachine : Machine RetainedDelivery UpdateEvent Unit where
  step delivery event := (delivery.step event, ())

/-! ### What a call knows -/

/-- What the phase of a call says about the file, where `final` says that the file is terminal. -/
def UpdateCall.Consistent (final : Prop) (call : UpdateCall) : Prop :=
  match call.phase with
  | .loaded delivery => delivery.state = .terminal → final
  | .checked metadata | .written metadata =>
    metadata.get? "state" = some (.str call.state.value)
  | .replaced | .returned => call.state = .terminal → final
  | .called | .raised => True

theorem UpdateCall.Consistent.imp {final later : Prop} {call : UpdateCall}
    (h : call.Consistent final) (hlater : final → later) : call.Consistent later := by
  unfold UpdateCall.Consistent at h ⊢
  cases hphase : call.phase <;> simp only [hphase] at h ⊢ <;> try exact h
  all_goals exact fun hstate ↦ hlater (h hstate)

namespace RetainedDelivery

/-- No call is ahead of the file. -/
def Consistent (delivery : RetainedDelivery) : Prop :=
  ∀ call ∈ delivery.calls, call.Consistent delivery.IsTerminal

variable {delivery : RetainedDelivery}

/-- A load of the terminal state was made while the file was terminal. -/
theorem isTerminal_of_loadMetadata {loaded : Retained}
    (hload : loadMetadata delivery.deliveryId delivery.stored = .ok loaded)
    (hstate : loaded.state = .terminal) : delivery.IsTerminal := by
  obtain ⟨hstored, hchecked⟩ := loadMetadata_eq_ok_iff.mp hload
  have hread := retainedState_eq_ok_iff.mp (checkMetadata_eq_ok_iff.mp hchecked).2.2.2.1
  rw [hstate] at hread
  unfold IsTerminal state?
  rw [hstored]
  exact hread

/-- A file that a call has written has the state that the call asked for. -/
theorem isTerminal_replaced {replacement : Dict} {state : RetainedState}
    (hstate : replacement.get? "state" = some (.str state.value)) :
    { delivery with stored := .value (.obj replacement) }.IsTerminal ↔ state = .terminal := by
  unfold IsTerminal state?
  change replacement.get? "state" = _ ↔ _
  rw [hstate]
  constructor
  · intro h
    exact RetainedState.value_injective (Json.str.inj (Option.some.inj h))
  · rintro rfl
    rfl

/-- The next step of a call keeps what the call knows. -/
theorem consistent_advance {call : UpdateCall} (hcall : call.Consistent delivery.IsTerminal) :
    ({ call with phase := (call.advance delivery.deliveryId delivery.stored).1 } :
        UpdateCall).Consistent
      { delivery with stored := (call.advance delivery.deliveryId delivery.stored).2 }.IsTerminal := by
  obtain ⟨state, phase⟩ := call
  cases phase with
  | called =>
    cases hload : loadMetadata delivery.deliveryId delivery.stored with
    | error error => simp only [UpdateCall.advance, hload, UpdateCall.Consistent]
    | ok loaded =>
      simp only [UpdateCall.advance, hload, UpdateCall.Consistent]
      exact isTerminal_of_loadMetadata hload
  | loaded loaded =>
    by_cases hterminal : loaded.state = .terminal
    · by_cases hstate : state = .terminal
      · simp only [UpdateCall.advance, if_pos hterminal, if_pos hstate, UpdateCall.Consistent]
        exact fun _ ↦ hcall hterminal
      · simp only [UpdateCall.advance, if_pos hterminal, if_neg hstate, UpdateCall.Consistent]
    · simp only [UpdateCall.advance, if_neg hterminal, UpdateCall.Consistent]
      exact Dict.get?_set_self _ _ _
  | checked metadata => exact hcall
  | written replacement =>
    change state = .terminal → _
    exact (isTerminal_replaced hcall).mpr
  | replaced => exact hcall
  | returned => exact hcall
  | raised => trivial

/-- What an event does to the file and to the calls. -/
theorem step_cases (delivery : RetainedDelivery) (event : UpdateEvent) :
    (∃ state, delivery.step event =
      { delivery with calls := delivery.calls ++ [{ state, phase := .called }] }) ∨
    delivery.step event = delivery ∨
    (∃ index call, delivery.calls[index]? = some call ∧ delivery.step event =
      { delivery with calls := delivery.calls.set index call.fail }) ∨
    ∃ index call, event = .advance index ∧ delivery.calls[index]? = some call ∧
      delivery.step event = delivery.advanceCall index call := by
  cases event with
  | call state => exact .inl ⟨state, rfl⟩
  | advance index =>
    cases hcall : delivery.calls[index]? with
    | none => exact .inr (.inl (by simp only [step, hcall]))
    | some call =>
      exact .inr (.inr (.inr ⟨index, call, rfl, hcall, by simp only [step, hcall]⟩))
  | fail index =>
    cases hcall : delivery.calls[index]? with
    | none => exact .inr (.inl (by simp only [step, hcall]))
    | some call =>
      exact .inr (.inr (.inl ⟨index, call, hcall, by simp only [step, hcall]⟩))

/-- The next step of a call leaves the file alone unless the call has written its replacement. -/
theorem advance_stored {call : UpdateCall} {stored : MetadataText} {deliveryId : String}
    (hphase : ∀ replacement, call.phase ≠ .written replacement) :
    (call.advance deliveryId stored).2 = stored := by
  unfold UpdateCall.advance
  split
  · split <;> rfl
  · split_ifs <;> rfl
  · rfl
  · rename_i replacement hwritten
    exact absurd hwritten (hphase replacement)
  · rfl
  · rfl
  · rfl

/-- A step that meets the guard leaves a terminal file terminal. -/
theorem isTerminal_step {event : UpdateEvent} (hguard : delivery.StillReplaceable event)
    (hconsistent : delivery.Consistent) (hterminal : delivery.IsTerminal) :
    (delivery.step event).IsTerminal := by
  obtain ⟨state, hnext⟩ | hnext | ⟨index, call, -, hnext⟩ | ⟨index, call, rfl, hcall, hnext⟩ :=
    delivery.step_cases event
  · rw [hnext]
    exact hterminal
  · rw [hnext]
    exact hterminal
  · rw [hnext]
    exact hterminal
  · rw [hnext]
    by_cases hreplaces : ∃ replacement, call.phase = .written replacement
    · obtain ⟨replacement, hphase⟩ := hreplaces
      have hknown := hconsistent call (List.mem_of_getElem? hcall)
      unfold UpdateCall.Consistent at hknown
      rw [hphase] at hknown
      have hstate : call.state = .terminal := by
        by_contra hother
        have hreplacing : call.isReplacing = true := by
          unfold UpdateCall.isReplacing
          rw [hphase]
        exact hguard call hcall hreplacing hother hterminal
      have hstored : (call.advance delivery.deliveryId delivery.stored).2 =
          .value (.obj replacement) := by
        unfold UpdateCall.advance
        rw [hphase]
      have hwritten : { delivery with stored := .value (.obj replacement) }.IsTerminal :=
        (isTerminal_replaced hknown).mpr hstate
      simp only [advanceCall, hstored]
      exact hwritten
    · have hstored : (call.advance delivery.deliveryId delivery.stored).2 = delivery.stored :=
        advance_stored fun replacement hphase ↦ hreplaces ⟨replacement, hphase⟩
      simp only [advanceCall, hstored]
      exact hterminal

/-- A step that meets the guard keeps what every call knows. -/
theorem consistent_step {event : UpdateEvent} (hguard : delivery.StillReplaceable event)
    (hconsistent : delivery.Consistent) : (delivery.step event).Consistent := by
  have hkept : ∀ call ∈ delivery.calls, call.Consistent (delivery.step event).IsTerminal :=
    fun call hcall ↦ (hconsistent call hcall).imp (isTerminal_step hguard hconsistent)
  obtain ⟨state, hnext⟩ | hnext | ⟨index, failing, hfound, hnext⟩ |
    ⟨index, advancing, -, hfound, hnext⟩ := delivery.step_cases event
  · rw [hnext] at hkept ⊢
    intro call hcall
    rcases List.mem_append.mp hcall with hold | hnew
    · exact hkept call hold
    · rw [List.mem_singleton.mp hnew]
      trivial
  · rw [hnext]
    exact hconsistent
  · rw [hnext] at hkept ⊢
    intro call hcall
    rcases List.mem_or_eq_of_mem_set hcall with hold | rfl
    · exact hkept call hold
    · unfold UpdateCall.fail
      split_ifs with hreturned
      · exact hkept failing (List.mem_of_getElem? hfound)
      · trivial
  · rw [hnext] at hkept ⊢
    intro call hcall
    rcases List.mem_or_eq_of_mem_set hcall with hold | rfl
    · exact hkept call hold
    · exact consistent_advance (hconsistent advancing (List.mem_of_getElem? hfound))

/-- A delivery on which no call has been made yet. -/
def fresh (deliveryId : String) (stored : MetadataText) : RetainedDelivery :=
  { deliveryId, stored, calls := [] }

/-- A delivery that the client may still replay. -/
def pendingDelivery : RetainedDelivery :=
  fresh "0123456789abcdef0123456789abcdef" (.value (.obj [
    ("version", .int 2), ("delivery_id", .str "0123456789abcdef0123456789abcdef"),
    ("text", .str "hello"), ("woke", .bool true), ("state", .str "pending"),
    ("created_at", .float 1)]))

end RetainedDelivery

end VoiceHarness.Stt
