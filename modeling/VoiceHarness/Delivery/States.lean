import VoiceHarness.Job.Evolve

/-!
# Deliveries

The typed half of `lifecycle.py`: an announcement is acknowledged, dismissed and repeated, and its
delivery is claimed under a token and a lease, renewed, acknowledged, released and prepared anew.
-/

set_option autoImplicit false
set_option relaxedAutoImplicit false

namespace VoiceHarness

/-! ### Announcements -/

namespace AnnouncementState

/-- The acknowledgements `acknowledge_announcement` allows after another one. -/
def allowed : AnnouncementAck → List AnnouncementAck
  | .pending => [.spoken, .desktop, .deferred, .dismissed]
  | .desktop => [.spoken, .dismissed]
  | .deferred => [.spoken, .desktop, .dismissed]
  | .spoken | .dismissed => []

/-- `acknowledge_announcement`. -/
def acknowledge (state : AnnouncementState) (acknowledgement : AnnouncementAck) :
    Checked AnnouncementState :=
  if acknowledgement = .pending then .error "announcement acknowledgement did not advance"
  else if acknowledgement ∉ allowed state.acknowledgement then
    .error "announcement acknowledgement is already final"
  else .ok { state with acknowledgement }

theorem acknowledge_ok {state next : AnnouncementState} {acknowledgement : AnnouncementAck}
    (h : state.acknowledge acknowledgement = .ok next) :
    acknowledgement ∈ allowed state.acknowledgement ∧ next = { state with acknowledgement } := by
  unfold acknowledge at h
  split_ifs at h with hpending hallowed
  cases h
  exact ⟨hallowed, rfl⟩

/-- `dismiss_announcement`. -/
def dismiss (state : AnnouncementState) : Checked AnnouncementState :=
  if state.acknowledgement = .dismissed then .error "announcement is already dismissed"
  else .ok { acknowledgement := .dismissed, repeated := state.repeated }

/-- `repeat_announcement`. -/
def repeatAnnouncement : AnnouncementState := { acknowledgement := .pending, repeated := true }

end AnnouncementState

/-! ### Deliveries -/

namespace DeliveryState

def isDelivered : DeliveryState → Bool
  | delivered .. => true
  | pending .. | claimed .. => false

/-- The token of the claim, where there is one. -/
def token? : DeliveryState → Option String
  | claimed _ token .. => some token
  | pending .. | delivered .. => none

def attempts : DeliveryState → ℤ
  | pending _ _ attempts _ | claimed _ _ _ _ attempts _ | delivered _ _ attempts _ => attempts

/-- `claim_delivery`. -/
def claim (state : DeliveryState) (token : String) (claimedAt leaseSeconds : Time) :
    Checked DeliveryState :=
  match state with
  | delivered .. => .error "delivered state cannot be claimed"
  | claimed generation _ previousAt retryAt attempts announcement =>
    if claimedAt - previousAt < leaseSeconds then .error "delivery claim is still live"
    else if claimedAt < retryAt then .error "delivery retry is not due"
    else .ok (claimed generation token claimedAt retryAt (attempts + 1) announcement)
  | pending generation retryAt attempts announcement =>
    if claimedAt < retryAt then .error "delivery retry is not due"
    else .ok (claimed generation token claimedAt retryAt (attempts + 1) announcement)

/-- `renew_delivery`. -/
def renew (state : DeliveryState) (token : String) (renewedAt leaseSeconds : Time) :
    Checked DeliveryState :=
  match state with
  | claimed generation held claimedAt retryAt attempts announcement =>
    if held ≠ token ∨ leaseSeconds ≤ renewedAt - claimedAt then
      .error "delivery renewal is stale or illegal"
    else .ok (claimed generation held renewedAt retryAt attempts announcement)
  | pending .. | delivered .. => .error "delivery renewal is stale or illegal"

/-- `acknowledge_delivery`, under a lease. -/
def acknowledge (state : DeliveryState) (token : String) (deliveredAt : Time)
    (acknowledgement : AnnouncementAck) (leaseSeconds : Time) : Checked DeliveryState :=
  match state with
  | claimed generation held claimedAt _ attempts announcement =>
    if held ≠ token then .error "delivery acknowledgement is stale or illegal"
    else if leaseSeconds ≤ deliveredAt - claimedAt then
      .error "delivery acknowledgement claim expired"
    else do
      let announcement ← announcement.acknowledge acknowledgement
      if acknowledgement = .spoken ∨ acknowledgement = .dismissed then
        .ok (delivered generation (some deliveredAt) attempts announcement)
      else .ok (pending generation 0 attempts announcement)
  | pending .. | delivered .. => .error "delivery acknowledgement is stale or illegal"

/-- `acknowledge_without_claim`. -/
def acknowledgeWithoutClaim (state : DeliveryState) (deliveredAt : Option Time)
    (acknowledgement : AnnouncementAck := .spoken) : Checked DeliveryState :=
  match state with
  | delivered _ _ _ announcement =>
    if announcement.acknowledgement = acknowledgement then .ok state
    else .error "delivered acknowledgement cannot change"
  | pending generation _ attempts announcement
  | claimed generation _ _ _ attempts announcement => do
    let announcement ← ({ announcement with acknowledgement := .pending } :
      AnnouncementState).acknowledge acknowledgement
    .ok (delivered generation deliveredAt attempts announcement)

/-- `release_delivery`. -/
def release (state : DeliveryState) (token : String) (retryAt : Time) : Checked DeliveryState :=
  match state with
  | claimed generation held _ _ attempts announcement =>
    if held ≠ token then .error "delivery release is stale or illegal"
    else .ok (pending generation retryAt attempts announcement)
  | pending .. | delivered .. => .error "delivery release is stale or illegal"

/-- The state `AgentJob.dismiss_announcement` builds. -/
def dismiss (state : DeliveryState) (deliveredAt : Time) : Checked DeliveryState := do
  .ok (delivered state.generation (some deliveredAt) state.attempts (← state.announcement.dismiss))

/-- The state `AgentJob.repeat_announcement` builds. -/
def repeatAnnouncement (state : DeliveryState) : DeliveryState :=
  match prepareDelivery state with
  | pending generation retryAt attempts _ =>
    pending generation retryAt attempts AnnouncementState.repeatAnnouncement
  | other => other

/-! ### What a transition did -/

/-- When the delivery may be claimed again. -/
def retryAt : DeliveryState → Time
  | pending _ retryAt .. | claimed _ _ _ retryAt .. => retryAt
  | delivered .. => 0

/-- When the claim was made or renewed, where there is one. -/
def claimedAt? : DeliveryState → Option Time
  | claimed _ _ claimedAt .. => some claimedAt
  | pending .. | delivered .. => none

variable {state result : DeliveryState} {token : String} {now leaseSeconds : Time}

theorem isDelivered_of_token (h : state.token? = some token) : state.isDelivered = false := by
  cases state <;> first | rfl | cases h

theorem claim_ok (h : state.claim token now leaseSeconds = .ok result) :
    state.isDelivered = false ∧ result =
      claimed state.generation token now state.retryAt (state.attempts + 1) state.announcement := by
  cases state with
  | pending generation retryAt attempts announcement =>
    simp only [claim] at h
    split_ifs at h
    cases h
    exact ⟨rfl, rfl⟩
  | claimed generation held claimedAt retryAt attempts announcement =>
    simp only [claim] at h
    split_ifs at h
    cases h
    exact ⟨rfl, rfl⟩
  | delivered => cases h

theorem claim_eq (hopen : state.isDelivered = false)
    (hlease : ∀ claimedAt ∈ state.claimedAt?, ¬ now - claimedAt < leaseSeconds)
    (hretry : state.retryAt ≤ now) :
    state.claim token now leaseSeconds = .ok
      (claimed state.generation token now state.retryAt (state.attempts + 1) state.announcement) := by
  cases state with
  | pending generation retryAt attempts announcement => exact if_neg (Rat.not_lt.mpr hretry)
  | claimed generation held claimedAt retryAt attempts announcement =>
    simp only [claim, if_neg (hlease claimedAt rfl)]
    exact if_neg (Rat.not_lt.mpr hretry)
  | delivered => cases hopen

theorem renew_ok (h : state.renew token now leaseSeconds = .ok result) :
    state.token? = some token ∧ result =
      claimed state.generation token now state.retryAt state.attempts state.announcement := by
  cases state with
  | claimed generation held claimedAt retryAt attempts announcement =>
    simp only [renew] at h
    split_ifs at h with hstale
    rw [not_or, not_not] at hstale
    obtain ⟨rfl, -⟩ := hstale
    cases h
    exact ⟨rfl, rfl⟩
  | pending | delivered => cases h

theorem acknowledge_ok {acknowledgement : AnnouncementAck}
    (h : state.acknowledge token now acknowledgement leaseSeconds = .ok result) :
    state.token? = some token ∧
      acknowledgement ∈ AnnouncementState.allowed state.announcement.acknowledgement ∧
      result =
        if acknowledgement = .spoken ∨ acknowledgement = .dismissed then
          delivered state.generation (some now) state.attempts
            { state.announcement with acknowledgement }
        else pending state.generation 0 state.attempts
          { state.announcement with acknowledgement } := by
  cases state with
  | claimed generation held claimedAt retryAt attempts announcement =>
    simp only [acknowledge] at h
    split_ifs at h with hheld hexpired hfinal
    · obtain ⟨next, hnext, h⟩ := checked_bind_eq_ok_iff.mp h
      obtain ⟨hallowed, rfl⟩ := AnnouncementState.acknowledge_ok hnext
      cases h
      exact ⟨congrArg some (not_not.mp hheld), hallowed, (if_pos hfinal).symm⟩
    · obtain ⟨next, hnext, h⟩ := checked_bind_eq_ok_iff.mp h
      obtain ⟨hallowed, rfl⟩ := AnnouncementState.acknowledge_ok hnext
      cases h
      exact ⟨congrArg some (not_not.mp hheld), hallowed, (if_neg hfinal).symm⟩
  | pending | delivered => cases h

theorem release_ok {retryAt : Time} (h : state.release token retryAt = .ok result) :
    state.token? = some token ∧
      result = pending state.generation retryAt state.attempts state.announcement := by
  cases state with
  | claimed generation held claimedAt previous attempts announcement =>
    simp only [release] at h
    split_ifs at h with hheld
    cases h
    exact ⟨congrArg some (not_not.mp hheld), rfl⟩
  | pending | delivered => cases h

theorem acknowledgeWithoutClaim_ok {deliveredAt : Option Time}
    (h : state.acknowledgeWithoutClaim deliveredAt = .ok result) :
    (state.isDelivered = true ∧ state.announcement.acknowledgement = .spoken ∧ result = state) ∨
      (state.isDelivered = false ∧ result = delivered state.generation deliveredAt state.attempts
        { state.announcement with acknowledgement := .spoken }) := by
  cases state with
  | delivered generation previous attempts announcement =>
    simp only [acknowledgeWithoutClaim] at h
    split_ifs at h with hsame
    cases h
    exact .inl ⟨rfl, hsame, rfl⟩
  | pending | claimed =>
    cases h
    exact .inr ⟨rfl, rfl⟩

theorem dismiss_ok (h : state.dismiss now = .ok result) :
    state.announcement.acknowledgement ≠ .dismissed ∧
      result = delivered state.generation (some now) state.attempts
        { acknowledgement := .dismissed, repeated := state.announcement.repeated } := by
  obtain ⟨next, hnext, h⟩ := checked_bind_eq_ok_iff.mp h
  unfold AnnouncementState.dismiss at hnext
  split_ifs at hnext with hdismissed
  cases hnext
  cases h
  exact ⟨hdismissed, rfl⟩

end DeliveryState

end VoiceHarness
