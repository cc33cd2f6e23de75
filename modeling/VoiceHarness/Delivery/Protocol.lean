import VoiceHarness.Library.Machine
import VoiceHarness.Delivery.Progress

/-!
# The delivery protocol

Any number of clients update one stored job; a run is any list of their commands. The claim of a
generation is the only way to its acknowledgement, and a generation moves on only by the preparation
or the repetition of an announcement (`DeliveryCommand.transition_generation`).
-/

set_option autoImplicit false
set_option relaxedAutoImplicit false

namespace VoiceHarness

open Library

namespace DeliveryCommand

/-- The token a claim draws. -/
def claimToken? : DeliveryCommand → Option String
  | claim token .. => some token
  | _ => none

/-- The token an acknowledgement or a renewal is made under. -/
def holderToken? : DeliveryCommand → Option String
  | renew token _ | acknowledge token _ | acknowledgeDesktop token _
  | acknowledgeDeferred token _ => some token
  | _ => none

/-- The commands that make a job announceable again. -/
def rearms : DeliveryCommand → Bool
  | prepare .. | prepareRecovery .. | repeatAnnouncement .. => true
  | _ => false

def dismisses : DeliveryCommand → Bool
  | dismiss .. => true
  | _ => false

variable {command : DeliveryCommand} {state next : DeliveryState}

/-- A transition keeps the generation, and a final acknowledgement of it, unless the command prepares
or repeats the announcement; then the generation is the next one. -/
theorem transition_generation (h : command.transition state = .ok next) :
    (command.rearms = false ∧ next.generation = state.generation ∧
      (state.isDelivered = true → next.isDelivered = true)) ∨
    (command.rearms = true ∧ next.generation = state.generation + 1 ∧ next.isDelivered = false) := by
  have hopen : ∀ {token : String}, state.token? = some token → state.isDelivered = false :=
    DeliveryState.isDelivered_of_token
  have hack : ∀ {token : String} {now : Time} {acknowledgement : AnnouncementAck},
      state.acknowledge token now acknowledgement deliveryClaimSeconds = .ok next →
      next.generation = state.generation ∧ (state.isDelivered = true → next.isDelivered = true) := by
    intro token now acknowledgement h
    obtain ⟨htoken, -, rfl⟩ := DeliveryState.acknowledge_ok h
    exact ⟨by split_ifs <;> rfl, fun hdone ↦ absurd hdone (by simp [hopen htoken])⟩
  cases command with
  | claim token now foreground eligible =>
    obtain ⟨hstate, rfl⟩ := DeliveryState.claim_ok h
    exact .inl ⟨rfl, rfl, fun hdone ↦ absurd hdone (by simp [hstate])⟩
  | renew token now =>
    obtain ⟨htoken, rfl⟩ := DeliveryState.renew_ok h
    exact .inl ⟨rfl, rfl, fun hdone ↦ absurd hdone (by simp [hopen htoken])⟩
  | acknowledge | acknowledgeDesktop | acknowledgeDeferred => exact .inl ⟨rfl, hack h⟩
  | release token now retry =>
    obtain ⟨htoken, rfl⟩ := DeliveryState.release_ok h
    exact .inl ⟨rfl, rfl, fun hdone ↦ absurd hdone (by simp [hopen htoken])⟩
  | markDelivered deliveredAt status changes =>
    rcases DeliveryState.acknowledgeWithoutClaim_ok h with ⟨hdone, -, rfl⟩ | ⟨-, rfl⟩
    · exact .inl ⟨rfl, rfl, id⟩
    · exact .inl ⟨rfl, rfl, fun _ ↦ rfl⟩
  | prepare | prepareRecovery =>
    cases h
    exact .inr ⟨rfl, rfl, rfl⟩
  | dismiss now =>
    obtain ⟨-, rfl⟩ := DeliveryState.dismiss_ok h
    exact .inl ⟨rfl, rfl, fun _ ↦ rfl⟩
  | repeatAnnouncement now =>
    cases h
    exact .inr ⟨rfl, rfl, rfl⟩

/-- A claim stands after a transition only where the command drew its token or it stood before. -/
theorem transition_token {token : String} (h : command.transition state = .ok next)
    (htoken : next.token? = some token) :
    command.claimToken? = some token ∨
      (state.token? = some token ∧ next.generation = state.generation) := by
  have hack : ∀ {held : String} {now : Time} {acknowledgement : AnnouncementAck},
      state.acknowledge held now acknowledgement deliveryClaimSeconds = .ok next → False := by
    intro held now acknowledgement h
    obtain ⟨-, -, rfl⟩ := DeliveryState.acknowledge_ok h
    split_ifs at htoken <;> cases htoken
  cases command with
  | claim drawn now foreground eligible =>
    obtain ⟨-, rfl⟩ := DeliveryState.claim_ok h
    exact .inl htoken
  | renew held now =>
    obtain ⟨hheld, rfl⟩ := DeliveryState.renew_ok h
    exact .inr ⟨hheld.trans htoken, rfl⟩
  | acknowledge | acknowledgeDesktop | acknowledgeDeferred => exact (hack h).elim
  | release held now retry =>
    obtain ⟨-, rfl⟩ := DeliveryState.release_ok h
    cases htoken
  | markDelivered deliveredAt status changes =>
    rcases DeliveryState.acknowledgeWithoutClaim_ok h with ⟨-, -, rfl⟩ | ⟨-, rfl⟩
    · exact .inr ⟨htoken, rfl⟩
    · cases htoken
  | prepare | prepareRecovery | repeatAnnouncement =>
    cases h
    cases htoken
  | dismiss now =>
    obtain ⟨-, rfl⟩ := DeliveryState.dismiss_ok h
    cases htoken

/-- An acknowledgement and a renewal are made under the token of the claim. -/
theorem transition_holder {token : String} (h : command.transition state = .ok next)
    (htoken : command.holderToken? = some token) : state.token? = some token := by
  cases command with
  | renew held now =>
    cases htoken
    exact (DeliveryState.renew_ok h).1
  | acknowledge | acknowledgeDesktop | acknowledgeDeferred =>
    cases htoken
    exact (DeliveryState.acknowledge_ok h).1
  | _ => cases htoken

end DeliveryCommand

/-- A final acknowledgement: the delivery is over after the step, and before it the delivery was open
or otherwise acknowledged. -/
def DeliveryState.Finalises (state next : DeliveryState) : Prop :=
  next.isDelivered = true ∧ (state.isDelivered = false ∨
    state.announcement.acknowledgement ≠ next.announcement.acknowledgement)

namespace DeliveryCommand

variable {command : DeliveryCommand} {state next : DeliveryState}

/-- A delivery that is over is acknowledged again only by the dismissal of what was spoken. -/
theorem transition_finalises (h : command.transition state = .ok next)
    (hfinal : state.Finalises next) (hdone : state.isDelivered = true) :
    command.dismisses = true ∧ state.announcement.acknowledgement ≠ .dismissed ∧
      next.announcement.acknowledgement = .dismissed := by
  have hopen : ∀ {token : String}, state.token? = some token → False := by
    intro token htoken
    rw [DeliveryState.isDelivered_of_token htoken] at hdone
    cases hdone
  obtain ⟨hover, hagain⟩ := hfinal
  cases command with
  | claim token now foreground eligible =>
    obtain ⟨-, rfl⟩ := DeliveryState.claim_ok h
    cases hover
  | renew token now => exact (hopen (DeliveryState.renew_ok h).1).elim
  | acknowledge | acknowledgeDesktop | acknowledgeDeferred =>
    exact (hopen (DeliveryState.acknowledge_ok h).1).elim
  | release token now retry => exact (hopen (DeliveryState.release_ok h).1).elim
  | markDelivered deliveredAt status changes =>
    rcases DeliveryState.acknowledgeWithoutClaim_ok h with ⟨-, -, rfl⟩ | ⟨hstate, -⟩
    · rcases hagain with hstate | hne
      · rw [hdone] at hstate
        cases hstate
      · exact absurd rfl hne
    · rw [hdone] at hstate
      cases hstate
  | prepare | prepareRecovery | repeatAnnouncement =>
    cases h
    cases hover
  | dismiss now =>
    obtain ⟨hdismissed, rfl⟩ := DeliveryState.dismiss_ok h
    exact ⟨rfl, hdismissed, rfl⟩

/-- A claim is of the generation that stands. -/
theorem claimed_generation {token : String} (h : command.transition state = .ok next)
    (htoken : command.claimToken? = some token) : next.generation = state.generation := by
  rcases transition_generation h with ⟨-, hsame, -⟩ | ⟨hrearms, -, -⟩
  · exact hsame
  · have hneither : command.rearms = true → command.claimToken? = none := by
      cases command <;> simp [rearms, claimToken?]
    rw [hneither hrearms] at htoken
    cases htoken

end DeliveryCommand

/-! ### Runs -/

section

variable [TextLibrary]

/-- The stored job under the commands of the clients; the answer says whether the command stored
a job. -/
def deliveryMachine : Machine AgentJob DeliveryCommand Bool where
  step job command :=
    match command.apply job with
    | some next => (next, true)
    | none => (job, false)

variable {job : AgentJob} {command : DeliveryCommand} {token : String} {now : Time}
  {foreground : Bool}

theorem deliveryMachine_step_cases (job : AgentJob) (command : DeliveryCommand) :
    (command.apply job = none ∧ (deliveryMachine.step job command).1 = job) ∨
      ∃ next, command.apply job = some next ∧ (deliveryMachine.step job command).1 = next ∧
        command.transition job.delivery = .ok next.delivery := by
  rcases happly : command.apply job with _ | next
  · refine .inl ⟨rfl, ?_⟩
    simp only [deliveryMachine, happly]
  · refine .inr ⟨next, rfl, ?_, command.transition_of_apply happly⟩
    simp only [deliveryMachine, happly]

/-- What is over at a generation: it moved on, or it is delivered still, and dismissed still where
it was dismissed. -/
def DeliveryState.Over (generation : ℤ) (dismissed : Bool) (state : DeliveryState) : Prop :=
  generation < state.generation ∨ (state.generation = generation ∧ state.isDelivered = true ∧
    (dismissed = true → state.announcement.acknowledgement = .dismissed))

theorem over_step {generation : ℤ} {dismissed : Bool}
    (h : job.delivery.Over generation dismissed) :
    (deliveryMachine.step job command).1.delivery.Over generation dismissed := by
  rcases deliveryMachine_step_cases job command with ⟨-, hsame⟩ | ⟨next, -, hnext, htransition⟩
  · rwa [hsame]
  · rw [hnext]
    rcases DeliveryCommand.transition_generation htransition with
      ⟨-, hgeneration, hkept⟩ | ⟨-, hgeneration, -⟩
    · rcases h with hlater | ⟨hsame, hdone, hdismissed⟩
      · exact .inl (hgeneration ▸ hlater)
      · refine .inr ⟨hgeneration.trans hsame, hkept hdone, fun hd ↦ ?_⟩
        by_contra hne
        have hfinal : job.delivery.Finalises next.delivery :=
          ⟨hkept hdone, .inr fun heq ↦ hne (heq.symm.trans (hdismissed hd))⟩
        exact (DeliveryCommand.transition_finalises htransition hfinal hdone).2.1 (hdismissed hd)
    · refine .inl ?_
      rcases h with hlater | ⟨hsame, -, -⟩ <;> omega

theorem over_exec {generation : ℤ} {dismissed : Bool}
    (h : job.delivery.Over generation dismissed) (commands : List DeliveryCommand) :
    (deliveryMachine.exec job commands).delivery.Over generation dismissed :=
  deliveryMachine.invariant_exec
    (P := fun job : AgentJob ↦ job.delivery.Over generation dismissed) (fun _ _ h ↦ over_step h) h
    commands

/-- A generation that is over moves on only by a command that prepares or repeats. -/
theorem exists_rearms_of_lt {commands : List DeliveryCommand}
    (h : job.delivery.generation < (deliveryMachine.exec job commands).delivery.generation) :
    ∃ before rearming after, commands = before ++ rearming :: after ∧
      rearming.rearms = true ∧
      (rearming.apply (deliveryMachine.exec job before)).isSome = true := by
  induction commands generalizing job with
  | nil => exact absurd h (Int.lt_irrefl _)
  | cons command commands ih =>
    rw [Machine.exec_cons] at h
    rcases deliveryMachine_step_cases job command with ⟨-, hsame⟩ | ⟨next, happly, hnext, htransition⟩
    · rw [hsame] at h
      obtain ⟨before, rearming, after, rfl, hrearms, happly⟩ := ih h
      refine ⟨command :: before, rearming, after, rfl, hrearms, ?_⟩
      rw [Machine.exec_cons, hsame]
      exact happly
    · rcases DeliveryCommand.transition_generation htransition with
        ⟨-, hgeneration, -⟩ | ⟨hrearms, -, -⟩
      · rw [hnext] at h
        obtain ⟨before, rearming, after, rfl, hrearms, hlater⟩ := ih (hgeneration ▸ h)
        refine ⟨command :: before, rearming, after, rfl, hrearms, ?_⟩
        rw [Machine.exec_cons, hnext]
        exact hlater
      · exact ⟨[], command, commands, rfl, hrearms, by rw [Machine.exec_nil, happly]; rfl⟩

/-- A claim of a token stands for one generation until the token is drawn again. -/
theorem generation_of_token {generation : ℤ} {commands : List DeliveryCommand}
    (h : job.delivery.token? = some token → job.delivery.generation = generation)
    (hfresh : ∀ command ∈ commands, command.claimToken? ≠ some token)
    (htoken : (deliveryMachine.exec job commands).delivery.token? = some token) :
    (deliveryMachine.exec job commands).delivery.generation = generation := by
  induction commands generalizing job with
  | nil => exact h htoken
  | cons command commands ih =>
    rw [List.forall_mem_cons] at hfresh
    rw [Machine.exec_cons] at htoken ⊢
    refine ih ?_ hfresh.2 htoken
    intro hstep
    rcases deliveryMachine_step_cases job command with ⟨-, hsame⟩ | ⟨next, -, hnext, htransition⟩
    · rw [hsame] at hstep ⊢
      exact h hstep
    · rw [hnext] at hstep ⊢
      rcases DeliveryCommand.transition_token htransition hstep with hdrawn | ⟨hheld, hgeneration⟩
      · exact absurd hdrawn hfresh.1
      · exact hgeneration.trans (h hheld)

/-- A claim that stands at the end of a run was made in it, for the generation that stands, or stood
at its start. -/
theorem claimed_of_token {commands : List DeliveryCommand}
    (htoken : (deliveryMachine.exec job commands).delivery.token? = some token) :
    (job.delivery.token? = some token ∧
      (deliveryMachine.exec job commands).delivery.generation = job.delivery.generation) ∨
    ∃ before claiming after, commands = before ++ claiming :: after ∧
      claiming.claimToken? = some token ∧
      (claiming.apply (deliveryMachine.exec job before)).isSome = true ∧
      (deliveryMachine.exec job commands).delivery.generation =
        (deliveryMachine.exec job before).delivery.generation := by
  induction commands generalizing job with
  | nil => exact .inl ⟨htoken, rfl⟩
  | cons command commands ih =>
    rw [Machine.exec_cons] at htoken ⊢
    rcases ih htoken with ⟨hstood, hsame⟩ | ⟨before, claiming, after, rfl, hclaims, happly, hsame⟩
    · rcases deliveryMachine_step_cases job command with ⟨-, hkept⟩ | ⟨next, happly, hnext, htransition⟩
      · rw [hkept] at hstood hsame ⊢
        exact .inl ⟨hstood, hsame⟩
      · rw [hnext] at hstood hsame ⊢
        rcases DeliveryCommand.transition_token htransition hstood with hdrawn | ⟨hheld, hgeneration⟩
        · refine .inr ⟨[], command, commands, rfl, hdrawn, ?_, ?_⟩
          · rw [Machine.exec_nil, happly]
            rfl
          · rw [hsame]
            exact DeliveryCommand.claimed_generation htransition hdrawn
        · exact .inl ⟨hheld, hsame.trans hgeneration⟩
    · exact .inr ⟨command :: before, claiming, after, rfl, hclaims, happly, hsame⟩

/-! ### The protocol -/

/-- The announcement of a job is due to a client: the job waits for its user or is over, nobody holds
a live claim, and neither a retry nor the foreground turn is to be waited for. -/
structure AgentJob.Due (job : AgentJob) (now : Time) (foreground : Bool) : Prop where
  status : job.values.status.isDeliverable = true
  lease : job.claimIsLive now = false
  retry : (job.values.float .deliveryRetryAt).getD 0 ≤ now
  foreground : foreground = true ∨ ((job.values.float .foregroundUntil).getD 0 ≤ now ∧
    (job.values.status = .awaitingUser ∨ job.values.status = .blocked ∨
      ∃ completedAt ≠ 0, job.values.float .completedAt = some completedAt ∧ completedAt + 1 ≤ now))

/-- What a run of the clients' commands on one job promises. -/
structure DeliveryProtocol (job : AgentJob) (commands : List DeliveryCommand) : Prop where
  /-- What is acknowledged or renewed at one moment is under one token. -/
  exclusive : ∀ before after, commands = before ++ after →
    ∀ first second : DeliveryCommand, ∀ token other,
    first.holderToken? = some token → second.holderToken? = some other →
    (first.apply (deliveryMachine.exec job before)).isSome = true →
    (second.apply (deliveryMachine.exec job before)).isSome = true → token = other
  /-- What is acknowledged under a token was claimed under it. -/
  claimed : ∀ before holding after token, commands = before ++ holding :: after →
    holding.holderToken? = some token →
    (holding.apply (deliveryMachine.exec job before)).isSome = true →
    job.delivery.token? = some token ∨ ∃ first claiming second,
      before = first ++ claiming :: second ∧ claiming.claimToken? = some token ∧
        (claiming.apply (deliveryMachine.exec job first)).isSome = true
  /-- The generation that is acknowledged under a token is the one that was claimed under it. -/
  generation : ∀ before claiming middle holding after token,
    commands = before ++ claiming :: (middle ++ holding :: after) →
    claiming.claimToken? = some token →
    (claiming.apply (deliveryMachine.exec job before)).isSome = true →
    holding.holderToken? = some token →
    (holding.apply (deliveryMachine.exec job (before ++ claiming :: middle))).isSome = true →
    (deliveryMachine.exec job (before ++ claiming :: middle)).delivery.generation =
      (deliveryMachine.exec job before).delivery.generation
  /-- A generation is finally acknowledged twice only where what was spoken is dismissed. -/
  once : ∀ before first middle second after,
    commands = before ++ first :: (middle ++ second :: after) →
    ∀ spoken dismissed : AgentJob,
    first.apply (deliveryMachine.exec job before) = some spoken →
    (deliveryMachine.exec job before).delivery.Finalises spoken.delivery →
    second.apply (deliveryMachine.exec job (before ++ first :: middle)) = some dismissed →
    (deliveryMachine.exec job (before ++ first :: middle)).delivery.Finalises dismissed.delivery →
    (deliveryMachine.exec job (before ++ first :: middle)).delivery.generation =
      spoken.delivery.generation →
    spoken.delivery.announcement.acknowledgement = .spoken ∧ second.dismisses = true ∧
      dismissed.delivery.announcement.acknowledgement = .dismissed
  /-- A finally acknowledged generation stays so and is not claimed, until a preparation or a
  repetition moves the job to a greater one. -/
  final : ∀ before middle after, commands = before ++ middle ++ after →
    (deliveryMachine.exec job before).delivery.isDelivered = true →
    let reached := deliveryMachine.exec job (before ++ middle)
    (reached.delivery.generation = (deliveryMachine.exec job before).delivery.generation ∧
      reached.delivery.isDelivered = true ∧
      ∀ claiming : DeliveryCommand, claiming.claimToken? ≠ none → claiming.apply reached = none) ∨
    ((deliveryMachine.exec job before).delivery.generation < reached.delivery.generation ∧
      ∃ first rearming second, middle = first ++ rearming :: second ∧ rearming.rearms = true ∧
        (rearming.apply (deliveryMachine.exec job (before ++ first))).isSome = true)
  /-- An announcement that is due and not finally acknowledged is claimed, where the job is one an
  accepted transition leaves. -/
  claimable : job.Sound → ∀ before after, commands = before ++ after →
    ∀ (token : String) (now : Time) (foreground : Bool) (eligible : Option (AgentJob → Bool)),
    token ≠ "" → (deliveryMachine.exec job before).delivery.isDelivered = false →
    (deliveryMachine.exec job before).Due now foreground →
    eligible.all (· (deliveryMachine.exec job before)) = true →
    ((DeliveryCommand.claim token now foreground eligible).apply
      (deliveryMachine.exec job before)).isSome = true

theorem AgentJob.Sound.exec (h : job.Sound) (commands : List DeliveryCommand) :
    (deliveryMachine.exec job commands).Sound := by
  refine deliveryMachine.invariant_exec (P := AgentJob.Sound) (fun job command h ↦ ?_) h commands
  rcases deliveryMachine_step_cases job command with ⟨-, hsame⟩ | ⟨next, happly, hnext, -⟩
  · rwa [hsame]
  · rw [hnext]
    exact AgentJob.sound_of_apply happly

omit [TextLibrary] in
/-- What the record says of the end of a delivery is what its state says. -/
theorem AgentJob.flat_delivery (job : AgentJob) :
    job.values.bool .delivered = job.delivery.isDelivered ∧
      job.values.announcementAck = job.delivery.announcement.acknowledgement := by
  have hstored := job.deliveryState_eq
  generalize job.delivery = state at hstored
  unfold Values.deliveryState loadDeliveryState at hstored
  split_ifs at hstored with hpaired hdelivered
  · cases hstored
    exact ⟨hdelivered, rfl⟩
  · split at hstored <;>
      · cases hstored
        exact ⟨Bool.eq_false_iff.mpr hdelivered, rfl⟩

/-- A sound job whose announcement is due and open is claimed. -/
theorem AgentJob.Due.isSome_claim (hdue : job.Due now foreground) (hsound : job.Sound)
    (htoken : token ≠ "") (hopen : job.delivery.isDelivered = false)
    {eligible : Option (AgentJob → Bool)} (heligible : eligible.all (· job) = true) :
    ((DeliveryCommand.claim token now foreground eligible).apply job).isSome = true := by
  obtain ⟨next, hnext⟩ := AgentJob.claimDelivery_ok hsound htoken hopen hdue.lease hdue.retry
  have hclaimable : job.isClaimable now foreground eligible = true := by
    unfold AgentJob.isClaimable
    extract_lets completedAt
    have hflag := job.flat_delivery.1.trans hopen
    have hretry : ¬ now < (job.values.float .deliveryRetryAt).getD 0 :=
      Rat.not_lt.mpr hdue.retry
    rcases hdue.foreground with hforeground | ⟨huntil, hsettled⟩
    · simp [hdue.status, hflag, heligible, hdue.lease, hretry, hforeground]
    · have huntil : ¬ now < (job.values.float .foregroundUntil).getD 0 := Rat.not_lt.mpr huntil
      rcases hsettled with hstatus | hstatus | ⟨time, hne, hcompleted, hpassed⟩
      · simp [JobStatus.isDeliverable, hflag, heligible, hdue.lease, hretry, huntil, hstatus]
      · simp [JobStatus.isDeliverable, hflag, heligible, hdue.lease, hretry, huntil, hstatus]
      · have hcompletedAt : completedAt = time := by
          simp [completedAt, hcompleted, Option.filter, hne]
        have hage : ¬ now - time < 1 := by grind
        simp [hdue.status, hflag, heligible, hdue.lease, hretry, huntil, hcompletedAt, hage]
  simp only [DeliveryCommand.apply, hclaimable, hnext]
  rfl

theorem transition_of_isSome (h : (command.apply job).isSome = true) :
    ∃ next, command.apply job = some next ∧ command.transition job.delivery = .ok next.delivery := by
  obtain ⟨next, hnext⟩ := Option.isSome_iff_exists.mp h
  exact ⟨next, hnext, command.transition_of_apply hnext⟩

/-- A delivery that is over stays over at its generation, or a later one was prepared. -/
theorem over_of_isDelivered (h : job.delivery.isDelivered = true) (commands : List DeliveryCommand) :
    (deliveryMachine.exec job commands).delivery.Over job.delivery.generation
      (decide (job.delivery.announcement.acknowledgement = .dismissed)) :=
  over_exec (.inr ⟨rfl, h, of_decide_eq_true⟩) commands

/-- The protocol of the announcements holds of every run whose claims draw fresh tokens. -/
theorem delivery_protocol (job : AgentJob) (commands : List DeliveryCommand)
    (hfresh : (commands.filterMap DeliveryCommand.claimToken?).Nodup) :
    DeliveryProtocol job commands := by
  have hheld : ∀ {reached : AgentJob} {holding : DeliveryCommand} {token : String},
      holding.holderToken? = some token → (holding.apply reached).isSome = true →
      reached.delivery.token? = some token := by
    intro reached holding token htoken happly
    obtain ⟨next, -, htransition⟩ := transition_of_isSome happly
    exact DeliveryCommand.transition_holder htransition htoken
  constructor
  case exclusive =>
    intro before after _ first second token other hfirst hsecond happly hagain
    exact Option.some.inj ((hheld hfirst happly).symm.trans (hheld hsecond hagain))
  case claimed =>
    intro before holding after token _ hholds happly
    rcases claimed_of_token (hheld hholds happly) with ⟨hstood, -⟩ | ⟨first, claiming, second, rfl,
      hclaims, hclaimed, -⟩
    · exact .inl hstood
    · exact .inr ⟨first, claiming, second, rfl, hclaims, hclaimed⟩
  case generation =>
    intro before claiming middle holding after token hcommands hclaims hclaimed hholds happly
    obtain ⟨next, hnext, htransition⟩ := transition_of_isSome hclaimed
    have hstep : (deliveryMachine.step (deliveryMachine.exec job before) claiming).1 = next := by
      simp only [deliveryMachine] at hnext ⊢
      rw [hnext]
    rw [Machine.exec_append, Machine.exec_cons, hstep] at happly ⊢
    have hclaimed := DeliveryCommand.claimed_generation htransition hclaims
    refine generation_of_token (fun _ ↦ hclaimed) ?_ (hheld hholds happly)
    -- the token is drawn once in the run
    intro command hmem hdrawn
    rw [hcommands, List.filterMap_append, List.filterMap_cons_some hclaims,
      List.filterMap_append] at hfresh
    have hnotMem := (List.nodup_cons.mp (List.nodup_append.mp hfresh).2.1).1
    exact hnotMem (List.mem_append_left _ (List.mem_filterMap.mpr ⟨command, hmem, hdrawn⟩))
  case once =>
    intro before first middle second after _ spoken dismissed hfirst hfinal hsecond hagain hsame
    have htransition := second.transition_of_apply hsecond
    have hstep : (deliveryMachine.step (deliveryMachine.exec job before) first).1 = spoken := by
      simp only [deliveryMachine] at hfirst ⊢
      rw [hfirst]
    rw [Machine.exec_append, Machine.exec_cons, hstep] at hsecond hagain hsame htransition
    rcases over_of_isDelivered hfinal.1 middle with hlater | ⟨-, hdone, hkept⟩
    · omega
    · obtain ⟨hdismisses, hopen, hdismissed⟩ :=
        DeliveryCommand.transition_finalises htransition hagain hdone
      have hack := spoken.isDelivered_delivery.symm.trans hfinal.1
      refine ⟨?_, hdismisses, hdismissed⟩
      rcases (by simpa using hack : _ ∨ _) with hspoken | hdone
      · exact hspoken
      · exact absurd (hkept (decide_eq_true hdone)) hopen
  case final =>
    intro before middle after _ hdone reached
    have hreached : reached = deliveryMachine.exec (deliveryMachine.exec job before) middle :=
      deliveryMachine.exec_append job before middle
    rcases over_of_isDelivered hdone middle with hlater | ⟨hsame, hover, -⟩
    · rw [← hreached] at hlater
      refine .inr ⟨hlater, ?_⟩
      obtain ⟨first, rearming, second, hmiddle, hrearms, happly⟩ := exists_rearms_of_lt (hreached ▸ hlater)
      exact ⟨first, rearming, second, hmiddle, hrearms, by rwa [Machine.exec_append]⟩
    · rw [← hreached] at hsame hover
      refine .inl ⟨hsame, hover, fun claiming hclaims ↦ ?_⟩
      rcases happly : claiming.apply reached with _ | next
      · rfl
      · have htransition := claiming.transition_of_apply happly
        cases claiming with
        | claim token now foreground eligible =>
          rw [(DeliveryState.claim_ok htransition).1] at hover
          cases hover
        | _ => exact absurd rfl hclaims
  case claimable =>
    intro hsound before after _ token now foreground eligible htoken hopen hdue heligible
    exact hdue.isSome_claim (hsound.exec before) htoken hopen heligible

end

/-! ### An announcement that is dismissed after it was spoken -/

section

attribute [local instance] asciiTextLibrary

/-- The record of a job, of this status, whose announcement nobody has claimed. -/
def unclaimedRecord (status : JobStatus) : Values :=
  let spec : NewAgentJob :=
    { id := "0123456789ab", request := "Fix the parser", createdAt := 0, foregroundUntil := 0
      harnessKind := .cursor, details := .empty }
  spec.record.update
    [.put (.jobStatus .status) (some status), .put (.text .result) (some "Done."),
      .put (.float .completedAt) (some 1)]

/-- The announcement of a completed job is claimed, spoken, dismissed and repeated, and claimed under
a second token. -/
def spokenAndDismissed : List DeliveryCommand :=
  [.claim "first" 2 true none, .acknowledge "first" 3, .dismiss 4, .repeatAnnouncement 5,
    .claim "second" 6 false none]

theorem delivery_protocol_completed :
    ∃ job, AgentJob.fromDict (unclaimedRecord .completed) = .ok job ∧
      DeliveryProtocol job spokenAndDismissed := by
  rcases hread : AgentJob.fromDict (unclaimedRecord .completed) with message | job
  · have hok : (AgentJob.fromDict (unclaimedRecord .completed)).toOption.isSome = true := by
      decide +kernel
    rw [hread] at hok
    cases hok
  · exact ⟨job, rfl, delivery_protocol job spokenAndDismissed (by decide)⟩

/-- A spoken announcement is dismissed, and so its generation is finally acknowledged twice; and an
open announcement of a queued job is never claimed. -/
theorem not_once_acknowledged :
    (∃ job spoken dismissed, AgentJob.fromDict (unclaimedRecord .completed) = .ok job ∧
      (DeliveryCommand.markDelivered (some 2) none []).apply job = some spoken ∧
      (DeliveryCommand.dismiss 3).apply spoken = some dismissed ∧
      job.delivery.Finalises spoken.delivery ∧ spoken.delivery.Finalises dismissed.delivery ∧
      dismissed.delivery.generation = spoken.delivery.generation) ∧
    ∃ job, AgentJob.fromDict (unclaimedRecord .queued) = .ok job ∧
      job.delivery.isDelivered = false ∧ (∀ now, job.claimIsLive now = false) ∧
      ∀ token now foreground eligible,
        (DeliveryCommand.claim token now foreground eligible).apply job = none := by
  constructor
  · have hrun : (AgentJob.fromDict (unclaimedRecord .completed)).toOption.any (fun job ↦
        decide (job.delivery = .pending 0 0 0 { acknowledgement := .pending, repeated := false }) &&
          job.values.lifecycle.toOption.isSome) = true := by decide +kernel
    simp only [Option.any_eq_true, Bool.and_eq_true, decide_eq_true_eq] at hrun
    obtain ⟨job, hread, hstate, hlifecycle⟩ := hrun
    have hread := checked_toOption_eq_some_iff.mp hread
    obtain ⟨lifecycle, hlifecycle⟩ := Option.isSome_iff_exists.mp hlifecycle
    have hpaired : (unclaimedRecord .completed).IsPaired := by
      constructor <;> (intro hpresent; cases hpresent)
    have hsound := AgentJob.sound_of_fromDict hread hpaired
      ⟨lifecycle, checked_toOption_eq_some_iff.mp hlifecycle⟩
    let spokenState : DeliveryState :=
      .delivered 0 (some 2) 0 { acknowledgement := .spoken, repeated := false }
    let dismissedState : DeliveryState :=
      .delivered 0 (some 3) 0 { acknowledgement := .dismissed, repeated := false }
    have hspokenFits : spokenState.Fits := ⟨rfl, fun _ h ↦ by cases h⟩
    have hdismissedFits : dismissedState.Fits := ⟨rfl, fun _ h ↦ by cases h⟩
    obtain ⟨spoken, hspoken, hspokenState, hspokenSound⟩ :=
      AgentJob.updated_fields hsound hspokenFits
    obtain ⟨dismissed, hdismissed, hdismissedState, -⟩ :=
      AgentJob.updated_fields hspokenSound hdismissedFits
    have hmark : job.markDelivered (some 2) none [] = .ok spoken := by
      unfold AgentJob.markDelivered
      rw [job.deliveryState_eq, hstate]
      exact hspoken
    have hdismiss : spoken.dismissAnnouncement 3 = .ok dismissed := by
      unfold AgentJob.dismissAnnouncement
      rw [spoken.deliveryState_eq, hspokenState]
      exact hdismissed
    have hack : spoken.values.announcementAck = .spoken := by
      rw [spoken.flat_delivery.2, hspokenState]
      rfl
    refine ⟨job, spoken, dismissed, hread, ?_, ?_, ?_, ?_, ?_⟩
    · simp only [DeliveryCommand.apply, hmark]
      rfl
    · simp only [DeliveryCommand.apply, hdismiss, hack]
      rfl
    · rw [hstate, hspokenState]
      exact ⟨rfl, .inl rfl⟩
    · rw [hspokenState, hdismissedState]
      exact ⟨rfl, .inr (by decide)⟩
    · rw [hspokenState, hdismissedState]
      rfl
  · have hrun : (AgentJob.fromDict (unclaimedRecord .queued)).toOption.any (fun job ↦
        !job.delivery.isDelivered && !job.values.hasText .deliveryClaimToken &&
          decide (job.values.status = .queued)) = true := by decide +kernel
    simp only [Option.any_eq_true, Bool.and_eq_true, Bool.not_eq_true', decide_eq_true_eq] at hrun
    obtain ⟨job, hread, ⟨hopen, hfree⟩, hstatus⟩ := hrun
    refine ⟨job, checked_toOption_eq_some_iff.mp hread, hopen, fun now ↦ ?_, ?_⟩
    · simp [AgentJob.claimIsLive, hfree]
    · intro token now foreground eligible
      have hclaimable : job.isClaimable now foreground eligible = false := by
        simp [AgentJob.isClaimable, hstatus, JobStatus.isDeliverable]
      simp only [DeliveryCommand.apply, hclaimable]
      rfl

end

end VoiceHarness
