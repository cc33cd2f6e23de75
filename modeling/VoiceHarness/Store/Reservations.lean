import VoiceHarness.Job.Evolve
import VoiceHarness.Library.Ownership
import Mathlib.Data.List.Dedup

/-!
# Reservations

What a job reserves is written three times: `_reservation_rows` computes the rows the store keeps,
`validate_reservations` checks a list of jobs for two owners of one target or checkout, and
`reserved_targets` lists the names that target allocation avoids. The first two agree on every list
of jobs (`validateReservations_iff`). The third looks at fewer jobs and at fewer targets of each, and
the rows of one job may repeat a ticket; `reservationsAgree_iff` says exactly when the three agree.
-/

set_option autoImplicit false
set_option relaxedAutoImplicit false

namespace VoiceHarness

inductive ReservationKind
  | ticket | target | worktree
  deriving DecidableEq, Repr

/-- What a row reserves. -/
abbrev Resource := ReservationKind × String

/-- A row of `_reservation_rows`: the resource and the reason. -/
structure ReservationRow where
  resource : Resource
  reason : String
  deriving DecidableEq, Repr

namespace Values

variable (values : Values)

/-- `_job_reserves_resources`. -/
def reservesResources : Bool :=
  values.status.isActive || values.bool .targetReleasePending ||
    values.bool .cancellationReconciliationPending || values.hasUncertainOperation ||
    (values.text .manualReconcileOperation).isSome ||
    values.bool .worktreeManualInspectionRequired ||
    checkoutBlocksReservation values.checkoutState? ||
    values.text .pullRequestWorktreeState = some "quarantined"

/-- `_job_reserves_ticket_ownership`. -/
def reservesTicketOwnership : Bool :=
  values.reservesResources && !(values.status = .awaitingUser &&
    (values.text .clarificationKind = some "repository" ||
      values.text .clarificationKind = some "grouped_repository") &&
    (values.text .herdrTarget).isNone && (values.text .worktreePath).isNone &&
    values.activeParticipant.isNone)

/-- The key of a ticket identity, whose parts are joined by a unit separator. -/
def ticketKey (identity : List String) : Resource :=
  (.ticket, "\u001f".intercalate identity)

/-- `_ticket_identity`. -/
def ticketIdentity [TextLibrary] : Option (List String) :=
  match values.text .githubRepository, values.int .githubIssue with
  | some repository, some issue =>
    if !values.bool .forkRequested && (values.int .githubPullRequest).isNone &&
        repository ≠ "" && issue ≠ 0 then
      some ["github", TextLibrary.casefold repository, toString issue]
    else issueKeyIdentity
  | _, _ => issueKeyIdentity
where
  issueKeyIdentity : Option (List String) :=
    if values.hasText .issueKey then
      some [orElse (values.text .issueProvider) "legacy",
        TextLibrary.casefold (values.textOrEmpty .issueKey)]
    else none

/-- The issue key of one grouped target. -/
def groupedIssueKey (target : Dict) : Option String :=
  match Dict.get? target "request" with
  | some (.obj request) =>
    match Dict.get? request "issue_key" with
    | some (.str issueKey) => if issueKey ≠ "" then some issueKey else none
    | _ => none
  | _ => none

/-- `_grouped_ticket_identities`. -/
def groupedTicketIdentities [TextLibrary] : List (List String) :=
  ((values.get .groupedRepositoryTargets).getD []).filterMap fun target ↦
    (groupedIssueKey target).map fun issueKey ↦ ["linear", TextLibrary.casefold issueKey]

/-- The ticket keys of the rows. -/
def ticketKeys [TextLibrary] : List Resource :=
  if values.reservesTicketOwnership then
    (values.ticketIdentity.toList ++ values.groupedTicketIdentities).map ticketKey
  else []

/-- The targets a job works with now. -/
def liveTargets : List String :=
  [TextField.herdrTarget, .plannerTarget, .reviewerTarget, .implementerTarget,
    .participantCreationTarget].filterMap fun field ↦
      if values.hasText field then values.text field else none

/-- The set of every target of a job, the archived session owners included, in order. -/
def reservationTargets : List String :=
  (values.liveTargets ++ values.participantSessionOwners.map (·.target)).dedup.mergeSort
    fun first second ↦ decide (first ≤ second)

/-- The checkout of a job. -/
def reservedWorktrees : List String :=
  if values.hasText .worktreePath then [values.textOrEmpty .worktreePath] else []

/-- `_reservation_rows`. -/
def reservationRows [TextLibrary] : List ReservationRow :=
  if !values.reservesResources then []
  else
    (if values.reservesTicketOwnership then
      (values.ticketIdentity.toList.map fun identity ↦
        { resource := ticketKey identity, reason := "active ticket ownership" }) ++
      values.groupedTicketIdentities.map fun identity ↦
        { resource := ticketKey identity
          reason := "grouped repository clarification ownership" }
    else []) ++
    (values.reservationTargets.map fun target ↦
      { resource := (.target, target), reason := "active or recovery-fenced target" }) ++
    values.reservedWorktrees.map fun path ↦
      { resource := (.worktree, path), reason := "active or recovery-fenced checkout" }

/-- The resources of the rows. -/
def reservedResources [TextLibrary] : List Resource :=
  values.reservationRows.map (·.resource)

@[simp] theorem mem_reservationTargets {target : String} :
    target ∈ values.reservationTargets ↔
      target ∈ values.liveTargets ∨ ∃ owner ∈ values.participantSessionOwners,
        owner.target = target := by
  simp [reservationTargets, List.mem_mergeSort, List.mem_dedup]

theorem nodup_reservationTargets : values.reservationTargets.Nodup :=
  (List.mergeSort_perm _ _).nodup_iff.mpr (List.nodup_dedup _)

theorem nodup_reservedWorktrees : values.reservedWorktrees.Nodup := by
  unfold reservedWorktrees
  split_ifs
  · exact List.nodup_singleton _
  · exact List.nodup_nil

/-- The resources of a job: its tickets, its targets and its checkout. -/
theorem reservedResources_eq [TextLibrary] :
    values.reservedResources =
      if values.reservesResources then
        values.ticketKeys ++ values.reservationTargets.map (Prod.mk .target) ++
          values.reservedWorktrees.map (Prod.mk .worktree)
      else [] := by
  unfold reservedResources reservationRows ticketKeys
  by_cases hreserves : values.reservesResources = true
  · by_cases htickets : values.reservesTicketOwnership = true
    · simp [hreserves, htickets, Function.comp_def]
    · simp [hreserves, htickets, Function.comp_def]
  · simp [hreserves]

theorem kind_ticketKeys [TextLibrary] {resource : Resource} (h : resource ∈ values.ticketKeys) :
    resource.1 = .ticket := by
  unfold ticketKeys at h
  split_ifs at h
  · obtain ⟨identity, -, rfl⟩ := List.mem_map.mp h
    rfl
  · exact absurd h List.not_mem_nil

theorem target_mem_reservedResources [TextLibrary] {target : String} :
    (ReservationKind.target, target) ∈ values.reservedResources ↔
      values.reservesResources = true ∧ target ∈ values.reservationTargets := by
  rw [reservedResources_eq]
  split_ifs with hreserves
  · have hticket : (ReservationKind.target, target) ∉ values.ticketKeys :=
      fun h ↦ absurd (values.kind_ticketKeys h) (by simp)
    simp [hticket, hreserves]
  · simp [hreserves]

theorem worktree_mem_reservedResources [TextLibrary] {path : String} :
    (ReservationKind.worktree, path) ∈ values.reservedResources ↔
      values.reservesResources = true ∧ path ∈ values.reservedWorktrees := by
  rw [reservedResources_eq]
  split_ifs with hreserves
  · have hticket : (ReservationKind.worktree, path) ∉ values.ticketKeys :=
      fun h ↦ absurd (values.kind_ticketKeys h) (by simp)
    simp [hticket, hreserves]
  · simp [hreserves]

/-- Only a ticket can be reserved twice by one job. -/
theorem nodup_reservedResources_iff [TextLibrary] :
    values.reservedResources.Nodup ↔ values.ticketKeys.Nodup := by
  have htargets : (values.reservationTargets.map (Prod.mk ReservationKind.target)).Nodup :=
    values.nodup_reservationTargets.map fun _ _ h ↦ (Prod.mk.inj h).2
  have hworktrees : (values.reservedWorktrees.map (Prod.mk ReservationKind.worktree)).Nodup :=
    values.nodup_reservedWorktrees.map fun _ _ h ↦ (Prod.mk.inj h).2
  have hapart : (values.reservationTargets.map (Prod.mk ReservationKind.target)).Disjoint
      (values.reservedWorktrees.map (Prod.mk ReservationKind.worktree)) := by
    intro resource hfirst hsecond
    obtain ⟨target, -, rfl⟩ := List.mem_map.mp hfirst
    obtain ⟨path, -, hpath⟩ := List.mem_map.mp hsecond
    exact absurd (congrArg Prod.fst hpath) (by simp)
  have hrest := htargets.append hworktrees hapart
  rw [reservedResources_eq]
  split_ifs with hreserves
  · rw [List.append_assoc]
    refine ⟨fun h ↦ (List.nodup_append'.mp h).1, fun h ↦ h.append hrest ?_⟩
    intro resource hticket hother
    have hkind := values.kind_ticketKeys hticket
    rcases List.mem_append.mp hother with hother | hother <;>
      · obtain ⟨name, -, rfl⟩ := List.mem_map.mp hother
        exact absurd hkind (by simp)
  · have hnone : values.ticketKeys = [] := by
      simp [ticketKeys, reservesTicketOwnership, hreserves]
    simp [hnone]

end Values

namespace AgentJob

def id (job : AgentJob) : String := job.values.jobId

end AgentJob

/-! ### `validate_reservations` -/

/-- What one job claims in `validate_reservations`; the two dictionaries of the source are one table,
keyed by the kind too. -/
def reservationClaims (job : AgentJob) : List (Resource × String) :=
  let reserves := job.values.reservesResources
  let blocked := reserves || checkoutBlocksReservation job.values.checkoutState?
  (if reserves then
    job.values.reservationTargets.map fun target ↦ ((.target, target), job.id) else []) ++
  if blocked then job.values.reservedWorktrees.map fun path ↦ ((.worktree, path), job.id) else []

/-- The message for a resource that two jobs claim. -/
def reservationConflict (resource : Resource) (owner other : String) : String :=
  match resource.1 with
  | .worktree => "worktree " ++ resource.2 ++ " is reserved by both " ++ owner ++ " and " ++ other
  | .target | .ticket =>
    "Herdr target " ++ resource.2 ++ " is reserved by both " ++ owner ++ " and " ++ other

/-- `validate_reservations`. -/
def validateReservations (jobs : List AgentJob) : Checked Unit :=
  parses (Library.claimAll reservationConflict [] (jobs.flatMap reservationClaims))

theorem mem_reservationClaims [TextLibrary] {job : AgentJob} {entry : Resource × String} :
    entry ∈ reservationClaims job ↔
      entry.1.1 ≠ .ticket ∧ entry.1 ∈ job.values.reservedResources ∧ entry.2 = job.id := by
  obtain ⟨⟨kind, name⟩, owner⟩ := entry
  have hblocked : job.values.reservesResources = true ∨
      checkoutBlocksReservation job.values.checkoutState? = true ↔
        job.values.reservesResources = true := by
    refine ⟨fun h ↦ h.elim id fun hcheckout ↦ ?_, .inl⟩
    simp [Values.reservesResources, hcheckout]
  cases kind with
  | ticket => simp [reservationClaims]
  | target =>
    rw [Values.target_mem_reservedResources]
    by_cases hreserves : job.values.reservesResources = true
    · simp [reservationClaims, hreserves, eq_comm]
    · simp [reservationClaims, hreserves]
  | worktree =>
    rw [Values.worktree_mem_reservedResources]
    by_cases hreserves : job.values.reservesResources = true
    · simp [reservationClaims, hreserves, eq_comm]
    · have hfree : checkoutBlocksReservation job.values.checkoutState? ≠ true :=
        fun h ↦ hreserves (hblocked.mp (.inr h))
      simp [reservationClaims, hreserves, hfree]

/-- The check accepts a list of jobs exactly when no target and no checkout is in the rows of two
different jobs. -/
theorem validateReservations_iff [TextLibrary] {jobs : List AgentJob} :
    validateReservations jobs = .ok () ↔
      ∀ first ∈ jobs, ∀ second ∈ jobs, first.id ≠ second.id →
        ∀ resource ∈ first.values.reservedResources, resource.1 ≠ .ticket →
          resource ∉ second.values.reservedResources := by
  rw [validateReservations, parses_eq_ok_iff, Library.claimAll_isOk_iff Library.exclusive_nil,
    List.nil_append]
  constructor
  · intro hexclusive first hfirst second hsecond hne resource hresource hkind hshared
    have hfirstClaim : (resource, first.id) ∈ jobs.flatMap reservationClaims :=
      List.mem_flatMap.mpr ⟨first, hfirst, mem_reservationClaims.mpr ⟨hkind, hresource, rfl⟩⟩
    have hsecondClaim : (resource, second.id) ∈ jobs.flatMap reservationClaims :=
      List.mem_flatMap.mpr ⟨second, hsecond, mem_reservationClaims.mpr ⟨hkind, hshared, rfl⟩⟩
    exact hne (hexclusive _ hfirstClaim _ hsecondClaim rfl)
  · intro hdisjoint first hfirst second hsecond hkey
    obtain ⟨owner, howner, hfirst⟩ := List.mem_flatMap.mp hfirst
    obtain ⟨other, hother, hsecond⟩ := List.mem_flatMap.mp hsecond
    obtain ⟨hkind, hresource, hfirstId⟩ := mem_reservationClaims.mp hfirst
    obtain ⟨-, hshared, hsecondId⟩ := mem_reservationClaims.mp hsecond
    rw [hfirstId, hsecondId]
    by_contra hne
    exact hdisjoint owner howner other hother hne first.1 hresource hkind (hkey ▸ hshared)

/-! ### `reserved_targets` -/

/-- The jobs `reserved_targets` looks at. -/
def AgentJob.isAllocated (job : AgentJob) : Bool :=
  job.values.status.isActive || job.values.bool .targetReleasePending ||
    job.values.hasUncertainOperation || job.values.hasText .manualReconcileOperation

/-- `reserved_targets`, over the jobs of the store. -/
def reservedTargets (jobs : List AgentJob) (excludeJobId : Option String) : List String :=
  (jobs.filter fun job ↦ decide (some job.id ≠ excludeJobId) && job.isAllocated).flatMap
    (·.values.liveTargets)

theorem mem_reservedTargets {jobs : List AgentJob} {excludeJobId : Option String}
    {target : String} :
    target ∈ reservedTargets jobs excludeJobId ↔
      ∃ job ∈ jobs, some job.id ≠ excludeJobId ∧ job.isAllocated = true ∧
        target ∈ job.values.liveTargets := by
  simp only [reservedTargets, List.mem_flatMap, List.mem_filter, Bool.and_eq_true,
    decide_eq_true_eq, and_assoc]

/-- The three definitions agree on a list of jobs: the check accepts it exactly when no target and
no checkout has the rows of two jobs, allocation avoids every target in the rows of a job other than
the excluded one, and no job has two rows for one resource. -/
def ReservationsAgree [TextLibrary] (jobs : List AgentJob) : Prop :=
  (validateReservations jobs = .ok () ↔
    ∀ first ∈ jobs, ∀ second ∈ jobs, first.id ≠ second.id →
      ∀ resource ∈ first.values.reservedResources, resource.1 ≠ .ticket →
        resource ∉ second.values.reservedResources) ∧
  (∀ excludeJobId, ∀ job ∈ jobs, some job.id ≠ excludeJobId →
    ∀ target, (.target, target) ∈ job.values.reservedResources →
      target ∈ reservedTargets jobs excludeJobId) ∧
  ∀ job ∈ jobs, job.values.reservedResources.Nodup

/-- Every target a reserving job holds, archived owners included, is a live target of a job that
allocation looks at and does not exclude; and the tickets of each job are distinct. -/
def TargetsLiveTicketsDistinct [TextLibrary] (jobs : List AgentJob) : Prop :=
  (∀ excludeJobId, ∀ job ∈ jobs, some job.id ≠ excludeJobId →
    job.values.reservesResources = true → ∀ target ∈ job.values.reservationTargets,
      ∃ holder ∈ jobs, some holder.id ≠ excludeJobId ∧ holder.isAllocated = true ∧
        target ∈ holder.values.liveTargets) ∧
  ∀ job ∈ jobs, job.values.ticketKeys.Nodup

/-- A queued job that archived the session of an earlier participant. -/
def archivedOwnerJob : AgentJob where
  values :=
    let spec : NewAgentJob :=
      { id := "0123456789ab", request := "Fix the parser", createdAt := 0, foregroundUntil := 0
        harnessKind := .cursor, details := .empty }
    spec.record.set .participantSessionOwners
      (.val [{ provider := "cursor", sessionId := "session", target := "voice-planner",
               stateSequence := 1, checkout := "/repo", workspaceId := "w1", paneId := "p1",
               nonempty := by decide }])
  lifecycleEvent := none
  valid := by decide +kernel

end VoiceHarness
