import VoiceHarness.Job.Canonical
import Mathlib.Data.List.Basic

/-!
# The nested states of a stored record

The durable form of a job keeps its harness, checkout, GitHub and Linear fields in nested states.
`StateFields` is the table of one of them: the fields it supports, by name, and the shorter keys some
of them are stored under. An entry of a nested state is a key and a value; under a key that the
state supports, the value is of the type of its field, as in a flat record.
-/

set_option autoImplicit false
set_option relaxedAutoImplicit false

namespace VoiceHarness

/-! ### The tables -/

/-- The field that a key of a nested state names. -/
def fieldOf (fields : List (String × Field)) (aliases : List (String × String)) (key : String) :
    Option Field :=
  fields.lookup ((aliases.lookup key).getD key)

/-- The key that a field of a nested state is stored under. -/
def keyOf (aliases : List (String × String)) (name : String) : String :=
  ((aliases.find? fun entry ↦ entry.2 = name).map Prod.fst).getD name

/-- The fields of a nested state, and the keys that stand for some of their names. -/
structure StateFields where
  fields : List (String × Field)
  aliases : List (String × String)
  fieldOf_keyOf : ∀ entry ∈ fields, fieldOf fields aliases (keyOf aliases entry.1) = some entry.2

namespace StateFields

variable (state : StateFields)

/-- `aliases.get(key, key)`, where it is a field of the state. -/
def named (key : String) : Option Field := fieldOf state.fields state.aliases key

/-- The keys under which the fields are stored. -/
def keys : List String := state.fields.map fun entry ↦ keyOf state.aliases entry.1

/-- The keys name the fields. -/
theorem filterMap_keys : state.keys.filterMap state.named = state.fields.map Prod.snd := by
  unfold keys
  rw [List.filterMap_map, ← List.filterMap_eq_map]
  exact List.filterMap_congr state.fieldOf_keyOf

end StateFields

/-- `_HARNESS_STATE_FIELDS`. -/
def harnessStateFields : StateFields where
  fields := [
    ("agent_hint", .text .agentHint), ("herdr_pane_id", .text .herdrPaneId),
    ("herdr_workspace_id", .text .herdrWorkspaceId), ("agent_name", .text .agentName),
    ("agent_dispatch_state", .operation .agentDispatchState),
    ("agent_provider", .text .agentProvider),
    ("agent_provider_session_id", .text .agentProviderSessionId),
    ("agent_operation_checkout", .text .agentOperationCheckout),
    ("agent_operation_target", .text .agentOperationTarget),
    ("agent_operation_workspace_id", .text .agentOperationWorkspaceId),
    ("agent_operation_pane_id", .text .agentOperationPaneId),
    ("agent_state_sequence", .int .agentStateSequence),
    ("agent_dispatch_exited", .bool .agentDispatchExited),
    ("agent_reconcile_attempts", .int .agentReconcileAttempts),
    ("agent_absent_observations", .int .agentAbsentObservations),
    ("agent_next_reconcile_at", .float .agentNextReconcileAt),
    ("agent_last_reconciled_at", .float .agentLastReconciledAt),
    ("agent_confirmed_absent_at", .float .agentConfirmedAbsentAt),
    ("agent_automatic_reconcile_stopped_at", .float .agentAutomaticReconcileStoppedAt),
    ("agent_retained_at", .float .agentRetainedAt), ("turn", .int .turn),
    ("turn_token", .text .turnToken), ("continuation", .bool .continuation),
    ("next_reconcile_at", .float .nextReconcileAt),
    ("target_release_pending", .bool .targetReleasePending),
    ("target_release_token", .text .targetReleaseToken),
    ("target_release_owner_pid", .int .targetReleaseOwnerPid),
    ("target_release_owner_boot_id", .text .targetReleaseOwnerBootId),
    ("target_release_owner_start", .text .targetReleaseOwnerStart),
    ("target_release_manual_required", .bool .targetReleaseManualRequired),
    ("target_release_unverified_targets", .targetReleaseUnverifiedTargets),
    ("participant_session_owners", .participantSessionOwners), ("session_control", .sessionControl),
    ("session_control_generation", .int .sessionControlGeneration)]
  aliases := [("pane_id", "herdr_pane_id"), ("workspace_id", "herdr_workspace_id")]
  fieldOf_keyOf := by decide +kernel

/-- `_CHECKOUT_STATE_FIELDS`, under `_CHECKOUT_ALIASES`. -/
def checkoutStateFields : StateFields where
  fields := [
    ("repository", .text .repository), ("worktree_branch", .text .worktreeBranch),
    ("worktree_label", .text .worktreeLabel), ("worktree_path", .text .worktreePath),
    ("worktree_workspace_id", .text .worktreeWorkspaceId),
    ("worktree_root_pane_id", .text .worktreeRootPaneId),
    ("worktree_provision_state", .operation .worktreeProvisionState),
    ("worktree_provision_error", .text .worktreeProvisionError),
    ("worktree_dispatch_exited", .bool .worktreeDispatchExited),
    ("worktree_reconcile_attempts", .int .worktreeReconcileAttempts),
    ("worktree_absent_observations", .int .worktreeAbsentObservations),
    ("worktree_next_reconcile_at", .float .worktreeNextReconcileAt),
    ("worktree_last_reconciled_at", .float .worktreeLastReconciledAt),
    ("worktree_confirmed_absent_at", .float .worktreeConfirmedAbsentAt),
    ("worktree_automatic_reconcile_stopped_at", .float .worktreeAutomaticReconcileStoppedAt),
    ("worktree_retained_at", .float .worktreeRetainedAt),
    ("worktree_manual_inspection_required", .bool .worktreeManualInspectionRequired),
    ("worktree_quarantine_acknowledged_at", .float .worktreeQuarantineAcknowledgedAt)]
  aliases := [("branch", "worktree_branch"), ("label", "worktree_label"), ("path", "worktree_path"),
    ("workspace_id", "worktree_workspace_id"), ("root_pane_id", "worktree_root_pane_id")]
  fieldOf_keyOf := by decide +kernel

/-- `_LINEAR_STATE_FIELDS`. -/
def linearStateFields : StateFields where
  fields := [
    ("issue_key", .text .issueKey),
    ("linear_ticket_create_requested", .bool .linearTicketCreateRequested),
    ("linear_ticket_create_confirmed", .bool .linearTicketCreateConfirmed),
    ("linear_ticket_create_team", .text .linearTicketCreateTeam),
    ("linear_ticket_create_team_id", .text .linearTicketCreateTeamId),
    ("linear_ticket_create_title", .text .linearTicketCreateTitle),
    ("linear_ticket_create_description", .text .linearTicketCreateDescription),
    ("linear_ticket_create_marker", .text .linearTicketCreateMarker),
    ("linear_ticket_create_operation_state", .operation .linearTicketCreateOperationState),
    ("linear_ticket_create_prompt_target", .text .linearTicketCreatePromptTarget),
    ("linear_ticket_create_prompt_session", .text .linearTicketCreatePromptSession),
    ("linear_ticket_create_prompt_token", .text .linearTicketCreatePromptToken),
    ("linear_ticket_create_baseline_sequence", .int .linearTicketCreateBaselineSequence),
    ("linear_ticket_created_identifier", .text .linearTicketCreatedIdentifier),
    ("linear_ticket_created_url", .text .linearTicketCreatedUrl),
    ("linear_ticket_update_requested", .bool .linearTicketUpdateRequested),
    ("linear_ticket_update_confirmed", .bool .linearTicketUpdateConfirmed),
    ("linear_ticket_update_title", .text .linearTicketUpdateTitle),
    ("linear_ticket_update_description", .text .linearTicketUpdateDescription),
    ("linear_ticket_update_base_title", .text .linearTicketUpdateBaseTitle),
    ("linear_ticket_update_base_description", .text .linearTicketUpdateBaseDescription),
    ("linear_ticket_update_base_revision", .text .linearTicketUpdateBaseRevision),
    ("linear_ticket_update_marker", .text .linearTicketUpdateMarker),
    ("linear_ticket_update_operation_state", .operation .linearTicketUpdateOperationState),
    ("linear_ticket_update_issue_id", .text .linearTicketUpdateIssueId),
    ("linear_ticket_update_prompt_target", .text .linearTicketUpdatePromptTarget),
    ("linear_ticket_update_prompt_session", .text .linearTicketUpdatePromptSession),
    ("linear_ticket_update_prompt_token", .text .linearTicketUpdatePromptToken),
    ("linear_ticket_update_baseline_sequence", .int .linearTicketUpdateBaselineSequence),
    ("linear_ticket_close_requested", .bool .linearTicketCloseRequested),
    ("linear_ticket_close_confirmed", .bool .linearTicketCloseConfirmed),
    ("linear_ticket_close_marker", .text .linearTicketCloseMarker),
    ("linear_ticket_close_operation_state", .operation .linearTicketCloseOperationState),
    ("linear_ticket_close_issue_id", .text .linearTicketCloseIssueId),
    ("linear_ticket_close_terminal_state_id", .text .linearTicketCloseTerminalStateId),
    ("linear_ticket_close_terminal_state_name", .text .linearTicketCloseTerminalStateName),
    ("linear_ticket_close_prompt_target", .text .linearTicketClosePromptTarget),
    ("linear_ticket_close_prompt_session", .text .linearTicketClosePromptSession),
    ("linear_ticket_close_prompt_token", .text .linearTicketClosePromptToken),
    ("linear_ticket_close_baseline_sequence", .int .linearTicketCloseBaselineSequence),
    ("linear_ticket_split_requested", .bool .linearTicketSplitRequested),
    ("ticket_split_confirmed", .bool .ticketSplitConfirmed),
    ("ticket_split_parent_action", .text .ticketSplitParentAction),
    ("ticket_split_parent_title", .text .ticketSplitParentTitle),
    ("ticket_split_parent_body", .text .ticketSplitParentBody),
    ("ticket_split_parent_marker", .text .ticketSplitParentMarker),
    ("ticket_split_parent_operation_state", .operation .ticketSplitParentOperationState),
    ("ticket_split_parent_issue_id", .text .ticketSplitParentIssueId),
    ("ticket_split_parent_terminal_state_id", .text .ticketSplitParentTerminalStateId),
    ("ticket_split_parent_terminal_state_name", .text .ticketSplitParentTerminalStateName),
    ("ticket_split_children", .text .ticketSplitChildren),
    ("ticket_split_operation_state", .operation .ticketSplitOperationState),
    ("ticket_split_team", .text .ticketSplitTeam),
    ("ticket_split_team_id", .text .ticketSplitTeamId),
    ("ticket_split_prompt_target", .text .ticketSplitPromptTarget),
    ("ticket_split_prompt_session", .text .ticketSplitPromptSession),
    ("ticket_split_prompt_token", .text .ticketSplitPromptToken),
    ("ticket_split_baseline_sequence", .int .ticketSplitBaselineSequence),
    ("linear_ticket_merge_requested", .bool .linearTicketMergeRequested),
    ("ticket_merge_confirmed", .bool .ticketMergeConfirmed),
    ("ticket_merge_survivor", .text .ticketMergeSurvivor),
    ("ticket_merge_survivor_title", .text .ticketMergeSurvivorTitle),
    ("ticket_merge_survivor_body", .text .ticketMergeSurvivorBody),
    ("ticket_merge_survivor_marker", .text .ticketMergeSurvivorMarker),
    ("ticket_merge_survivor_operation_state", .operation .ticketMergeSurvivorOperationState),
    ("ticket_merge_survivor_issue_id", .text .ticketMergeSurvivorIssueId),
    ("ticket_merge_closing", .text .ticketMergeClosing),
    ("ticket_merge_snapshots", .text .ticketMergeSnapshots),
    ("ticket_merge_operation_state", .operation .ticketMergeOperationState),
    ("ticket_merge_prompt_target", .text .ticketMergePromptTarget),
    ("ticket_merge_prompt_session", .text .ticketMergePromptSession),
    ("ticket_merge_prompt_token", .text .ticketMergePromptToken),
    ("ticket_merge_baseline_sequence", .int .ticketMergeBaselineSequence)]
  aliases := []
  fieldOf_keyOf := by decide +kernel

/-- `_GITHUB_STATE_SECTIONS`: by section, the key, the flat name and the field. -/
def githubStateSections : List (String × List (String × String × Field)) := [
    ("repository", [
      ("name", "github_repository", .text .githubRepository)]),
    ("issue", [
      ("number", "github_issue", .int .githubIssue),
      ("url", "github_issue_url", .text .githubIssueUrl),
      ("context", "github_issue_context", .text .githubIssueContext)]),
    ("issue_creation", [
      ("requested", "github_issue_create_requested", .bool .githubIssueCreateRequested),
      ("confirmed", "github_issue_create_confirmed", .bool .githubIssueCreateConfirmed),
      ("title", "github_issue_create_title", .text .githubIssueCreateTitle),
      ("body", "github_issue_create_body", .text .githubIssueCreateBody),
      ("marker", "github_issue_create_marker", .text .githubIssueCreateMarker),
      ("operation_state", "github_issue_create_operation_state",
        .operation .githubIssueCreateOperationState),
      ("created_number", "github_issue_created_number", .int .githubIssueCreatedNumber),
      ("created_url", "github_issue_created_url", .text .githubIssueCreatedUrl)]),
    ("pull_request_creation", [
      ("requested", "github_pr_create_requested", .bool .githubPrCreateRequested),
      ("confirmed", "github_pr_create_confirmed", .bool .githubPrCreateConfirmed),
      ("title", "github_pr_create_title", .text .githubPrCreateTitle),
      ("body", "github_pr_create_body", .text .githubPrCreateBody),
      ("marker", "github_pr_create_marker", .text .githubPrCreateMarker),
      ("commit_subject", "github_pr_create_commit_subject", .text .githubPrCreateCommitSubject),
      ("base", "github_pr_create_base", .text .githubPrCreateBase),
      ("head_oid", "github_pr_create_head_oid", .text .githubPrCreateHeadOid),
      ("published_head_oid", "github_pr_create_published_head_oid",
        .text .githubPrCreatePublishedHeadOid),
      ("head_repository", "github_pr_create_head_repository", .text .githubPrCreateHeadRepository),
      ("checkout_origin", "github_pr_create_checkout_origin", .text .githubPrCreateCheckoutOrigin),
      ("status_digest", "github_pr_create_status_digest", .text .githubPrCreateStatusDigest),
      ("operation_state", "github_pr_create_operation_state",
        .operation .githubPrCreateOperationState),
      ("created_number", "github_pr_created_number", .int .githubPrCreatedNumber),
      ("created_url", "github_pr_created_url", .text .githubPrCreatedUrl)]),
    ("pull_request_merge", [
      ("requested", "github_pr_merge_requested", .bool .githubPrMergeRequested),
      ("confirmed", "github_pr_merge_confirmed", .bool .githubPrMergeConfirmed),
      ("number", "github_pr_merge_number", .int .githubPrMergeNumber),
      ("url", "github_pr_merge_url", .text .githubPrMergeUrl),
      ("marker", "github_pr_merge_marker", .text .githubPrMergeMarker),
      ("snapshot", "github_pr_merge_snapshot", .text .githubPrMergeSnapshot),
      ("method", "github_pr_merge_method", .text .githubPrMergeMethod),
      ("operation_state", "github_pr_merge_operation_state",
        .operation .githubPrMergeOperationState)]),
    ("repo_creation", [
      ("requested", "github_repo_create_requested", .bool .githubRepoCreateRequested),
      ("org_requested", "github_repo_create_org_requested", .bool .githubRepoCreateOrgRequested),
      ("owner", "github_repo_create_owner", .text .githubRepoCreateOwner),
      ("confirmed", "github_repo_create_confirmed", .bool .githubRepoCreateConfirmed),
      ("visibility", "github_repo_create_visibility", .text .githubRepoCreateVisibility),
      ("marker", "github_repo_create_marker", .text .githubRepoCreateMarker),
      ("operation_state", "github_repo_create_operation_state",
        .operation .githubRepoCreateOperationState),
      ("created_url", "github_repo_created_url", .text .githubRepoCreatedUrl)]),
    ("issue_update", [
      ("requested", "github_issue_update_requested", .bool .githubIssueUpdateRequested),
      ("confirmed", "github_issue_update_confirmed", .bool .githubIssueUpdateConfirmed),
      ("title", "github_issue_update_title", .text .githubIssueUpdateTitle),
      ("body", "github_issue_update_body", .text .githubIssueUpdateBody),
      ("base_title", "github_issue_update_base_title", .text .githubIssueUpdateBaseTitle),
      ("base_body", "github_issue_update_base_body", .text .githubIssueUpdateBaseBody),
      ("base_revision", "github_issue_update_base_revision", .text .githubIssueUpdateBaseRevision),
      ("marker", "github_issue_update_marker", .text .githubIssueUpdateMarker),
      ("operation_state", "github_issue_update_operation_state",
        .operation .githubIssueUpdateOperationState)]),
    ("issue_close", [
      ("requested", "github_issue_close_requested", .bool .githubIssueCloseRequested),
      ("confirmed", "github_issue_close_confirmed", .bool .githubIssueCloseConfirmed),
      ("marker", "github_issue_close_marker", .text .githubIssueCloseMarker),
      ("operation_state", "github_issue_close_operation_state",
        .operation .githubIssueCloseOperationState)]),
    ("issue_split", [
      ("requested", "github_issue_split_requested", .bool .githubIssueSplitRequested)]),
    ("issue_merge", [
      ("requested", "github_issue_merge_requested", .bool .githubIssueMergeRequested)]),
    ("pull_request", [
      ("number", "github_pull_request", .int .githubPullRequest),
      ("worktree_state", "pull_request_worktree_state", .text .pullRequestWorktreeState),
      ("branch", "pull_request_branch", .text .pullRequestBranch),
      ("worktree_error", "pull_request_worktree_error", .text .pullRequestWorktreeError),
      ("remote_url", "pull_request_remote_url", .text .pullRequestRemoteUrl),
      ("head_ref", "pull_request_head_ref", .text .pullRequestHeadRef),
      ("head_oid", "pull_request_head_oid", .text .pullRequestHeadOid)]),
    ("fork", [
      ("requested", "fork_requested", .bool .forkRequested),
      ("confirmed", "fork_confirmed", .bool .forkConfirmed),
      ("committed", "fork_committed", .bool .forkCommitted),
      ("exists", "fork_exists", .bool .forkExists),
      ("dispatch_exited", "fork_dispatch_exited", .bool .forkDispatchExited),
      ("committed_at", "fork_committed_at", .float .forkCommittedAt),
      ("operation_state", "fork_operation_state", .operation .forkOperationState),
      ("operation_source", "fork_operation_source", .text .forkOperationSource),
      ("operation_source_url", "fork_operation_source_url", .text .forkOperationSourceUrl),
      ("operation_source_parent", "fork_operation_source_parent",
        .text .forkOperationSourceParent),
      ("operation_source_default_branch", "fork_operation_source_default_branch",
        .text .forkOperationSourceDefaultBranch),
      ("operation_source_private", "fork_operation_source_private",
        .bool .forkOperationSourcePrivate),
      ("operation_login", "fork_operation_login", .text .forkOperationLogin),
      ("operation_target", "fork_operation_target", .text .forkOperationTarget),
      ("repository", "fork_repository", .text .forkRepository),
      ("reconcile_attempts", "fork_reconcile_attempts", .int .forkReconcileAttempts),
      ("absent_observations", "fork_absent_observations", .int .forkAbsentObservations),
      ("next_reconcile_at", "fork_next_reconcile_at", .float .forkNextReconcileAt),
      ("last_reconciled_at", "fork_last_reconciled_at", .float .forkLastReconciledAt),
      ("confirmed_absent_at", "fork_confirmed_absent_at", .float .forkConfirmedAbsentAt),
      ("automatic_reconcile_stopped_at", "fork_automatic_reconcile_stopped_at",
        .float .forkAutomaticReconcileStoppedAt),
      ("retained_at", "fork_retained_at", .float .forkRetainedAt)])]

/-- `_GITHUB_STATE_DERIVED_FIELDS`. -/
def githubStateDerivedFields : List Field :=
  [.int .githubIssueCreatedNumber, .text .githubIssueCreatedUrl, .text .pullRequestBranch]

/-- A flat name of the GitHub state. -/
def githubFlatField (name : String) : Option Field :=
  (githubStateSections.flatMap fun entry ↦ entry.2.map Prod.snd).lookup name

/-- A key of a section of the GitHub state. -/
def githubSectionField (name key : String) : Option Field :=
  ((githubStateSections.lookup name).bind fun fields ↦ fields.lookup key).map Prod.snd

theorem githubSectionField_of_mem : ∀ entry ∈ githubStateSections, ∀ field ∈ entry.2,
    githubSectionField entry.1 field.1 = some field.2.2 := by
  decide +kernel

/-! ### Settings -/

/-- A field and its value, which is `none` for `None`. -/
abbrev Setting := (field : Field) × Option field.type

/-- What a mapping holds under a key, when it holds the key. -/
def Cell.content? {α : Type} : Cell α → Option (Option α)
  | .absent => none
  | .null => some none
  | .val value => some (some value)

namespace Values

/-- `values.setdefault(field, value)` for each setting. -/
def defaults (values : Values) (settings : List Setting) : Values :=
  settings.foldl (fun values setting ↦ values.setDefault setting.1 setting.2) values

/-- The settings of the fields that a record holds. -/
def settings (values : Values) (fields : List Field) : List Setting :=
  fields.filterMap fun field ↦ (values field).content?.map fun value ↦ ⟨field, value⟩

theorem defaults_append (values : Values) (first second : List Setting) :
    values.defaults (first ++ second) = (values.defaults first).defaults second :=
  List.foldl_append

theorem settings_append (values : Values) (first second : List Field) :
    values.settings (first ++ second) = values.settings first ++ values.settings second :=
  List.filterMap_append ..

end Values

/-! ### Nested states -/

/-- What a record holds under the name of an object. -/
inductive Part (α : Type)
  | absent | malformed | object (value : α)

/-- `_object_mapping(values.get(name, {}), name)`. -/
def Part.mapping {α : Type} (part : Part α) (empty : α) (name : String) : Checked α :=
  match part with
  | .absent => .ok empty
  | .malformed => .error (name ++ " must be an object")
  | .object value => .ok value

/-- An entry of a nested state; `field?` is the field that a key names. -/
structure NestedEntry (field? : String → Option Field) where
  key : String
  setting : Setting
  typed : ∀ field, field? key = some field → setting.1 = field

/-- The entries of a nested state, in their order. -/
abbrev NestedState (field? : String → Option Field) := List (NestedEntry field?)

namespace NestedState

variable {field? : String → Option Field}

/-- The keys that name no field. -/
def unsupported (state : NestedState field?) : List String :=
  (state.map NestedEntry.key).filter fun key ↦ (field? key).isNone

/-- The settings of a nested state, whose keys must all be supported. -/
def load (state : NestedState field?) (name : String) : Checked (List Setting) :=
  match state.unsupported with
  | key :: _ => .error (name ++ " contains unsupported field " ++ key)
  | [] => .ok (state.map NestedEntry.setting)

/-- The entries of the fields that a record holds, by their keys. -/
def dump (field? : String → Option Field) (values : Values) (keys : List String) :
    NestedState field? :=
  keys.filterMap fun key ↦
    match hfield : field? key with
    | none => none
    | some field => (values field).content?.map fun value ↦
        ⟨key, ⟨field, value⟩, fun _ hother ↦ Option.some.inj (hfield.symm.trans hother)⟩

theorem unsupported_dump (values : Values) (keys : List String) :
    (dump field? values keys).unsupported = [] := by
  unfold unsupported
  rw [List.filter_eq_nil_iff]
  intro key hkey
  obtain ⟨entry, hentry, rfl⟩ := List.mem_map.mp hkey
  obtain ⟨source, -, hdump⟩ := List.mem_filterMap.mp hentry
  split at hdump
  · exact absurd hdump (by simp)
  · rename_i field hfield
    obtain ⟨value, -, rfl⟩ := Option.map_eq_some_iff.mp hdump
    rw [hfield]
    exact Bool.false_ne_true

theorem setting_dump (values : Values) (keys : List String) :
    (dump field? values keys).map NestedEntry.setting = values.settings (keys.filterMap field?) := by
  unfold dump Values.settings
  rw [List.map_filterMap, List.filterMap_filterMap]
  refine List.filterMap_congr fun key _ ↦ ?_
  split
  · rename_i hfield
    rw [hfield]
    rfl
  · rename_i field hfield
    simp only [hfield, Option.map_map, Option.bind_some]
    rfl

/-- What was dumped is loaded. -/
theorem load_dump (values : Values) (keys : List String) (name : String) :
    (dump field? values keys).load name = .ok (values.settings (keys.filterMap field?)) := by
  unfold load
  rw [unsupported_dump, setting_dump]

end NestedState

end VoiceHarness
