import VoiceHarness.Json

/-!
The closed vocabularies of a job record: the `StrEnum` classes of `cursor/model.py`,
`cursor/workflow.py`, `cursor/operations.py` and `job_lifecycle.py`, each with the text it is stored
as, and the state labels that the operation fields share. The module also has the few functions of
Python's text library that the job model applies to names and texts.
-/

set_option autoImplicit false
set_option relaxedAutoImplicit false

namespace VoiceHarness

/-- The result of a function that may raise; the error is the message of the exception. -/
abbrev Checked (α : Type) := Except String α

/-- A sequence succeeds when its first step does and the rest succeeds on the value of it. -/
theorem checked_bind_eq_ok_iff {α β : Type} {first : Checked α} {rest : α → Checked β} {result : β} :
    first >>= rest = .ok result ↔ ∃ value, first = .ok value ∧ rest value = .ok result := by
  cases first with
  | error message => simp [bind, Except.bind]
  | ok value => simp [bind, Except.bind]

theorem checked_toOption_eq_some_iff {α : Type} {value : Checked α} {result : α} :
    value.toOption = some result ↔ value = .ok result := by
  rcases value with message | answer <;> simp [Except.toOption]

theorem checked_map_eq_ok_iff {α β : Type} {first : Checked α} {f : α → β} {result : β} :
    f <$> first = .ok result ↔ ∃ value, first = .ok value ∧ f value = result := by
  cases first with
  | error message => simp [Functor.map, Except.map]
  | ok value => simp [Functor.map, Except.map]

/-- A guard of the source: the condition under which it raises, and its message. -/
abbrev Guard := Bool × String

/-- The guards in order; the first one that holds raises. -/
def runGuards (guards : List Guard) : Checked Unit :=
  match guards.find? Prod.fst with
  | some guard => .error guard.2
  | none => .ok ()

theorem runGuards_eq_ok_iff {guards : List Guard} :
    runGuards guards = .ok () ↔ ∀ guard ∈ guards, guard.1 = false := by
  unfold runGuards
  split
  · next guard hfind =>
    have hmem := List.mem_of_find?_eq_some hfind
    have htrue : guard.1 = true := by simpa using List.find?_some hfind
    refine ⟨fun h ↦ by simp at h, fun h ↦ ?_⟩
    exact absurd (h guard hmem) (by simp [htrue])
  · next hfind =>
    refine ⟨fun _ guard hguard ↦ ?_, fun _ ↦ rfl⟩
    simpa using List.find?_eq_none.mp hfind guard hguard

/-- The characters `str.strip()` removes. -/
def isSpace (c : Char) : Bool :=
  c.val ∈ [0x20, 0x85, 0xa0, 0x1680, 0x2028, 0x2029, 0x202f, 0x205f, 0x3000] ||
    (0x9 ≤ c.val && c.val ≤ 0xd) || (0x1c ≤ c.val && c.val ≤ 0x1f) ||
    (0x2000 ≤ c.val && c.val ≤ 0x200a)

/-- `not text.strip()`. -/
def isBlank (text : String) : Bool := text.toList.all isSpace

/-- `bool(value)` of an optional text. -/
def truthy (text : Option String) : Bool := text.any (· ≠ "")

/-- `value or default` of an optional text. -/
def orElse (text : Option String) (default : String) : String :=
  if truthy text then text.getD default else default

/-- The functions on text the job model takes from outside it: `str.casefold`, the exact GitHub
issue URL reader, which answers the `owner/name` and the number, and the hex of a `uuid5` in the URL
namespace. -/
class TextLibrary where
  casefold : String → String
  githubIssueFromUrl : String → Option (String × ℤ)
  uuid5 : String → String

/-- A text library that is right on ASCII names and on records without issue URLs. -/
@[reducible] def asciiTextLibrary : TextLibrary where
  casefold text := text.map Char.toLower
  githubIssueFromUrl _ := none
  uuid5 name := name

inductive JobStatus
  | queued | routing | running | reconciling | awaitingUser | blocked | completed | failed
  | cancelled
  deriving DecidableEq, Repr

namespace JobStatus

def value : JobStatus → String
  | queued => "queued"
  | routing => "routing"
  | running => "running"
  | reconciling => "reconciling"
  | awaitingUser => "awaiting_user"
  | blocked => "blocked"
  | completed => "completed"
  | failed => "failed"
  | cancelled => "cancelled"

/-- `ACTIVE_STATUSES`. -/
def isActive : JobStatus → Bool
  | queued | routing | running | reconciling | awaitingUser | blocked => true
  | completed | failed | cancelled => false

/-- `WORKER_STATUSES`. -/
def isWorker : JobStatus → Bool
  | routing | running | reconciling => true
  | _ => false

/-- `TERMINAL_STATUSES`. -/
def isTerminal : JobStatus → Bool
  | completed | failed | cancelled => true
  | _ => false

/-- `_LEGAL_EDGES`. -/
def legalEdges : JobStatus → List JobStatus
  | queued => [routing, reconciling, failed, cancelled]
  | routing => [queued, running, reconciling, awaitingUser, failed, cancelled]
  | running => [queued, awaitingUser, blocked, reconciling, completed, failed, cancelled]
  | reconciling => [queued, awaitingUser, blocked, completed, failed, cancelled]
  | awaitingUser => [queued, reconciling, completed, cancelled]
  | blocked => [queued, reconciling, cancelled]
  | completed | failed | cancelled => []

end JobStatus

/-- The labels of the operation fields. Each field allows the subset the source lists for it. -/
inductive OperationLabel
  | none | planned | submitting | submitted | dispatching | ready | created | remoteCreated
  | cloneVerified | merged | cloned | exists | observed | resolved | retained | quarantined
  | ambiguous | failed | failedObserving | confirmedAbsent | manualRequired
  deriving DecidableEq, Repr

def OperationLabel.value : OperationLabel → String
  | none => "none"
  | planned => "planned"
  | submitting => "submitting"
  | submitted => "submitted"
  | dispatching => "dispatching"
  | ready => "ready"
  | created => "created"
  | remoteCreated => "remote_created"
  | cloneVerified => "clone_verified"
  | merged => "merged"
  | cloned => "cloned"
  | «exists» => "exists"
  | observed => "observed"
  | resolved => "resolved"
  | retained => "retained"
  | quarantined => "quarantined"
  | ambiguous => "ambiguous"
  | failed => "failed"
  | failedObserving => "failed_observing"
  | confirmedAbsent => "confirmed_absent"
  | manualRequired => "manual_required"

inductive HarnessKind
  | cursor | opencode
  deriving DecidableEq, Repr

def HarnessKind.value : HarnessKind → String
  | cursor => "cursor"
  | opencode => "opencode"

inductive WorkflowTier
  | simple | medium | highRisk
  deriving DecidableEq, Repr

def WorkflowTier.value : WorkflowTier → String
  | simple => "simple"
  | medium => "medium"
  | highRisk => "high-risk"

/-- `_TIER_ORDER`. -/
def WorkflowTier.order : WorkflowTier → ℕ
  | simple => 0
  | medium => 1
  | highRisk => 2

inductive WorkflowPhase
  | classifying | planning | reviewing | revising | implementing | finished
  deriving DecidableEq, Repr

namespace WorkflowPhase

def value : WorkflowPhase → String
  | classifying => "classifying"
  | planning => "planning"
  | reviewing => "reviewing"
  | revising => "revising"
  | implementing => "implementing"
  | finished => "finished"

/-- `_LEGAL_PHASE_EDGES`. -/
def legalEdges : WorkflowPhase → List WorkflowPhase
  | classifying => [planning, implementing]
  | planning => [reviewing]
  | reviewing => [revising, implementing]
  | revising => [reviewing]
  | implementing => [planning, finished]
  | finished => []

end WorkflowPhase

inductive WorkflowParticipant
  | planner | reviewer | implementer
  deriving DecidableEq, Repr

def WorkflowParticipant.value : WorkflowParticipant → String
  | planner => "planner"
  | reviewer => "reviewer"
  | implementer => "implementer"

inductive ReviewDecision
  | approve | revise
  deriving DecidableEq, Repr

def ReviewDecision.value : ReviewDecision → String
  | approve => "approve"
  | revise => "revise"

inductive ReviewApprovalSource
  | reviewer | user
  deriving DecidableEq, Repr

def ReviewApprovalSource.value : ReviewApprovalSource → String
  | reviewer => "reviewer"
  | user => "user"

inductive PlanApprovalState
  | none | boundary | awaiting | approved | observed | rejected
  deriving DecidableEq, Repr

def PlanApprovalState.value : PlanApprovalState → String
  | none => "none"
  | boundary => "boundary"
  | awaiting => "awaiting"
  | approved => "approved"
  | observed => "observed"
  | rejected => "rejected"

inductive PlanApprovalSource
  | explicit | auto | legacy
  deriving DecidableEq, Repr

def PlanApprovalSource.value : PlanApprovalSource → String
  | explicit => "explicit"
  | auto => "auto"
  | legacy => "legacy"

inductive ParticipantAdmissionState
  | waiting | held | released
  deriving DecidableEq, Repr

def ParticipantAdmissionState.value : ParticipantAdmissionState → String
  | waiting => "waiting"
  | held => "held"
  | released => "released"

inductive SessionControlMode
  | automated | userOwned
  deriving DecidableEq, Repr

def SessionControlMode.value : SessionControlMode → String
  | automated => "automated"
  | userOwned => "user_owned"

inductive AnnouncementAck
  | pending | spoken | desktop | deferred | dismissed
  deriving DecidableEq, Repr

def AnnouncementAck.value : AnnouncementAck → String
  | pending => "pending"
  | spoken => "spoken"
  | desktop => "desktop"
  | deferred => "deferred"
  | dismissed => "dismissed"

/-! ### Stored texts -/

/-- A vocabulary whose labels are stored as texts. -/
class TextLabel (L : Type) [DecidableEq L] where
  text : L → String
  labels : List L
  mem_labels : ∀ label, label ∈ labels
  find_text : ∀ label ∈ labels, (labels.find? fun other ↦ text other = text label) = some label

namespace TextLabel

variable {L : Type} [DecidableEq L] [TextLabel L]

/-- The label a stored text stands for. -/
def ofText? (stored : String) : Option L := (labels : List L).find? fun label ↦ text label = stored

@[simp] theorem ofText?_text (label : L) : ofText? (text label) = some label :=
  find_text label (mem_labels label)

end TextLabel

instance : TextLabel JobStatus where
  text := JobStatus.value
  labels := [.queued, .routing, .running, .reconciling, .awaitingUser, .blocked, .completed,
    .failed, .cancelled]
  mem_labels label := by cases label <;> decide
  find_text := by decide

instance : TextLabel OperationLabel where
  text := OperationLabel.value
  labels := [.none, .planned, .submitting, .submitted, .dispatching, .ready, .created,
    .remoteCreated, .cloneVerified, .merged, .cloned, .exists, .observed, .resolved, .retained,
    .quarantined, .ambiguous, .failed, .failedObserving, .confirmedAbsent, .manualRequired]
  mem_labels label := by cases label <;> decide
  find_text := by decide

instance : TextLabel HarnessKind where
  text := HarnessKind.value
  labels := [.cursor, .opencode]
  mem_labels label := by cases label <;> decide
  find_text := by decide

instance : TextLabel WorkflowTier where
  text := WorkflowTier.value
  labels := [.simple, .medium, .highRisk]
  mem_labels label := by cases label <;> decide
  find_text := by decide

instance : TextLabel WorkflowPhase where
  text := WorkflowPhase.value
  labels := [.classifying, .planning, .reviewing, .revising, .implementing, .finished]
  mem_labels label := by cases label <;> decide
  find_text := by decide

instance : TextLabel WorkflowParticipant where
  text := WorkflowParticipant.value
  labels := [.planner, .reviewer, .implementer]
  mem_labels label := by cases label <;> decide
  find_text := by decide

instance : TextLabel ReviewDecision where
  text := ReviewDecision.value
  labels := [.approve, .revise]
  mem_labels label := by cases label <;> decide
  find_text := by decide

instance : TextLabel ReviewApprovalSource where
  text := ReviewApprovalSource.value
  labels := [.reviewer, .user]
  mem_labels label := by cases label <;> decide
  find_text := by decide

instance : TextLabel PlanApprovalState where
  text := PlanApprovalState.value
  labels := [.none, .boundary, .awaiting, .approved, .observed, .rejected]
  mem_labels label := by cases label <;> decide
  find_text := by decide

instance : TextLabel PlanApprovalSource where
  text := PlanApprovalSource.value
  labels := [.explicit, .auto, .legacy]
  mem_labels label := by cases label <;> decide
  find_text := by decide

instance : TextLabel ParticipantAdmissionState where
  text := ParticipantAdmissionState.value
  labels := [.waiting, .held, .released]
  mem_labels label := by cases label <;> decide
  find_text := by decide

instance : TextLabel SessionControlMode where
  text := SessionControlMode.value
  labels := [.automated, .userOwned]
  mem_labels label := by cases label <;> decide
  find_text := by decide

instance : TextLabel AnnouncementAck where
  text := AnnouncementAck.value
  labels := [.pending, .spoken, .desktop, .deferred, .dismissed]
  mem_labels label := by cases label <;> decide
  find_text := by decide

end VoiceHarness
