import VoiceHarness.Job.Observation
import Mathlib.Algebra.Order.Ring.Rat

/-!
# Observing an operation until it settles

`record_operation_observation` is fed observations while its operation is uncertain. Every call on a
sound job is accepted: it moves the operation by a legal transition, or counts it and schedules the
next observation. The exception is the power of two of the delay, which is computed before the delay
is capped (`observe_overflow`), and so decides whether the operation converges
(`convergesSafely_iff`).
-/

set_option autoImplicit false
set_option relaxedAutoImplicit false

namespace VoiceHarness

namespace AgentJob

variable {job : AgentJob} {operation : ObservedOperation} {state : OperationLabel}
  {departure : Departure}

/-! ### A call -/

/-- `record_operation_observation` with the states it is called with. -/
def observe [TextLibrary] (job : AgentJob) (operation : ObservedOperation) (limits : ReconcileLimits)
    (observation : Observation) : Checked (Option AgentJob) :=
  job.recordOperationObservation operation operation.uncertainStates observation.now observation.absent
    observation.token limits

/-- The state of the operation is one of those that are observed. -/
def IsUncertain (job : AgentJob) (operation : ObservedOperation) : Prop :=
  ∃ state ∈ operation.uncertainStates, job.values.operation operation.manual.field = some state

/-- The attempts, and the absent answers, that a job has counted. -/
def attempts (job : AgentJob) (operation : ObservedOperation) : ℤ :=
  job.values.count operation.attemptsField

def absences (job : AgentJob) (operation : ObservedOperation) : ℤ :=
  job.values.count operation.absentField

/-- The absent answers after an observation. -/
def absencesAfter (job : AgentJob) (operation : ObservedOperation) (observation : Observation) : ℤ :=
  job.absences operation + if observation.absent then 1 else 0

section

variable [TextLibrary] {limits : ReconcileLimits} {observation : Observation}

/-- What a call does to an uncertain operation. -/
theorem observe_eq (hstate : job.values.operation operation.manual.field = some state)
    (huncertain : state ∈ operation.uncertainStates) (limits : ReconcileLimits)
    (observation : Observation) :
    job.observe operation limits observation = (do
      let conclusion := job.conclude operation state (job.attempts operation + 1)
        (job.absencesAfter operation observation) limits
      let changes ← job.conclusionChanges operation observation.now observation.token
        (job.attempts operation + 1) limits conclusion
      some <$> job.evolveRecovery
        (counters operation observation (job.attempts operation + 1)
          (job.absencesAfter operation observation) ++ changes)
        observation.now none []
        (conclusion = .requireManual && job.values.terminalIntentStatus.isNone)) := by
  unfold observe recordOperationObservation
  rw [hstate]
  simp only [huncertain, not_true_eq_false, if_false]
  rfl

omit [TextLibrary] in
/-- The counts after a call. -/
theorem counts_of_counters {next : AgentJob} {count absent : ℤ}
    (hcells : ∀ change ∈ counters operation observation count absent, next.values change.1 = change.2)
    (hkept : observation.absent = false →
      next.values (.int operation.absentField) = job.values (.int operation.absentField))
    (habsent : absent = job.absencesAfter operation observation) :
    next.attempts operation = count ∧
      next.absences operation = job.absencesAfter operation observation := by
  have hput : ∀ {field : Field} {value : Option field.type},
      Change.put field value ∈ counters operation observation count absent →
        next.values.get field = value := Values.get_of_put hcells
  have hcount : next.values.int operation.attemptsField = some count :=
    hput (by simp [counters])
  constructor
  · unfold attempts Values.count
    rw [hcount]
    rfl
  · cases hflag : observation.absent with
    | true =>
      have hread : next.values.int operation.absentField = some absent :=
        hput (by simp [counters, hflag])
      unfold absences Values.count
      rw [hread, habsent]
      rfl
    | false =>
      unfold absencesAfter absences Values.count Values.int Values.get
      rw [hkept hflag, hflag]
      exact (Int.add_zero _).symm

omit [TextLibrary] in
/-- An answer that is not absent leaves the count of the absent ones alone. -/
theorem absentField_notMem {count absent : ℤ} {changes : List Change} {cleanup : CleanupState}
    (hnames : changes.map Sigma.fst ∈
      match operation with
      | .worktree => [checkoutNames]
      | .agent => [sessionNames.take 5, sessionNames]
      | .fork => [[.operation .forkOperationState]])
    (hflag : observation.absent = false) :
    Field.int operation.absentField ∉
      (job.departing operation departure observation count absent changes cleanup).map Sigma.fst := by
  obtain ⟨dropped, hdropped, hfirst, hsecond⟩ :=
    departureChanges_names job operation observation departure
  unfold departing
  simp only [List.map_append, counters_names, cleanup_names, hfirst, hsecond, hflag]
  generalize changes.map Sigma.fst = names at hnames
  clear hfirst hsecond hflag
  cases operation with
  | worktree =>
    obtain rfl := List.mem_singleton.mp hnames
    cases departure <;> simp only [departureNames] <;> decide
  | fork =>
    obtain rfl := List.mem_singleton.mp hnames
    cases departure <;> simp only [departureNames] <;> decide
  | agent =>
    simp only [List.mem_cons, List.not_mem_nil, or_false] at hnames hdropped
    cases departure with
    | manual =>
      simp only [departureNames]
      rcases hnames with rfl | rfl <;> decide
    | absent =>
      rcases hnames with rfl | rfl <;> rcases hdropped with rfl | rfl | rfl | rfl <;> decide

omit [TextLibrary] in
/-- A departing operation has its changes. -/
theorem exists_observedState (hstate : job.values.operation operation.manual.field = some state)
    (huncertain : state ∈ operation.uncertainStates) (departure : Departure) :
    ∃ changes, job.observedState operation departure.checkout departure.session departure.label =
      .ok changes := by
  have hobserved := observedState_eq departure hstate huncertain
  cases operation with
  | worktree =>
    obtain ⟨checkout, -, -, heq⟩ := hobserved
    exact ⟨_, heq⟩
  | agent =>
    obtain ⟨session, -, -, heq⟩ := hobserved
    exact ⟨_, heq⟩
  | fork => exact ⟨_, hobserved⟩

omit [TextLibrary] in
/-- A departure schedules no further observation. -/
theorem nextReconcile_departureChanges (job : AgentJob) (operation : ObservedOperation)
    (observation : Observation) (departure : Departure) :
    ⟨.float operation.nextReconcileField, .null⟩ ∈
      (job.departureChanges operation observation departure).1 := by
  cases departure <;> simp [departureChanges]

/-- A call that concludes ends the uncertainty of the operation. -/
theorem observe_departing (hsound : job.Sound)
    (hstate : job.values.operation operation.manual.field = some state)
    (huncertain : state ∈ operation.uncertainStates)
    (hconclude : job.conclude operation state (job.attempts operation + 1)
      (job.absencesAfter operation observation) limits = departure.conclusion) :
    ∃ next, job.observe operation limits observation = .ok (some next) ∧ next.Sound ∧
      next.values.operation operation.manual.field = some departure.label ∧
      next.attempts operation = job.attempts operation + 1 ∧
      next.absences operation = job.absencesAfter operation observation ∧
      next.values.bool .forkCommitted = job.values.bool .forkCommitted ∧
      next.values.float operation.nextReconcileField = none := by
  obtain ⟨changes, hchanges⟩ := exists_observedState hstate huncertain departure
  obtain ⟨cleanup, hcleanup⟩ := exists_cleanup job
  obtain ⟨hobserved, hlabel⟩ := observed_departing hsound hstate huncertain hchanges hcleanup
    (Eq.refl (job.recoveredRecord
      (job.departing operation departure observation (job.attempts operation + 1)
        (job.absencesAfter operation observation) changes cleanup) observation.now none []
      (departure.conclusion = .requireManual && job.values.terminalIntentStatus.isNone)))
  obtain ⟨next, hnext, hvalues⟩ := evolveRecovery_observed hsound hobserved
  have hcells := (recoveredRecord_departing hsound.paired hstate huncertain hchanges hvalues).2.1
  have hobserves := observes_departing observation (job.attempts operation + 1)
    (job.absencesAfter operation observation) cleanup hstate huncertain hchanges
  have hcounters : ∀ change ∈ counters operation observation (job.attempts operation + 1)
      (job.absencesAfter operation observation), next.values change.1 = change.2 :=
    fun change hchange ↦ hcells change (List.mem_append_left _ hchange)
  have hkept : observation.absent = false →
      next.values (.int operation.absentField) = job.values (.int operation.absentField) := by
    intro hflag
    have hown : Field.int operation.absentField ∉ Values.recoveredFields ∧
        Field.int operation.absentField ∉ .float .updatedAt :: Values.deliveryFields := by
      cases operation <;> decide
    rw [hvalues]
    exact recoveredRecord_other hsound.paired hobserves
      (absentField_notMem (observedState_names hstate huncertain hchanges) hflag) hown.1 hown.2
  have hcounts := counts_of_counters hcounters hkept rfl
  refine ⟨next, ?_, sound_of_evolveRecovery hnext, ?_, hcounts.1, hcounts.2, ?_, ?_⟩
  · rw [observe_eq hstate huncertain]
    simp only [hconclude, conclusionChanges_departure hchanges hcleanup, bind, Except.bind]
    exact congrArg (some <$> ·) hnext
  · rw [hvalues]
    exact hlabel
  · unfold Values.bool Values.get
    rw [hvalues, hobserved.kept (.bool .forkCommitted) rfl]
  · have hcell := hcells _ (List.mem_append_right _ (List.mem_append_left _ (List.mem_append_left _
      (List.mem_append_right _ (nextReconcile_departureChanges job operation observation departure)))))
    unfold Values.float Values.get
    rw [hcell]
    rfl

/-- A call that does not conclude counts the observation and schedules the next one. -/
theorem observe_retrying (hsound : job.Sound)
    (hstate : job.values.operation operation.manual.field = some state)
    (huncertain : state ∈ operation.uncertainStates)
    (hconclude : job.conclude operation state (job.attempts operation + 1)
      (job.absencesAfter operation observation) limits = .retry)
    (hfinite : job.attempts operation < 1024) :
    ∃ next, job.observe operation limits observation = .ok (some next) ∧ next.Sound ∧
      next.values.operation operation.manual.field = some state ∧
      next.attempts operation = job.attempts operation + 1 ∧
      next.absences operation = job.absencesAfter operation observation ∧
      next.values.bool .forkCommitted = job.values.bool .forkCommitted ∧
      ∃ delay, next.values.float operation.nextReconcileField =
        some (observation.now + min limits.maxSeconds delay) := by
  have hpower : ¬ 1024 ≤ job.attempts operation + 1 - 1 := by omega
  set delay := limits.baseSeconds * 2 ^ (job.attempts operation + 1 - 1) with hdelay
  set nextAt := observation.now + min limits.maxSeconds delay with hnextAt
  obtain ⟨hobserved, hlabel⟩ := observed_retrying hsound (Eq.refl (job.recoveredRecord
    (retrying operation observation (job.attempts operation + 1)
      (job.absencesAfter operation observation) nextAt) observation.now none [] false))
  obtain ⟨next, hnext, hvalues⟩ := evolveRecovery_observed hsound hobserved
  have hobserves := observes_retrying job operation observation (job.attempts operation + 1)
    (job.absencesAfter operation observation) nextAt
  have hcells : ∀ change ∈ retrying operation observation (job.attempts operation + 1)
      (job.absencesAfter operation observation) nextAt, next.values change.1 = change.2 := by
    intro change hchange
    rw [hvalues]
    exact recoveredRecord_change hsound.paired hobserves hchange
  have hcounters : ∀ change ∈ counters operation observation (job.attempts operation + 1)
      (job.absencesAfter operation observation), next.values change.1 = change.2 :=
    fun change hchange ↦ hcells change (List.mem_append_left _ hchange)
  have hkept : observation.absent = false →
      next.values (.int operation.absentField) = job.values (.int operation.absentField) := by
    intro hflag
    have hown : Field.int operation.absentField ∉ Values.recoveredFields ∧
        Field.int operation.absentField ∉ .float .updatedAt :: Values.deliveryFields ∧
          Field.int operation.absentField ∉ counterNames operation false ++
            [Field.float operation.nextReconcileField] := by
      cases operation <;> decide
    rw [hvalues]
    refine recoveredRecord_other hsound.paired hobserves ?_ hown.1 hown.2.1
    rw [retrying_names, hflag]
    exact hown.2.2
  have hcounts := counts_of_counters hcounters hkept rfl
  refine ⟨next, ?_, sound_of_evolveRecovery hnext, ?_, hcounts.1, hcounts.2, ?_, delay, ?_⟩
  · rw [observe_eq hstate huncertain]
    simp only [hconclude, conclusionChanges, ReconcileLimits.backoff, hpower, if_false, bind, Except.bind]
    exact congrArg (some <$> ·) hnext
  · rw [hvalues, hlabel, hstate]
  · unfold Values.bool Values.get
    rw [hvalues, hobserved.kept (.bool .forkCommitted) rfl]
  · have hput : Change.put (.float operation.nextReconcileField) (some nextAt) ∈
        retrying operation observation (job.attempts operation + 1)
          (job.absencesAfter operation observation) nextAt :=
      List.mem_append_right _ List.mem_cons_self
    exact Values.get_of_put hcells hput

/-- A call that does not conclude is refused where the power of its delay is no float. -/
theorem observe_overflow (hstate : job.values.operation operation.manual.field = some state)
    (huncertain : state ∈ operation.uncertainStates)
    (hconclude : job.conclude operation state (job.attempts operation + 1)
      (job.absencesAfter operation observation) limits = .retry)
    (hoverflow : 1024 ≤ job.attempts operation) :
    job.observe operation limits observation = .error "int too large to convert to float" := by
  have hpower : 1024 ≤ job.attempts operation + 1 - 1 := by omega
  rw [observe_eq hstate huncertain]
  simp only [hconclude, conclusionChanges, ReconcileLimits.backoff, hpower, if_true, bind, Except.bind]

/-- What a call that is not skipped leaves behind. -/
theorem observe_some (hsound : job.Sound) {next : AgentJob}
    (h : job.observe operation limits observation = .ok (some next)) :
    ∃ state ∈ operation.uncertainStates, job.values.operation operation.manual.field = some state ∧
      next.Sound ∧ next.attempts operation = job.attempts operation + 1 ∧
      next.absences operation = job.absencesAfter operation observation ∧
      next.values.bool .forkCommitted = job.values.bool .forkCommitted ∧
      let conclusion := job.conclude operation state (job.attempts operation + 1)
        (job.absencesAfter operation observation) limits
      ((∃ departure : Departure, conclusion = departure.conclusion ∧
          next.values.operation operation.manual.field = some departure.label ∧
          next.values.float operation.nextReconcileField = none) ∨
        conclusion = .retry ∧ next.values.operation operation.manual.field = some state ∧
          ∃ delay, next.values.float operation.nextReconcileField =
            some (observation.now + min limits.maxSeconds delay)) := by
  obtain ⟨state, hstate, huncertain, -⟩ := recordOperationObservation_ok h
  refine ⟨state, huncertain, hstate, ?_⟩
  have hdeparts : ∀ departure : Departure,
      job.conclude operation state (job.attempts operation + 1)
        (job.absencesAfter operation observation) limits = departure.conclusion → _ :=
    fun departure hconclude ↦ observe_departing hsound hstate huncertain hconclude
  rcases hconclude : job.conclude operation state (job.attempts operation + 1)
    (job.absencesAfter operation observation) limits with _ | _ | _
  · obtain ⟨other, hother, hnext, hlabel, hattempts, habsences, hcommitted, hfree⟩ :=
      hdeparts .absent hconclude
    obtain rfl := Option.some.inj (Except.ok.inj (h.symm.trans hother))
    exact ⟨hnext, hattempts, habsences, hcommitted, .inl ⟨.absent, rfl, hlabel, hfree⟩⟩
  · obtain ⟨other, hother, hnext, hlabel, hattempts, habsences, hcommitted, hfree⟩ :=
      hdeparts .manual hconclude
    obtain rfl := Option.some.inj (Except.ok.inj (h.symm.trans hother))
    exact ⟨hnext, hattempts, habsences, hcommitted, .inl ⟨.manual, rfl, hlabel, hfree⟩⟩
  · by_cases hfinite : job.attempts operation < 1024
    · obtain ⟨other, hother, hnext, hlabel, hattempts, habsences, hcommitted, hdelay⟩ :=
        observe_retrying hsound hstate huncertain hconclude hfinite
      obtain rfl := Option.some.inj (Except.ok.inj (h.symm.trans hother))
      exact ⟨hnext, hattempts, habsences, hcommitted, .inr ⟨rfl, hlabel, hdelay⟩⟩
    · rw [observe_overflow hstate huncertain hconclude (Int.not_lt.mp hfinite)] at h
      cases h

end

/-! ### Convergence -/

section

variable [TextLibrary]

/-- The job after the calls that are not skipped. -/
inductive Fed (operation : ObservedOperation) (limits : ReconcileLimits) (job : AgentJob) :
    List Observation → AgentJob → Prop
  | start : Fed operation limits job [] job
  | call {observations : List Observation} {current next : AgentJob} {observation : Observation}
      (past : Fed operation limits job observations current)
      (observed : current.observe operation limits observation = .ok (some next)) :
      Fed operation limits job (observations ++ [observation]) next

/-- The observations of an operation converge safely. -/
structure ConvergesSafely (operation : ObservedOperation) (limits : ReconcileLimits) (job : AgentJob) :
    Prop where
  /-- No call on an uncertain operation is refused. -/
  accepted : ∀ observations current, Fed operation limits job observations current →
    current.IsUncertain operation → ∀ observation,
      ∃ next, current.observe operation limits observation = .ok (some next)
  /-- A call counts one attempt, and schedules nothing beyond the longest delay. -/
  scheduled : ∀ observations current, Fed operation limits job observations current →
    ∀ observation next, current.observe operation limits observation = .ok (some next) →
      next.attempts operation = current.attempts operation + 1 ∧
        ∀ nextAt, next.values.float operation.nextReconcileField = some nextAt →
          nextAt ≤ observation.now + limits.maxSeconds
  /-- The operation is uncertain only before the last attempt. -/
  settled : ∀ observations current, Fed operation limits job observations current →
    current.IsUncertain operation → (observations.length : ℤ) < limits.uncertainMaxAttempts
  /-- The counts are those of the calls. -/
  counted : ∀ observations current, Fed operation limits job observations current →
    current.attempts operation = job.attempts operation + observations.length ∧
      current.absences operation =
        job.absences operation + observations.countP Observation.absent
  /-- Only a failed operation that was absent often enough is confirmed absent, and no committed
  fork. -/
  confirmed : ∀ observations current, Fed operation limits job observations current →
    ∀ observation next, current.observe operation limits observation = .ok (some next) →
      next.values.operation operation.manual.field = some .confirmedAbsent →
        current.values.operation operation.manual.field = some .failedObserving ∧
          limits.failedMaxAttempts ≤ next.absences operation ∧
          ¬ (operation = .fork ∧ job.values.bool .forkCommitted = true)

/-- The operation failed and was absent often enough before the first call. -/
def ConfirmsAtOnce (job : AgentJob) (operation : ObservedOperation) (limits : ReconcileLimits) : Prop :=
  job.values.operation operation.manual.field = some .failedObserving ∧
    limits.failedMaxAttempts ≤ job.absences operation ∧
      ¬ (operation = .fork ∧ job.values.bool .forkCommitted = true)

variable {limits : ReconcileLimits} {observations : List Observation} {current : AgentJob}

/-- What holds of every job the calls reach. -/
structure Followed (operation : ObservedOperation) (limits : ReconcileLimits) (job : AgentJob)
    (observations : List Observation) (current : AgentJob) : Prop where
  sound : current.Sound
  attempts : current.attempts operation = job.attempts operation + observations.length
  absences : current.absences operation =
    job.absences operation + observations.countP Observation.absent
  committed : current.values.bool .forkCommitted = job.values.bool .forkCommitted
  first : observations = [] → current = job
  uncertain : observations ≠ [] → job.IsUncertain operation
  retried : observations ≠ [] → current.IsUncertain operation →
    job.attempts operation + observations.length < limits.uncertainMaxAttempts ∧
      ¬ job.ConfirmsAtOnce operation limits

omit [TextLibrary] in
/-- A retry is below the limit, and the operation is not confirmed absent. -/
theorem conclude_retry {count absent : ℤ}
    (h : current.conclude operation state count absent limits = .retry) :
    count < limits.uncertainMaxAttempts ∧
      ¬ (state = .failedObserving ∧ limits.failedMaxAttempts ≤ absent ∧
        ¬ (operation = .fork ∧ current.values.bool .forkCommitted = true)) := by
  unfold conclude at h
  split_ifs at h with habsent hlimit
  exact ⟨Int.not_le.mp hlimit, habsent⟩

theorem Fed.followed (hsound : job.Sound) (h : Fed operation limits job observations current) :
    Followed operation limits job observations current := by
  induction h with
  | start => exact ⟨hsound, by simp, by simp, rfl, fun _ ↦ rfl, fun h ↦ absurd rfl h, fun h ↦ absurd rfl h⟩
  | @call observations current next observation _ observed ih =>
    obtain ⟨state, huncertain, hstate, hnext, hattempts, habsences, hcommitted, hended⟩ :=
      observe_some ih.sound observed
    have hstart : job.IsUncertain operation := by
      by_cases hempty : observations = []
      · rw [← ih.first hempty]
        exact ⟨state, huncertain, hstate⟩
      · exact ih.uncertain hempty
    refine ⟨hnext, ?_, ?_, hcommitted.trans ih.committed, by simp, fun _ ↦ hstart, ?_⟩
    · rw [hattempts, ih.attempts, List.length_append, List.length_singleton]
      push_cast
      omega
    · rw [habsences, absencesAfter, ih.absences, List.countP_append, List.countP_singleton]
      split_ifs <;>
        · push_cast
          omega
    · intro _ hstill
      rcases hended with ⟨departure, -, hlabel, -⟩ | ⟨hretry, hlabel, -⟩
      · obtain ⟨other, hother, hread⟩ := hstill
        rw [hlabel] at hread
        obtain rfl := Option.some.inj hread
        exact absurd hother (departure.notMem_uncertainStates operation)
      · obtain ⟨hlimit, hopen⟩ := conclude_retry hretry
        rw [ih.attempts] at hlimit
        refine ⟨?_, ?_⟩
        · rw [List.length_append, List.length_singleton]
          push_cast
          omega
        · by_cases hempty : observations = []
          · obtain rfl := ih.first hempty
            rintro ⟨hfailed, henough, hfork⟩
            refine hopen ⟨Option.some.inj (hstate.symm.trans hfailed), ?_, hfork⟩
            unfold absencesAfter
            split_ifs <;> omega
          · exact (ih.retried hempty ⟨state, huncertain, hstate⟩).2

/-- No power of two on the way to the last attempt is too large for a float. -/
def StaysFinite (job : AgentJob) (operation : ObservedOperation) (limits : ReconcileLimits) : Prop :=
  0 ≤ job.attempts operation ∧
    limits.uncertainMaxAttempts ≤ max (job.attempts operation + 1) 1025

theorem convergesSafely_of (hsound : job.Sound) (hpositive : 0 < limits.uncertainMaxAttempts)
    (hcondition : job.IsUncertain operation → ¬ job.ConfirmsAtOnce operation limits →
      job.StaysFinite operation limits) : job.ConvergesSafely operation limits := by
  constructor
  · rintro observations current hfed ⟨state, huncertain, hstate⟩ observation
    have hfollowed := hfed.followed hsound
    rcases hconclude : current.conclude operation state (current.attempts operation + 1)
      (current.absencesAfter operation observation) limits with _ | _ | _
    · obtain ⟨next, hnext, -⟩ := observe_departing hfollowed.sound hstate huncertain
        (show _ = Departure.absent.conclusion from hconclude)
      exact ⟨next, hnext⟩
    · obtain ⟨next, hnext, -⟩ := observe_departing hfollowed.sound hstate huncertain
        (show _ = Departure.manual.conclusion from hconclude)
      exact ⟨next, hnext⟩
    · obtain ⟨hlimit, hopen⟩ := conclude_retry hconclude
      have hstart : job.IsUncertain operation ∧ ¬ job.ConfirmsAtOnce operation limits := by
        by_cases hempty : observations = []
        · obtain rfl := hfollowed.first hempty
          refine ⟨⟨state, huncertain, hstate⟩, ?_⟩
          rintro ⟨hfailed, henough, hfork⟩
          refine hopen ⟨Option.some.inj (hstate.symm.trans hfailed), ?_, hfork⟩
          unfold absencesAfter
          split_ifs <;> omega
        · exact ⟨hfollowed.uncertain hempty,
            (hfollowed.retried hempty ⟨state, huncertain, hstate⟩).2⟩
      obtain ⟨hnatural, hfinite⟩ := hcondition hstart.1 hstart.2
      have hattempts := hfollowed.attempts
      obtain ⟨next, hnext, -⟩ := observe_retrying hfollowed.sound hstate huncertain hconclude (by omega)
      exact ⟨next, hnext⟩
  · intro observations current hfed observation next hnext
    obtain ⟨state, -, -, -, hattempts, -, -, hended⟩ :=
      observe_some (hfed.followed hsound).sound hnext
    refine ⟨hattempts, fun nextAt hnextAt ↦ ?_⟩
    rcases hended with ⟨-, -, -, hnone⟩ | ⟨-, -, delay, hdelay⟩
    · rw [hnone] at hnextAt
      cases hnextAt
    · rw [hdelay] at hnextAt
      obtain rfl := Option.some.inj hnextAt
      exact add_le_add le_rfl (min_le_left _ _)
  · intro observations current hfed huncertain
    have hfollowed := hfed.followed hsound
    by_cases hempty : observations = []
    · subst hempty
      exact hpositive
    · obtain ⟨hlimit, hopen⟩ := hfollowed.retried hempty huncertain
      obtain ⟨hnatural, -⟩ := hcondition (hfollowed.uncertain hempty) hopen
      omega
  · intro observations current hfed
    exact ⟨(hfed.followed hsound).attempts, (hfed.followed hsound).absences⟩
  · intro observations current hfed observation next hnext hconfirmed
    have hfollowed := hfed.followed hsound
    obtain ⟨state, huncertain, hstate, -, -, habsences, -, hended⟩ :=
      observe_some hfollowed.sound hnext
    rcases hended with ⟨departure, hconclude, hlabel, -⟩ | ⟨-, hlabel, -⟩
    · rw [hlabel] at hconfirmed
      cases departure with
      | manual => cases hconfirmed
      | absent =>
        unfold conclude at hconclude
        split_ifs at hconclude with habsent
        · obtain ⟨rfl, henough, hfork⟩ := habsent
          rw [hfollowed.committed] at hfork
          rw [habsences]
          exact ⟨hstate, henough, hfork⟩
        · cases hconclude
        · cases hconclude
    · rw [hlabel] at hconfirmed
      obtain rfl := Option.some.inj hconfirmed
      exact absurd huncertain (by cases operation <;> decide)

/-- An observation that found the operation. -/
def sighting : Observation where
  now := 0
  absent := false
  token := "token"
  fresh := by decide

/-- Observations that found the operation are retried up to the limit. -/
theorem fed_sighting (hsound : job.Sound)
    (hstate : job.values.operation operation.manual.field = some state)
    (huncertain : state ∈ operation.uncertainStates) (hopen : ¬ job.ConfirmsAtOnce operation limits)
    (calls : ℕ) (hlimit : job.attempts operation + calls < limits.uncertainMaxAttempts)
    (hfinite : job.attempts operation + calls ≤ 1024) :
    ∃ current, Fed operation limits job (List.replicate calls sighting) current ∧
      current.values.operation operation.manual.field = some state := by
  induction calls with
  | zero => exact ⟨job, .start, hstate⟩
  | succ calls ih =>
    push_cast at hlimit hfinite
    obtain ⟨current, hfed, hcurrent⟩ := ih (by omega) (by omega)
    have hfollowed := hfed.followed hsound
    have hattempts := hfollowed.attempts
    have habsences := hfollowed.absences
    have hcount : (List.replicate calls sighting).countP Observation.absent = 0 :=
      List.countP_eq_zero.mpr fun observation hmem ↦ by
        rw [List.eq_of_mem_replicate hmem]
        exact Bool.false_ne_true
    rw [List.length_replicate] at hattempts
    rw [hcount, Nat.cast_zero, Int.add_zero] at habsences
    have hconclude : current.conclude operation state (current.attempts operation + 1)
        (current.absencesAfter operation sighting) limits = .retry := by
      have hsame : current.absencesAfter operation sighting = job.absences operation := by
        rw [absencesAfter, habsences]
        exact Int.add_zero _
      unfold conclude
      rw [if_neg, if_neg (by omega)]
      rintro ⟨rfl, henough, hfork⟩
      rw [hfollowed.committed] at hfork
      exact hopen ⟨hstate, hsame ▸ henough, hfork⟩
    obtain ⟨next, hnext, -, hlabel, -⟩ := observe_retrying hfollowed.sound hcurrent huncertain hconclude
      (by omega)
    exact ⟨next, List.replicate_succ' (n := calls) ▸ .call hfed hnext, hlabel⟩
/-- A run that is not kept from a power of two that is no float, or whose count of attempts starts
below zero, does not converge. -/
theorem staysFinite_of_converges (hsound : job.Sound)
    (hconverges : job.ConvergesSafely operation limits) (huncertain : job.IsUncertain operation)
    (hopen : ¬ job.ConfirmsAtOnce operation limits) : job.StaysFinite operation limits := by
  obtain ⟨state, hmem, hstate⟩ := huncertain
  -- a job that has counted so many attempts is refused
  have hrefused : ∀ {observations : List Observation} {current : AgentJob},
      Fed operation limits job observations current →
        current.values.operation operation.manual.field = some state →
          observations.countP Observation.absent = 0 → 1024 ≤ current.attempts operation →
            limits.uncertainMaxAttempts ≤ current.attempts operation + 1 := by
    intro observations current hfed hcurrent hcount hmany
    have hfollowed := hfed.followed hsound
    have habsences := hfollowed.absences
    rw [hcount, Nat.cast_zero, Int.add_zero] at habsences
    by_contra hlimit
    have hconclude : current.conclude operation state (current.attempts operation + 1)
        (current.absencesAfter operation sighting) limits = .retry := by
      have hsame : current.absencesAfter operation sighting = job.absences operation := by
        rw [absencesAfter, habsences]
        exact Int.add_zero _
      unfold conclude
      rw [if_neg, if_neg hlimit]
      rintro ⟨rfl, henough, hfork⟩
      rw [hfollowed.committed] at hfork
      exact hopen ⟨hstate, hsame ▸ henough, hfork⟩
    obtain ⟨next, hnext⟩ := hconverges.accepted _ _ hfed ⟨state, hmem, hcurrent⟩ sighting
    rw [observe_overflow hcurrent hmem hconclude hmany] at hnext
    cases hnext
  have hsightings : ∀ calls : ℕ, (List.replicate calls sighting).countP Observation.absent = 0 :=
    fun calls ↦ List.countP_eq_zero.mpr fun observation hmem ↦ by
      rw [List.eq_of_mem_replicate hmem]
      exact Bool.false_ne_true
  have hreach : ∀ calls : ℕ, job.attempts operation + calls < limits.uncertainMaxAttempts →
      job.attempts operation + calls = 1024 → limits.uncertainMaxAttempts ≤ 1025 := by
    intro calls hlimit hlast
    obtain ⟨current, hfed, hcurrent⟩ := fed_sighting hsound hstate hmem hopen calls hlimit hlast.le
    have hattempts := (hfed.followed hsound).attempts
    rw [List.length_replicate, hlast] at hattempts
    have hbound := hrefused hfed hcurrent (hsightings calls) hattempts.ge
    omega
  constructor
  · by_contra hnegative
    have hlimit := hconverges.settled _ _ .start ⟨state, hmem, hstate⟩
    by_cases hfinite : job.attempts operation + limits.uncertainMaxAttempts ≤ 1024
    · obtain ⟨current, hfed, hcurrent⟩ := fed_sighting hsound hstate hmem hopen
        limits.uncertainMaxAttempts.toNat (by omega) (by omega)
      have hsettled := hconverges.settled _ _ hfed ⟨state, hmem, hcurrent⟩
      rw [List.length_replicate] at hsettled
      omega
    · have hlast := hreach (1024 - job.attempts operation).toNat (by omega) (by omega)
      omega
  · by_contra hlimit
    rw [not_le, max_lt_iff] at hlimit
    by_cases hmany : 1024 ≤ job.attempts operation
    · have hbound := hrefused .start hstate rfl hmany
      omega
    · have hlast := hreach (1024 - job.attempts operation).toNat (by omega) (by omega)
      omega

end

/-! ### A worktree after so many attempts -/

section

attribute [local instance] asciiTextLibrary

/-- The record of a job whose worktree is ambiguous after so many attempts. -/
def ambiguousRecord (attempts : ℤ) : Values :=
  let spec : NewAgentJob :=
    { id := "0123456789ab", request := "Fix the parser", createdAt := 0, foregroundUntil := 0
      harnessKind := .cursor, details := .empty }
  spec.record.update
    [.put (.text .repository) (some "/repositories/parser"),
      .put (.text .worktreeBranch) (some "voice/parser"),
      .put (.text .worktreePath) (some "/worktrees/parser"),
      .put (.operation .worktreeProvisionState) (some .ambiguous),
      .put (.int .worktreeReconcileAttempts) (some attempts)]

/-- Limits for so many attempts. -/
def limitsOf (uncertainMaxAttempts : ℤ) : ReconcileLimits where
  failedMaxAttempts := 3
  uncertainMaxAttempts := uncertainMaxAttempts
  baseSeconds := 5
  maxSeconds := 60

theorem sound_ambiguousRecord {attempts : ℤ} {job : AgentJob}
    (hread : fromDict (ambiguousRecord attempts) = .ok job)
    (hlifecycle : job.values.lifecycle.toOption.isSome = true) : job.Sound := by
  obtain ⟨lifecycle, hlifecycle⟩ := Option.isSome_iff_exists.mp hlifecycle
  have hpaired : (ambiguousRecord attempts).IsPaired := by
    constructor <;> (intro hpresent; cases hpresent)
  exact sound_of_fromDict hread hpaired ⟨lifecycle, checked_toOption_eq_some_iff.mp hlifecycle⟩

end

end AgentJob

end VoiceHarness
