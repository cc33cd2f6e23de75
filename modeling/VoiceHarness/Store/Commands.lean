import VoiceHarness.Store.Exclusivity

/-!
# The commands of the coordinator

`JobStore.apply` commits one command: the candidate its decision gives, one event and the effects of
the decision, all in one transaction. A call of `apply` commits (`Commits`) or leaves the store as it
was, and a command id whose event is recorded never commits again.
-/

set_option autoImplicit false
set_option relaxedAutoImplicit false

namespace VoiceHarness

open Library

/-- The event that a committed command records. -/
def CoordinatorCommand.event (command : CoordinatorCommand) (decision : CoordinatorDecision) :
    EventRow :=
  { commandId := command.commandId
    jobId := decision.job.id
    revision := decision.job.values.revision
    kind := decision.eventKind
    commandKind := command.kind }

/-- The outbox rows that a decision admits. -/
def CoordinatorDecision.outboxEffects (decision : CoordinatorDecision) : List OutboxEffect :=
  decision.effects.map fun effect ↦
    { effectId := effect.effectId, jobId := decision.job.id, kind := effect.kind
      idempotencyKey := effect.idempotencyKey, concurrencyKey := effect.concurrencyKey
      payload := effect.payload }

/-- The arguments of a call of `apply`. -/
structure ApplyCall where
  files : StoreFiles
  command : CoordinatorCommand
  decide : AgentJob → Except StoreError (Option CoordinatorDecision)
  reservation : Option QuarantineReservation
  rejectsMaintenance : Bool

def ApplyCall.toCall (call : ApplyCall) : StoreCall :=
  .apply call.files call.command call.decide call.reservation call.rejectsMaintenance

section

variable [TextLibrary] {database next : Database}

/-! ### What a program that answers did -/

omit [TextLibrary] in
theorem checked_eq_ok_iff {α : Type} {value : Checked α} {result : α} :
    checked value database = .ok result next ↔ value = .ok result ∧ next = database := by
  unfold checked
  rw [valueOrRaise_eq_ok_iff]
  cases value <;> simp [Except.mapError]

omit [TextLibrary] in
theorem bind_checked_iff {α β : Type} {value : Checked α} {rest : α → StoreProgram β} {result : β} :
    (checked value >>= rest) database = .ok result next ↔
      ∃ answer, value = .ok answer ∧ rest answer database = .ok result next := by
  unfold checked
  rw [bind_valueOrRaise_iff]
  cases value <;> simp [Except.mapError]

omit [TextLibrary] in
theorem bind_refuse_iff {violations : List (Bool × StoreError)} {β : Type}
    {rest : PUnit → StoreProgram β} {result : β} :
    (refuse violations >>= rest) database = .ok result next ↔
      firstViolation violations = none ∧ rest ⟨⟩ database = .ok result next := by
  unfold refuse
  rcases firstViolation violations with _ | error
  · exact ⟨fun h ↦ ⟨rfl, h⟩, fun h ↦ h.2⟩
  · constructor
    · intro h
      cases h
    · rintro ⟨hnone, -⟩
      cases hnone

omit [TextLibrary] in
/-- The record that is read has the id it is stored under. -/
theorem get_id_of_loadJob {jobId : String} {raw : Values} (h : database.loadJob jobId = .ok raw) :
    raw (.text .id) = .val jobId := by
  unfold Database.loadJob at h
  split at h
  · split_ifs at h
  · split at h
    · cases h
    · split_ifs at h
      cases h
      rw [Values.update_map, if_neg (by decide +kernel), Values.set_of_ne _ _ (by decide)]
      rfl

/-- A job that is read is the durable job of its id, and the read writes nothing. -/
theorem getJob_eq_ok_iff {jobId : String} {job : AgentJob} :
    getJob jobId database = .ok job next ↔
      (∃ raw, database.loadJob jobId = .ok raw ∧ AgentJob.fromDict raw = .ok job) ∧
        next = database := by
  unfold getJob
  rw [bind_get_iff, bind_valueOrRaise_iff]
  simp only [checked_eq_ok_iff]
  constructor
  · rintro ⟨raw, hload, hread, hnext⟩
    exact ⟨⟨raw, hload, hread⟩, hnext⟩
  · rintro ⟨⟨raw, hload, hread⟩, hnext⟩
    exact ⟨raw, hload, hread, hnext⟩

theorem bind_getJob_iff {jobId : String} {β : Type} {rest : AgentJob → StoreProgram β}
    {result : β} : (getJob jobId >>= rest) database = .ok result next ↔
      ∃ job, getJob jobId database = .ok job database ∧ rest job database = .ok result next := by
  rw [bind_eq_ok_iff]
  constructor
  · rintro ⟨job, middle, hjob, h⟩
    obtain ⟨hread, rfl⟩ := getJob_eq_ok_iff.mp hjob
    exact ⟨job, getJob_eq_ok_iff.mpr ⟨hread, rfl⟩, h⟩
  · rintro ⟨job, hjob, h⟩
    exact ⟨job, database, hjob, h⟩

theorem id_of_getJob {jobId : String} {job : AgentJob}
    (h : getJob jobId database = .ok job next) : job.id = jobId := by
  obtain ⟨⟨raw, hload, hread⟩, -⟩ := getJob_eq_ok_iff.mp h
  obtain ⟨values, hcanonical, hvalues⟩ := AgentJob.fromDict_ok hread
  have hkept : values.get (.text .id) = raw.get (.text .id) :=
    Values.get_of_agreeOff (Values.agreeOff_canonicalise hcanonical) (by decide)
  unfold AgentJob.id Values.jobId Values.textOrEmpty Values.text
  rw [hvalues, hkept, Values.get, get_id_of_loadJob hload]
  rfl

omit [TextLibrary] in
theorem bind_checkQuarantine {files : StoreFiles} {reservation : Option QuarantineReservation}
    {candidate : AgentJob} {β : Type} {rest : PUnit → StoreProgram β} {result : β}
    (h : (checkQuarantine files reservation candidate >>= rest) database = .ok result next) :
    rest ⟨⟩ database = .ok result next := by
  unfold checkQuarantine at h
  split at h
  · exact h
  · rw [bind_checked_iff] at h
    obtain ⟨_, -, h⟩ := h
    exact h

/-- The event is recorded where the outbox takes its effects. -/
def recordEvent (database : Database) (event : EventRow) : Option OutboxTable → StoreProgram PUnit
  | none => throw (.validation "SQLite outbox constraint failed")
  | some outbox => set { database with events := database.events ++ [event], outbox := outbox }

omit [TextLibrary] in
/-- A recorded transition appends its event and admits the effects. -/
theorem recordTransition_eq_ok_iff {command : CoordinatorCommand} {decision : CoordinatorDecision}
    {result : PUnit} :
    recordTransition command decision database = .ok result next ↔
      firstViolation (database.eventViolations (command.event decision)) = none ∧
        ∃ outbox, database.outbox.insertOutboxEffects decision.outboxEffects = some outbox ∧
          next = { database with
            events := database.events ++ [command.event decision], outbox := outbox } := by
  rw [recordTransition, bind_apply, get_apply]
  refine bind_refuse_iff.trans (and_congr_right fun _ ↦ ?_)
  change recordEvent database (command.event decision)
    (database.outbox.insertOutboxEffects decision.outboxEffects) database = .ok result next ↔ _
  rcases database.outbox.insertOutboxEffects decision.outboxEffects with _ | outbox
  · simp [recordEvent]
  · rw [recordEvent]
    constructor
    · intro h
      cases h
      exact ⟨outbox, rfl, rfl⟩
    · rintro ⟨inserted, hinsert, rfl⟩
      cases hinsert
      rfl

/-! ### A commit -/

/-- The call commits the candidate of its decision: the revision rises by one, one event with that
revision and the effects of the decision are recorded, and no other job is touched. -/
structure Commits (before after : Database) (call : ApplyCall)
    (answer : Except StoreError StoreAnswer) (current : AgentJob) (decision : CoordinatorDecision)
    (candidate : AgentJob) : Prop where
  guarded : runGuards call.command.guards = .ok ()
  read : getJob call.command.jobId before = .ok current before
  expected : current.values.revision = call.command.expectedRevision
  decided : call.decide current = .ok (some decision)
  normalized : decision.job.normalizeForDurableWrite = .ok candidate
  transition : validateTransition current candidate = .ok ()
  job : candidate.id = call.command.jobId
  revision : candidate.values.revision = current.values.revision + 1
  fresh : ∀ event ∈ before.events, event.commandId ≠ call.command.commandId
  events : after.events = before.events ++ [call.command.event { decision with job := candidate }]
  effects : before.outbox.insertOutboxEffects
    (CoordinatorDecision.outboxEffects { decision with job := candidate }) = some after.outbox
  stored : ∃ read, getJob candidate.id after = .ok read after ∧
    read.values.cells = candidate.values.cells ∧
      after.reservations.filter (·.jobId = candidate.id) =
        candidate.values.reservationRows.map (Values.reservationEntry candidate.id)
  others : ∀ other, other ≠ candidate.id → before.SameRows after other
  answered : answer = .ok { jobs := [candidate] }

omit [TextLibrary] in
/-- What a transition asks of the ids and the revisions. -/
theorem validateTransition_identity {before after : AgentJob}
    (h : validateTransition before after = .ok ()) :
    after.id = before.id ∧ after.values.revision = before.values.revision + 1 := by
  obtain ⟨old, new, haccepted⟩ := validateTransition_accepted h
  constructor
  · have hid := haccepted.identity _ List.mem_cons_self
    rw [decide_eq_false_iff_not, not_not] at hid
    exact hid.symm
  · have hrevision := haccepted.terminal _ (List.mem_append_right _ List.mem_cons_self)
    simpa using hrevision

/-- A decision that is applied writes nothing, or its candidate with its event and effects. -/
theorem applyDecision_cases {call : ApplyCall} {current : AgentJob} {result : Option AgentJob}
    (h : applyDecision call.files call.command call.decide call.reservation current database =
      .ok result next) :
    (result = none ∧ next = database) ∨
      current.values.revision = call.command.expectedRevision ∧
      ∃ decision candidate recorded, call.decide current = .ok (some decision) ∧
        decision.job.normalizeForDurableWrite = .ok candidate ∧
        validateTransition current candidate = .ok () ∧
        recordTransition call.command { decision with job := candidate } database =
          .ok ⟨⟩ recorded ∧
        saveJob candidate recorded = .ok candidate next ∧ result = some candidate := by
  unfold applyDecision at h
  split_ifs at h with hstale
  · cases h
    exact .inl ⟨rfl, rfl⟩
  · rw [bind_valueOrRaise_iff] at h
    obtain ⟨decided, hdecide, h⟩ := h
    cases decided with
    | none =>
      cases h
      exact .inl ⟨rfl, rfl⟩
    | some decision =>
      simp only [bind_checked_iff] at h
      obtain ⟨candidate, hnormalized, ⟨⟩, htransition, ⟨⟩, -, h⟩ := h
      have hwrite := bind_checkQuarantine h
      rw [bind_eq_ok_iff] at hwrite
      obtain ⟨⟨⟩, recorded, hrecord, hwrite⟩ := hwrite
      rw [map_eq_ok_iff] at hwrite
      obtain ⟨saved, hsave, rfl⟩ := hwrite
      obtain ⟨rfl, -, -⟩ := saveJob_eq_ok_iff.mp hsave
      exact .inr ⟨not_not.mp hstale, decision, saved, recorded, hdecide, hnormalized, htransition,
        hrecord, hsave, rfl⟩

/-! ### The events of a store -/

/-- The events and the maintenance lease are no part of what the jobs hold. -/
theorem Database.Consistent.withEvents (h : database.Consistent) (events : List EventRow)
    (lease : Option String) :
    { database with events := events, maintenance := lease }.Consistent := by
  refine ⟨h.exclusive, h.owned, fun row hrow ↦ ?_⟩
  obtain ⟨job, hid, hstores⟩ := h.stored row hrow
  exact ⟨job, hid, hstores.durable, hstores.load, hstores.rows⟩

/-- A command id has one event, and the job of an event is stored. -/
structure Database.Recorded (database : Database) : Prop where
  unique : (database.events.map (·.commandId)).Nodup
  owned : ∀ event ∈ database.events, ∃ row ∈ database.jobs, row.jobId = event.jobId

omit [TextLibrary] in
/-- What a recorded event passed. -/
theorem eventViolations_eq_none {row : EventRow}
    (h : firstViolation (database.eventViolations row) = none) :
    (∀ event ∈ database.events, event.commandId ≠ row.commandId) ∧
      ∃ job ∈ database.jobs, job.jobId = row.jobId := by
  unfold firstViolation at h
  rw [Option.map_eq_none_iff, List.find?_eq_none] at h
  simp only [Database.eventViolations, List.forall_mem_cons] at h
  obtain ⟨-, -, hunique, hforeign, -⟩ := h
  constructor
  · intro event hevent hequal
    exact hunique (List.any_eq_true.mpr ⟨event, hevent, decide_eq_true hequal⟩)
  · by_contra hnone
    refine hforeign (List.all_eq_true.mpr fun job hjob ↦ decide_eq_true fun hequal ↦ ?_)
    exact hnone ⟨job, hjob, hequal⟩

theorem kept_recorded : Kept Database.Recorded where
  save := by
    intro job database _ _ h
    refine ⟨h.unique, fun event hevent ↦ ?_⟩
    obtain ⟨row, hrow, hid⟩ := h.owned event hevent
    by_cases hjob : row.jobId = job.id
    · exact ⟨job.values.jobRow, mem_upsert.mpr (.inl rfl), hjob.symm.trans hid⟩
    · exact ⟨row, mem_upsert.mpr (.inr ⟨hrow, hjob⟩), hid⟩
  delete jobId := by
    refine Keeps.modify fun database h ↦ ⟨?_, fun event hevent ↦ ?_⟩
    · exact h.unique.sublist (List.filter_sublist.map _)
    · obtain ⟨hmem, hne⟩ := mem_discard.mp hevent
      obtain ⟨row, hrow, hid⟩ := h.owned event hmem
      exact ⟨row, mem_discard.mpr ⟨hrow, hid ▸ hne⟩, hid⟩
  record command decision := by
    intro database h result next hrun
    obtain ⟨hnone, outbox, -, rfl⟩ := recordTransition_eq_ok_iff.mp hrun
    obtain ⟨hfresh, hjob⟩ := eventViolations_eq_none hnone
    refine ⟨⟨?_, fun event hevent ↦ ?_⟩, trivial⟩
    · rw [List.map_append, List.map_singleton, List.nodup_append]
      refine ⟨h.unique, List.nodup_singleton _, fun commandId hold other hnew hequal ↦ ?_⟩
      obtain ⟨event, hevent, rfl⟩ := List.mem_map.mp hold
      rw [List.mem_singleton] at hnew
      exact hfresh event hevent (hequal.trans hnew)
    · rcases List.mem_append.mp hevent with hold | hnew
      · exact h.owned event hold
      · rw [List.mem_singleton.mp hnew]
        exact hjob

/-! ### A call -/

/-- A call of `apply` that answers was refused for a maintenance, repeated a recorded command, or
applied a decision. -/
theorem applyCommand_cases {call : ApplyCall} {result : Option AgentJob}
    (h : applyCommand call.files call.command call.decide call.reservation call.rejectsMaintenance
      database = .ok result next) :
    runGuards call.command.guards = .ok () ∧
      ((result = none ∧ next = database) ∨
        (∃ job, getJob call.command.jobId database = .ok job database ∧ result = some job ∧
          next = database) ∨
        (∀ event ∈ database.events, event.commandId ≠ call.command.commandId) ∧
          ∃ current, getJob call.command.jobId database = .ok current database ∧
            applyDecision call.files call.command call.decide call.reservation current database =
              .ok result next) := by
  unfold applyCommand at h
  rw [bind_checked_iff] at h
  obtain ⟨⟨⟩, hguards, h⟩ := h
  refine ⟨hguards, ?_⟩
  rw [bind_get_iff] at h
  split_ifs at h with hmaintenance
  · cases h
    exact .inl ⟨rfl, rfl⟩
  · unfold applyOnConnection at h
    rw [bind_get_iff] at h
    rcases hfind : database.events.find? (·.commandId = call.command.commandId) with _ | existing
    · simp only [hfind] at h
      rw [bind_getJob_iff] at h
      obtain ⟨current, hcurrent, h⟩ := h
      refine .inr (.inr ⟨fun event hevent hequal ↦ ?_, current, hcurrent, h⟩)
      have hnone := List.find?_eq_none.mp hfind event hevent
      exact hnone (decide_eq_true hequal)
    · simp only [hfind] at h
      split_ifs at h with hconflict
      · cases h
      · rw [map_eq_ok_iff] at h
        obtain ⟨job, hjob, rfl⟩ := h
        obtain ⟨-, rfl⟩ := getJob_eq_ok_iff.mp hjob
        rw [not_or, not_not] at hconflict
        exact .inr (.inl ⟨job, hconflict.1 ▸ hjob, rfl, rfl⟩)

/-- A call of `apply` commits, or it leaves the store as it was. -/
theorem applyCall_cases (hconsistent : database.Consistent) (call : ApplyCall) :
    (∃ current decision candidate, Commits database (storeMachine.step database call.toCall).1 call
      (storeMachine.step database call.toCall).2 current decision candidate) ∨
    (storeMachine.step database call.toCall).1 = database := by
  rcases hrun : storeMachine.step database call.toCall with ⟨after, error | answer⟩
  · right
    have herror : (storeMachine.step database call.toCall).2 = .error error := by rw [hrun]
    have hunchanged := atomically_error herror
    change (storeMachine.step database call.toCall).1 = database at hunchanged
    rw [hrun] at hunchanged
    exact hunchanged
  · have hprogram := atomically_eq_ok_iff.mp hrun
    change (applyCommand call.files call.command call.decide call.reservation
      call.rejectsMaintenance >>= fun result ↦
        (pure { jobs := result.toList } : StoreProgram StoreAnswer)) database = _ at hprogram
    rw [bind_eq_ok_iff] at hprogram
    obtain ⟨result, middle, happly, hanswer⟩ := hprogram
    cases hanswer
    obtain ⟨hguards, ⟨-, rfl⟩ | ⟨-, -, -, rfl⟩ | ⟨hfresh, current, hread, hdecision⟩⟩ :=
      applyCommand_cases happly
    · exact .inr rfl
    · exact .inr rfl
    · rcases applyDecision_cases hdecision with ⟨-, rfl⟩ | ⟨hexpected, decision, candidate,
        recorded, hdecide, hnormalized, htransition, hrecord, hsave, rfl⟩
      · exact .inr rfl
      · obtain ⟨hid, hrevision⟩ := validateTransition_identity htransition
        have hdurable := AgentJob.durable_normalizeForDurableWrite hnormalized
        obtain ⟨-, outbox, heffects, rfl⟩ := recordTransition_eq_ok_iff.mp hrecord
        obtain ⟨-, haccepts, rfl⟩ := saveJob_eq_ok_iff.mp hsave
        refine .inl ⟨current, decision, candidate, hguards, hread, hexpected, hdecide, hnormalized,
          htransition, hid.trans (id_of_getJob hread), hrevision, hfresh, rfl, heffects, ?_,
          fun other hother ↦ ?_, rfl⟩
        · obtain ⟨read, hname, hcells, hstores⟩ := Database.stores_saved hdurable haccepts
          obtain ⟨loaded, hloaded, hvalues⟩ := hstores.getJob_eq
          refine ⟨loaded, hname ▸ hloaded, ?_, Values.filter_savedReservations_self _⟩
          rw [hvalues, hcells]
        · have hsame := Values.sameRows_saved hother haccepts
          exact ⟨hsame.jobs, hsame.named, hsame.reservations, hsame.deliveryClaims,
            hsame.workerClaims, hsame.artifacts⟩

/-- A repeated command answers the current job and leaves the store as it was. -/
theorem applyCall_repeated (hconsistent : database.Consistent) (hrecorded : database.Recorded)
    {call : ApplyCall} {event : EventRow} (hguards : runGuards call.command.guards = .ok ())
    (hmaintenance : ¬ (call.rejectsMaintenance = true ∧ database.maintenance.isSome = true))
    (hevent : event ∈ database.events) (hid : event.commandId = call.command.commandId)
    (hjob : event.jobId = call.command.jobId)
    (hrevision : event.revision = call.command.expectedRevision + 1)
    (hkind : event.commandKind = call.command.kind) :
    ∃ job, getJob call.command.jobId database = .ok job database ∧
      storeMachine.step database call.toCall = (database, .ok { jobs := [job] }) := by
  obtain ⟨row, hrow, howner⟩ := hrecorded.owned event hevent
  obtain ⟨stored, hstored, hstores⟩ := hconsistent.stored row hrow
  obtain ⟨job, hread, -⟩ := hstores.getJob_eq
  have hname : stored.id = call.command.jobId := hstored.trans (howner.trans hjob)
  rw [hname] at hread
  have hfind : database.events.find? (·.commandId = call.command.commandId) = some event := by
    rcases hfound : database.events.find? (·.commandId = call.command.commandId) with _ | found
    · exact absurd (decide_eq_true hid) (List.find?_eq_none.mp hfound event hevent)
    · have hname := List.find?_some hfound
      rw [decide_eq_true_eq, ← hid] at hname
      rw [← List.inj_on_of_nodup_map hrecorded.unique (List.mem_of_find?_eq_some hfound) hevent hname]
      exact hfound
  have happly : applyCommand call.files call.command call.decide call.reservation
      call.rejectsMaintenance database = .ok (some job) database := by
    unfold applyCommand
    refine bind_checked_iff.mpr ⟨⟨⟩, hguards, bind_get_iff.mpr ?_⟩
    rw [if_neg (by rwa [Bool.and_eq_true])]
    unfold applyOnConnection
    refine bind_get_iff.mpr ?_
    simp only [hfind]
    rw [if_neg (by simp [hjob, hrevision, hkind])]
    exact map_eq_ok_iff.mpr ⟨job, hjob ▸ hread, rfl⟩
  exact ⟨job, hread, atomically_eq_ok_iff.mpr
    (bind_eq_ok_iff.mpr ⟨some job, database, happly, rfl⟩)⟩

/-! ### Runs -/

/-- The call commits the transition of its command. -/
def Committed (before : Database) (call : ApplyCall) : Prop :=
  ∃ current decision candidate, Commits before (storeMachine.step before call.toCall).1 call
    (storeMachine.step before call.toCall).2 current decision candidate

/-- The store after a run of calls of `apply`. -/
def applyRun (database : Database) (calls : List ApplyCall) : Database :=
  storeMachine.exec database (calls.map ApplyCall.toCall)

theorem applyRun_append (first second : List ApplyCall) :
    applyRun database (first ++ second) = applyRun (applyRun database first) second := by
  unfold applyRun
  rw [List.map_append, Machine.exec_append]

theorem applyRun_invariant (hconsistent : database.Consistent) (hrecorded : database.Recorded)
    (calls : List ApplyCall) :
    (applyRun database calls).Consistent ∧ (applyRun database calls).Recorded :=
  ⟨storeMachine.invariant_exec (fun _ call h ↦ (keeps_program kept_consistent call).atomically h)
      hconsistent _,
    storeMachine.invariant_exec (fun _ call h ↦ (keeps_program kept_recorded call).atomically h)
      hrecorded _⟩

/-- A recorded event stays recorded while commands are applied. -/
theorem mem_events_applyRun (hconsistent : database.Consistent) {event : EventRow}
    (hevent : event ∈ database.events) (calls : List ApplyCall) :
    event ∈ (applyRun database calls).events := by
  induction calls generalizing database with
  | nil => exact hevent
  | cons call calls ih =>
    have hnext : (storeMachine.step database call.toCall).1.Consistent :=
      (keeps_program kept_consistent call.toCall).atomically hconsistent
    have hkept : event ∈ (storeMachine.step database call.toCall).1.events := by
      rcases applyCall_cases hconsistent call with ⟨_, _, _, hcommits⟩ | hsame
      · rw [hcommits.events]
        exact List.mem_append_left _ hevent
      · rw [hsame]
        exact hevent
    exact ih hnext hkept

/-- In a run of calls of `apply` on any stored jobs, each call commits its command or leaves the
store as it was, and one that answers nothing or raises leaves it as it was. A command id that was
committed does not commit again, and the committed command answers the current record when it is
repeated, unless the call is to be refused during a maintenance. -/
theorem applyRun_commands (earlier : List StoreCall) (lease : Option String)
    (calls : List ApplyCall) (call : ApplyCall) :
    let start := { storeMachine.exec Database.empty earlier with maintenance := lease }
    let before := applyRun start calls
    let answer := (storeMachine.step before call.toCall).2
    let after := (storeMachine.step before call.toCall).1
    (Committed before call ∨ after = before) ∧
    ((answer = .ok {} ∨ ∃ error, answer = .error error) → after = before) ∧
    ∀ first other second, calls = first ++ other :: second →
      Committed (applyRun start first) other → other.command.commandId = call.command.commandId →
        ¬ Committed before call ∧
        (other.command = call.command →
          ¬ (call.rejectsMaintenance = true ∧ before.maintenance.isSome = true) → after = before ∧
            ∃ job, getJob call.command.jobId before = .ok job before ∧
              answer = .ok { jobs := [job] }) := by
  intro start before answer after
  have hconsistent : start.Consistent := (consistent_exec earlier).withEvents _ lease
  have hrecorded : start.Recorded :=
    have h : (storeMachine.exec Database.empty earlier).Recorded :=
      kept_recorded.exec ⟨List.nodup_nil, fun _ h ↦ absurd h List.not_mem_nil⟩ earlier
    ⟨h.unique, h.owned⟩
  obtain ⟨hbefore, hevents⟩ := applyRun_invariant hconsistent hrecorded calls
  have hcases := applyCall_cases hbefore call
  refine ⟨hcases, fun hanswer ↦ ?_, fun first other second hcalls hcommitted hid ↦ ?_⟩
  · rcases hcases with ⟨_, _, _, hcommits⟩ | hsame
    · rcases hanswer with hnone | ⟨error, herror⟩
      · exact absurd (hcommits.answered.symm.trans hnone) (by simp)
      · exact absurd (hcommits.answered.symm.trans herror) (by simp)
    · exact hsame
  · obtain ⟨current, decision, candidate, hcommits⟩ := hcommitted
    obtain ⟨hfirst, -⟩ := applyRun_invariant hconsistent hrecorded first
    have hnext : (storeMachine.step (applyRun start first) other.toCall).1.Consistent :=
      (keeps_program kept_consistent other.toCall).atomically hfirst
    have hevent : other.command.event { decision with job := candidate } ∈ before.events := by
      have hrow : other.command.event { decision with job := candidate } ∈
          (storeMachine.step (applyRun start first) other.toCall).1.events := by
        rw [hcommits.events]
        exact List.mem_append_right _ List.mem_cons_self
      change _ ∈ (applyRun start calls).events
      rw [hcalls, applyRun_append]
      exact mem_events_applyRun hnext hrow second
    constructor
    · rintro ⟨_, _, _, hagain⟩
      exact hagain.fresh _ hevent hid
    · intro hcommand hmaintenance
      have hrevision : candidate.values.revision = call.command.expectedRevision + 1 := by
        rw [hcommits.revision, hcommits.expected, hcommand]
      obtain ⟨job, hread, hstep⟩ := applyCall_repeated hbefore hevents
        (hcommand ▸ hcommits.guarded) hmaintenance hevent hid
        (hcommits.job.trans (congrArg (·.jobId) hcommand)) hrevision (congrArg (·.kind) hcommand)
      exact ⟨congrArg Prod.fst hstep, job, hread, congrArg Prod.snd hstep⟩

/-! ### The first job of a store -/

/-- A new job that the tables take is created in a store that holds nothing, and read back from it. -/
theorem create_ok (files : StoreFiles) {job candidate : AgentJob}
    (hnormalized : job.normalizeForDurableWrite = .ok candidate)
    (hrevision : candidate.values.revision = 0)
    (haccepts : candidate.values.Accepts candidate.values.reservationRows Database.empty)
    (hartifacts : files.validateCandidateArtifacts candidate none = .ok ())
    (hquarantine : ∀ reservation, files.validateQuarantineReservation reservation candidate = .ok ()) :
    ∃ read next, create files job false Database.empty = .ok candidate next ∧
      getJob candidate.id next = .ok read next ∧ read.values.cells = candidate.values.cells ∧
      next.jobIds = [candidate.id] ∧ next.maintenance = none := by
  obtain ⟨stored, hid, hcells, hstores⟩ := Database.stores_saved
    (AgentJob.durable_normalizeForDurableWrite hnormalized) haccepts
  obtain ⟨read, hread, hvalues⟩ := hstores.getJob_eq
  rw [hid] at hread
  obtain ⟨⟨raw, hload, hraw⟩, -⟩ := getJob_eq_ok_iff.mp hread
  generalize hsaved : candidate.values.saved candidate.values.reservationRows Database.empty = saved
    at hload
  have hjobs : saved.jobs = [candidate.values.jobRow] := hsaved ▸ rfl
  have hlease : saved.maintenance = none := hsaved ▸ rfl
  let event : EventRow :=
    { commandId := s!"store.create:{candidate.id}", jobId := candidate.id
      revision := candidate.values.revision, kind := "admit", commandKind := "admit" }
  have hevents : firstViolation (saved.eventViolations event) = none := by
    have hnone : saved.events = [] := hsaved ▸ rfl
    have hfits : fitsInteger 0 = true := by decide
    rw [firstViolation_eq_none_iff]
    simp [Database.eventViolations, event, hrevision, hjobs, hnone, hfits, Values.jobRow, AgentJob.id]
  refine ⟨read, { saved with events := saved.events ++ [event] }, ?_,
    getJob_eq_ok_iff.mpr ⟨⟨raw, hload, hraw⟩, rfl⟩, by rw [hvalues, hcells], ?_, hlease⟩
  · have hstart : create files job false Database.empty =
        (checked job.normalizeForDurableWrite >>= fun candidate ↦ do
          refuse [(candidate.values.revision ≠ 0, .validation "new Cursor job revision must be zero")]
          rejectTicketConflict candidate false
          checked (files.validateCandidateArtifacts candidate none)
          checked (files.validateQuarantineReservation .target candidate)
          checked (files.validateQuarantineReservation .worktree candidate)
          let saved ← saveJob candidate
          recordTransition
            { jobId := saved.id, expectedRevision := 0, commandId := s!"store.create:{saved.id}"
              kind := "admit" }
            { job := saved, eventKind := "admit" }
          pure saved) Database.empty := rfl
    rw [hstart, bind_checked_iff]
    refine ⟨candidate, hnormalized, bind_refuse_iff.mpr ⟨by simp [firstViolation, hrevision], ?_⟩⟩
    refine bind_checked_iff.mpr ⟨(), hartifacts, bind_checked_iff.mpr ⟨(), hquarantine _, ?_⟩⟩
    refine bind_checked_iff.mpr ⟨(), hquarantine _, bind_eq_ok_iff.mpr ?_⟩
    refine ⟨candidate, saved, saveJob_eq_ok_iff.mpr ⟨rfl, haccepts, hsaved.symm⟩, ?_⟩
    refine bind_eq_ok_iff.mpr ⟨⟨⟩, _, recordTransition_eq_ok_iff.mpr ⟨hevents, _, rfl, rfl⟩, rfl⟩
  · unfold Database.jobIds
    rw [hjobs]
    simp [Values.jobRow, AgentJob.id]

end

/-! ### A repetition during a maintenance -/

section

attribute [local instance] asciiTextLibrary

/-- A call that is to be refused during a maintenance. -/
def refusableCall : ApplyCall where
  files := { validateCandidateArtifacts := fun _ _ ↦ .ok ()
             validateQuarantineReservation := fun _ _ ↦ .ok () }
  command := { jobId := "0123456789ab", expectedRevision := 0, commandId := "c1", kind := "touch" }
  decide _ := .ok none
  reservation := none
  rejectsMaintenance := true

/-- The store of a job, with the event of the call recorded and a maintenance under way. -/
def maintainedStore (job : AgentJob) : Database :=
  { job.values.saved job.values.reservationRows Database.empty with
    events := [⟨"c1", "0123456789ab", 1, "touch", "touch"⟩]
    maintenance := some "lease" }

/-- During a maintenance a recorded command that is to be refused then answers no record. -/
theorem not_answered_maintainedStore :
    ∃ job, AgentJob.new AgentJob.queuedSpec = .ok job ∧
      (maintainedStore job).Consistent ∧ (maintainedStore job).Recorded ∧
      (∃ event ∈ (maintainedStore job).events,
        event.commandId = refusableCall.command.commandId ∧
        event.jobId = refusableCall.command.jobId ∧
        event.revision = refusableCall.command.expectedRevision + 1 ∧
        event.commandKind = refusableCall.command.kind) ∧
      (storeMachine.step (maintainedStore job) refusableCall.toCall).2 = .ok {} := by
  obtain ⟨job, hnew, hid, hrange⟩ := AgentJob.new_queuedSpec
  have hunclaimed : Database.empty.Unclaimed job.values := by
    constructor <;> simp [Database.empty]
  have haccepts := job.accepts_iff.mpr
    ⟨hunclaimed, AgentJob.Reached.inVocabulary (.new hnew), hrange⟩
  have hdurable : job.Durable := by
    refine AgentJob.durable_fromDict (fun field hfield ↦ ?_) hnew
    simp only [transientFields, List.mem_cons, List.not_mem_nil, or_false] at hfield
    rcases hfield with rfl | rfl | rfl <;> rfl
  refine ⟨job, hnew, (Database.consistent_empty.saved hdurable haccepts).withEvents _ _, ⟨?_, ?_⟩,
    ⟨_, List.mem_cons_self, rfl, rfl, rfl, rfl⟩, rfl⟩
  · exact List.nodup_singleton _
  · intro event hevent
    rw [List.mem_singleton.mp hevent]
    exact ⟨job.values.jobRow, List.mem_cons_self, hid⟩

end

end VoiceHarness
