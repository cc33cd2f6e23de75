import VoiceHarness.Store.ArtifactRuns
import Mathlib.Data.List.Infix

/-!
# Artifacts are fenced and faithful

SHA-256 is taken to be injective on the texts that a run has in its files. A reference names its bytes then,
whatever was moved away and written again, and a review names the text of its plan. A read answers for the
job as it found it at its start.
-/

set_option autoImplicit false
set_option relaxedAutoImplicit false

namespace VoiceHarness

open Library

/-- The text of an artifact. -/
def artifactText? (contents : String) : Option String :=
  match JsonText.loads contents.toList with
  | some (.obj raw) =>
    match Dict.get? raw "text" with
    | some (.str text) => some text
    | _ => none
  | _ => none

/-- The texts in the files of some states: the files, and the artifacts they hold. -/
def hashedTexts (states : Set Workspace) : Set String :=
  {text | ∃ workspace ∈ states, ∃ reference contents,
    workspace.artifacts reference = some (.text contents) ∧
      (text = contents ∨ artifactText? contents = some text)}

theorem hashedTexts_mono {first second : Set Workspace} (h : first ⊆ second) :
    hashedTexts first ⊆ hashedTexts second := by
  rintro text ⟨workspace, hmem, hfile⟩
  exact ⟨workspace, h hmem, hfile⟩

section

variable [Hashlib] {states more : Set Workspace} {files after : ArtifactFiles} {reading : Reading}
  {reference jobId contents text : String} {kind : ArtifactKind} {source : Option Digest}

theorem IsArtifact.artifactText?_eq {round : ℕ} {raw : Dict}
    (h : IsArtifact contents reference jobId kind round source text raw) :
    artifactText? contents = some text := by
  unfold artifactText?
  simp only [h.parsed, h.ofText]

/-! ### Files that were there -/

/-- A file that was there with these bytes, and has no others since. -/
structure Settled (states : Set Workspace) (files : ArtifactFiles) (reference contents : String) :
    Prop where
  seen : ∃ past ∈ states, past.artifacts reference = some (.text contents)
  named : (artifactDigest? reference).all (· = (sha256 contents).hex.toList) = true
  kept : files reference = none ∨ files reference = some (.text contents)

omit [Hashlib] in
theorem mem_hashedTexts {workspace : Workspace} (hmem : workspace ∈ states)
    (h : workspace.artifacts reference = some (.text contents)) : contents ∈ hashedTexts states :=
  ⟨workspace, hmem, reference, contents, h, .inl rfl⟩

/-- A file that comes back under a digest has the bytes it had. -/
theorem Settled.fileStep (h : Settled states files reference contents) (hstep : FileStep files after)
    (hstates : states ⊆ more) {next : Workspace} (hnext : next ∈ more) (hafter : next.artifacts = after)
    (hsha : Set.InjOn sha256 (hashedTexts more)) : Settled more after reference contents := by
  obtain ⟨past, hpast, hseen⟩ := h.seen
  refine ⟨⟨past, hstates hpast, hseen⟩, h.named, ?_⟩
  rcases hstep reference with hsame | hnone | ⟨-, _, _, _, _, _, written, hpayload, hwritten⟩
  · rw [hsame]
    exact h.kept
  · exact .inl hnone
  · right
    have hdigest : sha256 written = sha256 contents := by
      have hnamed := h.named
      rw [hpayload.artifactDigest?, Option.all_some, decide_eq_true_eq] at hnamed
      exact Digest.ext (String.toList_inj.mp hnamed)
    rw [hwritten, hsha (mem_hashedTexts hnext (hafter ▸ hwritten))
      (mem_hashedTexts (hstates hpast) hseen) hdigest]

/-- A file that passes its checks, or did before it was moved away. -/
def Known (states : Set Workspace) (files : ArtifactFiles) (reference jobId : String)
    (kind : ArtifactKind) (source : Option Digest) (text : String) : Prop :=
  ∃ round contents, artifactRound? reference jobId kind = some round ∧
    checkArtifact contents reference jobId kind round source = .ok text ∧
      Settled states files reference contents

theorem Known.fileStep (h : Known states files reference jobId kind source text)
    (hstep : FileStep files after) (hstates : states ⊆ more) {next : Workspace} (hnext : next ∈ more)
    (hafter : next.artifacts = after) (hsha : Set.InjOn sha256 (hashedTexts more)) :
    Known more after reference jobId kind source text := by
  obtain ⟨round, contents, hround, hcheck, hsettled⟩ := h
  exact ⟨round, contents, hround, hcheck, hsettled.fileStep hstep hstates hnext hafter hsha⟩

theorem Holds.known {workspace : Workspace} (hmem : workspace ∈ states)
    (h : Holds workspace.artifacts reference jobId kind source text) :
    Known states workspace.artifacts reference jobId kind source text := by
  obtain ⟨round, contents, hround, hfile, hcheck⟩ := h
  obtain ⟨raw, hraw⟩ := checkArtifact_eq_ok_iff.mp hcheck
  exact ⟨round, contents, hround, hcheck, ⟨workspace, hmem, hfile⟩, hraw.named, .inr hfile⟩

/-- A file that is there passes the checks it passed before. -/
theorem Known.holds (h : Known states files reference jobId kind source text)
    (hfile : files reference ≠ none) : Holds files reference jobId kind source text := by
  obtain ⟨round, contents, hround, hcheck, hsettled⟩ := h
  exact ⟨round, contents, hround, hsettled.kept.resolve_left hfile, hcheck⟩

/-- A read of a known file answers its text, or finds nothing. -/
theorem Known.parseArtifact_cases (h : Known states files reference jobId kind source text) {round : ℕ}
    (hround : artifactRound? reference jobId kind = some round) :
    parseArtifact reference jobId kind round source files = .ok text files ∨
      files reference = none ∧
        ∃ message, parseArtifact reference jobId kind round source files = .error message files := by
  by_cases hfile : files reference = none
  · refine .inr ⟨hfile, "workflow artifact is missing", ?_⟩
    unfold parseArtifact
    rw [bind_apply, get_apply]
    simp only [hfile]
    rfl
  · exact .inl ((h.holds hfile).parseArtifact_eq hround)

/-! ### Reads under way -/

variable [TextLibrary]

/-- A read found the job and its files in a past state, and the texts it reads are still the ones that
were there: `reviewed` is the text of the plan of a review. -/
structure Reading.Sound (states : Set Workspace) (files : ArtifactFiles) (reading : Reading)
    (past : Workspace) (reviewed : Option String) (text : String) : Prop where
  began : past ∈ states
  job : getJob reading.jobId past.database = .ok reading.job past.database
  round : artifactRound? reading.reference reading.jobId reading.kind = some reading.round
  field : reading.job.values.text reading.kind.field = some reading.reference
  known : Known states files reading.reference reading.jobId reading.kind (reviewed.map sha256) text
  reviews : reviewed.isSome = true ↔ reading.kind = .review
  source : ∀ read ∈ reviewed, ∃ plan, reading.job.values.text .planArtifact = some plan ∧
    Holds past.artifacts plan reading.jobId .plan none read ∧
      Known states files plan reading.jobId .plan none read
  plan : reading.plan = none ∨ reading.plan = reviewed

namespace Reading.Sound

variable {past : Workspace} {reviewed : Option String}

theorem fileStep (h : reading.Sound states files past reviewed text) (hstep : FileStep files after)
    (hstates : states ⊆ more) {next : Workspace} (hnext : next ∈ more)
    (hafter : next.artifacts = after) (hsha : Set.InjOn sha256 (hashedTexts more)) :
    reading.Sound more after past reviewed text where
  began := hstates h.began
  job := h.job
  round := h.round
  field := h.field
  known := h.known.fileStep hstep hstates hnext hafter hsha
  reviews := h.reviews
  source := by
    intro read hread
    obtain ⟨plan, hplan, hholds, hknown⟩ := h.source read hread
    exact ⟨plan, hplan, hholds, hknown.fileStep hstep hstates hnext hafter hsha⟩
  plan := h.plan

/-- A read that is ready has the plan of a review, and no plan else. -/
theorem plan_of_isReady (h : reading.Sound states files past reviewed text)
    (hready : reading.isReady = true) : reading.plan = reviewed := by
  rcases h.plan with hnone | hplan
  · rw [Reading.isReady, hnone, Option.isSome_none, Bool.or_false, decide_eq_true_eq] at hready
    cases reviewed with
    | none => exact hnone
    | some read =>
      have hreview := h.reviews.mp rfl
      rw [hready] at hreview
      cases hreview
  · exact hplan

theorem exists_of_not_isReady (h : reading.Sound states files past reviewed text)
    (hready : reading.isReady = false) : ∃ read, reviewed = some read := by
  rw [Reading.isReady, Bool.or_eq_false_iff, decide_eq_false_iff_not] at hready
  refine Option.isSome_iff_exists.mp (h.reviews.mpr ?_)
  cases hkind : reading.kind with
  | plan => exact absurd hkind hready.1
  | review => rfl

/-- The plan is read, or its file is gone. -/
theorem parseSource_cases (h : reading.Sound states files past reviewed text)
    (hready : reading.isReady = false) : ∃ read plan, reviewed = some read ∧
      reading.job.values.text .planArtifact = some plan ∧
      (reading.parseSource files = .ok read files ∨
        files plan = none ∧ ∃ message, reading.parseSource files = .error message files) := by
  obtain ⟨read, rfl⟩ := h.exists_of_not_isReady hready
  obtain ⟨plan, hplan, -, hknown⟩ := h.source read rfl
  obtain ⟨round, contents, hround, hcheck, hsettled⟩ := id hknown
  refine ⟨read, plan, rfl, hplan, ?_⟩
  unfold Reading.parseSource parsePlan
  simp only [hplan, hround]
  exact hknown.parseArtifact_cases hround

/-- The text is read, or its file is gone. -/
theorem parseText_cases (h : reading.Sound states files past reviewed text)
    (hready : reading.isReady = true) :
    reading.parseText files = .ok text files ∨
      files reading.reference = none ∧
        ∃ message, reading.parseText files = .error message files := by
  unfold Reading.parseText
  rw [h.plan_of_isReady hready]
  exact h.known.parseArtifact_cases h.round

end Reading.Sound

/-- What a read that starts has found. -/
structure Workspace.Begins (workspace : Workspace) (jobId reference : String) (kind : ArtifactKind)
    (reading : Reading) : Prop where
  round : artifactRound? reference jobId kind = some reading.round
  job : getJob jobId workspace.database = .ok reading.job workspace.database
  field : reading.job.values.text kind.field = some reference
  reading : reading = { jobId, reference, kind, round := reading.round, job := reading.job }

variable {workspace : Workspace}

omit [Hashlib] in
theorem begins_of_beginRead (h : workspace.beginRead jobId reference kind = .ok reading) :
    workspace.Begins jobId reference kind reading := by
  unfold Workspace.beginRead at h
  split at h
  · cases h
  · next round hround =>
    split at h
    · cases h
    · next job after hjob =>
      obtain ⟨-, rfl⟩ := VoiceHarness.getJob_eq_ok_iff.mp hjob
      split_ifs at h with hfield
      cases h
      exact ⟨hround, hjob, not_not.mp hfield, rfl⟩

/-- A read that starts finds the files of a fine job. -/
theorem Workspace.Begins.sound (h : workspace.Begins jobId reference kind reading)
    (hfine : workspace.database.AllFine workspace.artifacts) (hmem : workspace ∈ states) :
    ∃ reviewed text, reading.Sound states workspace.artifacts workspace reviewed text := by
  obtain ⟨hround, hjob, hfield, hreading⟩ := h
  obtain ⟨hplan, hreview⟩ := hfine jobId reading.job hjob
  rw [id_of_getJob hjob] at hplan hreview
  have hid : reading.jobId = jobId := congrArg Reading.jobId hreading
  have hreference : reading.reference = reference := congrArg Reading.reference hreading
  have hkind : reading.kind = kind := congrArg Reading.kind hreading
  have hnone : reading.plan = none := congrArg Reading.plan hreading
  subst hid hreference hkind
  cases hcase : reading.kind with
  | plan =>
    have hheld := hfield
    rw [hcase] at hheld
    obtain ⟨text, hholds⟩ := hplan reading.reference hheld
    refine ⟨none, text, hmem, hjob, hround, hfield, hcase ▸ hholds.known hmem, ?_, ?_, .inl hnone⟩
    · rw [hcase]
      simp
    · rintro read ⟨⟩
  | review =>
    have hheld := hfield
    rw [hcase] at hheld
    obtain ⟨plan, read, text, hsome, hread, hholds⟩ := hreview reading.reference hheld
    refine ⟨some read, text, hmem, hjob, hround, hfield, hcase ▸ hholds.known hmem, ?_, ?_, .inl hnone⟩
    · rw [hcase]
      simp
    · rintro _ ⟨⟩
      exact ⟨plan, hsome, hread, hread.known hmem⟩

/-- Every stored job is fine, and so is every read under way. -/
structure Workspace.Sound (states : Set Workspace) (workspace : Workspace) : Prop where
  member : workspace ∈ states
  fine : workspace.database.AllFine workspace.artifacts
  readings : ∀ reader reading, workspace.readings reader = some reading →
    ∃ past reviewed text, reading.Sound states workspace.artifacts past reviewed text

namespace Workspace.Sound

variable {next : Workspace}

/-- A step that changes no read. -/
theorem of_fileStep (h : workspace.Sound states) (hstep : FileStep workspace.artifacts next.artifacts)
    (hfine : next.database.AllFine next.artifacts) (hreadings : next.readings = workspace.readings)
    (hstates : states ⊆ more) (hnext : next ∈ more) (hsha : Set.InjOn sha256 (hashedTexts more)) :
    next.Sound more := by
  refine ⟨hnext, hfine, fun reader reading hreading ↦ ?_⟩
  rw [hreadings] at hreading
  obtain ⟨past, reviewed, text, hsound⟩ := h.readings reader reading hreading
  exact ⟨past, reviewed, text, hsound.fileStep hstep hstates hnext rfl hsha⟩

/-- A step of a reader that keeps the files and leaves a sound read, or none. -/
theorem of_continueRead (h : workspace.Sound states) {reader : ℕ} {left : Option Reading}
    (hleft : ∀ reading ∈ left, ∃ past reviewed text,
      reading.Sound states workspace.artifacts past reviewed text)
    (hstates : states ⊆ more) (hsha : Set.InjOn sha256 (hashedTexts more))
    (hnext : workspace.continueRead reader workspace.artifacts left ∈ more) :
    (workspace.continueRead reader workspace.artifacts left).Sound more := by
  refine ⟨hnext, h.fine, fun other reading hreading ↦ ?_⟩
  have hkept : ∃ past reviewed text, reading.Sound states workspace.artifacts past reviewed text := by
    unfold Workspace.continueRead at hreading
    by_cases hother : other = reader
    · subst hother
      simp only [Function.update_self] at hreading
      exact hleft reading hreading
    · simp only [Function.update_of_ne hother] at hreading
      exact h.readings other reading hreading
  obtain ⟨past, reviewed, text, hsound⟩ := hkept
  exact ⟨past, reviewed, text, hsound.fileStep (Removes.refl _).fileStep hstates hnext rfl hsha⟩

/-- Where a step of a reader goes, the read under way is sound. -/
theorem step_reader (h : workspace.Sound states) (reader : ℕ) {event : ArtifactEvent}
    (hevent : event = .readPlan reader ∨ event = .readText reader) :
    (workspace.step event).1 = workspace ∨ ∃ left, (workspace.step event).1 =
        workspace.continueRead reader workspace.artifacts left ∧
      ∀ reading ∈ left, ∃ past reviewed text,
        reading.Sound states workspace.artifacts past reviewed text := by
  rcases hreading : workspace.readings reader with _ | reading
  · left
    rcases hevent with rfl | rfl
    · simp only [Workspace.step, Workspace.readPlan, hreading]
    · simp only [Workspace.step, Workspace.readText, hreading]
  · obtain ⟨past, reviewed, text, hsound⟩ := h.readings reader reading hreading
    cases hready : reading.isReady with
    | true =>
      rcases hevent with rfl | rfl
      · left
        simp [Workspace.step, Workspace.readPlan, hreading, hready]
      · refine .inr ⟨none, ?_, ?_⟩
        · rcases hsound.parseText_cases hready with hrun | ⟨-, message, hrun⟩ <;>
            simp [Workspace.step, Workspace.readText, hreading, hready, hrun]
        · intro _ hnone
          cases hnone
    | false =>
      rcases hevent with rfl | rfl
      · obtain ⟨read, plan, rfl, -, hrun | ⟨-, message, hrun⟩⟩ := hsound.parseSource_cases hready
        · refine .inr ⟨some { reading with plan := some read }, ?_, ?_⟩
          · simp [Workspace.step, Workspace.readPlan, hreading, hready, hrun]
          · rintro _ ⟨⟩
            exact ⟨past, some read, text, { hsound with plan := .inr rfl }⟩
        · refine .inr ⟨none, ?_, ?_⟩
          · simp [Workspace.step, Workspace.readPlan, hreading, hready, hrun]
          · intro _ hnone
            cases hnone
      · left
        simp [Workspace.step, Workspace.readText, hreading, hready]

/-- One step keeps every stored job fine and every read sound. -/
theorem step (h : workspace.Sound states) (event : ArtifactEvent) (hstates : states ⊆ more)
    (hnext : (workspace.step event).1 ∈ more) (hsha : Set.InjOn sha256 (hashedTexts more)) :
    (workspace.step event).1.Sound more := by
  have hsame : (workspace.step event).1 = workspace → (workspace.step event).1.Sound more := by
    intro hequal
    rw [hequal] at hnext ⊢
    exact h.of_fileStep (Removes.refl _).fileStep h.fine rfl hstates hnext hsha
  have hreader : ∀ reader, event = .readPlan reader ∨ event = .readText reader →
      (workspace.step event).1.Sound more := by
    intro reader hevent
    rcases h.step_reader reader hevent with hequal | ⟨left, hleft, hsound⟩
    · exact hsame hequal
    · rw [hleft] at hnext ⊢
      exact h.of_continueRead hsound hstates hsha hnext
  cases event with
  | publish publication =>
    exact h.of_fileStep (fileStep_step workspace _) (allFine_publish h.fine publication) rfl hstates
      hnext hsha
  | transition call validated keeps =>
    refine h.of_fileStep (fileStep_step workspace _) (allFine_transition h.fine keeps validated) ?_
      hstates hnext hsha
    exact readings_transition workspace call validated
  | write jobId kind round text planText =>
    refine h.of_fileStep (fileStep_step workspace _)
      (allFine_writeArtifact h.fine jobId kind round text planText) ?_ hstates hnext hsha
    exact readings_writeArtifact workspace jobId kind round text planText
  | beginRead reader jobId reference kind =>
    rcases hbegin : workspace.beginRead jobId reference kind with error | reading
    · refine hsame ?_
      simp only [Workspace.step, hbegin]
    · have hstep : (workspace.step (.beginRead reader jobId reference kind)).1 =
          workspace.continueRead reader workspace.artifacts (some reading) := by
        simp only [Workspace.step, hbegin]
      rw [hstep] at hnext ⊢
      refine h.of_continueRead ?_ hstates hsha hnext
      rintro _ ⟨⟩
      exact ⟨workspace, (begins_of_beginRead hbegin).sound h.fine h.member⟩
  | readPlan reader => exact hreader reader (.inl rfl)
  | readText reader => exact hreader reader (.inr rfl)

end Workspace.Sound

/-! ### Runs -/

/-- The states a run comes through. -/
def visited (files : ArtifactFiles) (events : List ArtifactEvent) : Set Workspace :=
  {workspace | ∃ first, first <+: events ∧ artifactMachine.exec (.start files) first = workspace}

theorem visited_mono {first events : List ArtifactEvent} (h : first <+: events) :
    visited files first ⊆ visited files events := by
  rintro workspace ⟨earlier, hearlier, rfl⟩
  exact ⟨earlier, hearlier.trans h, rfl⟩

theorem exec_mem_visited (files : ArtifactFiles) (events : List ArtifactEvent) :
    artifactMachine.exec (.start files) events ∈ visited files events :=
  ⟨events, List.prefix_rfl, rfl⟩

theorem exec_concat (files : ArtifactFiles) (events : List ArtifactEvent) (event : ArtifactEvent) :
    artifactMachine.exec (.start files) (events ++ [event]) =
      ((artifactMachine.exec (.start files) events).step event).1 := by
  rw [Machine.exec_append]
  rfl

theorem sound_exec {events : List ArtifactEvent}
    (hsha : Set.InjOn sha256 (hashedTexts (visited files events))) :
    (artifactMachine.exec (.start files) events).Sound (visited files events) := by
  induction events using List.reverseRecOn with
  | nil =>
    refine ⟨exec_mem_visited files [], fun jobId job hjob ↦ ?_, fun reader reading hreading ↦ ?_⟩
    · obtain ⟨⟨raw, hload, -⟩, -⟩ := VoiceHarness.getJob_eq_ok_iff.mp hjob
      cases hload
    · cases hreading
  | append_singleton events event ih =>
    have hprefix : events <+: events ++ [event] := List.prefix_append _ _
    have hnext := exec_mem_visited files (events ++ [event])
    rw [exec_concat] at hnext ⊢
    exact (ih (hsha.mono (hashedTexts_mono (visited_mono hprefix)))).step event (visited_mono hprefix)
      hnext hsha

/-- A file keeps its bytes along a run. -/
theorem settled_exec {events later : List ArtifactEvent}
    (hsha : Set.InjOn sha256 (hashedTexts (visited files (events ++ later))))
    (h : Settled (visited files events) (artifactMachine.exec (.start files) events).artifacts reference
      contents) :
    Settled (visited files (events ++ later))
      (artifactMachine.exec (.start files) (events ++ later)).artifacts reference contents := by
  induction later using List.reverseRecOn with
  | nil => rwa [List.append_nil]
  | append_singleton later event ih =>
    rw [← List.append_assoc] at hsha ⊢
    have hprefix : events ++ later <+: events ++ later ++ [event] := List.prefix_append _ _
    have hearlier := ih (hsha.mono (hashedTexts_mono (visited_mono hprefix)))
    refine hearlier.fileStep ?_ (visited_mono hprefix) (exec_mem_visited files _) rfl hsha
    rw [exec_concat]
    exact fileStep_step _ event

/-! ### The protocol -/

/-- The job still holds the reference, and for a review the plan, that a read found. -/
def Reading.IsCurrent (reading : Reading) (job : AgentJob) : Prop :=
  job.values.text reading.kind.field = some reading.reference ∧
    (reading.kind = .review →
      job.values.text .planArtifact = reading.job.values.text .planArtifact)

/-- The next step of a read goes on, or answers the text. -/
def Workspace.Continues (workspace : Workspace) (reader : ℕ) (reading : Reading) (text : String) :
    Prop :=
  if reading.isReady then (workspace.step (.readText reader)).2 = .read (.ok text)
  else ∃ plan, (workspace.step (.readPlan reader)).1.readings reader =
    some { reading with plan := some plan }

/-- What an answer of a read says: in a past state the job held the reference and, for a review, a plan
with the text that the review is bound to; the file is of this job, kind and round; and whichever
publication wrote it published this text, a review for the same text of the plan. -/
structure Confined (files : ArtifactFiles) (events : List ArtifactEvent) (jobId reference : String)
    (kind : ArtifactKind) (text : String) (past : Workspace) (job : AgentJob) (round : ℕ)
    (contents : String) (raw : Dict) (reviewed : Option String) : Prop where
  began : past ∈ visited files events
  read : getJob jobId past.database = .ok job past.database
  field : job.values.text kind.field = some reference
  named : artifactRound? reference jobId kind = some round
  file : (artifactMachine.exec (.start files) events).artifacts reference = some (.text contents)
  isArtifact : IsArtifact contents reference jobId kind round (reviewed.map sha256) text raw
  reviews : reviewed.isSome = true ↔ kind = .review
  plan : ∀ read ∈ reviewed, ∃ plan, job.values.text .planArtifact = some plan ∧
    Holds past.artifacts plan jobId .plan none read
  published : ∀ before publication after, events = before ++ .publish publication :: after →
    (publication.write (artifactMachine.exec (.start files) before)).1 = .ok reference →
      publication.jobId = jobId ∧ publication.claim.kind = kind ∧
      publication.claim.round.toNat = round ∧ publication.text = text ∧
      ∀ plan read, publication.claim.kind = .review →
        publication.claim.expectedPlanReference = some plan →
        Holds (artifactMachine.exec (.start files) before).artifacts plan jobId .plan none read →
          reviewed = some read

/-- The artifacts after any run of publications, other transitions and reads. -/
structure ArtifactProtocol (files : ArtifactFiles) (events : List ArtifactEvent) : Prop where
  /-- A publication that commits found the job it expects. -/
  fenced : ∀ publication saved,
    (artifactMachine.step (artifactMachine.exec (.start files) events) (.publish publication)).2 =
        .saved (.ok { jobs := [saved] }) →
      ∃ current, getJob publication.jobId (artifactMachine.exec (.start files) events).database =
          .ok current (artifactMachine.exec (.start files) events).database ∧
        publication.claim.Fits current
  /-- One that answers no job, or raises, changes no job. -/
  kept : ∀ publication,
    (∀ saved, (artifactMachine.step (artifactMachine.exec (.start files) events)
        (.publish publication)).2 ≠ .saved (.ok { jobs := [saved] })) →
      (artifactMachine.step (artifactMachine.exec (.start files) events)
        (.publish publication)).1.database = (artifactMachine.exec (.start files) events).database
  /-- What was published is what a read answers, as long as the job holds the reference. -/
  faithful : ∀ before publication after saved reference,
    events = before ++ .publish publication :: after →
    (artifactMachine.step (artifactMachine.exec (.start files) before) (.publish publication)).2 =
      .saved (.ok { jobs := [saved] }) →
    saved.values.text publication.claim.kind.field = some reference →
    ∀ current, getJob publication.jobId (artifactMachine.exec (.start files) events).database =
        .ok current (artifactMachine.exec (.start files) events).database →
      current.values.text publication.claim.kind.field = some reference →
        (artifactMachine.exec (.start files) events).readArtifact publication.jobId reference
            publication.claim.kind = .ok publication.text ∧
        ∀ reader reading, (artifactMachine.exec (.start files) events).readings reader = some reading →
          reading.jobId = publication.jobId → reading.reference = reference →
          reading.IsCurrent current →
            (artifactMachine.exec (.start files) events).Continues reader reading publication.text
  /-- A read answers an artifact of its own job, kind and round, and a review for the plan of the job. -/
  confined : ∀ reader text,
    (artifactMachine.step (artifactMachine.exec (.start files) events) (.readText reader)).2 =
        .read (.ok text) →
      ∃ reading past round contents raw reviewed,
        (artifactMachine.exec (.start files) events).readings reader = some reading ∧
          Confined files events reading.jobId reading.reference reading.kind text past reading.job round
            contents raw reviewed

/-- The file of a publication, later in the run. -/
theorem settled_of_publish {before after : List ArtifactEvent} {publication : Publication}
    (hsha : Set.InjOn sha256 (hashedTexts (visited files (before ++ .publish publication :: after))))
    (h : (publication.write (artifactMachine.exec (.start files) before)).1 = .ok reference) :
    ∃ source contents, sourceDigest publication.jobId publication.claim.expectedPlanReference
        publication.claim.kind (artifactMachine.exec (.start files) before).artifacts =
          .ok source (artifactMachine.exec (.start files) before).artifacts ∧
      IsPayload contents reference publication.jobId publication.claim.kind
        publication.claim.round.toNat publication.text source ∧
      Settled (visited files (before ++ .publish publication :: after))
        (artifactMachine.exec (.start files) (before ++ .publish publication :: after)).artifacts
        reference contents := by
  obtain ⟨source, contents, hsource, hpayload, hfile⟩ := publication.write_ok h
  refine ⟨source, contents, hsource, hpayload, ?_⟩
  have hlist : before ++ .publish publication :: after = (before ++ [.publish publication]) ++ after := by
    simp
  rw [hlist] at hsha ⊢
  refine settled_exec hsha ?_
  have hwritten : (artifactMachine.exec (.start files)
      (before ++ [.publish publication])).artifacts reference = some (.text contents) := by
    rw [exec_concat]
    exact hfile
  refine ⟨⟨_, exec_mem_visited files _, hwritten⟩, ?_, .inr hwritten⟩
  rw [hpayload.artifactDigest?]
  simp

/-- A read that is sound answers what is confined. -/
theorem confined_of_sound {events : List ArtifactEvent}
    (hsha : Set.InjOn sha256 (hashedTexts (visited files events))) {past : Workspace}
    {reviewed : Option String} {answer : String}
    (h : reading.Sound (visited files events) (artifactMachine.exec (.start files) events).artifacts past
      reviewed text) (hready : reading.isReady = true)
    (hanswer : reading.parseText (artifactMachine.exec (.start files) events).artifacts =
      .ok answer (artifactMachine.exec (.start files) events).artifacts) :
    ∃ contents raw, Confined files events reading.jobId reading.reference reading.kind answer past
      reading.job reading.round contents raw reviewed := by
  have hplan := h.plan_of_isReady hready
  unfold Reading.parseText at hanswer
  rw [hplan] at hanswer
  obtain ⟨-, contents, hfile, hcheck⟩ := parseArtifact_eq_ok_iff.mp hanswer
  obtain ⟨raw, hraw⟩ := checkArtifact_eq_ok_iff.mp hcheck
  refine ⟨contents, raw, h.began, h.job, h.field, h.round, hfile, hraw, h.reviews, ?_, ?_⟩
  · intro read hread
    obtain ⟨plan, hsome, hholds, -⟩ := h.source read hread
    exact ⟨plan, hsome, hholds⟩
  · rintro before publication after rfl hwrite
    obtain ⟨source, written, hsource, hpayload, hsettled⟩ := settled_of_publish hsha hwrite
    obtain ⟨hid, hkind, hround⟩ := artifactRound?_unique h.round hpayload.artifactRound?
    have hcontents : written = contents := by
      rcases hsettled.kept with hnone | hsome
      · rw [hfile] at hnone
        cases hnone
      · rw [hfile] at hsome
        cases hsome
        rfl
    subst hcontents
    have hown := hraw
    rw [← hkind] at hown
    obtain ⟨htext, hbound⟩ := hpayload.text_of_isArtifact hown
    refine ⟨hid, hkind, hround, htext.symm, fun plan read hreview hexpected hread ↦ ?_⟩
    obtain ⟨-, hsource⟩ := sourceDigest_eq_ok_iff.mp hsource
    rw [hreview] at hsource
    obtain ⟨other, expected, hother, hholds, rfl⟩ := hsource
    obtain rfl : plan = other := Option.some.inj (hexpected.symm.trans hother)
    rw [hid] at hholds
    obtain rfl := hholds.text_unique hread
    obtain ⟨found, hfound⟩ := Option.isSome_iff_exists.mp (h.reviews.mpr (hkind ▸ hreview))
    subst hfound
    obtain ⟨held, -, hheld, -⟩ := h.source found rfl
    have hdigest : sha256 found = sha256 read := Option.some.inj (hbound hreview)
    have hfoundText : found ∈ hashedTexts (visited files (before ++ .publish publication :: after)) := by
      obtain ⟨_, bytes, -, hbytes, hchecked⟩ := hheld
      obtain ⟨_, hparsed⟩ := checkArtifact_eq_ok_iff.mp hchecked
      exact ⟨past, h.began, held, bytes, hbytes, .inr hparsed.artifactText?_eq⟩
    have hreadText : read ∈ hashedTexts (visited files (before ++ .publish publication :: after)) := by
      obtain ⟨_, bytes, -, hbytes, hchecked⟩ := hread
      obtain ⟨_, hparsed⟩ := checkArtifact_eq_ok_iff.mp hchecked
      exact ⟨_, visited_mono (List.prefix_append _ _) (exec_mem_visited files before), plan, bytes, hbytes,
        .inr hparsed.artifactText?_eq⟩
    rw [hsha hfoundText hreadText hdigest]

/-- The file of a stored job is the one that a publication wrote. -/
theorem holds_published {before after : List ArtifactEvent} {publication : Publication}
    (hsha : Set.InjOn sha256 (hashedTexts (visited files (before ++ .publish publication :: after))))
    (hwrite : (publication.write (artifactMachine.exec (.start files) before)).1 = .ok reference)
    (h : Holds (artifactMachine.exec (.start files)
      (before ++ .publish publication :: after)).artifacts reference jobId kind source text) :
    text = publication.text := by
  obtain ⟨_, written, -, hpayload, hsettled⟩ := settled_of_publish hsha hwrite
  obtain ⟨round, contents, hround, hfile, hcheck⟩ := h
  obtain ⟨raw, hraw⟩ := checkArtifact_eq_ok_iff.mp hcheck
  obtain ⟨-, hkind, -⟩ := artifactRound?_unique hround hpayload.artifactRound?
  obtain rfl : contents = written := by
    rcases hsettled.kept with hnone | hsome
    · rw [hfile] at hnone
      cases hnone
    · rw [hfile] at hsome
      cases hsome
      rfl
  rw [← hkind] at hraw
  exact (hpayload.text_of_isArtifact hraw).1

/-- A stored job's own references are read as they are. -/
theorem readArtifact_of_fine {job : AgentJob} (hjob : getJob jobId workspace.database = .ok job
    workspace.database) (hfield : job.values.text kind.field = some reference)
    (hfine : workspace.database.AllFine workspace.artifacts) :
    ∃ source text, Holds workspace.artifacts reference jobId kind source text ∧
      workspace.readArtifact jobId reference kind = .ok text := by
  obtain ⟨hplan, hreview⟩ := hfine jobId job hjob
  rw [id_of_getJob hjob] at hplan hreview
  cases kind with
  | plan =>
    obtain ⟨text, hholds⟩ := hplan reference hfield
    obtain ⟨round, contents, hround, -, -⟩ := id hholds
    have hbegin : workspace.beginRead jobId reference .plan =
        .ok { jobId, reference, kind := .plan, round, job } := by
      simp only [Workspace.beginRead, hround, hjob, hfield]
      simp
    refine ⟨none, text, hholds, ?_⟩
    have hparse := hholds.parseArtifact_eq hround
    simp only [Workspace.readArtifact, hbegin, Reading.parseText, Option.map_none, hparse]
  | review =>
    obtain ⟨plan, read, text, hsome, hread, hholds⟩ := hreview reference hfield
    obtain ⟨round, contents, hround, -, -⟩ := id hholds
    have hbegin : workspace.beginRead jobId reference .review =
        .ok { jobId, reference, kind := .review, round, job } := by
      simp only [Workspace.beginRead, hround, hjob, hfield, hsome]
      simp
    refine ⟨some (sha256 read), text, hholds, ?_⟩
    have hparse := hholds.parseArtifact_eq hround
    have hsource : Reading.parseSource { jobId, reference, kind := .review, round, job }
        workspace.artifacts = .ok read workspace.artifacts := by
      simp only [Reading.parseSource, hsome]
      exact parsePlan_eq_ok_iff.mpr ⟨rfl, hread⟩
    simp only [Workspace.readArtifact, hbegin, bind_apply, hsource, Reading.parseText, Option.map_some,
      hparse]

/-- A read of what the job still holds goes on, and answers what the file of the job says. -/
theorem continues_of_sound {past : Workspace} {reviewed : Option String} {job : AgentJob} {reader : ℕ}
    (hreading : workspace.readings reader = some reading)
    (h : reading.Sound states workspace.artifacts past reviewed text)
    (hjob : getJob reading.jobId workspace.database = .ok job workspace.database)
    (hcurrent : reading.IsCurrent job) (hfine : workspace.database.AllFine workspace.artifacts) :
    workspace.Continues reader reading text := by
  obtain ⟨hplan, hreview⟩ := hfine reading.jobId job hjob
  unfold Workspace.Continues
  cases hready : reading.isReady with
  | true =>
    rw [if_pos rfl]
    have hthere : workspace.artifacts reading.reference ≠ none := by
      have hheld := hcurrent.1
      cases hkind : reading.kind with
      | plan =>
        rw [hkind] at hheld
        obtain ⟨_, _, _, -, hfile, -⟩ := hplan _ hheld
        rw [hfile]
        exact Option.some_ne_none _
      | review =>
        rw [hkind] at hheld
        obtain ⟨_, _, _, -, -, _, _, -, hfile, -⟩ := hreview _ hheld
        rw [hfile]
        exact Option.some_ne_none _
    rcases h.parseText_cases hready with hrun | ⟨hgone, -⟩
    · simp [Workspace.step, Workspace.readText, hreading, hready, hrun]
    · exact absurd hgone hthere
  | false =>
    rw [if_neg Bool.false_ne_true]
    obtain ⟨read, plan, rfl, hsome, hrun | ⟨hgone, -⟩⟩ := h.parseSource_cases hready
    · refine ⟨read, ?_⟩
      simp [Workspace.step, Workspace.readPlan, hreading, hready, hrun, Workspace.continueRead]
    · obtain ⟨_, _, _, -, hfile, -⟩ := hplan plan ((hcurrent.2 (h.reviews.mp rfl)).trans hsome)
      rw [hfile] at hgone
      cases hgone

omit [TextLibrary] in
theorem readText_answers {reader : ℕ} (h : (workspace.readText reader).2 = .read (.ok text)) :
    ∃ reading, workspace.readings reader = some reading ∧ reading.isReady = true ∧
      ∃ artifacts, reading.parseText workspace.artifacts = .ok text artifacts := by
  unfold Workspace.readText at h
  cases hreading : workspace.readings reader with
  | none => simp [hreading] at h
  | some reading =>
    cases hready : reading.isReady with
    | false => simp [hreading, hready] at h
    | true =>
      rcases hrun : reading.parseText workspace.artifacts with ⟨read, artifacts⟩ | ⟨message, artifacts⟩
      · have htext : read = text := by simpa [hreading, hready, hrun] using h
        exact ⟨reading, rfl, hready, artifacts, htext ▸ hrun⟩
      · simp [hreading, hready, hrun] at h

end

section

attribute [local instance] asciiTextLibrary

/-- SHA-256 on two texts and the empty one. -/
@[reducible] def tableHashlib : Hashlib where
  sha256 text :=
    if text = "the plan" then
      ⟨"aab8f06fecd1c041e9a3d5a86114f9e522b546918db8503a045fe4a423b3642a", by decide, by decide⟩
    else if text = "the review" then
      ⟨"746d7bc8fc6ab320d339ed6e006ac0b9bd20253dabe0d747fca19ed74647ed6a", by decide, by decide⟩
    else ⟨"e3b0c44298fc1c149afbf4c8996fb92427ae41e4649b934ca495991b7852b855", by decide, by decide⟩

attribute [local instance] tableHashlib

/-- Two files of an earlier version, whose names have no digest. -/
def earlierFiles : ArtifactFiles := fun reference ↦
  if reference = ".artifacts/0123456789ab/plan-0.json" then some (.text "the plan")
  else if reference = ".artifacts/0123456789ab/review-0.json" then some (.text "the review")
  else none

/-- A job is created beside the files, and a read is asked for one of them. -/
def createdBeside (job : AgentJob) : List ArtifactEvent :=
  [.transition (.create ⟨fun _ _ ↦ .ok (), fun _ _ ↦ .ok ()⟩ job true) [] trivial,
    .beginRead 0 job.id ".artifacts/0123456789ab/plan-0.json" .plan]

theorem artifacts_createdBeside (job : AgentJob) {workspace : Workspace}
    (h : workspace ∈ visited earlierFiles (createdBeside job)) : workspace.artifacts = earlierFiles := by
  have hcreate : ((Workspace.start earlierFiles).transition
      (.create ⟨fun _ _ ↦ .ok (), fun _ _ ↦ .ok ()⟩ job true) []).1.artifacts = earlierFiles := by
    unfold Workspace.transition
    have hchecks : (Workspace.start earlierFiles).checks [] (Workspace.start earlierFiles).artifacts =
        .ok ⟨⟩ earlierFiles := rfl
    rw [hchecks]
    simp only
    split
    · rfl
    · next database answer hstep =>
      obtain ⟨created, -, rfl⟩ := map_eq_ok_iff.mp (atomically_eq_ok_iff.mp hstep)
      rfl
  obtain ⟨first, hfirst, rfl⟩ := h
  unfold createdBeside at hfirst
  rcases List.prefix_cons_iff.mp hfirst with rfl | ⟨rest, rfl, hrest⟩
  · rfl
  · rcases List.prefix_cons_iff.mp hrest with rfl | ⟨last, rfl, hlast⟩
    · exact hcreate
    · obtain rfl := List.prefix_nil.mp hlast
      exact (artifacts_step_beginRead _ _ _ _ _).trans hcreate

end

end VoiceHarness
