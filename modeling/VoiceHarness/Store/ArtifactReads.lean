import VoiceHarness.Store.ArtifactFiles
import VoiceHarness.Store.Commands

/-!
# Reading the artifact files

A read that answers changes no file, and one that raises moves away at most the file it refused. A reference
names one job, one kind and one round, so a file that one reader accepts is refused by no other, except for
a review by a reader with another plan.
-/

set_option autoImplicit false
set_option relaxedAutoImplicit false

namespace VoiceHarness

open Library

section

variable [Hashlib] {files after : ArtifactFiles}

/-! ### One file -/

/-- The file of a reference is there and passes the checks of its job and kind. -/
def Holds (files : ArtifactFiles) (reference jobId : String) (kind : ArtifactKind)
    (source : Option Digest) (text : String) : Prop :=
  ∃ round contents, artifactRound? reference jobId kind = some round ∧
    files reference = some (.text contents) ∧
    checkArtifact contents reference jobId kind round source = .ok text

theorem parseArtifact_cases (reference jobId : String) (kind : ArtifactKind) (round : ℕ)
    (source : Option Digest) (files : ArtifactFiles) :
    (∃ text contents, parseArtifact reference jobId kind round source files = .ok text files ∧
      files reference = some (.text contents) ∧
      checkArtifact contents reference jobId kind round source = .ok text) ∨
    (∃ message, parseArtifact reference jobId kind round source files = .error message files ∧
      files reference = none) ∨
    ∃ message, parseArtifact reference jobId kind round source files =
        .error message (Function.update files reference none) ∧
      ∀ contents, files reference = some (.text contents) →
        ∀ text, checkArtifact contents reference jobId kind round source ≠ .ok text := by
  unfold parseArtifact
  simp only [bind_apply, get_apply]
  cases hfile : files reference with
  | none => exact .inr (.inl ⟨_, rfl, rfl⟩)
  | some file =>
    cases hcheck : checkFile file reference jobId kind round source with
    | ok text =>
      cases file with
      | text contents =>
        refine .inl ⟨text, contents, ?_, rfl, hcheck⟩
        simp only [hcheck]
        rfl
      | unusable => cases hcheck
    | error message =>
      refine .inr (.inr ?_)
      simp only [hcheck]
      refine ⟨_, rfl, ?_⟩
      rintro contents ⟨⟩ text htext
      rw [checkFile, htext] at hcheck
      cases hcheck

theorem parseArtifact_eq_ok_iff {reference jobId : String} {kind : ArtifactKind} {round : ℕ}
    {source : Option Digest} {text : String} :
    parseArtifact reference jobId kind round source files = .ok text after ↔
      after = files ∧ ∃ contents, files reference = some (.text contents) ∧
        checkArtifact contents reference jobId kind round source = .ok text := by
  rcases parseArtifact_cases reference jobId kind round source files with
    ⟨read, contents, hrun, hfile, hcheck⟩ | ⟨message, hrun, hfile⟩ | ⟨message, hrun, hrefused⟩
  · rw [hrun, hfile]
    constructor
    · intro h
      cases h
      exact ⟨rfl, contents, rfl, hcheck⟩
    · rintro ⟨rfl, other, hother, hread⟩
      cases hother
      rw [hcheck] at hread
      cases hread
      rfl
  · rw [hrun, hfile]
    simp
  · rw [hrun]
    constructor
    · intro h
      cases h
    · rintro ⟨-, contents, hfile, hcheck⟩
      exact absurd hcheck (hrefused contents hfile text)

/-- The checks of a plan are the same for every source. -/
theorem checkArtifact_plan {contents reference jobId : String} {round : ℕ} (source other : Option Digest) :
    checkArtifact contents reference jobId .plan round source =
      checkArtifact contents reference jobId .plan round other := by
  unfold checkArtifact
  simp

/-- A reader spares a file that passes its checks. -/
theorem finalState_parseArtifact {path owner reference jobId text : String} {held kind : ArtifactKind}
    {bound source : Option Digest} {round : ℕ} (hpath : Holds files path owner held bound text)
    (hround : artifactRound? reference jobId kind = some round)
    (hsource : path = reference → kind = .review → source = bound) :
    finalState (parseArtifact reference jobId kind round source) files path = files path := by
  rcases parseArtifact_cases reference jobId kind round source files with
    ⟨read, contents, hrun, -, -⟩ | ⟨message, hrun, -⟩ | ⟨message, hrun, hrefused⟩
  · rw [finalState_of_ok hrun]
  · rw [finalState_of_error hrun]
  · rw [finalState_of_error hrun]
    by_cases hsame : path = reference
    · obtain ⟨heldRound, contents, hheld, hfile, hcheck⟩ := hpath
      subst hsame
      obtain ⟨rfl, rfl, rfl⟩ := artifactRound?_unique hheld hround
      refine absurd ?_ (hrefused contents hfile text)
      cases kind with
      | plan => rw [checkArtifact_plan source bound, hcheck]
      | review => rw [hsource rfl rfl, hcheck]
    · exact Function.update_of_ne hsame _ _

theorem Holds.parseArtifact_eq {reference jobId text : String} {kind : ArtifactKind}
    {source : Option Digest} {round : ℕ} (h : Holds files reference jobId kind source text)
    (hround : artifactRound? reference jobId kind = some round) :
    parseArtifact reference jobId kind round source files = .ok text files := by
  obtain ⟨held, contents, hheld, hfile, hcheck⟩ := h
  rw [hround] at hheld
  cases hheld
  exact parseArtifact_eq_ok_iff.mpr ⟨rfl, contents, hfile, hcheck⟩

/-! ### The plan of a review -/

theorem parsePlan_eq_ok_iff {jobId plan text : String} :
    parsePlan jobId plan files = .ok text after ↔
      after = files ∧ Holds files plan jobId .plan none text := by
  unfold parsePlan
  cases hround : artifactRound? plan jobId .plan with
  | none => simp [Holds, hround]
  | some round =>
    simp only
    rw [parseArtifact_eq_ok_iff]
    simp [Holds, hround]

theorem finalState_parsePlan (jobId plan : String) {path owner text : String} {held : ArtifactKind}
    {bound : Option Digest} (hpath : Holds files path owner held bound text) :
    finalState (parsePlan jobId plan) files path = files path := by
  unfold parsePlan
  split
  · rfl
  · next round hround =>
    exact finalState_parseArtifact hpath hround fun _ hkind ↦ nomatch hkind

theorem sourceDigest_eq_ok_iff {jobId : String} {plan : Option String} {kind : ArtifactKind}
    {source : Option Digest} :
    sourceDigest jobId plan kind files = .ok source after ↔
      after = files ∧ match kind with
        | .plan => source = none
        | .review => ∃ reference text, plan = some reference ∧
            Holds files reference jobId .plan none text ∧ source = some (sha256 text) := by
  cases kind with
  | plan =>
    simp only [sourceDigest, pure_apply, EStateM.Result.ok.injEq]
    constructor <;> rintro ⟨rfl, rfl⟩ <;> exact ⟨rfl, rfl⟩
  | review =>
    cases plan with
    | none => simp [sourceDigest]
    | some reference =>
      simp only [sourceDigest]
      rw [bind_eq_ok_iff]
      constructor
      · rintro ⟨text, middle, hplan, hsource⟩
        obtain ⟨rfl, hholds⟩ := parsePlan_eq_ok_iff.mp hplan
        cases hsource
        exact ⟨rfl, reference, text, rfl, hholds, rfl⟩
      · rintro ⟨rfl, other, text, hother, hholds, rfl⟩
        cases hother
        exact ⟨text, after, parsePlan_eq_ok_iff.mpr ⟨rfl, hholds⟩, rfl⟩

theorem finalState_sourceDigest (jobId : String) (plan : Option String) (kind : ArtifactKind)
    {path owner text : String} {held : ArtifactKind} {bound : Option Digest}
    (hpath : Holds files path owner held bound text) :
    finalState (sourceDigest jobId plan kind) files path = files path := by
  cases kind with
  | plan => rfl
  | review =>
    cases plan with
    | none => rfl
    | some reference =>
      have hplan := finalState_parsePlan jobId reference hpath
      simp only [sourceDigest]
      rw [finalState_bind]
      rcases hrun : parsePlan jobId reference files with ⟨read, next⟩ | ⟨message, next⟩
      · rw [finalState_of_ok hrun] at hplan
        exact hplan
      · rw [finalState_of_error hrun] at hplan
        exact hplan

/-! ### The artifacts of a candidate -/

/-- What the checks of a candidate accept: an artifact of the stored job, or a file that is there. -/
def ReferenceHolds (files : ArtifactFiles) (candidate : AgentJob) (previous : Option AgentJob)
    (kind : ArtifactKind) : Prop :=
  ∀ reference, candidate.values.text kind.field = some reference →
    (∃ job, previous = some job ∧ job.values.text kind.field = some reference) ∨
      ∃ source text, Holds files reference candidate.id kind source text ∧
        (kind = .review → ∃ plan read, candidate.values.text .planArtifact = some plan ∧
          Holds files plan candidate.id .plan none read ∧ source = some (sha256 read))

theorem validateReference_ok {candidate : AgentJob} {previous : Option AgentJob} {kind : ArtifactKind}
    (h : validateReference candidate previous kind files = .ok ⟨⟩ after) :
    after = files ∧ ReferenceHolds files candidate previous kind := by
  unfold validateReference at h
  cases hsome : candidate.values.text kind.field with
  | none =>
    simp only [hsome] at h
    cases h
    refine ⟨rfl, fun reference hreference ↦ ?_⟩
    rw [hsome] at hreference
    cases hreference
  | some reference =>
    simp only [hsome] at h
    split_ifs at h with hheld
    · cases h
      refine ⟨rfl, fun other hother ↦ .inl ?_⟩
      rw [hsome] at hother
      cases hother
      obtain ⟨job, hjob, hfield⟩ := (Option.any_eq_true _ _).mp hheld
      exact ⟨job, hjob, of_decide_eq_true hfield⟩
    · cases hround : artifactRound? reference candidate.id kind with
      | none =>
        simp only [hround] at h
        cases h
      | some round =>
        simp only [hround] at h
        rw [bind_eq_ok_iff] at h
        obtain ⟨source, middle, hsource, h⟩ := h
        rw [bind_eq_ok_iff] at h
        obtain ⟨text, last, hparse, hdone⟩ := h
        cases hdone
        obtain ⟨rfl, hsource⟩ := sourceDigest_eq_ok_iff.mp hsource
        obtain ⟨rfl, contents, hfile, hcheck⟩ := parseArtifact_eq_ok_iff.mp hparse
        refine ⟨rfl, fun other hother ↦ .inr ?_⟩
        rw [hsome] at hother
        cases hother
        refine ⟨source, text, ⟨round, contents, hround, hfile, hcheck⟩, fun hkind ↦ ?_⟩
        subst hkind
        obtain ⟨plan, read, hplan, hholds, hdigest⟩ := hsource
        exact ⟨plan, read, hplan, hholds, hdigest⟩

/-- The checks of a candidate spare each file of a stored job. -/
theorem finalState_validateReference (candidate : AgentJob) (previous : Option AgentJob)
    (kind : ArtifactKind) {path owner text : String} {held : ArtifactKind} {bound : Option Digest}
    (hpath : Holds files path owner held bound text)
    (hstored : held = .review → candidate.id = owner →
      ∃ job, previous = some job ∧ job.values.text .reviewArtifact = some path) :
    finalState (validateReference candidate previous kind) files path = files path := by
  unfold validateReference
  split
  · rfl
  · next reference hsome =>
    split
    · rfl
    · next hfresh =>
      split
      · rfl
      · next round hround =>
        have hsource := finalState_sourceDigest candidate.id
          (candidate.values.text .planArtifact) kind hpath
        rw [finalState_bind]
        rcases hrun : sourceDigest candidate.id (candidate.values.text .planArtifact) kind files with
          ⟨source, middle⟩ | ⟨message, middle⟩
        · obtain ⟨rfl, -⟩ := sourceDigest_eq_ok_iff.mp hrun
          have hparse : finalState (parseArtifact reference candidate.id kind round source) middle path =
              middle path := by
            refine finalState_parseArtifact hpath hround fun hsame hkind ↦ absurd ?_ hfresh
            subst hsame hkind
            obtain ⟨heldRound, contents, hheld, -, -⟩ := hpath
            obtain ⟨hid, hkind, -⟩ := artifactRound?_unique hheld hround
            obtain ⟨job, rfl, hjob⟩ := hstored hkind.symm hid
            exact decide_eq_true hjob
          simp only
          rw [finalState_bind]
          rcases hread : parseArtifact reference candidate.id kind round source middle with
            ⟨read, next⟩ | ⟨error, next⟩
          · rw [finalState_of_ok hread] at hparse
            exact hparse
          · rw [finalState_of_error hread] at hparse
            exact hparse
        · rw [finalState_of_error hrun] at hsource
          exact hsource

theorem validateCandidateArtifacts_ok {candidate : AgentJob} {previous : Option AgentJob}
    (h : validateCandidateArtifacts candidate previous files = .ok ⟨⟩ after) :
    after = files ∧ ReferenceHolds files candidate previous .plan ∧
      ReferenceHolds files candidate previous .review := by
  unfold validateCandidateArtifacts at h
  rw [bind_eq_ok_iff] at h
  obtain ⟨⟨⟩, middle, hplan, hreview⟩ := h
  obtain ⟨rfl, hplan⟩ := validateReference_ok hplan
  obtain ⟨rfl, hreview⟩ := validateReference_ok hreview
  exact ⟨rfl, hplan, hreview⟩

theorem finalState_validateCandidateArtifacts (candidate : AgentJob) (previous : Option AgentJob)
    {path owner text : String} {held : ArtifactKind} {bound : Option Digest}
    (hpath : Holds files path owner held bound text)
    (hstored : held = .review → candidate.id = owner →
      ∃ job, previous = some job ∧ job.values.text .reviewArtifact = some path) :
    finalState (validateCandidateArtifacts candidate previous) files path = files path := by
  unfold validateCandidateArtifacts
  rw [finalState_bind]
  have hplan := finalState_validateReference candidate previous .plan hpath hstored
  rcases hrun : validateReference candidate previous .plan files with ⟨⟨⟩, middle⟩ | ⟨message, middle⟩
  · obtain ⟨rfl, -⟩ := validateReference_ok hrun
    exact finalState_validateReference candidate previous .review hpath hstored
  · rw [finalState_of_error hrun] at hplan
    exact hplan

/-! ### What a program does to the files -/

/-- Files are only moved away. -/
def Removes (files after : ArtifactFiles) : Prop :=
  ∀ reference, after reference = files reference ∨ after reference = none

omit [Hashlib] in
theorem Removes.refl (files : ArtifactFiles) : Removes files files := fun _ ↦ .inl rfl

omit [Hashlib] in
theorem Removes.trans {first second third : ArtifactFiles} (h : Removes first second)
    (hnext : Removes second third) : Removes first third := by
  intro reference
  rcases hnext reference with hsame | hnone
  · rw [hsame]
    exact h reference
  · exact .inr hnone

theorem removes_parseArtifact (reference jobId : String) (kind : ArtifactKind) (round : ℕ)
    (source : Option Digest) (files : ArtifactFiles) :
    Removes files (finalState (parseArtifact reference jobId kind round source) files) := by
  rcases parseArtifact_cases reference jobId kind round source files with
    ⟨read, contents, hrun, -, -⟩ | ⟨message, hrun, -⟩ | ⟨message, hrun, -⟩
  · rw [finalState_of_ok hrun]
    exact Removes.refl files
  · rw [finalState_of_error hrun]
    exact Removes.refl files
  · rw [finalState_of_error hrun]
    intro other
    by_cases hsame : other = reference
    · subst hsame
      exact .inr (Function.update_self _ _ _)
    · exact .inl (Function.update_of_ne hsame _ _)

theorem removes_parsePlan (jobId plan : String) (files : ArtifactFiles) :
    Removes files (finalState (parsePlan jobId plan) files) := by
  unfold parsePlan
  split
  · exact Removes.refl files
  · exact removes_parseArtifact _ _ _ _ _ files

theorem removes_sourceDigest (jobId : String) (plan : Option String) (kind : ArtifactKind)
    (files : ArtifactFiles) : Removes files (finalState (sourceDigest jobId plan kind) files) := by
  cases kind with
  | plan => exact Removes.refl files
  | review =>
    cases plan with
    | none => exact Removes.refl files
    | some reference =>
      change Removes files (finalState (parsePlan jobId reference >>= fun text ↦
        pure (some (sha256 text))) files)
      refine relates_bind (R := Removes) Removes.trans (removes_parsePlan jobId reference) ?_ files
      exact fun _ state ↦ Removes.refl state

theorem removes_validateCandidateArtifacts (candidate : AgentJob) (previous : Option AgentJob)
    (files : ArtifactFiles) :
    Removes files (finalState (validateCandidateArtifacts candidate previous) files) := by
  have hreference : ∀ kind state,
      Removes state (finalState (validateReference candidate previous kind) state) := by
    intro kind state
    unfold validateReference
    split
    · exact Removes.refl state
    · split
      · exact Removes.refl state
      · split
        · exact Removes.refl state
        · refine relates_bind (R := Removes) Removes.trans (removes_sourceDigest _ _ _) (fun source ↦ ?_) state
          exact relates_bind (R := Removes) Removes.trans (removes_parseArtifact _ _ _ _ _) fun _ ↦ Removes.refl
  exact relates_bind (R := Removes) Removes.trans (hreference .plan) (fun _ ↦ hreference .review) files

/-- Files are moved away, or written under the digest of their bytes where there was none. -/
def FileStep (files after : ArtifactFiles) : Prop :=
  ∀ reference, after reference = files reference ∨ after reference = none ∨
    files reference = none ∧ ∃ jobId kind round text planDigest contents,
      IsPayload contents reference jobId kind round text planDigest ∧
        after reference = some (.text contents)

theorem Removes.fileStep (h : Removes files after) : FileStep files after := by
  intro reference
  rcases h reference with hsame | hnone
  · exact .inl hsame
  · exact .inr (.inl hnone)

omit [Hashlib] in
/-- The payload is there after its exclusive write, and nothing else changed. -/
theorem exclusiveBytes_cases (reference contents : String) (files : ArtifactFiles) :
    (exclusiveBytes reference contents files = .ok ⟨⟩ files ∧
      files reference = some (.text contents)) ∨
    (exclusiveBytes reference contents files =
        .ok ⟨⟩ (Function.update files reference (some (.text contents))) ∧ files reference = none) ∨
    ∃ message, exclusiveBytes reference contents files = .error message files := by
  unfold exclusiveBytes
  simp only [bind_apply, get_apply]
  cases hfile : files reference with
  | none => exact .inr (.inl ⟨rfl, rfl⟩)
  | some file =>
    cases file with
    | text existing =>
      by_cases hsame : existing = contents
      · refine .inl ?_
        simp only [hsame, if_true]
        exact ⟨rfl, trivial⟩
      · refine .inr (.inr ?_)
        simp only [hsame, if_false]
        exact ⟨_, rfl⟩
    | unusable => exact .inr (.inr ⟨_, rfl⟩)

theorem fileStep_exclusiveBytes {contents reference jobId text : String} {kind : ArtifactKind}
    {round : ℕ} {planDigest : Option Digest}
    (h : IsPayload contents reference jobId kind round text planDigest) (files : ArtifactFiles) :
    FileStep files (finalState (exclusiveBytes reference contents) files) := by
  rcases exclusiveBytes_cases reference contents files with ⟨hrun, -⟩ | ⟨hrun, hfile⟩ | ⟨message, hrun⟩
  · rw [finalState_of_ok hrun]
    exact (Removes.refl files).fileStep
  · rw [finalState_of_ok hrun]
    intro other
    by_cases hsame : other = reference
    · subst hsame
      exact .inr (.inr ⟨hfile, _, _, _, _, _, _, h, Function.update_self _ _ _⟩)
    · exact .inl (Function.update_of_ne hsame _ _)
  · rw [finalState_of_error hrun]
    exact (Removes.refl files).fileStep

omit [Hashlib] in
/-- An exclusive write changes no file that is there. -/
theorem finalState_exclusiveBytes (reference contents : String) {path : String} {file : ArtifactFile}
    (h : files path = some file) :
    finalState (exclusiveBytes reference contents) files path = files path := by
  rcases exclusiveBytes_cases reference contents files with ⟨hrun, -⟩ | ⟨hrun, hfile⟩ | ⟨message, hrun⟩
  · rw [finalState_of_ok hrun]
  · rw [finalState_of_ok hrun]
    refine Function.update_of_ne ?_ _ _
    rintro rfl
    rw [hfile] at h
    cases h
  · rw [finalState_of_error hrun]

omit [Hashlib] in
theorem exclusiveBytes_ok {reference contents : String}
    (h : exclusiveBytes reference contents files = .ok ⟨⟩ after) :
    after reference = some (.text contents) := by
  rcases exclusiveBytes_cases reference contents files with ⟨hrun, hfile⟩ | ⟨hrun, -⟩ | ⟨message, hrun⟩
  · rw [hrun] at h
    cases h
    exact hfile
  · rw [hrun] at h
    cases h
    exact Function.update_self _ _ _
  · rw [hrun] at h
    cases h

end

end VoiceHarness
