import VoiceHarness.JsonText
import VoiceHarness.Store.Artifacts
import VoiceHarness.Store.Operations
import Mathlib.Data.List.Find
import Mathlib.Logic.Function.Basic

/-!
# The files of the workflow artifacts

The text of a plan or a review is a file under the reference its job holds. A file is written once under
the digest of its own bytes, and a file that a read finds invalid is moved to the quarantine. The directories
are taken to be plain ones, and the calls of the file system to succeed.
-/

set_option autoImplicit false
set_option relaxedAutoImplicit false

namespace VoiceHarness

open Library JsonText

/-- A SHA-256 digest in lower case. -/
@[ext] structure Digest where
  hex : String
  length_hex : hex.toList.length = 64
  lower : hex.toList.all isLowerHex = true
  deriving DecidableEq

/-- `hashlib.sha256(text.encode()).hexdigest()`. -/
class Hashlib where
  sha256 : String → Digest

export Hashlib (sha256)

/-- `MAX_WORKFLOW_ARTIFACT_BYTES`. -/
def maxWorkflowArtifactBytes : ℕ := 64 * 1024

/-- What is at the path of an artifact: a text, or a link or bytes that are no text. -/
inductive ArtifactFile
  | text (contents : String)
  | unusable
  deriving DecidableEq

/-- The files below `.artifacts` by their references. -/
abbrev ArtifactFiles := String → Option ArtifactFile

/-- A program over the artifact files; what it raises is a `JobValidationError`. -/
abbrev FileProgram (α : Type) := Program ArtifactFiles String α

def ArtifactKind.field : ArtifactKind → TextField
  | plan => .planArtifact
  | review => .reviewArtifact

/-- The reference of a payload with this digest. -/
def artifactReference (jobId : String) (kind : ArtifactKind) (round : ℤ) (digest : Digest) : String :=
  ".artifacts/" ++ jobId ++ "/" ++ kind.value ++ "-" ++ toString round ++ "-" ++ digest.hex ++ ".json"

/-- The digest in the name of a reference. -/
def artifactDigest? (reference : String) : Option (List Char) :=
  match Values.artifactParts reference with
  | [_, _, digest] => some digest
  | _ => none

/-! ### References -/

/-- The text after the last separator and the text before it. -/
theorem append_separator_inj {separator : Char} {first second before after : List Char}
    (hbefore : separator ∉ before) (hafter : separator ∉ after)
    (h : first ++ separator :: before = second ++ separator :: after) :
    first = second ∧ before = after := by
  rcases List.append_eq_append_iff.mp h with ⟨more, rfl, hmore⟩ | ⟨more, rfl, hmore⟩
  · cases more with
    | nil =>
      rw [List.nil_append] at hmore
      exact ⟨(List.append_nil _).symm, (List.cons.inj hmore).2⟩
    | cons c more =>
      have htail := (List.cons.inj hmore).2
      exact absurd (htail ▸ by simp) hbefore
  · cases more with
    | nil =>
      rw [List.nil_append] at hmore
      exact ⟨List.append_nil _, (List.cons.inj hmore).2.symm⟩
    | cons c more =>
      have htail := (List.cons.inj hmore).2
      exact absurd (htail ▸ by simp) hafter

/-- A reference names one job, one kind and one round. -/
theorem artifactRound?_unique {reference jobId other : String} {kind otherKind : ArtifactKind}
    {round otherRound : ℕ} (h : artifactRound? reference jobId kind = some round)
    (hother : artifactRound? reference other otherKind = some otherRound) :
    other = jobId ∧ otherKind = kind ∧ otherRound = round := by
  obtain ⟨hround, digest, hdigest, hreference⟩ := Values.exists_core_of_artifactRound h
  obtain ⟨hotherRound, otherDigest, hotherDigest, hotherReference⟩ :=
    Values.exists_core_of_artifactRound hother
  have hname : ∀ core : List Char, '/' ∉ core → '/' ∉ core ++ ".json".toList := by
    intro core hcore
    rw [List.mem_append]
    exact not_or.mpr ⟨hcore, by decide⟩
  have hshape : ∀ (id : String) (core : List Char), ".artifacts/".toList ++ id.toList ++ "/".toList ++
      core ++ ".json".toList = (".artifacts/".toList ++ id.toList) ++ '/' :: (core ++ ".json".toList) := by
    intro id core
    simp
  rw [hreference, hshape, hshape] at hotherReference
  obtain ⟨hid, hcore⟩ := append_separator_inj
    (hname _ (Values.notMem_artifactCore hround hdigest))
    (hname _ (Values.notMem_artifactCore hotherRound hotherDigest)) hotherReference
  have hparts := congrArg (Values.splitText '-') (List.append_cancel_right hcore)
  rw [Values.splitText_artifactCore hround hdigest,
    Values.splitText_artifactCore hotherRound hotherDigest] at hparts
  have hkinds := congrArg (·[0]?) hparts
  have hrounds := congrArg (·[1]?) hparts
  simp only [List.cons_append, List.nil_append, List.getElem?_cons_zero, List.getElem?_cons_succ,
    Option.some.injEq] at hkinds hrounds
  refine ⟨String.toList_inj.mp (List.append_cancel_left hid).symm, ?_, ?_⟩
  · revert hkinds
    cases kind <;> cases otherKind <;> decide
  · simp only [List.mem_cons, List.not_mem_nil, or_false] at hround hotherRound
    revert hrounds
    rcases hround with rfl | rfl | rfl <;> rcases hotherRound with rfl | rfl | rfl <;> decide

theorem splitText_append_separator (separator : Char) (text rest : List Char) :
    Values.splitText separator (text ++ separator :: rest) =
      Values.splitText separator text ++ Values.splitText separator rest := by
  induction text with
  | nil =>
    obtain ⟨head, tail, hsplit⟩ :=
      List.exists_cons_of_ne_nil (Values.splitText_ne_nil separator rest)
    rw [List.nil_append, Values.splitText, hsplit]
    simp [Values.splitText, hsplit]
  | cons c text ih =>
    obtain ⟨head, tail, hsplit⟩ :=
      List.exists_cons_of_ne_nil (Values.splitText_ne_nil separator text)
    rw [List.cons_append, Values.splitText, ih, Values.splitText, hsplit]
    by_cases hc : c = separator <;> simp [hc]

/-- The reference of a payload: its digest, and the job, the kind and the round. -/
theorem artifactDigest?_artifactReference (jobId : String) (kind : ArtifactKind) {round : ℕ}
    (hround : round ∈ [0, 1, 2]) (digest : Digest) :
    artifactDigest? (artifactReference jobId kind round digest) = some digest.hex.toList := by
  have hdigest : ∀ hex ∈ some digest.hex.toList, hex.all isLowerHex = true := by
    rintro hex ⟨⟩
    exact digest.lower
  have hcore : '/' ∉ Values.artifactCore kind round (some digest.hex.toList) :=
    Values.notMem_artifactCore hround hdigest
  have hname : '/' ∉ Values.artifactCore kind round (some digest.hex.toList) ++ ".json".toList := by
    rw [List.mem_append]
    exact not_or.mpr ⟨hcore, by decide⟩
  have hdigits : (toString (round : ℤ)).toList = (toString round).toList := by
    simp only [List.mem_cons, List.not_mem_nil, or_false] at hround
    rcases hround with rfl | rfl | rfl <;> decide
  have hshape : (artifactReference jobId kind round digest).toList =
      (".artifacts/".toList ++ jobId.toList) ++
        '/' :: (Values.artifactCore kind round (some digest.hex.toList) ++ ".json".toList) := by
    unfold artifactReference Values.artifactCore
    simp only [String.toList_append, hdigits]
    simp
  have hlast : (Values.splitText '/' (artifactReference jobId kind round digest).toList).getLastD [] =
      Values.artifactCore kind round (some digest.hex.toList) ++ ".json".toList := by
    rw [hshape, splitText_append_separator, Values.splitText_of_notMem hname]
    simp
  have hsuffix : (".json".toList).isSuffixOf
      (Values.artifactCore kind round (some digest.hex.toList) ++ ".json".toList) = true :=
    List.isSuffixOf_iff_suffix.mpr (List.suffix_append _ _)
  unfold artifactDigest? Values.artifactParts
  simp only [hlast]
  rw [if_pos hsuffix]
  have hdrop : (Values.artifactCore kind round (some digest.hex.toList) ++ ".json".toList).take
      ((Values.artifactCore kind round (some digest.hex.toList) ++ ".json".toList).length -
        ".json".toList.length) = Values.artifactCore kind round (some digest.hex.toList) := by
    simp
  rw [hdrop, Values.splitText_artifactCore hround hdigest]
  rfl

theorem artifactRound?_artifactReference (jobId : String) (kind : ArtifactKind) {round : ℕ}
    (hround : round ∈ [0, 1, 2]) (digest : Digest) :
    artifactRound? (artifactReference jobId kind round digest) jobId kind = some round := by
  have hdigits : ∀ number ∈ [0, 1, 2], (toString (number : ℕ)).toList = [Nat.digitChar number] := by
    intro number hnumber
    simp only [List.mem_cons, List.not_mem_nil, or_false] at hnumber
    rcases hnumber with rfl | rfl | rfl <;> decide
  have hint : (toString (round : ℤ)).toList = [Nat.digitChar round] := by
    simp only [List.mem_cons, List.not_mem_nil, or_false] at hround
    rcases hround with rfl | rfl | rfl <;> decide
  have hshape : (artifactReference jobId kind round digest).toList =
      (".artifacts/" ++ jobId ++ "/" ++ kind.value ++ "-").toList ++
        (Nat.digitChar round :: '-' :: (digest.hex.toList ++ ".json".toList)) := by
    unfold artifactReference
    simp only [String.toList_append, hint]
    simp
  unfold artifactRound?
  extract_lets parse
  have hparse : ∀ number ∈ [0, 1, 2], parse number = decide (number = round) := by
    intro number hnumber
    have hstem : (".artifacts/" ++ jobId ++ "/" ++ kind.value ++ "-" ++ toString number).toList =
        (".artifacts/" ++ jobId ++ "/" ++ kind.value ++ "-").toList ++ [Nat.digitChar number] := by
      rw [String.toList_append, hdigits number hnumber]
    by_cases hsame : number = round
    · subst hsame
      have hrest : (artifactReference jobId kind number digest).toList.drop
          (".artifacts/" ++ jobId ++ "/" ++ kind.value ++ "-" ++ toString number).toList.length =
          '-' :: (digest.hex.toList ++ ".json".toList) := by
        have hsplit : (".artifacts/" ++ jobId ++ "/" ++ kind.value ++ "-").toList ++
            (Nat.digitChar number :: '-' :: (digest.hex.toList ++ ".json".toList)) =
            ((".artifacts/" ++ jobId ++ "/" ++ kind.value ++ "-").toList ++ [Nat.digitChar number]) ++
              ('-' :: (digest.hex.toList ++ ".json".toList)) := by simp
        rw [hstem, hshape, hsplit, List.drop_left]
      have hprefix : (".artifacts/" ++ jobId ++ "/" ++ kind.value ++ "-" ++
          toString number).toList.isPrefixOf (artifactReference jobId kind number digest).toList = true := by
        rw [List.isPrefixOf_iff_prefix, hstem, hshape]
        exact ⟨'-' :: (digest.hex.toList ++ ".json".toList), by simp⟩
      have hhex : (digest.hex.toList ++ ".json".toList).take 64 = digest.hex.toList := by
        rw [← digest.length_hex, List.take_left]
      have hending : (digest.hex.toList ++ ".json".toList).drop 64 = ".json".toList := by
        rw [← digest.length_hex, List.drop_left]
      have hcount : ('-' :: (digest.hex.toList ++ ".json".toList)).length = 70 := by
        rw [List.length_cons, List.length_append, digest.length_hex]
        rfl
      simp only [parse, hprefix, hrest, hcount, List.drop_succ_cons, List.drop_zero,
        List.take_succ_cons, List.take_zero, hhex, hending, digest.lower, decide_true, Bool.and_self,
        Bool.or_true]
    · have hdigit : Nat.digitChar number ≠ Nat.digitChar round := by
        simp only [List.mem_cons, List.not_mem_nil, or_false] at hnumber hround
        revert hsame
        rcases hnumber with rfl | rfl | rfl <;> rcases hround with rfl | rfl | rfl <;> decide
      have hprefix : (".artifacts/" ++ jobId ++ "/" ++ kind.value ++ "-" ++
          toString number).toList.isPrefixOf (artifactReference jobId kind round digest).toList = false := by
        by_contra hmatch
        rw [Bool.not_eq_false, List.isPrefixOf_iff_prefix, hstem, hshape] at hmatch
        obtain ⟨rest, hrest⟩ := hmatch
        rw [List.append_assoc] at hrest
        exact hdigit (List.cons.inj (List.append_cancel_left hrest)).1
      simp only [parse, hprefix, Bool.false_and, decide_eq_false hsame]
  rw [List.find?_congr hparse]
  simp only [List.mem_cons, List.not_mem_nil, or_false] at hround
  rcases hround with rfl | rfl | rfl <;> rfl

section

variable [Hashlib]

/-- The members of a payload in the order of their keys; a plan has no `plan_sha256`. -/
def artifactMembers (jobId : String) (kind : ArtifactKind) (round : ℤ) (text : String)
    (planDigest : Option Digest) : List (String × Scalar) :=
  [("job_id", .str jobId), ("kind", .str kind.value)] ++
    (planDigest.toList.map fun digest ↦ ("plan_sha256", Scalar.str digest.hex)) ++
      [("round", .int round), ("schema_version", .int 2), ("sha256", .str (sha256 text).hex),
        ("text", .str text)]

/-- `_artifact_payload`: the reference and the serialized payload. -/
def artifactPayload (jobId : String) (kind : ArtifactKind) (round : ℤ) (text : String)
    (planDigest : Option Digest) : Checked (String × String) := do
  runGuards
    [(isBlank text, "workflow artifact text must be non-empty"),
      (text.toList.contains '\x00', "workflow artifact contains a NUL byte"),
      (kind = .review && planDigest.isNone, "workflow review requires a plan digest")]
  let bound := if kind = .review then planDigest else none
  let serialized := String.ofList (dumps (artifactMembers jobId kind round text bound))
  runGuards
    [(maxWorkflowArtifactBytes < serialized.utf8ByteSize, "workflow artifact exceeds size limit")]
  .ok (artifactReference jobId kind round (sha256 serialized), serialized)

/-- `value == number`, where `True` and a float may equal the number. -/
def equalsNat : Option Json → ℕ → Bool
  | some (.int value), number => value = number
  | some (.float value), number => value = number
  | some (.bool value), number => value.toNat = number
  | _, _ => false

/-- The checks `_parse_artifact` makes of a text it reads. -/
def checkArtifact (contents reference jobId : String) (kind : ArtifactKind) (round : ℕ)
    (source : Option Digest) : Checked String := do
  runGuards
    [(maxWorkflowArtifactBytes < contents.utf8ByteSize, "workflow artifact exceeds size limit")]
  match loads contents.toList with
  | some (.obj raw) => do
    runGuards
      [(Dict.get? raw "job_id" ≠ some (.str jobId), "workflow artifact job identity does not match"),
        (Dict.get? raw "kind" ≠ some (.str kind.value), "workflow artifact kind does not match"),
        (!equalsNat (Dict.get? raw "round") round, "workflow artifact round does not match")]
    match Dict.get? raw "text" with
    | some (.str text) => do
      runGuards
        [(isBlank text, "workflow artifact text must be non-empty"),
          (text.toList.contains '\x00', "workflow artifact contains a NUL byte"),
          (Dict.get? raw "sha256" ≠ some (.str (sha256 text).hex),
            "workflow artifact digest does not match"),
          ((artifactDigest? reference).any (· ≠ (sha256 contents).hex.toList),
            "workflow artifact reference digest does not match"),
          (kind = .review && (Dict.get? raw "plan_sha256").filter (· ≠ .null) ≠
              source.map fun digest ↦ Json.str digest.hex,
            "workflow review does not match the current plan digest")]
      .ok text
    | _ => .error "workflow artifact text must be non-empty"
  | some _ => .error "workflow artifact must be a JSON object"
  | none => .error "workflow artifact is no JSON"

def checkFile (file : ArtifactFile) (reference jobId : String) (kind : ArtifactKind) (round : ℕ)
    (source : Option Digest) : Checked String :=
  match file with
  | .text contents => checkArtifact contents reference jobId kind round source
  | .unusable => .error "workflow artifact cannot be a symlink"

/-- `_parse_artifact`; a file that fails its checks goes to the quarantine. -/
def parseArtifact (reference jobId : String) (kind : ArtifactKind) (round : ℕ)
    (source : Option Digest) : FileProgram String := do
  match (← get) reference with
  | none => throw "workflow artifact is missing"
  | some file =>
    match checkFile file reference jobId kind round source with
    | .ok text => pure text
    | .error message => do
      modify fun files ↦ Function.update files reference none
      throw s!"{reference}: workflow artifact is quarantined: {message}"

/-- The plan of a reference, read for a review. -/
def parsePlan (jobId plan : String) : FileProgram String :=
  match artifactRound? plan jobId .plan with
  | none => throw "invalid reviewed plan artifact reference"
  | some round => parseArtifact plan jobId .plan round none

/-- The digest of the plan a review has to be for. -/
def sourceDigest (jobId : String) (plan : Option String) : ArtifactKind → FileProgram (Option Digest)
  | .plan => pure none
  | .review =>
    match plan with
    | none => throw "workflow review has no current plan"
    | some plan => do pure (some (sha256 (← parsePlan jobId plan)))

/-- `_exclusive_bytes`. -/
def exclusiveBytes (reference contents : String) : FileProgram PUnit := do
  match (← get) reference with
  | none => modify fun files ↦ Function.update files reference (some (.text contents))
  | some (.text existing) =>
    if existing = contents then pure ⟨⟩
    else throw "workflow artifact reference already contains different content"
  | some .unusable => throw "existing workflow artifact cannot be a symlink"

/-- The file of one artifact of a candidate. -/
def validateReference (candidate : AgentJob) (previous : Option AgentJob) (kind : ArtifactKind) :
    FileProgram PUnit :=
  match candidate.values.text kind.field with
  | none => pure ⟨⟩
  | some reference =>
    if previous.any fun job ↦ job.values.text kind.field = some reference then pure ⟨⟩
    else
      match artifactRound? reference candidate.id kind with
      | none => throw "invalid workflow artifact reference"
      | some round => do
        let source ← sourceDigest candidate.id (candidate.values.text .planArtifact) kind
        let _ ← parseArtifact reference candidate.id kind round source

/-- `_validate_candidate_artifacts_unlocked`. -/
def validateCandidateArtifacts (candidate : AgentJob) (previous : Option AgentJob) :
    FileProgram PUnit := do
  validateReference candidate previous .plan
  validateReference candidate previous .review

/-- `_delete_artifacts_unlocked` for each job that is removed. -/
def deleteArtifacts (removed : List String) (files : ArtifactFiles) : ArtifactFiles := fun reference ↦
  if removed.any fun jobId ↦ (".artifacts/" ++ jobId ++ "/").toList.isPrefixOf reference.toList then none
  else files reference

/-- What `publish_artifact` does with the files for a claim that fits: the reference it wrote. -/
def ArtifactClaim.writeFile (claim : ArtifactClaim) (jobId text : String) : FileProgram String := do
  let source ← sourceDigest jobId claim.expectedPlanReference claim.kind
  let payload ← valueOrRaise (artifactPayload jobId claim.kind claim.round text source)
  exclusiveBytes payload.1 payload.2
  pure payload.1

/-! ### A payload and its checks -/

/-- What the checks accept: an object of this job, kind and round with the digest of its text, under the
digest of its bytes, and for a review with the digest of the plan. -/
structure IsArtifact (contents reference jobId : String) (kind : ArtifactKind) (round : ℕ)
    (source : Option Digest) (text : String) (raw : Dict) : Prop where
  size : contents.utf8ByteSize ≤ maxWorkflowArtifactBytes
  parsed : loads contents.toList = some (.obj raw)
  ofJob : raw.get? "job_id" = some (.str jobId)
  ofKind : raw.get? "kind" = some (.str kind.value)
  ofRound : equalsNat (raw.get? "round") round = true
  ofText : raw.get? "text" = some (.str text)
  nonblank : isBlank text = false
  plain : text.toList.contains '\x00' = false
  digest : raw.get? "sha256" = some (.str (sha256 text).hex)
  named : (artifactDigest? reference).all (· = (sha256 contents).hex.toList) = true
  ofPlan : kind = .review → (raw.get? "plan_sha256").filter (· ≠ .null) =
    source.map fun digest ↦ Json.str digest.hex

theorem checkArtifact_eq_ok_iff {contents reference jobId : String} {kind : ArtifactKind} {round : ℕ}
    {source : Option Digest} {text : String} :
    checkArtifact contents reference jobId kind round source = .ok text ↔
      ∃ raw, IsArtifact contents reference jobId kind round source text raw := by
  unfold checkArtifact
  rw [checked_bind_eq_ok_iff]
  constructor
  · rintro ⟨⟨⟩, hsize, h⟩
    split at h
    · next raw hloads =>
      rw [checked_bind_eq_ok_iff] at h
      obtain ⟨⟨⟩, hidentity, h⟩ := h
      split at h
      · next found hfound =>
        rw [checked_bind_eq_ok_iff] at h
        obtain ⟨⟨⟩, hcontents, h⟩ := h
        cases h
        rw [runGuards_eq_ok_iff] at hsize hidentity hcontents
        simp only [List.forall_mem_cons, decide_eq_false_iff_not, not_not, Nat.not_lt, ne_eq,
          Bool.not_eq_false', List.not_mem_nil, false_imp_iff, implies_true, and_true,
          Bool.and_eq_false_imp, decide_eq_true_eq] at hsize hidentity hcontents
        obtain ⟨hjob, hkind, hround⟩ := hidentity
        obtain ⟨hblank, hplain, hdigest, hnamed, hsource⟩ := hcontents
        refine ⟨raw, hsize, hloads, hjob, hkind, hround, hfound, hblank, hplain, hdigest, ?_, hsource⟩
        cases hname : artifactDigest? reference with
        | none => rfl
        | some name =>
          rw [hname] at hnamed
          simpa using hnamed
      · cases h
    · cases h
    · cases h
  · rintro ⟨raw, h⟩
    refine ⟨⟨⟩, ?_, ?_⟩
    · rw [runGuards_eq_ok_iff]
      simpa using h.size
    · simp only [h.parsed]
      rw [checked_bind_eq_ok_iff]
      refine ⟨⟨⟩, ?_, ?_⟩
      · rw [runGuards_eq_ok_iff]
        simp [h.ofJob, h.ofKind, h.ofRound]
      · simp only [h.ofText]
        rw [checked_bind_eq_ok_iff]
        refine ⟨⟨⟩, ?_, rfl⟩
        rw [runGuards_eq_ok_iff]
        have hnamed : (artifactDigest? reference).any (· ≠ (sha256 contents).hex.toList) = false := by
          have hall := h.named
          cases hname : artifactDigest? reference with
          | none => rfl
          | some name =>
            rw [hname] at hall
            simpa using hall
        simp only [List.forall_mem_cons, h.nonblank, h.plain, h.digest, hnamed, ne_eq, not_true_eq_false,
          decide_false, Bool.and_eq_false_imp, decide_eq_true_eq, decide_eq_false_iff_not, not_not,
          List.not_mem_nil, false_imp_iff, implies_true, and_true, true_and]
        exact h.ofPlan

/-- The checks of a plan do not ask for a source. -/
theorem IsArtifact.of_plan {contents reference jobId : String} {round : ℕ} {source : Option Digest}
    {text : String} {raw : Dict} (h : IsArtifact contents reference jobId .plan round source text raw)
    (other : Option Digest) : IsArtifact contents reference jobId .plan round other text raw :=
  { h with ofPlan := fun hkind ↦ nomatch hkind }

/-- The object of a payload. -/
def artifactObject (jobId : String) (kind : ArtifactKind) (round : ℤ) (text : String)
    (planDigest : Option Digest) : Dict :=
  (artifactMembers jobId kind round text planDigest).map fun member ↦ (member.1, member.2.toJson)

theorem nodup_artifactMembers (jobId : String) (kind : ArtifactKind) (round : ℤ) (text : String)
    (planDigest : Option Digest) :
    ((artifactMembers jobId kind round text planDigest).map Prod.fst).Nodup := by
  cases planDigest with
  | none =>
    have hkeys : ["job_id", "kind", "round", "schema_version", "sha256", "text"].Nodup := by decide
    exact hkeys
  | some digest =>
    have hkeys : ["job_id", "kind", "plan_sha256", "round", "schema_version", "sha256", "text"].Nodup := by
      decide
    exact hkeys

theorem get?_artifactObject (jobId : String) (kind : ArtifactKind) (round : ℤ) (text : String)
    (planDigest : Option Digest) :
    (artifactObject jobId kind round text planDigest).get? "job_id" = some (.str jobId) ∧
      (artifactObject jobId kind round text planDigest).get? "kind" = some (.str kind.value) ∧
      (artifactObject jobId kind round text planDigest).get? "round" = some (.int round) ∧
      (artifactObject jobId kind round text planDigest).get? "text" = some (.str text) ∧
      (artifactObject jobId kind round text planDigest).get? "sha256" = some (.str (sha256 text).hex) ∧
      (artifactObject jobId kind round text planDigest).get? "plan_sha256" =
        planDigest.map fun digest ↦ Json.str digest.hex := by
  cases planDigest <;>
    simp [artifactObject, artifactMembers, Dict.get?, List.find?, Scalar.toJson]

/-- What a payload says. -/
structure IsPayload (contents reference jobId : String) (kind : ArtifactKind) (round : ℕ)
    (text : String) (planDigest : Option Digest) : Prop where
  named : reference = artifactReference jobId kind round (sha256 contents)
  inRange : round ∈ [0, 1, 2]
  parsed : loads contents.toList =
    some (.obj (artifactObject jobId kind round text (if kind = .review then planDigest else none)))
  size : contents.utf8ByteSize ≤ maxWorkflowArtifactBytes
  nonblank : isBlank text = false
  plain : text.toList.contains '\x00' = false
  bound : kind = .review → planDigest.isSome

theorem isPayload_of_artifactPayload {jobId : String} {kind : ArtifactKind} {round : ℤ} {text : String}
    {planDigest : Option Digest} {reference contents : String} (hround : 0 ≤ round ∧ round ≤ 2)
    (h : artifactPayload jobId kind round text planDigest = .ok (reference, contents)) :
    IsPayload contents reference jobId kind round.toNat text planDigest := by
  obtain ⟨number, rfl⟩ : ∃ number : ℕ, round = number := ⟨round.toNat, by omega⟩
  unfold artifactPayload at h
  rw [checked_bind_eq_ok_iff] at h
  obtain ⟨⟨⟩, htext, h⟩ := h
  rw [checked_bind_eq_ok_iff] at h
  obtain ⟨⟨⟩, hsize, h⟩ := h
  cases h
  rw [runGuards_eq_ok_iff] at htext hsize
  simp only [List.forall_mem_cons, Bool.and_eq_false_imp, decide_eq_true_eq, List.not_mem_nil,
    false_imp_iff, implies_true, and_true, decide_eq_false_iff_not, Nat.not_lt] at htext hsize
  obtain ⟨hblank, hplain, hsource⟩ := htext
  refine ⟨rfl, ?_, ?_, hsize, hblank, hplain, fun hkind ↦ ?_⟩
  · simp only [List.mem_cons, List.not_mem_nil, or_false, Int.toNat_natCast]
    omega
  · rw [String.toList_ofList]
    refine loads_dumps ?_ (nodup_artifactMembers _ _ _ _ _)
    simp [artifactMembers]
  · have hsome := hsource hkind
    rw [Option.isNone_eq_false_iff] at hsome
    exact hsome

namespace IsPayload

variable {contents reference jobId text : String} {kind : ArtifactKind} {round : ℕ}
  {planDigest : Option Digest}

/-- A payload passes its own checks, a review for the plan it is bound to. -/
theorem isArtifact (h : IsPayload contents reference jobId kind round text planDigest)
    {source : Option Digest} (hsource : kind = .review → source = planDigest) :
    ∃ raw, IsArtifact contents reference jobId kind round source text raw := by
  obtain ⟨hjob, hkind, hround, htext, hdigest, hplan⟩ :=
    get?_artifactObject jobId kind round text (if kind = .review then planDigest else none)
  refine ⟨_, h.size, h.parsed, hjob, hkind, ?_, htext, h.nonblank, h.plain, hdigest, ?_, fun hreview ↦ ?_⟩
  · rw [hround]
    simp [equalsNat]
  · rw [h.named, artifactDigest?_artifactReference jobId kind h.inRange]
    simp
  · rw [hplan, if_pos hreview, hsource hreview]
    cases planDigest <;> simp

theorem artifactRound? (h : IsPayload contents reference jobId kind round text planDigest) :
    VoiceHarness.artifactRound? reference jobId kind = some round := by
  rw [h.named]
  exact artifactRound?_artifactReference jobId kind h.inRange _

theorem artifactDigest? (h : IsPayload contents reference jobId kind round text planDigest) :
    VoiceHarness.artifactDigest? reference = some (sha256 contents).hex.toList := by
  rw [h.named]
  exact artifactDigest?_artifactReference jobId kind h.inRange _

/-- Whoever accepts the bytes of a payload reads its own text, a review for the plan it is bound to. -/
theorem text_of_isArtifact (h : IsPayload contents reference jobId kind round text planDigest)
    {other otherJob : String} {otherRound : ℕ} {source : Option Digest} {read : String} {raw : Dict}
    (hread : IsArtifact contents other otherJob kind otherRound source read raw) :
    read = text ∧ (kind = .review → source = planDigest) := by
  obtain ⟨-, -, -, htext, -, hplan⟩ :=
    get?_artifactObject jobId kind round text (if kind = .review then planDigest else none)
  have hraw := hread.parsed.symm.trans h.parsed
  rw [Option.some.injEq, Json.obj.injEq] at hraw
  subst hraw
  have hsame := hread.ofText.symm.trans htext
  rw [Option.some.injEq, Json.str.injEq] at hsame
  refine ⟨hsame, fun hreview ↦ ?_⟩
  have hbound := hread.ofPlan hreview
  rw [hplan, if_pos hreview] at hbound
  have hinjective : ∀ first second : Digest, first.hex = second.hex → first = second := by
    rintro ⟨_, _, _⟩ ⟨_, _, _⟩ rfl
    rfl
  cases planDigest with
  | none =>
    cases source with
    | none => rfl
    | some digest => simp at hbound
  | some digest =>
    cases source with
    | none => simp at hbound
    | some other =>
      simp only [Option.map_some, Option.filter_some] at hbound
      rw [if_pos (by simp), Option.some.injEq, Json.str.injEq] at hbound
      rw [hinjective other digest hbound.symm]

end IsPayload

end

end VoiceHarness
