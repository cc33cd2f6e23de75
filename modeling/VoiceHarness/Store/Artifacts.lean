import VoiceHarness.Store.Save

/-!
# Artifact references

A valid reference is `.artifacts/<job>/<kind>-<round>[-<digest>].json`, and the save takes it apart
again by splitting its name. The row it finds carries the round of the reference, which the table
takes, and the two references of a job never meet.
-/

set_option autoImplicit false
set_option relaxedAutoImplicit false

namespace VoiceHarness

namespace Values

theorem splitText_of_notMem {separator : Char} {text : List Char} (h : separator ∉ text) :
    splitText separator text = [text] := by
  induction text with
  | nil => rfl
  | cons c text ih =>
    have hne : c ≠ separator := fun heq ↦ h (heq ▸ List.mem_cons_self)
    rw [splitText, ih fun hmem ↦ h (List.mem_cons_of_mem _ hmem)]
    simp [hne]

theorem splitText_ne_nil (separator : Char) (text : List Char) : splitText separator text ≠ [] := by
  induction text with
  | nil => simp [splitText]
  | cons c text ih =>
    rw [splitText]
    rcases hsplit : splitText separator text with _ | ⟨head, tail⟩
    · exact absurd hsplit ih
    · by_cases heq : c = separator
      · simp [heq]
      · simp [heq]

/-- The text before the first separator is the first part. -/
theorem splitText_append_cons {separator : Char} {text : List Char} (h : separator ∉ text)
    (rest : List Char) :
    splitText separator (text ++ separator :: rest) = text :: splitText separator rest := by
  induction text with
  | nil =>
    rcases hsplit : splitText separator rest with _ | ⟨head, tail⟩
    · exact absurd hsplit (splitText_ne_nil separator rest)
    · rw [List.nil_append, splitText, hsplit]
      simp
  | cons c text ih =>
    have hne : c ≠ separator := fun heq ↦ h (heq ▸ List.mem_cons_self)
    rw [List.cons_append, splitText, ih fun hmem ↦ h (List.mem_cons_of_mem _ hmem)]
    simp [hne]

theorem notMem_of_all_isLowerHex {text : List Char} (h : text.all isLowerHex = true) {c : Char}
    (hc : isLowerHex c = false) : c ∉ text := by
  intro hmem
  have hhex := List.all_eq_true.mp h c hmem
  rw [hc] at hhex
  exact absurd hhex (by simp)

/-- The name of a reference below the directory of its job. -/
theorem artifactParts_of_name {jobId : String} (hjob : isJobId jobId = true) {core : List Char}
    (hcore : '/' ∉ core) {reference : String}
    (h : reference.toList =
      ".artifacts/".toList ++ jobId.toList ++ "/".toList ++ core ++ ".json".toList) :
    artifactParts reference = splitText '-' core := by
  have hid : '/' ∉ jobId.toList := by
    unfold isJobId at hjob
    rw [Bool.and_eq_true] at hjob
    exact notMem_of_all_isLowerHex hjob.2 (by decide)
  have hname : '/' ∉ core ++ ".json".toList := by
    rw [List.mem_append]
    exact not_or.mpr ⟨hcore, by decide⟩
  have hsplit : splitText '/' reference.toList =
      [".artifacts".toList, jobId.toList, core ++ ".json".toList] := by
    have hshape : reference.toList = ".artifacts".toList ++ '/' :: (jobId.toList ++ '/' ::
        (core ++ ".json".toList)) := by
      rw [h]
      simp
    rw [hshape, splitText_append_cons (by decide), splitText_append_cons hid,
      splitText_of_notMem hname]
  have hlast : (splitText '/' reference.toList).getLastD [] = core ++ ".json".toList := by
    rw [hsplit]
    rfl
  unfold artifactParts
  simp only [hlast]
  have hsuffix : (".json".toList).isSuffixOf (core ++ ".json".toList) = true :=
    List.isSuffixOf_iff_suffix.mpr (List.suffix_append _ _)
  rw [if_pos hsuffix]
  simp

/-- A name without its ending: the kind and the round, and the digest where there is one. -/
def artifactCore (kind : ArtifactKind) (round : ℕ) (digest : Option (List Char)) : List Char :=
  kind.value.toList ++ '-' :: (toString round).toList ++
    match digest with
    | none => []
    | some digest => '-' :: digest

/-- What a valid reference looks like. -/
theorem exists_core_of_artifactRound {reference jobId : String} {kind : ArtifactKind} {round : ℕ}
    (h : artifactRound? reference jobId kind = some round) :
    round ∈ [0, 1, 2] ∧ ∃ digest : Option (List Char),
      (∀ hex ∈ digest, hex.all isLowerHex = true) ∧
      reference.toList = ".artifacts/".toList ++ jobId.toList ++ "/".toList ++
        artifactCore kind round digest ++ ".json".toList := by
  unfold artifactRound? at h
  refine ⟨List.mem_of_find?_eq_some h, ?_⟩
  have hparse := List.find?_some h
  simp only [Bool.and_eq_true, Bool.or_eq_true, decide_eq_true_eq, List.isPrefixOf_iff_prefix]
    at hparse
  obtain ⟨⟨rest, hrest⟩, hending⟩ := hparse
  have hstem : (".artifacts/" ++ jobId ++ "/" ++ kind.value ++ "-" ++ toString round).toList =
      ".artifacts/".toList ++ jobId.toList ++ "/".toList ++ artifactCore kind round none := by
    simp [artifactCore]
  have hdrop : reference.toList.drop
      (".artifacts/" ++ jobId ++ "/" ++ kind.value ++ "-" ++ toString round).toList.length =
        rest := by
    rw [← hrest, List.drop_left]
  rw [hdrop] at hending
  rcases hending with hjson | ⟨⟨⟨-, hdash⟩, hjson⟩, hhex⟩
  · refine ⟨none, by simp, ?_⟩
    rw [← hrest, hstem, hjson]
  · refine ⟨some ((rest.drop 1).take 64), ?_, ?_⟩
    · rintro hex ⟨⟩
      exact hhex
    · have hshape : rest = '-' :: ((rest.drop 1).take 64 ++ ".json".toList) := by
        rw [← hjson, ← List.drop_drop (i := 64) (j := 1) (l := rest)]
        rw [List.take_append_drop, ← List.singleton_append, ← hdash, List.take_append_drop]
      rw [← hrest, hstem]
      conv_lhs => rw [hshape]
      simp [artifactCore]

theorem notMem_artifactCore {kind : ArtifactKind} {round : ℕ} (hround : round ∈ [0, 1, 2])
    {digest : Option (List Char)} (hdigest : ∀ hex ∈ digest, hex.all isLowerHex = true) :
    '/' ∉ artifactCore kind round digest := by
  have hhead : '/' ∉ kind.value.toList ++ '-' :: (toString round).toList := by
    simp only [List.mem_cons, List.not_mem_nil, or_false] at hround
    rcases hround with rfl | rfl | rfl <;> cases kind <;> decide
  unfold artifactCore
  rw [List.mem_append]
  refine not_or.mpr ⟨hhead, ?_⟩
  cases digest with
  | none => simp
  | some hex =>
    have hhex := notMem_of_all_isLowerHex (hdigest hex rfl) (c := '/') (by decide)
    simpa using hhex

/-- The name splits into the kind, the round and the digest. -/
theorem splitText_artifactCore {kind : ArtifactKind} {round : ℕ} (hround : round ∈ [0, 1, 2])
    {digest : Option (List Char)} (hdigest : ∀ hex ∈ digest, hex.all isLowerHex = true) :
    splitText '-' (artifactCore kind round digest) =
      [kind.value.toList, (toString round).toList] ++ digest.toList := by
  have hkind : '-' ∉ kind.value.toList := by cases kind <;> decide
  have hdigits : '-' ∉ (toString round).toList := by
    simp only [List.mem_cons, List.not_mem_nil, or_false] at hround
    rcases hround with rfl | rfl | rfl <;> decide
  unfold artifactCore
  rw [List.append_assoc, List.cons_append, splitText_append_cons hkind]
  cases digest with
  | none =>
    rw [List.append_nil, splitText_of_notMem hdigits]
    rfl
  | some hex =>
    have hhex := notMem_of_all_isLowerHex (hdigest hex rfl) (c := '-') (by decide)
    change _ :: splitText '-' ((toString round).toList ++ '-' :: hex) = _
    rw [splitText_append_cons hdigits, splitText_of_notMem hhex]
    rfl

/-- The row of a valid reference: none without a digest, and otherwise one the table takes. -/
theorem artifactRow_of_round {reference jobId : String} (hjob : isJobId jobId = true)
    {kind : ArtifactKind} {round : ℕ} (h : artifactRound? reference jobId kind = some round) :
    ∃ row : Option ArtifactRow, artifactRow jobId reference kind = .ok row ∧
      ∀ held ∈ row, held.round ≤ 2 ∧ held.reference = reference ∧ held.jobId = jobId ∧
        held.kind = kind := by
  obtain ⟨hround, digest, hdigest, hreference⟩ := exists_core_of_artifactRound h
  have hparts : artifactParts reference =
      [kind.value.toList, (toString round).toList] ++ digest.toList := by
    rw [artifactParts_of_name hjob (notMem_artifactCore hround hdigest) hreference,
      splitText_artifactCore hround hdigest]
  have hparse : parseRound? (toString round).toList = some round := by
    simp only [List.mem_cons, List.not_mem_nil, or_false] at hround
    rcases hround with rfl | rfl | rfl <;> decide
  have hbound : round ≤ 2 := by
    simp only [List.mem_cons, List.not_mem_nil, or_false] at hround
    omega
  unfold artifactRow
  rw [hparts]
  cases digest with
  | none => exact ⟨none, rfl, by simp⟩
  | some hex =>
    simp only [Option.toList_some, List.cons_append, List.nil_append, hparse]
    refine ⟨_, rfl, ?_⟩
    rintro held ⟨⟩
    exact ⟨hbound, rfl, rfl, rfl⟩

/-- A plan and a review of one job have different references. -/
theorem plan_ne_review {plan review jobId : String} {planRound reviewRound : ℕ}
    (hplan : artifactRound? plan jobId .plan = some planRound)
    (hreview : artifactRound? review jobId .review = some reviewRound) : plan ≠ review := by
  rintro rfl
  obtain ⟨-, planDigest, -, hplan⟩ := exists_core_of_artifactRound hplan
  obtain ⟨-, reviewDigest, -, hreview⟩ := exists_core_of_artifactRound hreview
  rw [hplan, List.append_assoc, List.append_assoc _ _ ".json".toList] at hreview
  have hcores := List.append_cancel_left hreview
  simp [artifactCore, ArtifactKind.value] at hcores

end Values

end VoiceHarness
