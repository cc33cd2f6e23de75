import VoiceHarness.Inbox.Resolution
import Mathlib.Data.List.Nodup

/-!
# Answers to a clarification

The options that a clarification speaks, and when each of them, spoken back, resolves to its job.
-/

set_option autoImplicit false
set_option relaxedAutoImplicit false

namespace VoiceHarness

section

variable [TextLibrary] {job : AgentJob} {jobs before after : List AgentJob} {reference : String}

/-! ### Tiers -/

/-- The reference matches the job by its identity. -/
def MatchesIdentity (job : AgentJob) (reference : String) : Prop :=
  ¬ NamesId job reference ∧ (HasKeyTokens job reference ∨ ContainsIdentity job reference)

/-- The reference has the number of the issue or the pull request of the job. -/
def NamesNumber (job : AgentJob) (reference : String) : Prop :=
  ∃ number, (job.values.int .githubIssue = some number ∨ job.values.int .githubPullRequest = some number) ∧
    intText number ∈ tokens reference

/-- The reference has a word of the label. -/
def SharesWord (job : AgentJob) (reference : String) : Prop :=
  ∃ token ∈ labelTokens (speakableLabelFor job), token ∈ tokens reference

theorem tierOf_eq_externalIdentity_iff_matches :
    tierOf job reference = .externalIdentity ↔ MatchesIdentity job reference :=
  tierOf_eq_externalIdentity_iff

theorem number_iff :
    ([job.values.int .githubIssue, job.values.int .githubPullRequest].any
      (·.any fun number ↦ intText number ∈ tokens reference)) = true ↔ NamesNumber job reference := by
  simp only [NamesNumber, List.any_cons, List.any_nil, Bool.or_false, Bool.or_eq_true, Option.any_eq_true,
    decide_eq_true_eq]
  constructor
  · rintro (⟨number, hnumber, hmem⟩ | ⟨number, hnumber, hmem⟩)
    · exact ⟨number, .inl hnumber, hmem⟩
    · exact ⟨number, .inr hnumber, hmem⟩
  · rintro ⟨number, hnumber | hnumber, hmem⟩
    · exact .inl ⟨number, hnumber, hmem⟩
    · exact .inr ⟨number, hnumber, hmem⟩

theorem word_iff :
    (labelTokens (summarize job).label).any (· ∈ tokens reference) = true ↔ SharesWord job reference := by
  simp only [SharesWord, List.any_eq_true, decide_eq_true_eq]
  rfl

/-- The tier of a match that is not by the identity. -/
theorem tierOf_of_not_matchesIdentity (h : ¬ MatchesIdentity job reference) :
    (tierOf job reference = .strong ↔ NamesId job reference ∨ NamesNumber job reference) ∧
      (tierOf job reference = .weak ↔
        ¬ (NamesId job reference ∨ NamesNumber job reference) ∧ SharesWord job reference) := by
  rw [← tierOf_eq_externalIdentity_iff_matches] at h
  rw [← number_iff, ← word_iff]
  unfold tierOf matchTier at h ⊢
  simp only at h ⊢
  by_cases hid : (summarize job).shortId ∈ tokens reference ∨ job.values.jobId.toList ∈ tokens reference
  · have hnames : NamesId job reference := hid
    simp only [if_pos hid, hnames, true_or, not_true, false_and, reduceCtorEq, iff_self, and_self]
  · have hnames : ¬ NamesId job reference := hid
    rw [if_neg hid] at h ⊢
    simp only [hnames, false_or]
    split_ifs at h ⊢ with hheld hmatches hnumber hword
    · exact absurd rfl h
    · exact absurd rfl h
    · simp [hnumber]
    · simp [hnumber, hword]
    · simp [hnumber, hword]

/-! ### The only match -/

/-- The option matches the job more closely than any other one. -/
def Distinguishes (job : AgentJob) (others : List AgentJob) (reference : String) : Prop :=
  tokens reference ≠ [] ∧
    ((MatchesIdentity job reference ∧ ∀ other ∈ others, ¬ MatchesIdentity other reference) ∨
      ((∀ held ∈ job :: others, ¬ MatchesIdentity held reference) ∧
        (((NamesId job reference ∨ NamesNumber job reference) ∧
            ∀ other ∈ others, ¬ (NamesId other reference ∨ NamesNumber other reference)) ∨
          ((∀ held ∈ job :: others, ¬ (NamesId held reference ∨ NamesNumber held reference)) ∧
            SharesWord job reference ∧ ∀ other ∈ others, ¬ SharesWord other reference))))

/-- A job with an id of its own is the only match of a tier exactly when it is of the tier, and no other job
is. -/
theorem ofTier_eq_singleton {tier : Tier}
    (hids : ((before ++ job :: after).map fun held ↦ held.values.jobId).Nodup) :
    ofTier (before ++ job :: after) reference tier = [summarize job] ↔
      tierOf job reference = tier ∧ ∀ other ∈ before ++ after, tierOf other reference ≠ tier := by
  constructor
  · intro h
    have htier : tierOf job reference = tier := by
      have hmem : summarize job ∈ ofTier (before ++ job :: after) reference tier := by
        rw [h]
        exact List.mem_singleton_self _
      obtain ⟨held, hheld, hsummary⟩ := List.mem_map.mp hmem
      obtain ⟨hheldMem, hheldTier⟩ := List.mem_filter.mp hheld
      have hid : held.values.jobId = job.values.jobId := congrArg JobSummary.id hsummary
      have hsame := List.inj_on_of_nodup_map hids hheldMem (by simp) hid
      rw [← hsame]
      simpa using hheldTier
    exact ⟨htier, (ofTier_eq_singleton_iff htier).mp h⟩
  · rintro ⟨htier, hothers⟩
    exact (ofTier_eq_singleton_iff htier).mpr hothers

omit [TextLibrary] in
theorem forall_mem_middle {P : AgentJob → Prop} :
    (∀ held ∈ before ++ job :: after, P held) ↔ ∀ held ∈ job :: (before ++ after), P held := by
  simp only [List.forall_mem_append, List.forall_mem_cons]
  tauto

/-- A reference resolves to exactly one job when it distinguishes the job from the others. -/
theorem resolveReference_eq_singleton_iff
    (hids : ((before ++ job :: after).map fun held ↦ held.values.jobId).Nodup) :
    resolveReference (before ++ job :: after) reference = [summarize job] ↔
      Distinguishes job (before ++ after) reference := by
  rw [resolveReference_eq, Distinguishes]
  by_cases htokens : tokens reference = []
  · rw [if_pos (by rw [htokens]; rfl)]
    exact iff_of_false (by simp) fun h ↦ h.1 htokens
  · rw [if_neg (by simpa using htokens), and_iff_right htokens]
    by_cases hidentity : ∀ held ∈ before ++ job :: after, ¬ MatchesIdentity held reference
    · have hnil : ofTier (before ++ job :: after) reference .externalIdentity = [] := by
        rw [ofTier_eq_nil_iff]
        exact fun held hheld htier ↦ hidentity held hheld (tierOf_eq_externalIdentity_iff_matches.mp htier)
      have htiers := fun held hheld ↦ tierOf_of_not_matchesIdentity (hidentity held hheld)
      have hidentityMiddle := forall_mem_middle.mp hidentity
      have hjob := htiers job (by simp)
      have hothers : ∀ other ∈ before ++ after, other ∈ before ++ job :: after := by
        intro other hother
        simp only [List.mem_append, List.mem_cons] at hother ⊢
        tauto
      rw [if_neg (by rw [hnil]; simp)]
      by_cases hstrong : ∀ held ∈ before ++ job :: after, ¬ (NamesId held reference ∨ NamesNumber held reference)
      · have hstrongNil : ofTier (before ++ job :: after) reference .strong = [] := by
          rw [ofTier_eq_nil_iff]
          exact fun held hheld htier ↦ hstrong held hheld ((htiers held hheld).1.mp htier)
        have hstrongMiddle := forall_mem_middle.mp hstrong
        rw [if_neg (by rw [hstrongNil]; simp), ofTier_eq_singleton hids]
        have hweak : (∀ other ∈ before ++ after, tierOf other reference ≠ .weak) ↔
            ∀ other ∈ before ++ after, ¬ SharesWord other reference := by
          refine forall₂_congr fun other hother ↦ not_congr ?_
          rw [(htiers other (hothers other hother)).2]
          exact and_iff_right (hstrong other (hothers other hother))
        rw [hjob.2, and_iff_right (hstrong job (by simp)), hweak]
        constructor
        · exact fun h ↦ .inr ⟨hidentityMiddle, .inr ⟨hstrongMiddle, h⟩⟩
        · rintro (⟨h, -⟩ | ⟨-, ⟨h, -⟩ | ⟨-, h⟩⟩)
          · exact absurd h (hidentityMiddle job List.mem_cons_self)
          · exact absurd h (hstrongMiddle job List.mem_cons_self)
          · exact h
      · have hne : ofTier (before ++ job :: after) reference .strong ≠ [] := by
          intro hempty
          rw [ofTier_eq_nil_iff] at hempty
          exact hstrong fun held hheld h ↦ hempty held hheld ((htiers held hheld).1.mpr h)
        rw [if_pos (by simpa using hne), ofTier_eq_singleton hids]
        have hnumbers : (∀ other ∈ before ++ after, tierOf other reference ≠ .strong) ↔
            ∀ other ∈ before ++ after, ¬ (NamesId other reference ∨ NamesNumber other reference) := by
          refine forall₂_congr fun other hother ↦ not_congr ?_
          exact (htiers other (hothers other hother)).1
        rw [hjob.1, hnumbers]
        constructor
        · exact fun h ↦ .inr ⟨hidentityMiddle, .inl h⟩
        · rintro (⟨h, -⟩ | ⟨-, h | ⟨h, -⟩⟩)
          · exact absurd h (hidentityMiddle job List.mem_cons_self)
          · exact h
          · exact absurd (forall_mem_middle.mpr h) hstrong
    · have hne : ofTier (before ++ job :: after) reference .externalIdentity ≠ [] := by
        intro hempty
        rw [ofTier_eq_nil_iff] at hempty
        exact hidentity fun held hheld h ↦ hempty held hheld (tierOf_eq_externalIdentity_iff_matches.mpr h)
      rw [if_pos (by simpa using hne), ofTier_eq_singleton hids, tierOf_eq_externalIdentity_iff_matches]
      simp only [ne_eq, tierOf_eq_externalIdentity_iff_matches]
      constructor
      · exact fun h ↦ .inl h
      · rintro (h | ⟨h, -⟩)
        · exact h
        · exact absurd (forall_mem_middle.mpr h) hidentity

/-! ### Options -/

/-- The option that a clarification speaks for a job. -/
def optionOf (jobs : List AgentJob) (job : AgentJob) : List Char :=
  (summarize job).spoken (1 < ((jobs.map summarize).map labelKey).count (labelKey (summarize job)))

theorem clarifyOptions_eq (jobs : List AgentJob) :
    clarifyOptions (jobs.map summarize) = jobs.map (optionOf jobs) := by
  unfold clarifyOptions
  exact List.map_map

/-- The options of a clarification differ, and each one spoken back resolves to its job. -/
structure ClarificationAnswered (jobs : List AgentJob) : Prop where
  distinct : (clarifyOptions (jobs.map summarize)).Nodup
  resolves : ∀ before job after option, jobs = before ++ job :: after →
    (clarifyOptions (jobs.map summarize))[before.length]? = some option →
    resolveReference jobs (String.ofList option) = [summarize job]

end

section

attribute [local instance] asciiTextLibrary

/-- The record of a job without an issue. -/
def requestRecord (id request : String) : Values :=
  let spec : NewAgentJob :=
    { id, request, createdAt := 0, foregroundUntil := 0, harnessKind := .cursor, details := Values.empty }
  spec.record

end

end VoiceHarness
