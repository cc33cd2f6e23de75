import VoiceHarness.Inbox.Reference

/-!
# Named issues

What it means that a reference names an issue, by its key or with its repository, and when the matches are
the named issue and no other one.
-/

set_option autoImplicit false
set_option relaxedAutoImplicit false

namespace VoiceHarness

/-! ### Tokens -/

theorem exists_mem_splitOnP {p : Char → Bool} {text : List Char} {c : Char} (hc : c ∈ text)
    (hp : p c = false) : ∃ piece ∈ text.splitOnP p, c ∈ piece := by
  induction text with
  | nil => cases hc
  | cons first text ih =>
    rw [List.splitOnP_cons_eq_if_modifyHead]
    by_cases hfirst : p first = true
    · rw [if_pos hfirst]
      rcases List.mem_cons.mp hc with rfl | hc
      · rw [hp] at hfirst
        cases hfirst
      · obtain ⟨piece, hpiece, hmem⟩ := ih hc
        exact ⟨piece, List.mem_cons_of_mem _ hpiece, hmem⟩
    · rw [if_neg hfirst]
      obtain ⟨head, others, hsplit⟩ := List.exists_cons_of_ne_nil (List.splitOnP_ne_nil p text)
      rw [hsplit] at ih ⊢
      rw [List.modifyHead_cons]
      rcases List.mem_cons.mp hc with rfl | hc
      · exact ⟨_, List.mem_cons_self, List.mem_cons_self⟩
      · obtain ⟨piece, hpiece, hmem⟩ := ih hc
        rcases List.mem_cons.mp hpiece with rfl | hpiece
        · exact ⟨_, List.mem_cons_self, List.mem_cons_of_mem _ hmem⟩
        · exact ⟨piece, List.mem_cons_of_mem _ hpiece, hmem⟩

theorem exists_digit_intText (value : ℤ) : ∃ c ∈ intText value, isTokenChar c = true := by
  have hnat : ∀ number : ℕ, ∃ c ∈ (Nat.repr number).toList, isTokenChar c = true := by
    intro number
    rw [Nat.toList_repr]
    obtain ⟨c, more, hdigits⟩ := List.exists_cons_of_ne_nil (@Nat.toDigits_ne_nil number 10)
    have hmem : c ∈ Nat.toDigits 10 number := hdigits ▸ List.mem_cons_self
    refine ⟨c, hmem, ?_⟩
    rw [isTokenChar, Nat.isDigit_of_mem_toDigits (by decide) le_rfl hmem, Bool.or_true]
  cases value with
  | ofNat number => exact hnat number
  | negSucc number =>
    obtain ⟨c, hc, hdigit⟩ := hnat (number + 1)
    refine ⟨c, ?_, hdigit⟩
    change c ∈ ("-" ++ Nat.repr (number + 1)).toList
    rw [String.toList_append]
    exact List.mem_append_right _ hc

section

variable [TextLibrary] {job : AgentJob} {reference : String}

theorem tokens_ne_nil {text : String} {c : Char} (hc : c ∈ foldText text) (htoken : isTokenChar c = true) :
    tokens text ≠ [] := by
  obtain ⟨piece, hpiece, hmem⟩ := exists_mem_splitOnP (p := (!isTokenChar ·)) hc (by simp [htoken])
  refine List.ne_nil_of_mem (a := piece) (List.mem_filter.mpr ⟨hpiece, ?_⟩)
  cases piece with
  | nil => cases hmem
  | cons => rfl

/-! ### Names -/

/-- The tokens of the issue key. -/
def keyTokens (job : AgentJob) : List (List Char) :=
  tokens (TextLibrary.casefold (job.values.textOrEmpty .issueKey))

/-- The reference names the issue key as a whole. -/
def NamesKey (job : AgentJob) (reference : String) : Prop :=
  job.values.hasText .issueKey = true ∧ keyTokens job ≠ [] ∧ keyTokens job <:+: tokens reference

/-- A phrase stands in a text, as no part of a longer name before it or a longer number after it. -/
def Stands (phrase text : List Char) : Prop :=
  ∃ before after, text = before ++ phrase ++ after ∧
    before.getLast?.any (fun c ↦ isTokenChar c || c = '-') = false ∧ after.head?.any isTokenChar = false

/-- The reference names the GitHub issue with its repository. -/
def NamesQualified (job : AgentJob) (reference : String) : Prop :=
  ∃ phrase ∈ qualifiedReferences job, Stands phrase (foldText reference)

def NamesIdentity (job : AgentJob) (reference : String) : Prop :=
  NamesKey job reference ∨ NamesQualified job reference

/-- The reference has the id of the job or its short id. -/
def NamesId (job : AgentJob) (reference : String) : Prop :=
  shortId job ∈ tokens reference ∨ job.values.jobId.toList ∈ tokens reference

/-- The tokens of the issue key stand in the reference, in any order and any place. -/
def HasKeyTokens (job : AgentJob) (reference : String) : Prop :=
  job.values.hasText .issueKey = true ∧ keyTokens job ≠ [] ∧ ∀ token ∈ keyTokens job, token ∈ tokens reference

/-- The issue key or a way to write the GitHub issue is a part of the reference. -/
def ContainsIdentity (job : AgentJob) (reference : String) : Prop :=
  (job.values.hasText .issueKey = true ∧
      foldText (job.values.textOrEmpty .issueKey) <:+: foldText reference) ∨
    ∃ phrase ∈ qualifiedReferences job, phrase <:+: foldText reference

/-- The tier of a job for a reference. -/
def tierOf (job : AgentJob) (reference : String) : Tier :=
  matchTier (summarize job) job (tokens reference) (foldText reference)

theorem tierOf_eq_externalIdentity_iff :
    tierOf job reference = .externalIdentity ↔
      ¬ NamesId job reference ∧ (HasKeyTokens job reference ∨ ContainsIdentity job reference) := by
  have hqualified : qualifiedGithubIssueMatches job (foldText reference) = true ↔
      ∃ phrase ∈ qualifiedReferences job, phrase <:+: foldText reference := by
    simp only [qualifiedGithubIssueMatches, List.any_eq_true, decide_eq_true_eq]
  have hkey : (job.values.hasText .issueKey &&
      (decide (foldText (job.values.textOrEmpty .issueKey) <:+: foldText reference) ||
        (!(tokens (TextLibrary.casefold (job.values.textOrEmpty .issueKey))).isEmpty &&
          (tokens (TextLibrary.casefold (job.values.textOrEmpty .issueKey))).all (· ∈ tokens reference)))) = true ↔
      HasKeyTokens job reference ∨ (job.values.hasText .issueKey = true ∧
        foldText (job.values.textOrEmpty .issueKey) <:+: foldText reference) := by
    simp only [HasKeyTokens, keyTokens, Bool.and_eq_true, Bool.or_eq_true, decide_eq_true_eq,
      Bool.not_eq_true', List.isEmpty_eq_false_iff, List.all_eq_true]
    tauto
  rw [ContainsIdentity, ← or_assoc, ← hkey, ← hqualified]
  unfold tierOf matchTier
  simp only
  by_cases hid : (summarize job).shortId ∈ tokens reference ∨ job.values.jobId.toList ∈ tokens reference
  · have hnames : NamesId job reference := hid
    rw [if_pos hid]
    simp [hnames]
  · have hnames : ¬ NamesId job reference := hid
    rw [if_neg hid, and_iff_right hnames]
    split_ifs with hheld hmatches hnumber hword
    · exact iff_of_true rfl (.inl hheld)
    · exact iff_of_true rfl (.inr hmatches)
    all_goals exact iff_of_false id (not_or.mpr ⟨hheld, hmatches⟩)

/-! ### Matches -/

theorem hasKeyTokens_of_namesKey (h : NamesKey job reference) : HasKeyTokens job reference :=
  ⟨h.1, h.2.1, fun _ htoken ↦ h.2.2.subset htoken⟩

/-- A job whose identity is named is found by it. -/
theorem NamesIdentity.found (h : NamesIdentity job reference) :
    HasKeyTokens job reference ∨ ContainsIdentity job reference := by
  rcases h with hkey | ⟨phrase, hphrase, before, after, htext, -, -⟩
  · exact .inl (hasKeyTokens_of_namesKey hkey)
  · exact .inr (.inr ⟨phrase, hphrase, before, after, htext.symm⟩)

/-- A reference that names an identity has a token. -/
theorem NamesIdentity.tokens_ne_nil (h : NamesIdentity job reference) : tokens reference ≠ [] := by
  rcases h with ⟨-, hne, hinfix⟩ | ⟨phrase, hphrase, before, after, htext, -, -⟩
  · intro hnil
    rw [hnil, List.infix_nil] at hinfix
    exact hne hinfix
  · obtain ⟨c, hc, htoken⟩ : ∃ c ∈ phrase, isTokenChar c = true := by
      unfold qualifiedReferences at hphrase
      cases hnumber : job.values.int .githubIssue with
      | none =>
        rw [hnumber] at hphrase
        cases hphrase
      | some number =>
        obtain ⟨c, hc, htoken⟩ := exists_digit_intText number
        refine ⟨c, ?_, htoken⟩
        rw [hnumber] at hphrase
        simp only at hphrase
        split_ifs at hphrase
        · cases hphrase
        · simp only [List.mem_cons, List.not_mem_nil, or_false] at hphrase
          rcases hphrase with rfl | rfl | rfl | rfl <;> simp [hc]
    refine VoiceHarness.tokens_ne_nil (c := c) ?_ htoken
    rw [htext]
    simp [hc]

/-- The jobs of a tier. -/
def ofTier (jobs : List AgentJob) (reference : String) (tier : Tier) : List JobSummary :=
  (jobs.filter fun job ↦ tierOf job reference = tier).map summarize

theorem resolveReference_eq (jobs : List AgentJob) (reference : String) :
    resolveReference jobs reference =
      if (tokens reference).isEmpty then []
      else if !(ofTier jobs reference .externalIdentity).isEmpty then ofTier jobs reference .externalIdentity
      else if !(ofTier jobs reference .strong).isEmpty then ofTier jobs reference .strong
      else ofTier jobs reference .weak := rfl

theorem resolveReference_of_external {jobs : List AgentJob} (htokens : tokens reference ≠ [])
    (h : ofTier jobs reference .externalIdentity ≠ []) :
    resolveReference jobs reference = ofTier jobs reference .externalIdentity := by
  rw [resolveReference_eq, if_neg (by simpa using htokens), if_pos (by simpa using h)]

theorem ofTier_append (before after : List AgentJob) (tier : Tier) :
    ofTier (before ++ job :: after) reference tier = ofTier before reference tier ++
      ((if tierOf job reference = tier then [summarize job] else []) ++ ofTier after reference tier) := by
  unfold ofTier
  rw [List.filter_append, List.map_append, List.filter_cons]
  by_cases htier : tierOf job reference = tier
  · simp [htier]
  · simp [htier]

theorem ofTier_eq_nil_iff {jobs : List AgentJob} {tier : Tier} :
    ofTier jobs reference tier = [] ↔ ∀ job ∈ jobs, tierOf job reference ≠ tier := by
  unfold ofTier
  rw [List.map_eq_nil_iff, List.filter_eq_nil_iff]
  simp only [decide_eq_true_eq, ne_eq]

/-- A job is the only match of its tier exactly when no other job is of the tier. -/
theorem ofTier_eq_singleton_iff {before after : List AgentJob} {tier : Tier}
    (htier : tierOf job reference = tier) :
    ofTier (before ++ job :: after) reference tier = [summarize job] ↔
      ∀ other ∈ before ++ after, tierOf other reference ≠ tier := by
  rw [ofTier_append, if_pos htier, List.forall_mem_append, ← ofTier_eq_nil_iff, ← ofTier_eq_nil_iff]
  constructor
  · intro h
    have hlength := congrArg List.length h
    simp only [List.length_append, List.length_cons, List.length_nil] at hlength
    exact ⟨List.length_eq_zero_iff.mp (by omega), List.length_eq_zero_iff.mp (by omega)⟩
  · rintro ⟨hbefore, hafter⟩
    rw [hbefore, hafter]
    rfl

/-! ### Named issues -/

/-- A reference that names the issue of exactly one job, and no id, resolves to this job; and no job is matched
by its identity where the reference does not name it, or has the tokens of its key. -/
structure ResolvesNamed (jobs : List AgentJob) (reference : String) : Prop where
  named_only : ∀ before job after, jobs = before ++ job :: after → NamesIdentity job reference →
    (∀ other ∈ before ++ after, ¬ NamesIdentity other reference) →
    (∀ held ∈ jobs, ¬ NamesId held reference) → resolveReference jobs reference = [summarize job]
  no_part : ∀ job ∈ jobs, tierOf job reference = .externalIdentity →
    NamesIdentity job reference ∨ HasKeyTokens job reference

/-- No identity stands in the reference only as a part of a longer one. -/
def NoPart (jobs : List AgentJob) (reference : String) : Prop :=
  ∀ job ∈ jobs, ¬ NamesId job reference → ContainsIdentity job reference →
    NamesIdentity job reference ∨ HasKeyTokens job reference

/-- Beside the only issue that is named, no key has its tokens scattered over the reference. -/
def NoScattered (jobs : List AgentJob) (reference : String) : Prop :=
  ∀ before job after, jobs = before ++ job :: after → NamesIdentity job reference →
    (∀ other ∈ before ++ after, ¬ NamesIdentity other reference) →
    (∀ held ∈ jobs, ¬ NamesId held reference) → ∀ other ∈ before ++ after, ¬ HasKeyTokens other reference

end

section

attribute [local instance] asciiTextLibrary

/-- The record of a job for a Linear issue. -/
def issueRecord (id key : String) : Values :=
  let spec : NewAgentJob :=
    { id, request := "Fix the parser", createdAt := 0, foregroundUntil := 0, harnessKind := .cursor
      details := Values.empty.update
        [.put (.text .issueKey) (some key), .put (.text .issueProvider) (some "linear")] }
  spec.record

end

end VoiceHarness
