import VoiceHarness.Job.Frame

/-!
# Canonical records

`from_dict` gives back a canonical record (`isCanonical_canonicalise`) and leaves a canonical record
as it is (`IsCanonical.canonicalise_eq`). So a job that was read and saved is read again as it was.
Both follow the stages of `canonicalise`: each gives its own fields their canonical form, and the
later stages do not write them. The stages after the session defaults, which every layout of a record
shares, are `settle`; their fixed points are the settled records.
-/

set_option autoImplicit false
set_option relaxedAutoImplicit false

namespace VoiceHarness

namespace Values

theorem get_of_agreeOff {fields : List Field} {values other : Values}
    (h : AgreeOff fields values other) {field : Field} (hfield : field ∉ fields) :
    other.get field = values.get field := by
  unfold get
  rw [h field hfield]

theorem setDefault_of_isPresent {values : Values} {field : Field} (h : (values field).isPresent)
    (value : Option field.type) : values.setDefault field value = values := by
  unfold setDefault
  rw [if_pos h]

theorem isPresent_setDefault (values : Values) (field : Field) (value : Option field.type) :
    (values.setDefault field value field).isPresent = true := by
  unfold setDefault
  split_ifs with h
  · exact h
  · rw [set_self]
    exact Cell.isPresent_ofOption value

/-- A default keeps what is present. -/
theorem isPresent_setDefault_of {values : Values} {field : Field} (h : (values field).isPresent)
    (other : Field) (value : Option other.type) :
    (values.setDefault other value field).isPresent = true := by
  by_cases heq : field = other
  · subst heq
    exact isPresent_setDefault values field value
  · rw [setDefault_of_ne _ _ heq]
    exact h

theorem ext_cells {first second : Values} (hcells : first.cells = second.cells)
    (hothers : first.others = second.others) : first = second := by
  obtain ⟨cells, others, habsent⟩ := first
  cases hcells
  cases hothers
  rfl

theorem others_set {values : Values} {field : Field} (hfield : field.isOther = false)
    (cell : Cell field.type) : (values.set field cell).others = values.others := by
  cases field with
  | other name => exact absurd hfield (by simp [Field.isOther])
  | _ => rfl

/-- Writing the cell that a field holds changes nothing. -/
theorem set_eq_self {values : Values} {field : Field} (hfield : field.isOther = false) :
    values.set field (values field) = values :=
  ext_cells (Function.update_eq_self ..) (others_set hfield _)

theorem popAll_of_absent {values : Values} {fields : List Field}
    (hfields : ∀ field ∈ fields, field.isOther = false)
    (h : ∀ field ∈ fields, values field = .absent) : values.popAll fields = values := by
  induction fields with
  | nil => rfl
  | cons field fields ih =>
    have hself : values.set field .absent = values := by
      rw [← h field List.mem_cons_self]
      exact set_eq_self (hfields field List.mem_cons_self)
    change (values.set field .absent).popAll fields = values
    rw [hself]
    exact ih (fun other hother ↦ hfields other (List.mem_cons_of_mem _ hother))
      fun other hother ↦ h other (List.mem_cons_of_mem _ hother)

/-- The items of a list differ exactly when two of them do. -/
theorem disagree_eq_false_iff {α : Type} [DecidableEq α] {items : List α} :
    disagree items = false ↔ ∀ first ∈ items, ∀ second ∈ items, first = second := by
  cases items with
  | nil => simp [disagree]
  | cons head rest =>
    unfold disagree
    simp only [ne_eq, List.any_eq_false, decide_eq_true_eq, not_not]
    constructor
    · intro h first hfirst second hsecond
      have hhead : ∀ item ∈ head :: rest, item = head := by
        intro item hitem
        rcases List.mem_cons.mp hitem with rfl | hrest
        · rfl
        · exact h item hrest
      rw [hhead first hfirst, hhead second hsecond]
    · exact fun h item hitem ↦ h item (List.mem_cons_of_mem _ hitem) head List.mem_cons_self

variable [TextLibrary] (values : Values)

/-! ### Canonical records -/

/-- The repositories and the numbers of the issue agree, and its URL is one. -/
structure IssueAgrees : Prop where
  url : (values.text .githubIssueUrl).isSome →
    ((values.text .githubIssueUrl).bind TextLibrary.githubIssueFromUrl).isSome
  repositories : disagree (((values.text .githubRepository).toList ++
    ((values.text .githubIssueUrl).bind TextLibrary.githubIssueFromUrl).toList.map Prod.fst).map
      TextLibrary.casefold) = false
  numbers : disagree ((values.int .githubIssue).toList ++
    ((values.text .githubIssueUrl).bind TextLibrary.githubIssueFromUrl).toList.map Prod.snd) = false

/-- The fields every canonical record holds. -/
def defaultedFields : List Field :=
  .harnessKind :: currentFields ++ [.operation .promptOperationState] ++ collectionFields

/-- The fields no canonical record holds. -/
def droppedFields : List Field :=
  [.bool .announcementDismissed, .bool .reviewApproved, .int .githubIssueCreatedNumber,
    .text .githubIssueCreatedUrl, .text .pullRequestBranch]

/-- A record `from_dict` keeps. -/
structure IsCanonical : Prop where
  target : (values.text .sessionId).isSome → (values (.text .herdrTarget)).isPresent
  session : (values.text .herdrTarget).isSome → (values (.text .sessionId)).isPresent
  present : ∀ field ∈ defaultedFields, (values field).isPresent
  absent : ∀ field ∈ droppedFields, values field = .absent
  acknowledged : ∃ ack, values .announcementAck = .val ack ∧
    ¬ (values.bool .delivered = true ∧ ack = .pending)
  issue : values.IssueAgrees
  schemaVersion : values (.int .schemaVersion) = .val currentSchemaVersion

/-- The stages of `canonicalise` after the session defaults. -/
def settle : Checked Values := do
  let announced ← values.currentDefaults.canonicalizeAnnouncementDismissal
  let reviewed ← announced.canonicalizeReviewApproval
  let issue ← reviewed.canonicalizeGithubIssueCreationIdentity
  let branch ← issue.canonicalizePullRequestBranch
  .ok ((branch.set (.int .schemaVersion) (.val currentSchemaVersion)).promptOperationDefaults
    |>.collectionDefaults)

theorem canonicalise_eq_settle : values.canonicalise = values.sessionDefaults.settle := rfl

/-- The fields every settled record holds. -/
def settledFields : List Field :=
  currentFields ++ [.operation .promptOperationState] ++ collectionFields

/-- A record the stages after the session defaults leave as it is. -/
structure IsSettled : Prop where
  present : ∀ field ∈ settledFields, (values field).isPresent
  absent : ∀ field ∈ droppedFields, values field = .absent
  acknowledged : ∃ ack, values .announcementAck = .val ack ∧
    ¬ (values.bool .delivered = true ∧ ack = .pending)
  issue : values.IssueAgrees
  schemaVersion : values (.int .schemaVersion) = .val currentSchemaVersion

variable {values} {result : Values}

theorem IsCanonical.isSettled (h : values.IsCanonical) : values.IsSettled :=
  ⟨fun field hfield ↦ h.present field (List.mem_cons_of_mem _ hfield), h.absent, h.acknowledged,
    h.issue, h.schemaVersion⟩

/-! ### The stages on a canonical record -/

omit [TextLibrary] in
theorem sessionDefaults_eq (hkind : (values .harnessKind).isPresent)
    (htarget : (values.text .sessionId).isSome → (values (.text .herdrTarget)).isPresent)
    (hsession : (values.text .herdrTarget).isSome → (values (.text .sessionId)).isPresent) :
    values.sessionDefaults = values := by
  have hflat : (if (values.text .sessionId).isSome then
      values.setDefault (.text .herdrTarget) (values.text .sessionId) else values) = values := by
    split_ifs with h
    · exact setDefault_of_isPresent (htarget h) _
    · rfl
  unfold sessionDefaults
  rw [hflat]
  simp only [setDefault_of_isPresent hkind]
  split_ifs with h
  · exact setDefault_of_isPresent (hsession h) _
  · rfl

omit [TextLibrary] in
theorem currentDefaults_eq (h : ∀ field ∈ currentFields, (values field).isPresent) :
    values.currentDefaults = values := by
  unfold currentDefaults
  simp only [setDefault_of_isPresent (h _ (by decide : Field.text .issueProvider ∈ currentFields)),
    setDefault_of_isPresent (h _ (by decide : Field.participantAdmissionState ∈ currentFields)),
    setDefault_of_isPresent (h _ (by decide : Field.sessionControl ∈ currentFields)),
    setDefault_of_isPresent
      (h _ (by decide : Field.int .sessionControlGeneration ∈ currentFields))]

/-- The later stages leave a settled record as it is. -/
theorem IsSettled.settle_eq (h : values.IsSettled) : values.settle = .ok values := by
  have hpresent : ∀ fields, fields ⊆ settledFields →
      ∀ field ∈ fields, (values field).isPresent := fun fields hfields field hfield ↦
    h.present field (hfields hfield)
  have hdropped : ∀ fields, fields ⊆ droppedFields → values.popAll fields = values := by
    intro fields hfields
    have hothers : ∀ field ∈ droppedFields, field.isOther = false := by decide
    exact popAll_of_absent (fun field hfield ↦ hothers field (hfields hfield))
      fun field hfield ↦ h.absent field (hfields hfield)
  have hcurrent : values.currentDefaults = values := currentDefaults_eq (hpresent _ (by decide))
  have hannounced : values.canonicalizeAnnouncementDismissal = .ok values := by
    obtain ⟨ack, hcell, hopen⟩ := h.acknowledged
    have hget : values.get .announcementAck = some ack := by
      unfold get
      rw [hcell]
      rfl
    have hdelivered : (values.bool .delivered && decide (ack = .pending)) = false := by
      simpa using hopen
    unfold canonicalizeAnnouncementDismissal
    simp only [hget, h.absent (.bool .announcementDismissed) (by decide), Cell.isPresent,
      Bool.false_and, Bool.false_eq_true, if_false, hdelivered]
    rw [hdropped _ (by decide)]
  have hreviewed : values.canonicalizeReviewApproval = .ok values := by
    unfold canonicalizeReviewApproval
    simp only [h.absent (.bool .reviewApproved) (by decide), Cell.isPresent, Bool.not_false,
      if_true]
  have hissue : values.canonicalizeGithubIssueCreationIdentity = .ok values := by
    have hnumber : values.int .githubIssueCreatedNumber = none := by
      unfold int get
      rw [h.absent _ (by decide)]
      rfl
    have hurl : values.text .githubIssueCreatedUrl = none := by
      unfold text get
      rw [h.absent _ (by decide)]
      rfl
    have hread : ((values.text .githubIssueUrl).isSome &&
        ((values.text .githubIssueUrl).bind TextLibrary.githubIssueFromUrl).isNone) = false := by
      rcases hvalue : values.text .githubIssueUrl with _ | url
      · rfl
      · have hsome := h.issue.url (by rw [hvalue]; rfl)
        rw [hvalue] at hsome
        rw [Option.isNone_eq_false_iff.mpr hsome, Bool.and_false]
    unfold canonicalizeGithubIssueCreationIdentity
    simp only [hnumber, hurl, hread, Option.isSome_none, Option.bind_none, Option.toList_none,
      List.append_nil, h.issue.repositories, h.issue.numbers, Bool.false_and, Bool.and_false,
      Bool.or_self, Bool.false_eq_true, if_false]
    rw [hdropped _ (by decide)]
  have hbranch : values.canonicalizePullRequestBranch = .ok values := by
    have hstored : values.text .pullRequestBranch = none := by
      unfold text get
      rw [h.absent _ (by decide)]
      rfl
    unfold canonicalizePullRequestBranch
    simp only [hstored, Option.isSome_none, Bool.false_and, Bool.false_eq_true, if_false]
    rw [hdropped _ (by decide)]
  have hversion : values.set (.int .schemaVersion) (.val currentSchemaVersion) = values := by
    rw [← h.schemaVersion]
    exact set_eq_self rfl
  have hprompt : values.promptOperationDefaults = values := by
    unfold promptOperationDefaults
    rw [if_pos (h.present _ (by decide))]
  have hcollections : values.collectionDefaults = values := by
    unfold collectionDefaults
    simp only [setDefault_of_isPresent
        (h.present _ (by decide : Field.structured .clarifications ∈ settledFields)),
      setDefault_of_isPresent
        (h.present _ (by decide : Field.targetReleaseUnverifiedTargets ∈ settledFields)),
      setDefault_of_isPresent
        (h.present _ (by decide : Field.participantSessionOwners ∈ settledFields)),
      setDefault_of_isPresent
        (h.present _ (by decide : Field.structured .promptContextSessions ∈ settledFields))]
  unfold settle
  rw [hcurrent]
  simp only [bind, Except.bind, hannounced, hreviewed, hissue, hbranch, hversion, hprompt,
    hcollections]

/-- `from_dict` leaves a canonical record as it is. -/
theorem IsCanonical.canonicalise_eq (h : values.IsCanonical) : values.canonicalise = .ok values := by
  rw [canonicalise_eq_settle, sessionDefaults_eq (h.present _ (by decide)) h.target h.session,
    h.isSettled.settle_eq]

/-! ### What the stages give -/

omit [TextLibrary] in
theorem isPresent_of_get {field : Field} (h : (values.get field).isSome) :
    (values field).isPresent = true := by
  unfold get at h
  rcases hcell : values field with _ | _ | value
  · rw [hcell] at h
    exact absurd h (by simp)
  · rfl
  · rfl

omit [TextLibrary] in
/-- The two names of the session target are held together, and the kind of the harness is. -/
theorem sessionDefaults_canonical :
    (values.sessionDefaults .harnessKind).isPresent = true ∧
      ((values.sessionDefaults.text .sessionId).isSome →
        (values.sessionDefaults (.text .herdrTarget)).isPresent) ∧
      ((values.sessionDefaults.text .herdrTarget).isSome →
        (values.sessionDefaults (.text .sessionId)).isPresent) := by
  unfold sessionDefaults
  extract_lets flat kind
  have hkind : (kind .harnessKind).isPresent = true := isPresent_setDefault _ _ _
  have hflat : (kind.text .sessionId).isSome → (kind (.text .herdrTarget)).isPresent := by
    intro hsession
    refine isPresent_setDefault_of ?_ _ _
    have hsame : kind.text .sessionId = values.text .sessionId := by
      have hne : Field.text .sessionId ≠ .harnessKind := by decide
      have htarget : Field.text .sessionId ≠ .text .herdrTarget := by decide
      unfold text get
      rw [setDefault_of_ne _ _ hne]
      unfold flat
      split_ifs
      · rw [setDefault_of_ne _ _ htarget]
      · rfl
    unfold flat
    rw [if_pos (hsame ▸ hsession)]
    exact isPresent_setDefault _ _ _
  split_ifs with htarget
  · exact ⟨isPresent_setDefault_of hkind _ _,
      fun _ ↦ isPresent_setDefault_of (isPresent_of_get htarget) _ _,
      fun _ ↦ isPresent_setDefault _ _ _⟩
  · exact ⟨hkind, hflat, fun h ↦ absurd h htarget⟩

omit [TextLibrary] in
theorem currentDefaults_canonical :
    ∀ field ∈ currentFields, (values.currentDefaults field).isPresent = true := by
  unfold currentDefaults
  simp only [currentFields, List.forall_mem_cons, List.not_mem_nil, false_imp_iff, implies_true,
    and_true]
  refine ⟨?_, ?_, ?_, isPresent_setDefault _ _ _⟩
  · exact isPresent_setDefault_of (isPresent_setDefault_of (isPresent_setDefault_of
      (isPresent_setDefault _ _ _) _ _) _ _) _ _
  · exact isPresent_setDefault_of (isPresent_setDefault_of (isPresent_setDefault _ _ _) _ _) _ _
  · exact isPresent_setDefault_of (isPresent_setDefault _ _ _) _ _

omit [TextLibrary] in
/-- The acknowledgement is held and fits the delivery, and its mirror is dropped. -/
theorem canonicalizeAnnouncementDismissal_canonical
    (h : values.canonicalizeAnnouncementDismissal = .ok result) :
    result (.bool .announcementDismissed) = .absent ∧
      ∃ ack, result .announcementAck = .val ack ∧
        ¬ (result.bool .delivered = true ∧ ack = .pending) := by
  have hdropped : ∀ other : Values,
      other.popAll [.bool .announcementDismissed] (.bool .announcementDismissed) = .absent :=
    fun other ↦ popAll_of_mem other List.mem_cons_self
  have hdelivered : result.bool .delivered = values.bool .delivered := by
    have hfield : Field.bool .delivered ∉ announcementFields := by decide
    unfold bool
    rw [get_of_agreeOff (agreeOff_canonicalizeAnnouncementDismissal h) hfield]
  have hack : ∀ other : Values, other.popAll [.bool .announcementDismissed] .announcementAck =
      other .announcementAck := fun other ↦ popAll_of_notMem other (by decide)
  rw [hdelivered]
  unfold canonicalizeAnnouncementDismissal at h
  extract_lets dismissed mirrored popped at h
  have hmirrored : mirrored ≠ .pending := by
    unfold mirrored
    split_ifs <;> decide
  rcases hget : values.get .announcementAck with _ | ack
  · rw [hget] at h
    cases h
    refine ⟨hdropped _, _, (hack _).trans (set_self _ _ _), ?_⟩
    rintro ⟨hdone, hpending⟩
    rw [if_pos hdone] at hpending
    exact hmirrored hpending
  · rw [hget] at h
    simp only at h
    split_ifs at h with hmismatch hpending
    · cases h
      exact ⟨hdropped _, mirrored, (hack _).trans (set_self _ _ _), fun hclash ↦ hmirrored hclash.2⟩
    · cases h
      refine ⟨hdropped _, ack, (hack _).trans ?_, by simpa using hpending⟩
      unfold get at hget
      rcases hcell : values .announcementAck with _ | _ | value
      · rw [hcell] at hget
        exact absurd hget (by simp)
      · rw [hcell] at hget
        exact absurd hget (by simp)
      · rw [hcell] at hget
        cases hget
        rfl

omit [TextLibrary] in
theorem canonicalizeReviewApproval_canonical (h : values.canonicalizeReviewApproval = .ok result) :
    result (.bool .reviewApproved) = .absent := by
  have hdropped : values.popAll [.bool .reviewApproved] (.bool .reviewApproved) = .absent :=
    popAll_of_mem values List.mem_cons_self
  unfold canonicalizeReviewApproval at h
  extract_lets approved at h
  split_ifs at h with habsent
  · cases h
    rcases hcell : values (.bool .reviewApproved) with _ | _ | value
    · rfl
    · rw [hcell] at habsent
      exact absurd habsent (by decide)
    · rw [hcell] at habsent
      exact absurd habsent (by simp [Cell.isPresent])
  · cases h
    exact hdropped
  · cases h
    exact hdropped

/-- The issue takes the identity of its creation where it has none of its own. -/
theorem canonicalizeGithubIssueCreationIdentity_canonical
    (h : values.canonicalizeGithubIssueCreationIdentity = .ok result) :
    (∀ field ∈ [Field.int .githubIssueCreatedNumber, .text .githubIssueCreatedUrl],
      result field = .absent) ∧ result.IssueAgrees := by
  have hrepository : result.text .githubRepository = values.text .githubRepository :=
    get_of_agreeOff (agreeOff_canonicalizeGithubIssueCreationIdentity h) (by decide)
  unfold canonicalizeGithubIssueCreationIdentity at h
  extract_lets createdUrl url read parsed repositories numbers issue canonical at h
  split_ifs at h with hurl hcreated hdisagree
  cases h
  refine ⟨fun field hfield ↦ popAll_of_mem _ hfield, ?_⟩
  have hissue : canonical.int .githubIssue =
      (values.int .githubIssue).or (values.int .githubIssueCreatedNumber) := by
    have hcanonical : canonical.int .githubIssue = issue.int .githubIssue := by
      have hne : Field.int .githubIssue ≠ .text .githubIssueUrl := by decide
      unfold canonical int get
      split_ifs
      · rw [set_of_ne _ _ hne]
      · rfl
    rw [hcanonical]
    unfold issue
    rcases hown : values.int .githubIssue with _ | number
    · rcases hother : values.int .githubIssueCreatedNumber with _ | created
      · simpa using hown
      · simp only [Option.isNone_none, Option.isSome_some, Bool.and_self, if_true]
        unfold int get
        rw [set_self]
        rfl
    · simpa using hown
  have hlink : canonical.text .githubIssueUrl = url.or createdUrl := by
    have hkept : issue.text .githubIssueUrl = url := by
      have hne : Field.text .githubIssueUrl ≠ .int .githubIssue := by decide
      unfold issue url text get
      split_ifs
      · rw [set_of_ne _ _ hne]
      · rfl
    unfold canonical
    rcases hown : url with _ | link
    · rcases hother : createdUrl with _ | created
      · simpa [hown] using hkept
      · simp only [Option.isNone_none, Option.isSome_some, Bool.and_self, if_true]
        unfold text get
        rw [set_self]
        rfl
    · simpa [hown] using hkept
  have hread : ∀ entry ∈ (read (url.or createdUrl)).toList, entry ∈ parsed := by
    intro entry hentry
    unfold parsed
    rcases hown : url with _ | link
    · rw [hown] at hentry
      exact List.mem_append_right _ (by simpa using hentry)
    · rw [hown] at hentry
      exact List.mem_append_left _ (by simpa using hentry)
  rw [Bool.or_eq_true, not_or, Bool.not_eq_true, Bool.not_eq_true] at hdisagree
  have hpopped : ∀ {field : Field}, field ∉ [Field.int .githubIssueCreatedNumber,
      .text .githubIssueCreatedUrl] → (canonical.popAll [.int .githubIssueCreatedNumber,
        .text .githubIssueCreatedUrl]).get field = canonical.get field := by
    intro field hfield
    unfold get
    rw [popAll_of_notMem _ hfield]
  have hfinalUrl : (canonical.popAll [.int .githubIssueCreatedNumber,
      .text .githubIssueCreatedUrl]).text .githubIssueUrl = url.or createdUrl :=
    (hpopped (by decide)).trans hlink
  have hfinalIssue : (canonical.popAll [.int .githubIssueCreatedNumber,
      .text .githubIssueCreatedUrl]).int .githubIssue =
        (values.int .githubIssue).or (values.int .githubIssueCreatedNumber) :=
    (hpopped (by decide)).trans hissue
  constructor
  · rw [hfinalUrl]
    rcases hown : url with _ | link
    · rcases hother : createdUrl with _ | created
      · simp
      · rw [hother] at hcreated
        intro _
        simpa [read, Option.isSome_iff_ne_none] using hcreated
    · rw [hown] at hurl
      intro _
      simpa [read, Option.isSome_iff_ne_none] using hurl
  · rw [hfinalUrl, hrepository, disagree_eq_false_iff]
    have hall := disagree_eq_false_iff.mp hdisagree.1
    have hsubset : ∀ repository ∈ (values.text .githubRepository).toList ++
        (read (url.or createdUrl)).toList.map Prod.fst, repository ∈ repositories := by
      intro repository hmem
      rcases List.mem_append.mp hmem with hown | hparsed
      · exact List.mem_append_left _ hown
      · obtain ⟨entry, hentry, rfl⟩ := List.mem_map.mp hparsed
        exact List.mem_append_right _ (List.mem_map_of_mem (hread entry hentry))
    intro first hfirst second hsecond
    obtain ⟨one, hone, rfl⟩ := List.mem_map.mp hfirst
    obtain ⟨two, htwo, rfl⟩ := List.mem_map.mp hsecond
    exact hall _ (List.mem_map_of_mem (hsubset one hone)) _ (List.mem_map_of_mem (hsubset two htwo))
  · rw [hfinalUrl, hfinalIssue, disagree_eq_false_iff]
    have hall := disagree_eq_false_iff.mp hdisagree.2
    have hsubset : ∀ number ∈ ((values.int .githubIssue).or
        (values.int .githubIssueCreatedNumber)).toList ++
          (read (url.or createdUrl)).toList.map Prod.snd, number ∈ numbers := by
      intro number hmem
      rcases List.mem_append.mp hmem with hown | hparsed
      · refine List.mem_append_left _ ?_
        rcases hvalue : values.int .githubIssue with _ | value
        · rw [hvalue] at hown
          exact List.mem_append_right _ (by simpa using hown)
        · rw [hvalue] at hown
          exact List.mem_append_left _ (by simpa using hown)
      · obtain ⟨entry, hentry, rfl⟩ := List.mem_map.mp hparsed
        exact List.mem_append_right _ (List.mem_map_of_mem (hread entry hentry))
    exact fun first hfirst second hsecond ↦
      hall first (hsubset first hfirst) second (hsubset second hsecond)

omit [TextLibrary] in
theorem canonicalizePullRequestBranch_canonical
    (h : values.canonicalizePullRequestBranch = .ok result) :
    result (.text .pullRequestBranch) = .absent := by
  unfold canonicalizePullRequestBranch at h
  extract_lets stored planned branch at h
  split_ifs at h
  cases h
  exact popAll_of_mem _ List.mem_cons_self

theorem promptOperationDefaults_canonical :
    (values.promptOperationDefaults (.operation .promptOperationState)).isPresent = true := by
  unfold promptOperationDefaults
  extract_lets turn phase token active
  split_ifs with h
  · exact h
  · refine isPresent_setDefault_of ?_ _ _
    have hset : ∀ label, (values.set (.operation .promptOperationState) (.val label)
        (.operation .promptOperationState)).isPresent = true := by
      intro label
      rw [set_self]
      rfl
    unfold active
    split_ifs
    · iterate 7 refine isPresent_setDefault_of ?_ _ _
      exact hset _
    · exact hset _

omit [TextLibrary] in
theorem collectionDefaults_canonical :
    ∀ field ∈ collectionFields, (values.collectionDefaults field).isPresent = true := by
  unfold collectionDefaults
  simp only [collectionFields, List.forall_mem_cons, List.not_mem_nil, false_imp_iff, implies_true,
    and_true]
  refine ⟨?_, ?_, ?_, isPresent_setDefault _ _ _⟩
  · exact isPresent_setDefault_of (isPresent_setDefault_of (isPresent_setDefault_of
      (isPresent_setDefault _ _ _) _ _) _ _) _ _
  · exact isPresent_setDefault_of (isPresent_setDefault_of (isPresent_setDefault _ _ _) _ _) _ _
  · exact isPresent_setDefault_of (isPresent_setDefault _ _ _) _ _

/-! The fields that the stages after a stage write. -/

def fieldsAfterBranch : List Field := .int .schemaVersion :: promptFields ++ collectionFields

def fieldsAfterIssue : List Field := branchFields ++ fieldsAfterBranch

def fieldsAfterReview : List Field := issueFields ++ fieldsAfterIssue

def fieldsAfterAnnouncement : List Field := .bool .reviewApproved :: fieldsAfterReview

def fieldsAfterCurrent : List Field := announcementFields ++ fieldsAfterAnnouncement

/-- What the stages after the session defaults give: a settled record, which differs from the given
one only in the fields the stages write. A later stage leaves the fields of an earlier one. -/
theorem settle_ok (h : values.settle = .ok result) :
    result.IsSettled ∧ AgreeOff (currentFields ++ fieldsAfterCurrent) values result := by
  unfold settle at h
  simp only [checked_bind_eq_ok_iff] at h
  obtain ⟨announced, hannounced, reviewed, hreviewed, issue, hissue, branch, hbranch, h⟩ := h
  have hresult := Except.ok.inj h
  have hlast : AgreeOff fieldsAfterBranch branch result := by
    rw [← hresult]
    exact (((AgreeOff.refl _ branch).set List.mem_cons_self _).trans
      (agreeOff_promptOperationDefaults.mono (by decide))).trans
        (agreeOff_collectionDefaults.mono (by decide))
  have hbranched : AgreeOff fieldsAfterIssue issue result :=
    ((agreeOff_canonicalizePullRequestBranch hbranch).mono (by decide)).trans
      (hlast.mono (by decide))
  have hissued : AgreeOff fieldsAfterReview reviewed result :=
    ((agreeOff_canonicalizeGithubIssueCreationIdentity hissue).mono (by decide)).trans
      (hbranched.mono (by decide))
  have happroved : AgreeOff fieldsAfterAnnouncement announced result :=
    ((agreeOff_canonicalizeReviewApproval hreviewed).mono (by decide)).trans
      (hissued.mono (by decide))
  have hcurrent : AgreeOff fieldsAfterCurrent values.currentDefaults result :=
    ((agreeOff_canonicalizeAnnouncementDismissal hannounced).mono (by decide)).trans
      (happroved.mono (by decide))
  obtain ⟨hdismissed, ack, hack, hopen⟩ := canonicalizeAnnouncementDismissal_canonical hannounced
  obtain ⟨hcreation, hagrees⟩ := canonicalizeGithubIssueCreationIdentity_canonical hissue
  refine ⟨?_, (agreeOff_currentDefaults.mono (by decide)).trans (hcurrent.mono (by decide))⟩
  constructor
  · have hdefaults : ∀ field ∈ currentFields, field ∉ fieldsAfterCurrent := by decide
    simp only [settledFields, List.forall_mem_append, List.forall_mem_cons, List.not_mem_nil,
      false_imp_iff, implies_true, and_true]
    refine ⟨⟨fun field hfield ↦ ?_, ?_⟩, ?_⟩
    · rw [hcurrent _ (hdefaults field hfield)]
      exact currentDefaults_canonical field hfield
    · rw [← hresult, agreeOff_collectionDefaults _ (by decide)]
      exact promptOperationDefaults_canonical
    · rw [← hresult]
      exact collectionDefaults_canonical
  · simp only [droppedFields, List.forall_mem_cons, List.not_mem_nil, false_imp_iff, implies_true,
      and_true]
    refine ⟨?_, ?_, ?_, ?_, ?_⟩
    · rw [happroved _ (by decide)]
      exact hdismissed
    · rw [hissued _ (by decide)]
      exact canonicalizeReviewApproval_canonical hreviewed
    · rw [hbranched _ (by decide)]
      exact hcreation _ (by decide)
    · rw [hbranched _ (by decide)]
      exact hcreation _ (by decide)
    · rw [hlast _ (by decide)]
      exact canonicalizePullRequestBranch_canonical hbranch
  · refine ⟨ack, ?_, ?_⟩
    · rw [happroved _ (by decide)]
      exact hack
    · rw [bool, get_of_agreeOff happroved (by decide)]
      exact hopen
  · constructor
    · rw [text, get_of_agreeOff hbranched (by decide)]
      exact hagrees.url
    · rw [text, text, get_of_agreeOff hbranched (by decide), get_of_agreeOff hbranched (by decide)]
      exact hagrees.repositories
    · rw [int, text, get_of_agreeOff hbranched (by decide), get_of_agreeOff hbranched (by decide)]
      exact hagrees.numbers
  · rw [← hresult, agreeOff_collectionDefaults _ (by decide),
      agreeOff_promptOperationDefaults _ (by decide), set_self]

/-- `from_dict` gives back a canonical record. -/
theorem isCanonical_canonicalise (h : values.canonicalise = .ok result) : result.IsCanonical := by
  rw [canonicalise_eq_settle] at h
  obtain ⟨hsettled, hsession⟩ := settle_ok h
  obtain ⟨hkind, htarget, hnames⟩ : _ ∧
      ((values.sessionDefaults.text .sessionId).isSome → _) ∧ _ := sessionDefaults_canonical
  constructor
  · rw [text, get_of_agreeOff hsession (by decide), hsession _ (by decide)]
    exact htarget
  · rw [text, get_of_agreeOff hsession (by decide), hsession _ (by decide)]
    exact hnames
  · intro field hfield
    rcases List.mem_cons.mp hfield with rfl | hrest
    · rw [hsession _ (by decide)]
      exact hkind
    · exact hsettled.present field hrest
  · exact hsettled.absent
  · exact hsettled.acknowledged
  · exact hsettled.issue
  · exact hsettled.schemaVersion

/-! ### Records with the same cells -/

theorem IsCanonical.congr {other : Values} (h : values.IsCanonical)
    (hcells : values.cells = other.cells) : other.IsCanonical := by
  obtain ⟨cells, others, habsent⟩ := values
  obtain ⟨otherCells, otherOthers, hother⟩ := other
  obtain rfl : cells = otherCells := hcells
  exact ⟨h.target, h.session, h.present, h.absent, h.acknowledged,
    ⟨h.issue.url, h.issue.repositories, h.issue.numbers⟩, h.schemaVersion⟩

omit [TextLibrary] in
theorem validate_congr {other : Values} (hcells : values.cells = other.cells) :
    values.validate = other.validate := by
  obtain ⟨cells, others, habsent⟩ := values
  obtain ⟨otherCells, otherOthers, hother⟩ := other
  obtain rfl : cells = otherCells := hcells
  rfl

end Values

namespace AgentJob

variable [TextLibrary] {job : AgentJob}

theorem isCanonical_of_fromDict {raw : Values} (h : fromDict raw = .ok job) :
    job.values.IsCanonical := by
  obtain ⟨values, hcanonical, rfl⟩ := fromDict_ok h
  exact Values.isCanonical_canonicalise hcanonical

/-- A canonical record that is valid is read as it is. -/
theorem fromDict_of_canonical {raw : Values} (h : raw.IsCanonical) (hvalid : raw.validate = .ok ()) :
    ∃ read, fromDict raw = .ok read ∧ read.values = raw ∧ read.lifecycleEvent = none := by
  unfold fromDict
  rw [h.canonicalise_eq]
  simp only [bind, Except.bind]
  split
  · exact ⟨_, rfl, rfl, rfl⟩
  · rename_i message hinvalid
    rw [hvalid] at hinvalid
    exact absurd hinvalid (by simp)

/-- A record with the cells of a canonical job is read as that record. -/
theorem fromDict_of_cells (h : job.values.IsCanonical) {raw : Values}
    (hcells : job.values.cells = raw.cells) :
    ∃ read, fromDict raw = .ok read ∧ read.values = raw ∧ read.lifecycleEvent = none :=
  fromDict_of_canonical (h.congr hcells) (Values.validate_congr hcells ▸ job.valid)

end AgentJob

end VoiceHarness
