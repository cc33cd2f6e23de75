import VoiceHarness.Ticket.Merge

/-!
# The survivor of a merge

The resolved tickets have the named identities, each as it is spelled. They are different without regard to case, and
the tickets to close are the others than the survivor, exactly where no two of these identities differ in case alone.
Among the references of an extraction none do; the focused ticket may differ so from one of them.
-/

set_option autoImplicit false
set_option relaxedAutoImplicit false

namespace VoiceHarness

open Library

/-! ### Identities -/

section

variable [DigitLibrary] {extraction : TicketExtraction} {focusedIssue : Option String} {utterance : List Char}

/-- The identities that a merge may name: those of the references, and that of the focused ticket where the utterance
takes it. -/
def namedIdentities (utterance : List Char) (extraction : TicketExtraction) (focusedIssue : Option String) :
    List (List Char) :=
  (extraction.references.filter TicketReference.isNamed).filterMap TicketReference.canonical ++
    if wantsTicketMergeContext utterance = true then
      (focusedTicket focusedIssue).toList.filterMap TicketReference.canonical
    else []

/-- Identities that are one without regard to case are spelled alike. -/
def SpelledAlike (identities : List (List Char)) : Prop :=
  ∀ first ∈ identities, ∀ second ∈ identities,
    TextLibrary.casefold (String.ofList first) = TextLibrary.casefold (String.ofList second) → first = second

theorem key_of_canonical {ticket : TicketReference} {identity : List Char} (h : ticket.canonical = some identity) :
    ticket.key = TextLibrary.casefold (String.ofList identity) := by
  rw [TicketReference.key, h]

theorem mem_canonical_withFocused {resolved : List TicketReference} {focused : Option TicketReference}
    {includeFocused : Bool} {identity : List Char} :
    (∃ ticket ∈ withFocused resolved focused includeFocused utterance, ticket.canonical = some identity) ↔
      (∃ ticket ∈ resolved, ticket.canonical = some identity) ∨
        includeFocused = true ∧ ∃ ticket ∈ focused, ticket.canonical = some identity := by
  cases focused with
  | none => simp [withFocused]
  | some focused =>
    have hboth : (∃ ticket ∈ focused :: resolved, ticket.canonical = some identity) ↔
        (∃ ticket ∈ resolved, ticket.canonical = some identity) ∨ focused.canonical = some identity := by
      rw [List.exists_mem_cons_iff, or_comm]
    rw [withFocused]
    by_cases htaken : includeFocused = true ∧ ¬ resolved.any (·.canonical = focused.canonical)
    · rw [if_pos htaken]
      split_ifs
      · rw [hboth]
        simp [htaken.1]
      · have hperm : ∀ ticket, ticket ∈ resolved ++ [focused] ↔ ticket ∈ focused :: resolved := fun ticket ↦
          (List.perm_append_singleton focused resolved).mem_iff
        simp only [hperm]
        rw [hboth]
        simp [htaken.1]
    · rw [if_neg htaken]
      refine ⟨.inl, ?_⟩
      rintro (hresolved | ⟨hinclude, ticket, hticket, hidentity⟩)
      · exact hresolved
      · obtain rfl := Option.mem_some_iff.mp hticket
        have hany : resolved.any (·.canonical = focused.canonical) = true := by
          by_contra hnot
          exact htaken ⟨hinclude, hnot⟩
        obtain ⟨ticket, hticket, hsame⟩ := List.any_eq_true.mp hany
        exact ⟨ticket, hticket, (of_decide_eq_true hsame).trans hidentity⟩

/-- That a ticket is taken once keeps the identities. -/
theorem mem_canonical_resolveNamedTickets {includeFocused : Bool} {identity : List Char} :
    (∃ ticket ∈ resolveNamedTickets extraction focusedIssue includeFocused utterance,
        ticket.canonical = some identity) ↔
      ∃ ticket ∈ withFocused (extraction.references.filter TicketReference.isNamed) (focusedTicket focusedIssue)
        includeFocused utterance, ticket.canonical = some identity := by
  refine (List.mem_map.symm.trans mem_map_uniqueBy).trans ?_
  rw [List.mem_map]
  constructor
  · rintro ⟨⟨ticket, hticket, hidentity⟩, -⟩
    exact ⟨ticket, (List.mem_filter.mp hticket).1, hidentity⟩
  · rintro ⟨ticket, hticket, hidentity⟩
    have hsome : ticket.canonical.isSome = true := by
      rw [hidentity]
      rfl
    exact ⟨⟨ticket, List.mem_filter.mpr ⟨hticket, hsome⟩, hidentity⟩, List.not_mem_nil⟩

/-- The identities of the resolved tickets are the named ones. -/
theorem mem_namedIdentities_iff {identity : List Char} :
    identity ∈ namedIdentities utterance extraction focusedIssue ↔
      ∃ ticket ∈ resolveNamedTickets extraction focusedIssue (wantsTicketMergeContext utterance) utterance,
        ticket.canonical = some identity := by
  rw [mem_canonical_resolveNamedTickets, mem_canonical_withFocused, namedIdentities, List.mem_append,
    List.mem_filterMap]
  refine or_congr_right ?_
  split_ifs with hwants
  · simp [hwants]
  · simp [hwants]

/-! ### What is extracted -/

theorem endsInNumber_of_mem_extracted {text : List Char} {scopeSource scope : Option String} {ticket : TicketReference}
    (hmem : ticket ∈ (extractTicketTargets text scopeSource scope).references)
    (hcanonical : ticket.canonical.isSome = true) : ticket.EndsInNumber := by
  have hcandidate := mem_sortedCandidates.mp ((uniqueBy_sublist _ _ _).mem hmem)
  rcases List.mem_append.mp hcandidate with hfound | hitem
  · rcases List.mem_append.mp hfound with hgithub | hlinear
    · obtain ⟨found, -, rfl⟩ := List.mem_map.mp hgithub
      exact endsInNumber_githubTicket _ _ _ _ _ hcanonical
    · obtain ⟨found, -, rfl⟩ := List.mem_map.mp hlinear
      exact endsInNumber_of_linear (source_linearTicket _ _ _ _)
  · obtain ⟨item, -, rfl⟩ := List.mem_map.mp hitem
    rw [scopedCandidate] at hcanonical ⊢
    split at hcanonical
    · cases hcanonical
    · exact endsInNumber_scopedTicket _ _ _ _ _ hcanonical

theorem endsInNumber_of_focusedTicket {ticket : TicketReference} (h : focusedTicket focusedIssue = some ticket) :
    ticket.EndsInNumber := by
  rw [focusedTicket] at h
  split_ifs at h
  rw [parseFocusedTicket] at h
  simp only at h
  split at h
  · obtain ⟨hticket, hcanonical⟩ := Option.filter_eq_some_iff.mp h
    obtain rfl := Option.some.inj hticket
    exact endsInNumber_githubTicket _ _ _ _ _ hcanonical
  · obtain ⟨hticket, -⟩ := Option.filter_eq_some_iff.mp h
    obtain rfl := Option.some.inj hticket
    exact endsInNumber_of_linear (source_linearTicket _ _ _ _)
  · cases h

theorem mem_withFocused {resolved : List TicketReference} {focused : Option TicketReference} {includeFocused : Bool}
    {ticket : TicketReference} (h : ticket ∈ withFocused resolved focused includeFocused utterance) :
    ticket ∈ resolved ∨ focused = some ticket := by
  cases focused with
  | none => exact .inl h
  | some focused =>
    rw [withFocused] at h
    split_ifs at h
    · rcases List.mem_cons.mp h with rfl | h
      · exact .inr rfl
      · exact .inl h
    · rcases List.mem_append.mp h with h | h
      · exact .inl h
      · exact .inr (congrArg some (List.mem_singleton.mp h).symm)
    · exact .inl h

/-- The identities of tickets that are different without regard to case are spelled alike. -/
theorem spelledAlike_of_nodup_key {tickets : List TicketReference}
    (h : (tickets.map TicketReference.key).Nodup) :
    SpelledAlike (tickets.filterMap TicketReference.canonical) := by
  intro first hfirst second hsecond hfold
  obtain ⟨one, hone, honeIdentity⟩ := List.mem_filterMap.mp hfirst
  obtain ⟨other, hother, hotherIdentity⟩ := List.mem_filterMap.mp hsecond
  have hkey : one.key = other.key := by rw [key_of_canonical honeIdentity, key_of_canonical hotherIdentity, hfold]
  obtain rfl := List.inj_on_of_nodup_map h hone hother hkey
  exact Option.some.inj (honeIdentity.symm.trans hotherIdentity)

/-- The references of an extraction are spelled alike: only the focused ticket may be spelled otherwise. -/
theorem spelledAlike_extracted (text : List Char) (scopeSource scope : Option String) :
    SpelledAlike (((extractTicketTargets text scopeSource scope).references.filter TicketReference.isNamed).filterMap
      TicketReference.canonical) :=
  spelledAlike_of_nodup_key ((extractsInOrder text scopeSource scope).distinct.sublist (List.filter_sublist.map _))

end

/-! ### The survivor -/

/-- The tickets to close, as they are encoded. -/
def TicketMergeDispatch.closingKeys [TextLibrary] (dispatch : TicketMergeDispatch) : List String :=
  (encodedIdentities dispatch.ticketMergeClosing).map TextLibrary.casefold

/-- The tickets are different without regard to case, the survivor is one of them, and what is encoded are the others,
each once. -/
structure KeepsSurvivor [TextLibrary] (tickets : List TicketReference) (survivor : TicketReference) : Prop where
  distinct : (tickets.map TicketReference.key).Nodup
  survivor_mem : survivor ∈ tickets
  encodes : (∀ ticket ∈ tickets, ticket.EndsInNumber) → ∃ dispatch, mergeTurnArguments survivor tickets = .ok dispatch
  others : ∀ dispatch, mergeTurnArguments survivor tickets = .ok dispatch → ∀ ticket ∈ tickets, ticket ≠ survivor →
    dispatch.closingKeys.count ticket.key = 1
  spares : ∀ dispatch, mergeTurnArguments survivor tickets = .ok dispatch → survivor.key ∉ dispatch.closingKeys

section

variable [LowerLibrary] {utterance : List Char} {extraction : TicketExtraction} {focusedIssue : Option String}
  {tickets : List TicketReference} {survivor : TicketReference}

theorem mem_of_selectMergeSurvivor (h : selectMergeSurvivor utterance tickets focusedIssue = some survivor) :
    survivor ∈ tickets := by
  rw [selectMergeSurvivor] at h
  split at h
  · exact List.mem_of_head? h
  · simp only at h
    split at h
    · cases h
    · exact List.mem_of_find?_eq_some h

/-- What is admitted with a survivor. -/
structure Admitted (utterance : List Char) (extraction : TicketExtraction) (focusedIssue : Option String)
    (tickets : List TicketReference) (survivor : TicketReference) : Prop where
  tickets_eq :
    tickets = resolveNamedTickets extraction focusedIssue (wantsTicketMergeContext utterance) utterance
  several : 2 ≤ tickets.length
  sources : ∀ ticket ∈ tickets, ticket.source.isSome = true
  survivor_mem : survivor ∈ tickets

theorem admitted_of_admitTicketMerge
    (h : admitTicketMerge utterance extraction focusedIssue = some ⟨tickets, some survivor⟩) :
    Admitted utterance extraction focusedIssue tickets survivor := by
  rw [admitTicketMerge] at h
  simp only at h
  split_ifs at h with _ _ _ hlength hsources
  all_goals try cases h
  split at h
  · cases h
  · rename_i hselected
    obtain ⟨rfl, hsurvivor⟩ := TicketMergeAdmission.mk.inj (Option.some.inj h)
    obtain rfl := Option.some.inj hsurvivor
    refine ⟨rfl, by omega, fun ticket hticket ↦ ?_, mem_of_selectMergeSurvivor hselected⟩
    rw [Option.isSome_iff_ne_none]
    intro hnone
    refine hsources (.inr (List.any_eq_true.mpr ⟨none, List.mem_dedup.mpr ?_, rfl⟩))
    exact List.mem_map.mpr ⟨ticket, hticket, hnone⟩

namespace Admitted

theorem nodup_canonical (h : Admitted utterance extraction focusedIssue tickets survivor) :
    (tickets.map TicketReference.canonical).Nodup := by
  rw [h.tickets_eq]
  exact nodup_map_uniqueBy _ _ _

theorem canonical_isSome (h : Admitted utterance extraction focusedIssue tickets survivor) {ticket : TicketReference}
    (hticket : ticket ∈ tickets) : ticket.canonical.isSome = true := by
  rw [h.tickets_eq] at hticket
  exact (List.mem_filter.mp ((uniqueBy_sublist _ _ _).mem hticket)).2

theorem eq_of_canonical (h : Admitted utterance extraction focusedIssue tickets survivor)
    {first second : TicketReference} (hfirst : first ∈ tickets) (hsecond : second ∈ tickets)
    (hsame : first.canonical = second.canonical) : first = second :=
  List.inj_on_of_nodup_map h.nodup_canonical hfirst hsecond hsame

/-- The tickets are different without regard to case exactly when the named identities are spelled alike. -/
theorem nodup_key_iff (h : Admitted utterance extraction focusedIssue tickets survivor) :
    (tickets.map TicketReference.key).Nodup ↔ SpelledAlike (namedIdentities utterance extraction focusedIssue) := by
  have hnamed : ∀ identity, identity ∈ namedIdentities utterance extraction focusedIssue ↔
      ∃ ticket ∈ tickets, ticket.canonical = some identity := by
    intro identity
    rw [mem_namedIdentities_iff, h.tickets_eq]
  constructor
  · intro hnodup first hfirst second hsecond
    exact spelledAlike_of_nodup_key hnodup first (List.mem_filterMap.mpr ((hnamed first).mp hfirst)) second
      (List.mem_filterMap.mpr ((hnamed second).mp hsecond))
  · intro halike
    refine List.Nodup.map_on (fun first hfirst second hsecond hkey ↦ ?_) h.nodup_canonical.of_map
    obtain ⟨one, hone⟩ := Option.isSome_iff_exists.mp (h.canonical_isSome hfirst)
    obtain ⟨other, hother⟩ := Option.isSome_iff_exists.mp (h.canonical_isSome hsecond)
    rw [key_of_canonical hone, key_of_canonical hother] at hkey
    have hsame : one = other :=
      halike one ((hnamed one).mpr ⟨first, hfirst, hone⟩) other ((hnamed other).mpr ⟨second, hsecond, hother⟩) hkey
    exact h.eq_of_canonical hfirst hsecond (by rw [hone, hother, hsame])

theorem exists_other (h : Admitted utterance extraction focusedIssue tickets survivor) :
    ∃ ticket ∈ tickets, ticket.canonical ≠ survivor.canonical := by
  have hseveral := h.several
  have hnodup := h.nodup_canonical
  rcases tickets with _ | ⟨first, _ | ⟨second, rest⟩⟩
  · cases hseveral
  · exact absurd hseveral (Nat.not_succ_le_self 1)
  · have hne : first.canonical ≠ second.canonical := by
      intro hsame
      refine (List.nodup_cons.mp hnodup).1 ?_
      rw [hsame]
      exact List.mem_cons_self
    by_cases hfirst : first.canonical = survivor.canonical
    · exact ⟨second, List.mem_cons_of_mem _ List.mem_cons_self, fun hsecond ↦ hne (hfirst.trans hsecond.symm)⟩
    · exact ⟨first, List.mem_cons_self, hfirst⟩

/-- The closing set is encoded where the GitHub identities end in their numbers. -/
theorem mergeTurnArguments_ok (h : Admitted utterance extraction focusedIssue tickets survivor)
    (hnumbers : ∀ ticket ∈ tickets, ticket.EndsInNumber) :
    ∃ dispatch, mergeTurnArguments survivor tickets = .ok dispatch := by
  obtain ⟨identity, hidentity⟩ := Option.isSome_iff_exists.mp (h.canonical_isSome h.survivor_mem)
  obtain ⟨source, hsource⟩ := Option.isSome_iff_exists.mp (h.sources _ h.survivor_mem)
  have hclosings : ∀ ticket ∈ tickets.filter (·.canonical ≠ some identity),
      ∃ closing, closingFromReference ticket = .ok closing := by
    intro ticket hticket
    have hmem := (List.mem_filter.mp hticket).1
    exact closingFromReference_ok (h.canonical_isSome hmem) (h.sources _ hmem) (hnumbers _ hmem)
  obtain ⟨closing, hclosing⟩ := mapM_closingFromReference_ok hclosings
  have hsome : closing.isEmpty = false := by
    obtain ⟨other, hother, hne⟩ := h.exists_other
    rw [hidentity] at hne
    have hlength := congrArg List.length (identities_of_mapM hclosing)
    rw [List.length_map, List.length_map] at hlength
    have hpos : 0 < (tickets.filter (·.canonical ≠ some identity)).length :=
      List.length_pos_of_mem (List.mem_filter.mpr ⟨hother, decide_eq_true hne⟩)
    rw [List.isEmpty_eq_false_iff, ← List.length_pos_iff, hlength]
    exact hpos
  have hnumber : source = .github → ∃ name number, identity = numbered name '#' number := by
    rintro rfl
    obtain ⟨name, number, hname⟩ := hnumbers _ h.survivor_mem hsource
    exact ⟨name, number, Option.some.inj (hidentity.symm.trans hname)⟩
  obtain ⟨dispatch, hdispatch⟩ := mergeDispatch_ok (encodeMergeClosing closing) hnumber
  refine ⟨dispatch, ?_⟩
  rw [mergeTurnArguments, hidentity, hsource]
  refine checked_bind_eq_ok_iff.mpr ⟨closing, hclosing, ?_⟩
  rw [hsome]
  exact hdispatch

/-- The keys of what is encoded. -/
theorem closingKeys_eq (h : Admitted utterance extraction focusedIssue tickets survivor)
    {dispatch : TicketMergeDispatch} (hdispatch : mergeTurnArguments survivor tickets = .ok dispatch) :
    dispatch.closingKeys = (tickets.filter (·.canonical ≠ survivor.canonical)).map TicketReference.key := by
  rw [TicketMergeDispatch.closingKeys, encoded_of_mergeTurnArguments hdispatch, List.map_map]
  refine List.map_congr_left fun ticket hticket ↦ ?_
  obtain ⟨identity, hidentity⟩ := Option.isSome_iff_exists.mp (h.canonical_isSome (List.mem_filter.mp hticket).1)
  rw [Function.comp_apply, key_of_canonical hidentity, hidentity]
  rfl

theorem keepsSurvivor (h : Admitted utterance extraction focusedIssue tickets survivor)
    (hdistinct : (tickets.map TicketReference.key).Nodup) : KeepsSurvivor tickets survivor where
  distinct := hdistinct
  survivor_mem := h.survivor_mem
  encodes := h.mergeTurnArguments_ok
  others dispatch hdispatch ticket hticket hother := by
    have hne : ticket.canonical ≠ survivor.canonical := fun hsame ↦
      hother (h.eq_of_canonical hticket h.survivor_mem hsame)
    rw [h.closingKeys_eq hdispatch]
    refine List.count_eq_one_of_mem (hdistinct.sublist (List.filter_sublist.map _)) ?_
    exact List.mem_map_of_mem (List.mem_filter.mpr ⟨hticket, decide_eq_true hne⟩)
  spares dispatch hdispatch hmem := by
    rw [h.closingKeys_eq hdispatch] at hmem
    obtain ⟨ticket, hticket, hkey⟩ := List.mem_map.mp hmem
    obtain ⟨hmem, hne⟩ := List.mem_filter.mp hticket
    obtain rfl := List.inj_on_of_nodup_map hdistinct hmem h.survivor_mem hkey
    exact of_decide_eq_true hne rfl

end Admitted

/-! ### Merges -/

/-- A merge of what is extracted from a text always encodes a closing set. -/
theorem mergeTurnArguments_extracted {text : List Char} {scopeSource scope : Option String}
    (h : admitTicketMerge utterance (extractTicketTargets text scopeSource scope) focusedIssue =
      some ⟨tickets, some survivor⟩) : ∃ dispatch, mergeTurnArguments survivor tickets = .ok dispatch := by
  have hadmitted := admitted_of_admitTicketMerge h
  refine hadmitted.mergeTurnArguments_ok fun ticket hticket ↦ ?_
  have hcanonical := hadmitted.canonical_isSome hticket
  rw [hadmitted.tickets_eq] at hticket
  rcases mem_withFocused (List.mem_filter.mp ((uniqueBy_sublist _ _ _).mem hticket)).1 with hresolved | hfocused
  · exact endsInNumber_of_mem_extracted (List.mem_filter.mp hresolved).1 hcanonical
  · exact endsInNumber_of_focusedTicket hfocused

/-- A merge that is admitted keeps its survivor exactly when the named identities that are one without regard to case
are spelled alike. -/
theorem keepsSurvivor_iff (h : admitTicketMerge utterance extraction focusedIssue = some ⟨tickets, some survivor⟩) :
    KeepsSurvivor tickets survivor ↔ SpelledAlike (namedIdentities utterance extraction focusedIssue) := by
  have hadmitted := admitted_of_admitTicketMerge h
  rw [← hadmitted.nodup_key_iff]
  exact ⟨KeepsSurvivor.distinct, hadmitted.keepsSurvivor⟩

end

section

/-- A library that folds the letters that the patterns match. -/
@[reducible] def foldingLowerLibrary : LowerLibrary where
  toDigitLibrary := { asciiDigitLibrary with casefold := fun text ↦ String.ofList (casefoldLetters text.toList) }
  lower text := text.flatMap fun c ↦
    if c = dottedI then ['i', Char.ofNat 0x307] else if c = kelvinSign then ['k'] else [c.toLower]

attribute [local instance] foldingLowerLibrary

/-- A key that an utterance names. -/
def namedKey (raw : List Char) (position : ℕ) : TicketReference where
  raw
  position
  source := some .linear
  canonical := some raw

def mergeUtterance (key : List Char) : List Char := "merge this ticket with ".toList ++ key

theorem keepsSurvivor_iff_keys :
    KeepsSurvivor [namedKey "KEY-1".toList 0, namedKey "KEY-2".toList 23] (namedKey "KEY-1".toList 0) := by
  have hadmitted : admitTicketMerge (mergeUtterance "KEY-2".toList)
      (extractTicketTargets (mergeUtterance "KEY-2".toList) none none) (some "KEY-1") =
      some ⟨[namedKey "KEY-1".toList 0, namedKey "KEY-2".toList 23], some (namedKey "KEY-1".toList 0)⟩ := by
    decide +kernel
  have hnamed : namedIdentities (mergeUtterance "KEY-2".toList)
      (extractTicketTargets (mergeUtterance "KEY-2".toList) none none) (some "KEY-1") =
      ["KEY-2".toList, "KEY-1".toList] := by decide +kernel
  refine (keepsSurvivor_iff hadmitted).mpr ?_
  rw [hnamed]
  unfold SpelledAlike
  decide +kernel

/-- The focused ticket is to be closed as a merge of itself, where the utterance spells its key with the sign of the
unit. -/
theorem not_keepsSurvivor_kelvin :
    ∃ tickets survivor, admitTicketMerge (mergeUtterance (kelvinSign :: "EY-1".toList))
        (extractTicketTargets (mergeUtterance (kelvinSign :: "EY-1".toList)) none none) (some "KEY-1") =
        some ⟨tickets, some survivor⟩ ∧ ¬ KeepsSurvivor tickets survivor := by
  refine ⟨[namedKey "KEY-1".toList 0, namedKey (kelvinSign :: "EY-1".toList) 23], namedKey "KEY-1".toList 0,
    by decide +kernel, fun h ↦ ?_⟩
  have hkeys : ¬ ([namedKey "KEY-1".toList 0, namedKey (kelvinSign :: "EY-1".toList) 23].map
      TicketReference.key).Nodup := by decide +kernel
  exact hkeys h.distinct

end

end VoiceHarness
