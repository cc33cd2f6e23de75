import VoiceHarness.Ticket.IssueUrl

/-!
# The reference of a URL

The URL of an issue among words is extracted with its owner, repository and number. It is the only reference exactly
where no pattern finds another one in the query or fragment and no scoped number stands apart from repositories.
-/

set_option autoImplicit false
set_option relaxedAutoImplicit false

namespace VoiceHarness

open Library

/-! ### Repositories -/

theorem dropWhile_isSpace {text : List Char} (h : ∀ c ∈ text, isSpace c = false) :
    text.dropWhile isSpace = text := by
  cases text with
  | nil => rfl
  | cons c text => rw [List.dropWhile_cons, h c List.mem_cons_self, if_neg Bool.false_ne_true]

theorem strip_of_solid {text : List Char} (h : ∀ c ∈ text, isSpace c = false) :
    (strip (String.ofList text)).toList = text := by
  have hreverse : ∀ c ∈ text.reverse, isSpace c = false := fun c hc ↦ h c (List.mem_reverse.mp hc)
  rw [strip, String.toList_ofList, String.toList_ofList, dropWhile_isSpace h, dropWhile_isSpace hreverse,
    List.reverse_reverse]

section

variable {owner repo : List Char}

theorem RepositoryName.solid (h : RepositoryName owner repo) : ∀ c ∈ owner ++ '/' :: repo, isSpace c = false := by
  have hascii : ∀ c, isAsciiName c = true → isSpace c = false := fun c hc ↦
    not_isSpace_of_or (by decide) (isNameChar_of_isAsciiName hc)
  refine List.forall_mem_append.mpr ⟨fun c hc ↦ ?_, List.forall_mem_cons.mpr ⟨by decide, fun c hc ↦ ?_⟩⟩
  · refine hascii c ?_
    rw [isAsciiName]
    rcases h.owner_chars c hc with halnum | rfl
    · rw [halnum, Bool.true_or]
    · decide
  · exact hascii c (h.repo_chars c hc)

theorem RepositoryName.removeGitSuffix_eq (h : RepositoryName owner repo) :
    removeGitSuffix (owner ++ '/' :: repo) = owner ++ '/' :: repo := by
  unfold removeGitSuffix
  refine if_neg fun hsuffix ↦ ?_
  obtain ⟨start, hstart⟩ := List.isSuffixOf_iff_suffix.mp hsuffix
  have hslash : '/' ∉ ".git".toList := by decide
  rcases List.append_eq_append_iff.mp hstart with ⟨between, howner, hgit⟩ | ⟨beyond, hbeyond, hrepo⟩
  · refine hslash ?_
    rw [hgit]
    exact List.mem_append_right _ List.mem_cons_self
  · cases beyond with
    | nil =>
      rw [List.nil_append] at hrepo
      exact hslash (hrepo ▸ List.mem_cons_self)
    | cons c beyond =>
      rw [List.cons_append] at hrepo
      exact h.repo_git ⟨beyond, (List.cons.inj hrepo).2.symm⟩

theorem isOwnerChar_of_isAlphanum {c : Char} (h : c.isAlphanum = true) : isOwnerChar c = true := by
  rw [isOwnerChar, isPatternAlnum, h]
  rfl

theorem RepositoryName.isOwnerChar (h : RepositoryName owner repo) : ∀ c ∈ owner, isOwnerChar c = true := by
  intro c hc
  rcases h.owner_chars c hc with halnum | rfl
  · exact isOwnerChar_of_isAlphanum halnum
  · decide

/-- `REPOSITORY` matches the name of a repository. -/
theorem RepositoryName.reads (h : RepositoryName owner repo) :
    repositoryPattern.Reads none (owner ++ '/' :: repo) [] [(.repo, repo), (.owner, owner)] := by
  have hrepo : (Pattern.many isAsciiName 1 (some 100) : TicketPattern).Reads (some '/') repo [] [] :=
    ⟨h.repo_chars, List.length_pos_iff.mpr h.repo_ne, fun most hmost ↦ Option.some.inj hmost ▸ h.repo_length, rfl⟩
  refine ⟨owner, '/' :: repo, [(.owner, owner)], [(.repo, repo)], rfl, rfl, ⟨[], rfl, ?_⟩,
    ['/'], repo, [], [(.repo, repo)], rfl, rfl, ⟨⟨'/', rfl, rfl⟩, rfl⟩, [], rfl, hrepo⟩
  have hfirst := h.owner_first
  have hlast := h.owner_last
  have hlength := h.owner_length
  have hchars := h.owner_chars
  cases owner with
  | nil => cases hfirst
  | cons c others =>
    refine ⟨[c], others, [], [], rfl, rfl, ⟨⟨c, rfl, hfirst⟩, rfl⟩, ?_⟩
    rcases List.eq_nil_or_concat' others with rfl | ⟨middle, d, rfl⟩
    · exact .inr ⟨rfl, rfl⟩
    · refine .inl ⟨middle, [d], [], [], rfl, rfl, ⟨fun e he ↦ ?_, Nat.zero_le _, fun most hmost ↦ ?_, rfl⟩,
        ⟨d, rfl, ?_⟩, rfl⟩
      · have he' := hchars e (List.mem_cons_of_mem _ (List.mem_append_left _ he))
        simpa using he'
      · rw [← Option.some.inj hmost]
        simp only [List.length_cons, List.length_append, List.length_nil] at hlength
        omega
      · simpa [List.getLast?_cons] using hlast

/-- `REPOSITORY` splits the name of a repository in one way. -/
theorem RepositoryName.groups_eq (h : RepositoryName owner repo) {found : List (TicketField × List Char)}
    (hreads : repositoryPattern.Reads none (owner ++ '/' :: repo) [] found) :
    found = [(.repo, repo), (.owner, owner)] := by
  obtain ⟨first, _, _, _, htext, rfl, ⟨_, rfl, head, tail, _, inner, rfl, rfl, ⟨⟨c, rfl, hc⟩, rfl⟩, htail⟩,
    _, second, _, _, rfl, rfl, ⟨⟨sign, rfl, hsign⟩, rfl⟩, _, rfl, hsecond, -, -, rfl⟩ := hreads
  obtain rfl : sign = '/' := by simpa using hsign
  obtain ⟨hothers, rfl⟩ : (∀ d ∈ tail, VoiceHarness.isOwnerChar d = true) ∧ inner = [] := by
    rcases htail with ⟨middle, last, _, _, rfl, rfl, ⟨hmiddle, -, -, rfl⟩, ⟨d, rfl, hd⟩, rfl⟩ | ⟨rfl, rfl⟩
    · refine ⟨List.forall_mem_append.mpr ⟨fun e he ↦ ?_,
        List.forall_mem_singleton.mpr (isOwnerChar_of_isAlphanum hd)⟩, rfl⟩
      have hmem : e.isAlphanum = true ∨ e = '-' := by simpa using hmiddle e he
      rcases hmem with halnum | rfl
      · exact isOwnerChar_of_isAlphanum halnum
      · decide
    · exact ⟨fun d hd ↦ (List.not_mem_nil hd).elim, rfl⟩
  have hfirst : ∀ d ∈ [c] ++ tail, VoiceHarness.isOwnerChar d = true :=
    List.forall_mem_append.mpr ⟨List.forall_mem_singleton.mpr (isOwnerChar_of_isAlphanum hc), hothers⟩
  obtain ⟨rfl, hrepo⟩ := append_inj_of_kind h.isOwnerChar hfirst (by rfl) (by rfl) htext
  obtain ⟨-, rfl⟩ := List.cons.inj hrepo
  rfl

/-- The name of a repository is valid. -/
theorem RepositoryName.validateRepository_eq (h : RepositoryName owner repo) :
    validateRepository (owner ++ '/' :: repo) = .ok (owner ++ '/' :: repo) := by
  have hfull : ∃ later, repositoryPattern.fullMatch (owner ++ '/' :: repo) = some later ∧
      later.groups = [(.repo, repo), (.owner, owner)] := by
    have hmem : ⟨(owner ++ '/' :: repo).getLast?.or none, [], [(.repo, repo), (.owner, owner)] ++ []⟩ ∈
        repositoryPattern.run ⟨none, owner ++ '/' :: repo, []⟩ := (Pattern.mem_run_iff repositoryPattern).mpr
      ⟨owner ++ '/' :: repo, [], _, (List.append_nil _).symm, h.reads, rfl⟩
    cases hfind : repositoryPattern.fullMatch (owner ++ '/' :: repo) with
    | none => exact absurd rfl (List.find?_eq_none.mp hfind _ hmem)
    | some later =>
      refine ⟨later, rfl, ?_⟩
      have hempty := List.find?_some hfind
      obtain ⟨taken, rest, found, hahead, hreads, rfl⟩ :=
        (Pattern.mem_run_iff repositoryPattern).mp (List.mem_of_find?_eq_some hfind)
      obtain rfl := List.isEmpty_iff.mp hempty
      obtain rfl := hahead.trans (List.append_nil _)
      rw [List.append_nil]
      exact h.groups_eq hreads
  obtain ⟨later, hlater, hgroups⟩ := hfull
  have hdots : repo ∉ [['.'], ['.', '.']] := h.repo_dots
  have howner : (later.groups.lookup TicketField.owner).getD [] = owner := by
    rw [hgroups]
    rfl
  have hrepo : (later.groups.lookup TicketField.repo).getD [] = repo := by
    rw [hgroups]
    rfl
  unfold validateRepository
  rw [strip_of_solid h.solid, h.removeGitSuffix_eq, hlater]
  simp only [howner, hrepo, if_neg hdots]

end

/-- A match lies in the text that is searched. -/
theorem length_of_matchIn {pattern : TicketPattern} {previous : Option Char} {chars : List Char}
    {found : TicketFound} (h : pattern.MatchIn previous chars found) :
    found.rest.length ≤ found.ahead.length ∧ found.ahead.length ≤ chars.length := by
  obtain ⟨before, taken, htext, -, hahead, -⟩ := h
  have hrest := congrArg List.length hahead
  have hchars := congrArg List.length htext
  rw [List.length_append] at hrest hchars
  omega

section

variable [DigitLibrary] [LawfulDigits] (text : IssueUrlText) (scopeSource scope : Option String)

namespace IssueUrlText

omit [LawfulDigits] in
theorem urlFound_span : text.urlFound.span text.chars.length = text.urlSpan := by
  have hsize : text.chars.length = text.before.length + (text.url.length + text.rest.length) := by
    rw [chars, List.length_append, List.length_append]
  simp only [Found.span, Found.start, Found.stop, urlFound, urlSpan, hsize, List.length_append, Prod.mk.injEq]
  omega

omit [LawfulDigits] in
/-- The candidate of the URL. -/
theorem githubCandidate_urlFound :
    githubCandidate text.chars.length text.urlFound =
      { raw := text.urlFound.text, position := text.before.length, source := some .github
        canonical := some (numbered (text.owner ++ '/' :: text.repo) '#' (readDigits text.number)) } := by
  have howner : (text.urlFound.group? .owner).getD [] = text.owner := rfl
  have hrepo : (text.urlFound.group? .repo).getD [] = text.repo := rfl
  have hnumber : (text.urlFound.group? .number).getD [] = text.number := rfl
  have hposition : text.urlFound.start text.chars.length = text.before.length :=
    congrArg Prod.fst text.urlFound_span
  have hpositive : ¬ readDigits text.number < 1 := Nat.not_lt.mpr text.number_pos
  unfold githubCandidate githubTicket
  rw [howner, hrepo, hnumber, hposition, text.name.validateRepository_eq]
  exact if_neg hpositive

/-! ### Keys -/

omit [LawfulDigits] in
/-- A key of the URL overlaps it. -/
theorem overlaps_of_path {key : TicketFound} (h : key ∈ linearReference.findAll 0 (some ':') text.path)
    (spans : List (ℕ × ℕ)) :
    overlaps ((key.extend text.rest).span text.chars.length) (text.urlSpan :: spans) = true := by
  have hmatch := Pattern.matchIn_of_mem_findAll h
  obtain ⟨hrest, hpath⟩ := length_of_matchIn hmatch
  obtain ⟨-, -, -, hne, -⟩ := hmatch
  have hpositive := List.length_pos_iff.mpr hne
  have hsize : text.chars.length = text.before.length + (text.url.length + text.rest.length) := by
    rw [chars, List.length_append, List.length_append]
  have hurl : text.url.length = text.scheme.length + (text.path.length + 1) := by
    rw [url, List.length_append, List.length_cons]
    rfl
  have hoverlap : (key.extend text.rest).start text.chars.length < text.urlSpan.2 ∧
      text.urlSpan.1 < (key.extend text.rest).stop text.chars.length := by
    simp only [Found.start, Found.stop, Found.extend, urlSpan, hsize, List.length_append]
    omega
  exact overlaps_iff.mpr ⟨text.urlSpan, List.mem_cons_self, hoverlap⟩

omit [LawfulDigits] in
/-- The repositories of the text are those before the query or fragment, those in it and those after it. -/
theorem finditer_githubRepositoryTarget (hquery : text.query ≠ []) :
    ∃ before after, githubRepositoryTarget.finditer text.chars =
        before ++ ((githubRepositoryTarget.finditer text.query).map (·.extend text.after) ++ after) ∧
      (∀ found ∈ before, text.rest.length ≤ found.rest.length) ∧
      ∀ found ∈ after, found.ahead.length ≤ text.after.length := by
  have hfirst : text.rest.head?.any isRepositoryChar = false := by
    obtain ⟨c, query, hcons⟩ := List.exists_cons_of_ne_nil hquery
    have hsign := text.query_first
    rw [hcons] at hsign
    have hc : c ∈ ['?', '#'] := by simpa using hsign
    rw [rest, hcons]
    exact (by decide : ∀ c ∈ ['?', '#'], isRepositoryChar c = false) c hc
  have hafter := text.query_eq_nil_or.resolve_left hquery
  have hchars : text.chars = (text.before ++ text.url) ++ text.rest := (List.append_assoc ..).symm
  refine ⟨(githubRepositoryTarget.findAll 0 none (text.before ++ text.url)).map (·.extend text.rest),
    githubRepositoryTarget.findAll 0 (text.query.getLast?.or ((text.before ++ text.url).getLast?.or none)) text.after,
    ?_, ?_, ?_⟩
  · rw [Pattern.finditer, hchars, Pattern.findAll_append within_githubRepositoryTarget hfirst none (Nat.zero_le _),
      rest, Pattern.findAll_append solid_githubRepositoryTarget hafter _ (Nat.zero_le _),
      findAll_previous startsAlnum_githubRepositoryTarget (any_isPatternAlnum_of_path text.query_path) _ none]
    rfl
  · intro found hfound
    obtain ⟨other, -, rfl⟩ := List.mem_map.mp hfound
    change text.rest.length ≤ (other.rest ++ text.rest).length
    rw [List.length_append]
    exact Nat.le_add_left _ _
  · intro found hfound
    exact (length_of_matchIn (Pattern.matchIn_of_mem_findAll hfound)).2

omit [LawfulDigits] in
/-- A key of the query or fragment overlaps what it overlaps there. -/
theorem overlaps_iff_of_query {key : TicketFound} (h : key ∈ linearReference.finditer text.query) :
    overlaps ((key.extend text.after).span text.chars.length) (text.urlSpan :: repositorySpans text.chars) = true ↔
      overlaps (key.span text.query.length) (repositorySpans text.query) = true := by
  have hquery : text.query ≠ [] := by
    intro hnil
    rw [hnil] at h
    cases h
  obtain ⟨before, after, htargets, hbefore, hafter⟩ := text.finditer_githubRepositoryTarget hquery
  obtain ⟨hrest, hahead⟩ := length_of_matchIn (Pattern.matchIn_of_mem_findAll h)
  have hrestLength : text.rest.length = text.query.length + text.after.length := by
    rw [rest, List.length_append]
  have hsize : text.chars.length = text.before.length + (text.url.length + text.rest.length) := by
    rw [chars, List.length_append, List.length_append]
  have hstart : (key.extend text.after).start text.chars.length =
      text.before.length + text.url.length + key.start text.query.length := by
    simp only [Found.start, Found.extend, hsize, hrestLength, List.length_append]
    omega
  have hstop : (key.extend text.after).stop text.chars.length =
      text.before.length + text.url.length + key.stop text.query.length := by
    simp only [Found.stop, Found.extend, hsize, hrestLength, List.length_append]
    omega
  have hkeyStop : key.stop text.query.length ≤ text.query.length := Nat.sub_le _ _
  simp only [overlaps_iff, repositorySpans, htargets, Found.span, hstart, hstop]
  constructor
  · rintro ⟨existing, hexisting, hfirst, hlast⟩
    rcases List.mem_cons.mp hexisting with rfl | hexisting
    · simp only [urlSpan] at hfirst
      omega
    · obtain ⟨target, htarget, rfl⟩ := List.mem_map.mp hexisting
      rcases List.mem_append.mp htarget with htarget | htarget
      · have hlength := hbefore target htarget
        simp only [Found.stop, hsize] at hfirst
        omega
      · rcases List.mem_append.mp htarget with htarget | htarget
        · obtain ⟨found, hfound, rfl⟩ := List.mem_map.mp htarget
          obtain ⟨hfoundRest, hfoundAhead⟩ := length_of_matchIn (Pattern.matchIn_of_mem_findAll hfound)
          refine ⟨_, List.mem_map_of_mem hfound, ?_, ?_⟩
          · simp only [Found.stop, Found.extend, hsize, hrestLength, List.length_append] at hfirst ⊢
            omega
          · simp only [Found.start, Found.extend, hsize, hrestLength, List.length_append] at hlast ⊢
            omega
        · have hlength := hafter target htarget
          simp only [Found.start, hsize, hrestLength] at hlast
          omega
  · rintro ⟨existing, hexisting, hfirst, hlast⟩
    obtain ⟨found, hfound, rfl⟩ := List.mem_map.mp hexisting
    obtain ⟨hfoundRest, hfoundAhead⟩ := length_of_matchIn (Pattern.matchIn_of_mem_findAll hfound)
    refine ⟨_, List.mem_cons_of_mem _ (List.mem_map_of_mem (List.mem_append_right _ (List.mem_append_left _
      (List.mem_map_of_mem hfound)))), ?_, ?_⟩
    · simp only [Found.stop, Found.extend, hsize, hrestLength, List.length_append] at hfirst ⊢
      omega
    · simp only [Found.start, Found.extend, hsize, hrestLength, List.length_append] at hlast ⊢
      omega

omit [LawfulDigits] in
theorem githubSpans_chars (hgithub : githubMatches text.chars = [text.urlFound]) :
    githubSpans text.chars = text.urlSpan :: repositorySpans text.chars := by
  rw [githubSpans, hgithub, List.singleton_append, List.map_cons, urlFound_span]
  rfl

/-- No key counts exactly when each one of the query or fragment lies in a repository. -/
theorem linearMatches_eq_nil_iff (hgithub : githubMatches text.chars = [text.urlFound]) :
    (linearMatches text.chars).1 = [] ↔ ∀ key ∈ linearReference.finditer text.query,
      overlaps (key.span text.query.length) (repositorySpans text.query) = true := by
  have hspans := text.githubSpans_chars hgithub
  rw [linearMatches, keysApart_eq_nil_iff, hspans, finditer_linearReference, List.forall_mem_append,
    List.forall_mem_map, List.forall_mem_map]
  constructor
  · rintro ⟨-, hquery⟩ key hkey
    exact (text.overlaps_iff_of_query hkey).mp (hquery key hkey)
  · intro hquery
    exact ⟨fun key hkey ↦ text.overlaps_of_path hkey _,
      fun key hkey ↦ (text.overlaps_iff_of_query hkey).mpr (hquery key hkey)⟩

/-! ### The only reference -/

/-- The count is one exactly when nothing else is referred to. -/
theorem requestedCount_chars_eq_one_iff :
    (extractTicketTargets text.chars scopeSource scope).requestedCount = 1 ↔ text.Harmless := by
  have hne : githubMatches text.chars ≠ [] := by
    rw [githubMatches_chars]
    exact List.cons_ne_nil _ _
  have hlength : (githubMatches text.chars).length = 1 ↔
      githubUrl.finditer text.query = [] ∧ githubReference.finditer text.ending = [] := by
    rw [githubMatches_chars, List.length_cons, Nat.add_eq_right, List.length_eq_zero_iff, List.append_eq_nil_iff,
      List.map_eq_nil_iff, List.map_eq_nil_iff]
  rw [requestedCount_eq_one_iff hne, hlength]
  have hgithub : githubUrl.finditer text.query = [] → githubReference.finditer text.ending = [] →
      githubMatches text.chars = [text.urlFound] := by
    intro hurl hreference
    rw [githubMatches_chars, hurl, hreference]
    rfl
  have hitems : githubMatches text.chars = [text.urlFound] → (linearMatches text.chars).1 = [] →
      (itemsApart text.chars = [] ↔ ∀ item ∈ scopedItems text.chars,
        overlaps (item.position, item.stop) (text.urlSpan :: repositorySpans text.chars) = true) := by
    intro hfound hkeys
    have hspans : (linearMatches text.chars).2 = text.urlSpan :: repositorySpans text.chars := by
      rw [← text.githubSpans_chars hfound, linearMatches, keysApart_of_forall (keysApart_eq_nil_iff.mp hkeys)]
    rw [itemsApart, hspans, List.filter_eq_nil_iff]
    simp only [Bool.not_eq_true', Bool.not_eq_false]
  constructor
  · rintro ⟨⟨hurl, hreference⟩, hkeys, hapart⟩
    have hfound := hgithub hurl hreference
    exact ⟨hurl, hreference, (text.linearMatches_eq_nil_iff hfound).mp hkeys, (hitems hfound hkeys).mp hapart⟩
  · intro h
    have hfound := hgithub h.url h.reference
    have hkeys := (text.linearMatches_eq_nil_iff hfound).mpr h.key
    exact ⟨⟨h.url, h.reference⟩, hkeys, (hitems hfound hkeys).mpr h.item⟩

/-- Where the count is one, the reference is the URL. -/
theorem references_of_count (h : (extractTicketTargets text.chars scopeSource scope).requestedCount = 1) :
    (extractTicketTargets text.chars scopeSource scope).references =
      [githubCandidate text.chars.length text.urlFound] := by
  have hharmless := (text.requestedCount_chars_eq_one_iff scopeSource scope).mp h
  have hfound : githubMatches text.chars = [text.urlFound] := by
    rw [githubMatches_chars, hharmless.url, hharmless.reference]
    rfl
  have hne : githubMatches text.chars ≠ [] := hfound ▸ List.cons_ne_nil _ _
  obtain ⟨-, hkeys, hapart⟩ := (requestedCount_eq_one_iff hne).mp h
  have hcandidates : ticketCandidates text.chars scopeSource scope =
      [githubCandidate text.chars.length text.urlFound] := by
    rw [ticketCandidates, hfound, hkeys, hapart]
    rfl
  change uniqueBy TicketReference.key [] (sortedCandidates text.chars scopeSource scope) = _
  rw [sortedCandidates, hcandidates]
  rfl

end IssueUrlText

/-- References have different identities and stand in order, and among words without digits the URL of an issue is
the only reference exactly when nothing else is referred to. -/
theorem extractsOne_iff (chars : List Char) (text : IssueUrlText) (scopeSource scope : Option String) :
    ExtractsInOrder chars scopeSource scope ∧ (text.ExtractsOne scopeSource scope ↔ text.Harmless) := by
  refine ⟨extractsInOrder chars scopeSource scope, fun h ↦ ?_, fun h ↦ ?_⟩
  · exact (text.requestedCount_chars_eq_one_iff scopeSource scope).mp h.count
  · have hcount := (text.requestedCount_chars_eq_one_iff scopeSource scope).mpr h
    refine ⟨⟨_, text.references_of_count scopeSource scope hcount, ?_, ?_⟩, hcount⟩
    · rw [text.githubCandidate_urlFound]
    · rw [text.githubCandidate_urlFound]

end

section

attribute [local instance] asciiDigitLibrary

/-- A request about an issue, with this after its number. -/
def issueRequest (query : List Char) (hspaces : ∀ c ∈ query, isSpace c = false)
    (hfirst : query.head?.all fun c ↦ c ∈ ['?', '#']) : IssueUrlText where
  before        := "see ".toList
  scheme        := "https".toList
  www           := []
  domain        := "github.com".toList
  owner         := ['o']
  repo          := ['r']
  number        := "12".toList
  slash         := false
  query         := query
  after         := " please".toList
  before_digits := by
    unfold NoDigits
    decide
  scheme_eq     := by decide
  www_eq        := .inr rfl
  domain_eq     := by decide
  name          := ⟨by decide, by decide, by decide, by decide, by decide, by decide, by decide, by decide, by decide⟩
  number_ne     := by decide
  number_digits := by decide
  number_pos    := by decide
  query_spaces  := hspaces
  query_first   := hfirst
  after_digits  := by
    unfold NoDigits
    decide
  after_first   := by
    have hspace : isSpace ' ' = true := by decide
    change (isSpace ' ' || (query.isEmpty && !isPathChar ' ')) = true
    rw [hspace, Bool.true_or]

theorem extractsOne_iff_query :
    (issueRequest "?tab=1".toList (by decide) (by decide)).ExtractsOne none none := by
  refine (extractsOne_iff [] (issueRequest "?tab=1".toList (by decide) (by decide)) none none).2.mpr
    ⟨by decide +kernel, by decide +kernel, fun key hkey ↦ ?_, fun item hitem ↦ ?_⟩
  · have hkeys : linearReference.finditer "?tab=1".toList = [] := by decide +kernel
    change key ∈ linearReference.finditer "?tab=1".toList at hkey
    rw [hkeys] at hkey
    cases hkey
  · have hitems : scopedItems (issueRequest "?tab=1".toList (by decide) (by decide)).chars = [] := by
      decide +kernel
    rw [hitems] at hitem
    cases hitem

/-- The URL of a comment is taken for two tickets. -/
theorem not_extractsOne_comment :
    ¬ (issueRequest "#issuecomment-123".toList (by decide) (by decide)).ExtractsOne none none := by
  intro h
  have hcount : (extractTicketTargets
      (issueRequest "#issuecomment-123".toList (by decide) (by decide)).chars none none).requestedCount = 2 := by
    decide +kernel
  rw [h.count] at hcount
  cases hcount

end

end VoiceHarness
