import VoiceHarness.Ticket.Extraction
import VoiceHarness.Ticket.Scanning

/-!
# One URL among words

A text of words without digits around the URL of one GitHub issue, which may have a trailing slash, a query and a
fragment. The URL is extracted, and nothing else, exactly where its query or fragment and the words hold no other
reference. The end of a URL is not known to the other patterns: `issues/12#5` reads as a repository with a number,
and `issuecomment-123` as a key.
-/

set_option autoImplicit false
set_option relaxedAutoImplicit false

namespace VoiceHarness

open Library

section

variable [DigitLibrary]

/-- The name of a GitHub repository. -/
structure RepositoryName (owner repo : List Char) : Prop where
  owner_chars : ∀ c ∈ owner, c.isAlphanum = true ∨ c = '-'
  owner_first : owner.head?.any Char.isAlphanum = true
  owner_last : owner.getLast?.any Char.isAlphanum = true
  owner_length : owner.length ≤ 39
  repo_chars : ∀ c ∈ repo, isAsciiName c = true
  repo_ne : repo ≠ []
  repo_length : repo.length ≤ 100
  repo_dots : repo ∉ [['.'], ['.', '.']]
  repo_git : ¬ ".git".toList <:+ repo

/-- Words around the URL of an issue. What ends the URL is white space, or a character that belongs to no path where
it has no query. -/
structure IssueUrlText where
  before : List Char
  scheme : List Char
  www : List Char
  domain : List Char
  owner : List Char
  repo : List Char
  number : List Char
  slash : Bool
  query : List Char
  after : List Char
  before_digits : NoDigits before
  scheme_eq : scheme.map Char.toLower = "https".toList
  www_eq : www.map Char.toLower = "www.".toList ∨ www = []
  domain_eq : domain.map Char.toLower = "github.com".toList
  name : RepositoryName owner repo
  number_ne : number ≠ []
  number_digits : ∀ c ∈ number, c.isDigit = true
  number_pos : 0 < readDigits number
  query_spaces : ∀ c ∈ query, isSpace c = false
  query_first : query.head?.all fun c ↦ c ∈ ['?', '#']
  after_digits : NoDigits after
  after_first : after.head?.all fun c ↦ isSpace c || (query.isEmpty && !isPathChar c)

namespace IssueUrlText

variable (text : IssueUrlText)

def slashText : List Char := if text.slash then ['/'] else []

/-- The URL after its colon, up to the path of the issue. -/
def repositoryPath : List Char :=
  "//".toList ++ (text.www ++ (text.domain ++ '/' :: (text.owner ++ '/' :: text.repo)))

/-- The path of the issue, with the slash. -/
def issuePath : List Char := "/issues/".toList ++ (text.number ++ text.slashText)

/-- The URL without its query or fragment. -/
def url : List Char := text.scheme ++ ':' :: (text.repositoryPath ++ text.issuePath)

def rest : List Char := text.query ++ text.after

def chars : List Char := text.before ++ (text.url ++ text.rest)

/-- The path of the issue with the query or fragment. -/
def ending : List Char := text.issuePath ++ text.query

/-- Where the URL stands. -/
def urlSpan : ℕ × ℕ := (text.before.length, text.before.length + text.url.length)

/-- The spans of the repositories in a text. -/
def repositorySpans (chars : List Char) : List (ℕ × ℕ) :=
  (githubRepositoryTarget.finditer chars).map (·.span chars.length)

/-- Neither the query or fragment nor the words hold another reference. -/
structure Harmless : Prop where
  url : githubUrl.finditer text.query = []
  reference : githubReference.finditer text.ending = []
  key : ∀ key ∈ linearReference.finditer text.query,
    overlaps (key.span text.query.length) (repositorySpans text.query) = true
  item : ∀ item ∈ scopedItems text.chars,
    overlaps (item.position, item.stop) (text.urlSpan :: repositorySpans text.chars) = true

/-- The URL is extracted as the only reference. -/
structure ExtractsOne (scopeSource scope : Option String) : Prop where
  reference : ∃ reference, (extractTicketTargets text.chars scopeSource scope).references = [reference] ∧
    reference.source = some .github ∧
    reference.canonical = some (numbered (text.owner ++ '/' :: text.repo) '#' (readDigits text.number))
  count : (extractTicketTargets text.chars scopeSource scope).requestedCount = 1

end IssueUrlText

variable {pattern : TicketPattern}

/-! ### After the number -/

namespace IssueUrlText

variable (text : IssueUrlText)

theorem query_eq_nil_or : text.query = [] ∨ text.after.head?.any isSolid = false := by
  cases hquery : text.query with
  | nil => exact .inl rfl
  | cons c query =>
    right
    have hfirst := text.after_first
    rw [hquery] at hfirst
    cases hafter : text.after with
    | nil => rfl
    | cons c after =>
      rw [hafter] at hfirst
      simpa [isSolid] using hfirst

theorem query_path : text.query.head?.any isPathChar = false := by
  have hfirst := text.query_first
  cases hquery : text.query with
  | nil => rfl
  | cons c query =>
    rw [hquery] at hfirst
    have hc : c ∈ ['?', '#'] := by simpa using hfirst
    exact (by decide : ∀ c ∈ ['?', '#'], isPathChar c = false) c hc

theorem rest_path : text.rest.head?.any isPathChar = false := by
  have hquery := text.query_path
  have hfirst := text.after_first
  rw [rest]
  cases hcases : text.query with
  | cons c query =>
    rw [hcases] at hquery
    exact hquery
  | nil =>
    rw [hcases] at hfirst
    cases hafter : text.after with
    | nil => rfl
    | cons c after =>
      rw [hafter] at hfirst
      have hc : isSpace c = true ∨ isPathChar c = false := by simpa using hfirst
      exact hc.elim not_isPathChar_of_isSpace id

/-- After the path of the issue, matches lie in the query or fragment. -/
theorem findAll_rest (hpattern : InOnePiece pattern) (previous : Option Char) :
    pattern.findAll 0 previous text.rest = (pattern.finditer text.query).map (·.extend text.after) := by
  rcases text.query_eq_nil_or with hquery | hafter
  · rw [rest, hquery, List.nil_append, findAll_eq_nil hpattern text.after_digits]
    rfl
  · rw [rest, Pattern.findAll_append hpattern.solid hafter previous (Nat.zero_le _),
      findAll_eq_nil hpattern text.after_digits, List.append_nil]
    rw [findAll_previous hpattern.starts (any_isPatternAlnum_of_path text.query_path) previous none]
    rfl

/-! ### The other patterns -/

theorem chars_eq : text.chars =
    (text.before ++ text.scheme) ++ ':' :: (text.repositoryPath ++ (text.issuePath ++ text.rest)) := by
  simp [chars, url]

variable [LawfulDigits]

theorem noDigits_lead : NoDigits (text.before ++ text.scheme) := by
  refine List.forall_mem_append.mpr ⟨text.before_digits, fun c hc ↦ not_isDecimal_of_toLower ?_⟩
  have hlower : c.toLower ∈ "https".toList := text.scheme_eq ▸ List.mem_map_of_mem hc
  exact (by decide : ∀ c ∈ "https".toList, c.isLower = true) _ hlower

end IssueUrlText

namespace IssueUrlText

variable (text : IssueUrlText) [LawfulDigits]

theorem rest_digit : text.rest.head?.any isDecimal = false := by
  have hfirst := text.query_first
  rw [rest]
  cases hquery : text.query with
  | nil =>
    cases hafter : text.after with
    | nil => rfl
    | cons c after => exact text.after_digits c (hafter ▸ List.mem_cons_self)
  | cons c query =>
    rw [hquery] at hfirst
    have hc : c ∈ ['?', '#'] := by simpa using hfirst
    exact not_isDecimal_sign ((by decide : ∀ c ∈ ['?', '#'], c ∈ [':', '/', '#', '-', '?']) c hc)

theorem rest_key : text.rest.head?.any isKeyChar = false := by
  have hpath := text.rest_path
  have hdigit := text.rest_digit
  cases hrest : text.rest with
  | nil => rfl
  | cons c rest =>
    rw [hrest, List.head?_cons, Option.any_some] at hpath hdigit
    have halnum := not_isPatternAlnum_of_not_isPathChar hpath
    have hdash : c ≠ '-' := by
      rintro rfl
      exact absurd hpath (by decide)
    simp [isKeyChar, halnum, hdash, hdigit]

/-- The URL up to its query or fragment, after its colon. -/
def path : List Char := text.repositoryPath ++ text.issuePath

/-- Keys lie in the URL or in the query or fragment. -/
theorem finditer_linearReference :
    linearReference.finditer text.chars =
      (linearReference.findAll 0 (some ':') text.path).map (·.extend text.rest) ++
        (linearReference.finditer text.query).map (·.extend text.after) := by
  have hpiece := inOnePiece_linearReference
  rw [Pattern.finditer, chars_eq, findAll_append_mark hpiece colon_notMem_linearReference text.noDigits_lead,
    ← List.append_assoc, Pattern.findAll_append within_linearReference text.rest_key _ (Nat.zero_le _),
    text.findAll_rest hpiece]
  rfl

/-! ### Owners and numbers -/

omit [LawfulDigits] in
theorem issuePath_hash : '#' ∉ text.issuePath := by
  have hdigits : '#' ∉ text.number := @notMem_of_forall Char.isDigit _ _ text.number_digits (by decide)
  have hslash : '#' ∉ text.slashText := by
    rw [slashText]
    split_ifs
    · decide
    · exact List.not_mem_nil
  have hissues : '#' ∉ "/issues/".toList := by decide
  unfold issuePath
  rw [List.mem_append, List.mem_append, not_or, not_or]
  exact ⟨hissues, hdigits, hslash⟩

omit [LawfulDigits] in
theorem owner_name : ∀ c ∈ text.owner, isNameChar c = true := by
  intro c hc
  refine isNameChar_of_isAsciiName ?_
  rw [isAsciiName]
  rcases text.name.owner_chars c hc with h | rfl
  · rw [h, Bool.true_or]
  · decide

omit [LawfulDigits] in
theorem repo_name : ∀ c ∈ text.repo, isNameChar c = true := fun c hc ↦
  isNameChar_of_isAsciiName (text.name.repo_chars c hc)

omit [LawfulDigits] in
/-- A mark that stands in no name and no host is not in the URL before the path of the issue. -/
theorem notMem_repositoryPath {mark : Char} (hname : isNameChar mark = false) (hslash : mark ≠ '/')
    (hwww : mark.toLower ∉ "www.".toList) (hdomain : mark.toLower ∉ "github.com".toList) :
    mark ∉ text.repositoryPath := by
  have hwwwText : mark ∉ text.www := by
    rcases text.www_eq with h | h
    · exact notMem_of_map_toLower h hwww
    · exact h ▸ List.not_mem_nil
  have hsign : mark ∉ "//".toList := by simpa using hslash
  simp only [repositoryPath, List.mem_append, List.mem_cons, not_or]
  exact ⟨hsign, hwwwText, notMem_of_map_toLower text.domain_eq hdomain, hslash,
    notMem_of_forall text.owner_name hname, hslash, notMem_of_forall text.repo_name hname⟩

omit [LawfulDigits] in
theorem repositoryPath_hash : '#' ∉ text.repositoryPath :=
  text.notMem_repositoryPath (by decide) (by decide) (by decide) (by decide)

omit [LawfulDigits] in
/-- No repository with a number starts before the path of the issue. -/
theorem ahead_length_of_githubReference {previous : Option Char} {after : List Char} {found : TicketFound}
    (h : githubReference.MatchIn previous (text.repositoryPath ++ (text.issuePath ++ after)) found) :
    found.ahead.length ≤ (text.issuePath ++ after).length := by
  obtain ⟨before, taken, htext, -, hahead, hreads⟩ := h
  by_contra hlong
  obtain ⟨inside, hinside, hfound⟩ : ∃ inside, '#' ∉ inside ∧
      found.ahead = inside ++ (text.issuePath ++ after) := by
    rcases List.append_eq_append_iff.mp htext with ⟨beyond, -, hafter⟩ | ⟨inside, hpath, hfound⟩
    · refine absurd ?_ hlong
      rw [hafter, List.length_append]
      exact Nat.le_add_left _ _
    · exact ⟨inside, fun hmem ↦ text.repositoryPath_hash (hpath ▸ List.mem_append_right _ hmem), hfound⟩
  obtain ⟨owner, repo, number, rfl, ⟨-, howner⟩, hrepo, -, -⟩ := exists_of_reads_githubReference hreads
  have hhash : '#' ∉ inside ++ text.issuePath := by
    rw [List.mem_append, not_or]
    exact ⟨hinside, text.issuePath_hash⟩
  have hequal : (inside ++ text.issuePath) ++ after = (owner ++ '/' :: repo) ++ '#' :: (number ++ found.rest) := by
    rw [List.append_assoc, ← hfound, hahead]
    simp
  -- The hash stands after the path of the issue, which has two slashes.
  obtain ⟨between, hbetween, -⟩ := exists_of_append_eq hequal hhash
  have hcount := congrArg (List.count '/') hbetween
  have hpath : 2 ≤ text.issuePath.count '/' := by
    unfold issuePath
    rw [List.count_append]
    exact Nat.le_add_right_of_le (by decide)
  have hownerCount : owner.count '/' = 0 := List.count_eq_zero.mpr (notMem_of_forall howner (by decide))
  have hrepoCount : repo.count '/' = 0 := List.count_eq_zero.mpr (notMem_of_forall hrepo (by decide))
  rw [List.count_append, List.count_cons_self, List.count_append, List.count_append, hownerCount, hrepoCount]
    at hcount
  omega

omit [LawfulDigits] in
/-- Without digits after it, the path of the issue is not read as a repository with a number. -/
theorem findAll_issuePath_eq_nil {after : List Char} (hafter : NoDigits after) (previous : Option Char) :
    githubReference.findAll 0 previous (text.issuePath ++ after) = [] := by
  refine List.eq_nil_iff_forall_not_mem.mpr fun found hfound ↦ ?_
  obtain ⟨before, taken, htext, -, hahead, hreads⟩ := Pattern.matchIn_of_mem_findAll hfound
  obtain ⟨owner, repo, number, rfl, -, -, hne, hnumber⟩ := exists_of_reads_githubReference hreads
  have hequal : text.issuePath ++ after = (before ++ (owner ++ '/' :: repo)) ++ '#' :: (number ++ found.rest) := by
    rw [htext, hahead]
    simp
  obtain ⟨between, -, hrest⟩ := exists_of_append_eq hequal text.issuePath_hash
  obtain ⟨c, digits, rfl⟩ := List.exists_cons_of_ne_nil hne
  have hdigit := hnumber c List.mem_cons_self
  rw [hafter c (by simp [hrest])] at hdigit
  cases hdigit

/-- A repository with a number stands at the end of the URL at the earliest. -/
theorem finditer_githubReference :
    githubReference.finditer text.chars = (githubReference.finditer text.ending).map (·.extend text.after) := by
  have hpiece := inOnePiece_githubReference
  have hchars : text.issuePath ++ text.rest = text.ending ++ text.after := (List.append_assoc ..).symm
  have hfirst : (text.issuePath ++ text.rest).head?.any isPatternAlnum = false := rfl
  rw [Pattern.finditer, chars_eq, findAll_append_mark hpiece colon_notMem_githubReference text.noDigits_lead,
    Pattern.findAll_append_of_none _ fun found ↦ text.ahead_length_of_githubReference,
    findAll_previous hpiece.starts hfirst _ none]
  rcases text.query_eq_nil_or with hquery | hafter
  · rw [rest, ending, hquery, List.nil_append, text.findAll_issuePath_eq_nil text.after_digits, Pattern.finditer,
      text.findAll_issuePath_eq_nil fun c hc ↦ (List.not_mem_nil hc).elim]
    rfl
  · rw [hchars, Pattern.findAll_append hpiece.solid hafter none (Nat.zero_le _),
      findAll_eq_nil hpiece text.after_digits, List.append_nil]
    rfl

/-! ### The URL -/

/-- The URL as its pattern reads it. -/
def parts : UrlParts where
  scheme := text.scheme ++ "://".toList
  www := text.www
  domain := text.domain ++ ['/']
  owner := text.owner
  repo := text.repo
  issues := "/issues/".toList
  number := text.number
  slash := text.slashText

omit [LawfulDigits] in
theorem parts_text : text.parts.text = text.url := by
  have hsign : "://".toList = ':' :: "//".toList := by decide
  unfold parts UrlParts.text UrlParts.tail url repositoryPath issuePath
  rw [hsign]
  simp only [List.append_assoc, List.cons_append, List.nil_append]

theorem valid_parts : text.parts.Valid text.rest where
  scheme := forall₂_sameLetter (by
    have hsign : "://".toList.map Char.toLower = "://".toList := by decide
    change (text.scheme ++ "://".toList).map Char.toLower = _
    rw [List.map_append, text.scheme_eq, hsign]
    decide)
  www := text.www_eq.imp forall₂_sameLetter id
  domain := forall₂_sameLetter (by
    change (text.domain ++ ['/']).map Char.toLower = _
    rw [List.map_append, text.domain_eq]
    decide)
  owner_ne := by
    intro hnil
    have hfirst := text.name.owner_first
    rw [show text.owner = [] from hnil] at hfirst
    cases hfirst
  owner := text.owner_name
  repo_ne := text.name.repo_ne
  repo := text.repo_name
  issues := forall₂_sameLetter (by
    change "/issues/".toList.map Char.toLower = _
    decide)
  number_ne := text.number_ne
  number := fun c hc ↦ isDecimal_of_isDigit (text.number_digits c hc)
  slash := by
    change text.slashText = _ ∨ text.slashText = _
    rw [slashText]
    split_ifs
    · exact .inl rfl
    · exact .inr rfl
  ends := text.rest_path

theorem reads_url (previous : Option Char) :
    githubUrl.Reads previous text.url text.rest text.parts.groups :=
  reads_githubUrl_iff.mpr ⟨text.parts, text.parts_text.symm, text.valid_parts, rfl⟩

theorem url_solid : ∀ c ∈ text.url, isSolid c = true :=
  (text.reads_url none).kind_of_mem inOnePiece_githubUrl.solid

end IssueUrlText

namespace IssueUrlText

variable (text : IssueUrlText) [LawfulDigits]

/-- No URL starts before this one. -/
theorem ahead_length_of_githubUrl {previous : Option Char} {found : TicketFound}
    (h : githubUrl.MatchIn previous (text.before ++ (text.url ++ text.rest)) found) :
    found.ahead.length ≤ (text.url ++ text.rest).length := by
  obtain ⟨before, taken, htext, -, hahead, hreads⟩ := h
  by_contra hlong
  obtain ⟨inside, hbefore, hfound⟩ : ∃ inside, text.before = before ++ inside ∧
      found.ahead = inside ++ (text.url ++ text.rest) := by
    rcases List.append_eq_append_iff.mp htext with ⟨beyond, -, hafter⟩ | ⟨inside, hbefore, hfound⟩
    · refine absurd ?_ hlong
      rw [hafter, List.length_append]
      exact Nat.le_add_left _ _
    · exact ⟨inside, hbefore, hfound⟩
  obtain ⟨scheme, more, rfl, hscheme, hcolon, c, hc, hdigit⟩ := exists_of_reads_githubUrl hreads
  have hlength : scheme.length ≤ (inside ++ text.scheme).length := by
    have hfive : text.scheme.length = 5 := by
      rw [← List.length_map Char.toLower, text.scheme_eq]
      decide
    rw [hfound, List.length_append] at hlong
    rw [List.length_append, hfive, hscheme]
    omega
  have hequal : scheme ++ (more ++ found.rest) =
      (inside ++ text.scheme) ++ ':' :: (text.repositoryPath ++ text.issuePath ++ text.rest) := by
    rw [← List.append_assoc, ← hahead, hfound, url]
    simp
  -- The scheme that is read ends before the colon of the URL, and nothing after it has a colon.
  obtain ⟨between, hlead, hmore⟩ : ∃ between, inside ++ text.scheme = scheme ++ between ∧
      more ++ found.rest = between ++ ':' :: (text.repositoryPath ++ text.issuePath ++ text.rest) := by
    rcases List.append_eq_append_iff.mp hequal with ⟨between, hlead, hmore⟩ | ⟨beyond, hbeyond, hmore⟩
    · exact ⟨between, hlead, hmore⟩
    · have hnil : beyond = [] := by
        rw [hbeyond, List.length_append] at hlength
        exact List.eq_nil_of_length_eq_zero (by omega)
      rw [hnil, List.append_nil] at hbeyond
      rw [hnil, List.nil_append] at hmore
      exact ⟨[], by rw [hbeyond, List.append_nil], hmore.symm⟩
  obtain ⟨other, rfl, -⟩ := exists_of_append_eq hmore hcolon
  have hmem : c ∈ text.before ++ text.scheme := by
    rw [hbefore, List.append_assoc, hlead]
    simp [hc]
  rw [text.noDigits_lead c hmem] at hdigit
  cases hdigit

omit [LawfulDigits] in
theorem exists_url_cons : ∃ c url, text.url = c :: url ∧ c.toLower = 'h' := by
  have hscheme := text.scheme_eq
  rw [url]
  cases hcases : text.scheme with
  | nil =>
    rw [hcases] at hscheme
    exact absurd hscheme (by decide)
  | cons c scheme =>
    rw [hcases, List.map_cons] at hscheme
    exact ⟨c, _, rfl, (List.cons.inj hscheme).1⟩

/-- The URL as it is found. -/
def urlFound : TicketFound := ⟨text.url ++ text.rest, text.rest, text.parts.groups⟩

/-- The URL is the first match at its place. -/
theorem run_githubUrl (previous : Option Char) :
    (githubUrl.run ⟨previous, text.url ++ text.rest, []⟩).head? =
      some ⟨text.url.getLast?.or previous, text.rest, text.parts.groups⟩ := by
  refine Pattern.run_head?_eq ?_ fun later hlater ↦ ?_
  · exact (Pattern.mem_run_iff githubUrl).mpr ⟨text.url, text.rest, _, rfl, text.reads_url previous, by simp⟩
  · obtain ⟨taken, rest, found, hahead, hreads, rfl⟩ := (Pattern.mem_run_iff githubUrl).mp hlater
    obtain ⟨parts, rfl, hparts, rfl⟩ := reads_githubUrl_iff.mp hreads
    have hpath : ∀ c ∈ text.parts.number, isPathChar c = true := by
      intro c hc
      have hdigit : c.isDigit = true := text.number_digits c hc
      rw [isPathChar, isPatternAlnum, Char.isAlphanum, hdigit, Bool.or_true]
      rfl
    obtain ⟨rfl, rfl⟩ := hparts.unique text.valid_parts hpath text.rest_digit (text.parts_text.symm ▸ hahead.symm)
    rw [text.parts_text, List.append_nil]

/-- URLs are this one and those of the query or fragment. -/
theorem finditer_githubUrl :
    githubUrl.finditer text.chars =
      text.urlFound :: (githubUrl.finditer text.query).map (·.extend text.after) := by
  rw [Pattern.finditer, chars, Pattern.findAll_append_of_none _ fun found ↦ text.ahead_length_of_githubUrl]
  have hrun := text.run_githubUrl (text.before.getLast?.or none)
  have hfound : text.urlFound = ⟨text.url ++ text.rest, text.rest, text.parts.groups⟩ := rfl
  obtain ⟨c, url, hurl, -⟩ := text.exists_url_cons
  rw [hurl, List.cons_append] at hrun hfound ⊢
  rw [Pattern.findAll, hrun, hfound]
  simp only [List.length_append, Nat.add_sub_cancel]
  rw [Pattern.findAll_length, text.findAll_rest inOnePiece_githubUrl]

/-! ### Numbers after white space -/

/-- No digit stands after the words and before the URL. -/
theorem digit_ne_url {digit : Char} {words after more : List Char} (hwords : NoDigits words)
    (hdigit : isDecimal digit = true) : digit :: more ≠ words ++ (text.url ++ after) := by
  intro h
  cases words with
  | cons c words =>
    obtain ⟨rfl, -⟩ := List.cons.inj h
    rw [hwords _ List.mem_cons_self] at hdigit
    cases hdigit
  | nil =>
    obtain ⟨c, url, hurl, hlower⟩ := text.exists_url_cons
    rw [hurl] at h
    obtain ⟨rfl, -⟩ := List.cons.inj h
    rw [not_isDecimal_of_toLower (by rw [hlower]; decide)] at hdigit
    cases hdigit

/-- No number stands after white space. -/
theorem not_spacedNumber : ¬ SpacedNumber text.chars := by
  rintro ⟨start, space, hash, digit, more, hchars, hspace, hhash, hdigit⟩
  have htoken : ∀ c ∈ text.url ++ text.query, isSpace c = false := by
    refine List.forall_mem_append.mpr ⟨fun c hc ↦ ?_, text.query_spaces⟩
    simpa [isSolid] using text.url_solid c hc
  have hnot : space ∉ text.url ++ text.query := fun hmem ↦ by
    rw [htoken space hmem] at hspace
    cases hspace
  have htext : text.chars = text.before ++ ((text.url ++ text.query) ++ text.after) := by
    rw [chars, rest, List.append_assoc]
  rw [htext] at hchars
  rcases List.append_eq_append_iff.mp hchars with ⟨beyond, -, hafter⟩ | ⟨inside, hbefore, hrest⟩
  · obtain ⟨between, -, hafter⟩ := exists_of_append_eq hafter hnot
    have hmem : digit ∈ text.after := by simp [hafter]
    rw [text.after_digits digit hmem] at hdigit
    cases hdigit
  · rw [List.append_assoc] at hrest
    cases inside with
    | nil =>
      obtain ⟨c, url, hurl, -⟩ := text.exists_url_cons
      rw [hurl] at hrest hnot
      obtain ⟨rfl, -⟩ := List.cons.inj hrest
      exact hnot List.mem_cons_self
    | cons first words =>
      obtain ⟨-, hrest⟩ := List.cons.inj hrest
      have hwords : NoDigits words := fun c hc ↦ text.before_digits c (by simp [hbefore, hc])
      rcases hhash with rfl | rfl
      · cases words with
        | nil =>
          obtain ⟨c, url, hurl, hlower⟩ := text.exists_url_cons
          rw [hurl] at hrest
          obtain ⟨rfl, -⟩ := List.cons.inj hrest
          exact absurd hlower (by decide)
        | cons sign words =>
          obtain ⟨-, hrest⟩ := List.cons.inj hrest
          exact text.digit_ne_url (fun c hc ↦ hwords c (List.mem_cons_of_mem _ hc)) hdigit hrest
      · exact text.digit_ne_url hwords hdigit hrest

/-- A pattern with a number after white space has no match. -/
theorem finditer_eq_nil (hspaced : ∀ {previous : Option Char} {taken rest : List Char}
    {found : List (TicketField × List Char)}, pattern.Reads previous taken rest found → SpacedNumber taken) :
    pattern.finditer text.chars = [] := by
  refine List.eq_nil_iff_forall_not_mem.mpr fun found hfound ↦ ?_
  obtain ⟨before, taken, htext, -, hahead, hreads⟩ := Pattern.matchIn_of_mem_findAll hfound
  refine text.not_spacedNumber ?_
  rw [htext, hahead]
  exact ((hspaced hreads).append_right _).append_left _

/-- The matches of the GitHub patterns: the URL, and those of what comes after the number. -/
theorem githubMatches_chars : githubMatches text.chars =
    text.urlFound :: ((githubUrl.finditer text.query).map (·.extend text.after) ++
      (githubReference.finditer text.ending).map (·.extend text.after)) := by
  rw [githubMatches]
  simp only [List.flatMap_cons, List.flatMap_nil, text.finditer_githubUrl, text.finditer_githubReference,
    text.finditer_eq_nil spacedNumber_of_reads_githubRepositoryIssue,
    text.finditer_eq_nil spacedNumber_of_reads_githubInRepository, List.append_nil, List.cons_append]

end IssueUrlText

end

end VoiceHarness
