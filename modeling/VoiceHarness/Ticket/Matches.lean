import VoiceHarness.Ticket.ListText
import VoiceHarness.Ticket.References

/-!
# What the ticket patterns match

The parts of a URL, of a repository with a number, of a repository and of a key, as the patterns of
`ticket_targets.py` read them.
-/

set_option autoImplicit false
set_option relaxedAutoImplicit false

namespace VoiceHarness

open Library

/-! ### Literals -/

/-- A capital becomes a small letter. -/
theorem isLower_toLower {c : Char} (h : c.isUpper = true) : c.toLower.isLower = true := by
  have hupper : c.val ≥ 'A'.val ∧ c.val ≤ 'Z'.val := by simpa [Char.isUpper] using h
  rw [Char.toLower, dif_pos hupper]
  simp only [Char.isLower, Bool.and_eq_true, decide_eq_true_eq, ge_iff_le, UInt32.le_iff_toNat_le,
    UInt32.toNat_add] at hupper ⊢
  simp at hupper ⊢
  omega

/-- A sign of a pattern matches itself only. -/
theorem sameLetter_sign {sign c : Char} (hsign : sign.isAlpha = false) : sameLetter sign c = true ↔ c = sign := by
  have hother : ∀ letter : Char, letter.isAlpha = true → sign ≠ letter := by
    rintro letter hletter rfl
    rw [hletter] at hsign
    cases hsign
  have hlower : c.toLower = sign ↔ c = sign := by
    constructor
    · rintro rfl
      by_cases hupper : c.isUpper = true
      · rw [Char.isAlpha, isLower_toLower hupper, Bool.or_true] at hsign
        cases hsign
      · rw [toLower_of_not_isUpper (Bool.not_eq_true _ ▸ hupper)]
    · rintro rfl
      refine toLower_of_not_isUpper ?_
      rw [Char.isAlpha, Bool.or_eq_false_iff] at hsign
      exact hsign.1
  simp [sameLetter, hlower, hother 'i' (by decide), hother 'k' (by decide), hother 's' (by decide)]

variable {previous : Option Char} {taken rest : List Char} {found : List (TicketField × List Char)}

theorem reads_literalText {text : String} :
    (literalText text).Reads previous taken rest found ↔
      List.Forall₂ (fun letter c ↦ sameLetter letter c = true) text.toList taken ∧ found = [] := by
  rw [literalText, Pattern.reads_literal, List.forall₂_map_left_iff]

theorem reads_sign (text : String) (sign : Char) (htext : text.toList = [sign]) (hsign : sign.isAlpha = false) :
    (literalText text).Reads previous taken rest found ↔ taken = [sign] ∧ found = [] := by
  rw [reads_literalText, htext, List.forall₂_cons_left_iff]
  simp only [List.forall₂_nil_left_iff, sameLetter_sign hsign]
  constructor
  · rintro ⟨⟨c, others, rfl, rfl, rfl⟩, rfl⟩
    exact ⟨rfl, rfl⟩
  · rintro ⟨rfl, rfl⟩
    exact ⟨⟨sign, [], rfl, rfl, rfl⟩, rfl⟩

theorem reads_optional {text : String} :
    (Pattern.opt (literalText text)).Reads previous taken rest found ↔
      (List.Forall₂ (fun letter c ↦ sameLetter letter c = true) text.toList taken ∨ taken = []) ∧ found = [] := by
  change (literalText text).Reads previous taken rest found ∨ _ ↔ _
  rw [reads_literalText, or_and_right]

theorem reads_optional_sign (text : String) (sign : Char) (htext : text.toList = [sign])
    (hsign : sign.isAlpha = false) :
    (Pattern.opt (literalText text)).Reads previous taken rest found ↔
      (taken = [sign] ∨ taken = []) ∧ found = [] := by
  change (literalText text).Reads previous taken rest found ∨ _ ↔ _
  rw [reads_sign text sign htext hsign, or_and_right]

theorem reads_pathName : pathName.Reads previous taken rest found ↔
    taken ≠ [] ∧ (∀ c ∈ taken, isNameChar c = true) ∧ found = [] := by
  constructor
  · rintro ⟨hname, hlength, -, hgroups⟩
    exact ⟨List.ne_nil_of_length_pos hlength, hname, hgroups⟩
  · rintro ⟨hne, hname, hgroups⟩
    exact ⟨hname, List.length_pos_iff.mpr hne, (fun _ hmost ↦ nomatch hmost), hgroups⟩

/-- An owner starts with a letter or a digit and goes on with these and dashes. -/
theorem owner_of_reads (h : ownerName.Reads previous taken rest found) :
    taken.head?.any isPatternAlnum = true ∧ ∀ c ∈ taken, isOwnerChar c = true := by
  obtain ⟨left, right, -, -, rfl, -, ⟨⟨c, rfl, hc⟩, -⟩, hright, -⟩ := h
  refine ⟨hc, List.forall_mem_append.mpr ⟨List.forall_mem_singleton.mpr ?_, hright⟩⟩
  rw [isOwnerChar, hc, Bool.true_or]

/-! ### Characters -/

/-- The matches of the pattern start with a letter or a digit. -/
def StartsAlnum (pattern : TicketPattern) : Prop :=
  ∀ {previous : Option Char} {taken rest : List Char} {found : List (TicketField × List Char)},
    pattern.Reads previous taken rest found → taken.head?.any isPatternAlnum = true

theorem not_isSpace_of_isPatternAlnum {c : Char} (h : isPatternAlnum c = true) : isSpace c = false := by
  rw [isPatternAlnum, Bool.or_eq_true, decide_eq_true_eq] at h
  rcases h with h | h
  · exact (opens_of_ascii h).space
  · exact (by decide : ∀ c ∈ [dottedI, dotlessI, longS, kelvinSign], isSpace c = false) c h

theorem not_isSpace_of_or {c : Char} {signs : List Char} (hsigns : ∀ sign ∈ signs, isSpace sign = false)
    (h : (isPatternAlnum c || c ∈ signs) = true) : isSpace c = false := by
  rw [Bool.or_eq_true, decide_eq_true_eq] at h
  exact h.elim not_isSpace_of_isPatternAlnum (hsigns c)

theorem not_isSpace_of_sameLetter {letter c : Char} (hletter : isSpace letter = false)
    (h : sameLetter letter c = true) : isSpace c = false := by
  by_contra hspace
  rw [Bool.not_eq_false] at hspace
  have hother : ∀ other : Char, isSpace other = false → c ≠ other := by
    rintro other hother rfl
    rw [hspace] at hother
    cases hother
  have hupper : c.isUpper = false := by
    by_contra hupper
    rw [Bool.not_eq_false] at hupper
    have halnum : c.isAlphanum = true := by
      rw [Char.isAlphanum, Char.isAlpha, hupper]
      rfl
    rw [(opens_of_ascii halnum).space] at hspace
    cases hspace
  rw [sameLetter, toLower_of_not_isUpper hupper] at h
  simp [hother letter hletter, hother dottedI (by decide), hother dotlessI (by decide),
    hother longS (by decide), hother kelvinSign (by decide)] at h

theorem isPatternAlnum_of_sameLetter {letter c : Char} (hletter : letter.isLower = true)
    (h : sameLetter letter c = true) : isPatternAlnum c = true := by
  simp only [sameLetter, Bool.or_eq_true, Bool.and_eq_true, decide_eq_true_eq] at h
  rw [isPatternAlnum, Bool.or_eq_true, decide_eq_true_eq]
  rcases h with ((rfl | ⟨-, rfl | rfl⟩) | ⟨-, rfl⟩) | ⟨-, rfl⟩
  · exact .inl (isAlphanum_of_toLower hletter)
  · exact .inr (by decide)
  · exact .inr (by decide)
  · exact .inr (by decide)
  · exact .inr (by decide)

theorem within_literal {classes : List (Char → Bool)} {kind : Char → Bool}
    (h : ∀ accepts ∈ classes, ∀ c, accepts c = true → kind c = true) :
    (Pattern.literal classes : TicketPattern).Within kind := by
  induction classes with
  | nil => trivial
  | cons accepts classes ih =>
    obtain ⟨haccepts, hclasses⟩ := List.forall_mem_cons.mp h
    exact ⟨haccepts, ih hclasses⟩

theorem within_literalText {text : String} {kind : Char → Bool}
    (h : ∀ letter ∈ text.toList, ∀ c, sameLetter letter c = true → kind c = true) :
    (literalText text).Within kind := by
  refine within_literal fun accepts haccepts ↦ ?_
  obtain ⟨letter, hletter, rfl⟩ := List.mem_map.mp haccepts
  exact h letter hletter

/-- No white space. -/
def isSolid (c : Char) : Bool := !isSpace c

theorem isSolid_of_not_isSpace {c : Char} (h : isSpace c = false) : isSolid c = true := by
  rw [isSolid, h]
  rfl

theorem solid_literalText {text : String} (h : ∀ letter ∈ text.toList, isSpace letter = false) :
    (literalText text).Within isSolid :=
  within_literalText fun letter hletter _ hc ↦
    isSolid_of_not_isSpace (not_isSpace_of_sameLetter (h letter hletter) hc)

section

variable [DigitLibrary]

theorem reads_numberGroup : numberGroup.Reads previous taken rest found ↔
    taken ≠ [] ∧ (∀ c ∈ taken, isDecimal c = true) ∧ found = [(.number, taken)] := by
  constructor
  · rintro ⟨inner, rfl, hdigits, hlength, -, rfl⟩
    exact ⟨List.ne_nil_of_length_pos hlength, hdigits, rfl⟩
  · rintro ⟨hne, hdigits, rfl⟩
    exact ⟨[], rfl, hdigits, List.length_pos_iff.mpr hne, (fun _ hmost ↦ nomatch hmost), rfl⟩

/-! ### URLs -/

/-- The parts of a URL. -/
@[ext] structure UrlParts where
  scheme : List Char
  www : List Char
  domain : List Char
  owner : List Char
  repo : List Char
  issues : List Char
  number : List Char
  slash : List Char

namespace UrlParts

/-- The text after the scheme. -/
def tail (parts : UrlParts) : List Char :=
  parts.www ++ (parts.domain ++ (parts.owner ++ '/' :: (parts.repo ++ (parts.issues ++
    (parts.number ++ parts.slash)))))

def text (parts : UrlParts) : List Char := parts.scheme ++ parts.tail

/-- The parts are what the pattern asks for before this text. -/
structure Valid (parts : UrlParts) (rest : List Char) : Prop where
  scheme : List.Forall₂ (fun letter c ↦ sameLetter letter c = true) "https://".toList parts.scheme
  www : List.Forall₂ (fun letter c ↦ sameLetter letter c = true) "www.".toList parts.www ∨ parts.www = []
  domain : List.Forall₂ (fun letter c ↦ sameLetter letter c = true) "github.com/".toList parts.domain
  owner_ne : parts.owner ≠ []
  owner : ∀ c ∈ parts.owner, isNameChar c = true
  repo_ne : parts.repo ≠ []
  repo : ∀ c ∈ parts.repo, isNameChar c = true
  issues : List.Forall₂ (fun letter c ↦ sameLetter letter c = true) "/issues/".toList parts.issues
  number_ne : parts.number ≠ []
  number : ∀ c ∈ parts.number, isDecimal c = true
  slash : parts.slash = ['/'] ∨ parts.slash = []
  ends : rest.head?.any isPathChar = false

/-- The groups of a match. -/
def groups (parts : UrlParts) : List (TicketField × List Char) :=
  [(.number, parts.number), (.repo, parts.repo), (.owner, parts.owner)]

end UrlParts

theorem reads_githubUrl_iff : githubUrl.Reads previous taken rest found ↔
    ∃ parts : UrlParts, taken = parts.text ∧ parts.Valid rest ∧ found = parts.groups := by
  constructor
  · rintro ⟨scheme, _, _, _, rfl, rfl, readScheme, www, _, _, _, rfl, rfl, readWww, domain, _, _, _, rfl, rfl,
      readDomain, owner, _, _, _, rfl, rfl, ⟨_, rfl, readOwner⟩, sign, _, _, _, rfl, rfl, readSign, repo, _, _, _,
      rfl, rfl, ⟨_, rfl, readRepo⟩, issues, _, _, _, rfl, rfl, readIssues, number, _, _, _, rfl, rfl, readNumber,
      slash, _, _, _, rfl, rfl, readSlash, hends, rfl, rfl⟩
    obtain ⟨hscheme, rfl⟩ := reads_literalText.mp readScheme
    obtain ⟨hwww, rfl⟩ := reads_optional.mp readWww
    obtain ⟨hdomain, rfl⟩ := reads_literalText.mp readDomain
    obtain ⟨hownerNe, howner, rfl⟩ := reads_pathName.mp readOwner
    obtain ⟨rfl, rfl⟩ := (reads_sign "/" '/' rfl rfl).mp readSign
    obtain ⟨hrepoNe, hrepo, rfl⟩ := reads_pathName.mp readRepo
    obtain ⟨hissues, rfl⟩ := reads_literalText.mp readIssues
    obtain ⟨hnumberNe, hnumber, rfl⟩ := reads_numberGroup.mp readNumber
    obtain ⟨hslash, rfl⟩ := (reads_optional_sign "/" '/' rfl rfl).mp readSlash
    refine ⟨⟨scheme, www, domain, owner, repo, issues, number, slash⟩, ?_, ?_, ?_⟩
    · simp [UrlParts.text, UrlParts.tail]
    · exact ⟨hscheme, hwww, hdomain, hownerNe, howner, hrepoNe, hrepo, hissues, hnumberNe, hnumber, hslash, hends⟩
    · simp [UrlParts.groups]
  · rintro ⟨parts, rfl, hparts, rfl⟩
    refine ⟨parts.scheme, _, [], parts.groups, rfl, (List.append_nil _).symm,
      reads_literalText.mpr ⟨hparts.scheme, rfl⟩, ?_⟩
    refine ⟨parts.www, _, [], parts.groups, rfl, (List.append_nil _).symm,
      reads_optional.mpr ⟨hparts.www, rfl⟩, ?_⟩
    refine ⟨parts.domain, _, [], parts.groups, rfl, (List.append_nil _).symm,
      reads_literalText.mpr ⟨hparts.domain, rfl⟩, ?_⟩
    refine ⟨parts.owner, _, [(.owner, parts.owner)], [(.number, parts.number), (.repo, parts.repo)], rfl, rfl,
      ⟨[], rfl, reads_pathName.mpr ⟨hparts.owner_ne, hparts.owner, rfl⟩⟩, ?_⟩
    refine ⟨['/'], _, [], [(.number, parts.number), (.repo, parts.repo)], rfl, rfl,
      (reads_sign "/" '/' rfl rfl).mpr ⟨rfl, rfl⟩, ?_⟩
    refine ⟨parts.repo, _, [(.repo, parts.repo)], [(.number, parts.number)], rfl, rfl,
      ⟨[], rfl, reads_pathName.mpr ⟨hparts.repo_ne, hparts.repo, rfl⟩⟩, ?_⟩
    refine ⟨parts.issues, _, [], [(.number, parts.number)], rfl, rfl,
      reads_literalText.mpr ⟨hparts.issues, rfl⟩, ?_⟩
    refine ⟨parts.number, _, [(.number, parts.number)], [], rfl, rfl,
      reads_numberGroup.mpr ⟨hparts.number_ne, hparts.number, rfl⟩, ?_⟩
    exact ⟨parts.slash, [], [], [], (List.append_nil _).symm, rfl,
      (reads_optional_sign "/" '/' rfl rfl).mpr ⟨hparts.slash, rfl⟩, hparts.ends, rfl, rfl⟩

/-! ### The other patterns -/

/-- A match of `_GITHUB_REFERENCE`. -/
theorem exists_of_reads_githubReference (h : githubReference.Reads previous taken rest found) :
    ∃ owner repo number, taken = owner ++ '/' :: (repo ++ '#' :: number) ∧
      (owner.head?.any isPatternAlnum = true ∧ ∀ c ∈ owner, isOwnerChar c = true) ∧
      (∀ c ∈ repo, isNameChar c = true) ∧ number ≠ [] ∧ ∀ c ∈ number, isDecimal c = true := by
  obtain ⟨_, _, _, _, rfl, rfl, ⟨-, rfl, -⟩, owner, _, _, _, rfl, rfl, ⟨_, rfl, readOwner⟩, sign, _, _, _, rfl, rfl,
    readSign, repo, _, _, _, rfl, rfl, ⟨_, rfl, readRepo⟩, hash, _, _, _, rfl, rfl, readHash, number, _, _, _, rfl,
    rfl, readNumber, -, rfl, rfl⟩ := h
  obtain ⟨rfl, -⟩ := (reads_sign "/" '/' rfl rfl).mp readSign
  obtain ⟨rfl, -⟩ := (reads_sign "#" '#' rfl rfl).mp readHash
  obtain ⟨-, hrepo, -⟩ := reads_pathName.mp readRepo
  obtain ⟨hne, hnumber, -⟩ := reads_numberGroup.mp readNumber
  exact ⟨owner, repo, number, by simp, owner_of_reads readOwner, hrepo, hne, hnumber⟩

omit [DigitLibrary] in
/-- A match of `_GITHUB_REPOSITORY_TARGET`. -/
theorem exists_of_reads_githubRepositoryTarget (h : githubRepositoryTarget.Reads previous taken rest found) :
    ∃ owner repo, taken = owner ++ '/' :: repo ∧
      (owner.head?.any isPatternAlnum = true ∧ ∀ c ∈ owner, isOwnerChar c = true) ∧
      ∀ c ∈ repo, isNameChar c = true := by
  obtain ⟨_, _, _, _, rfl, rfl, ⟨-, rfl, -⟩, owner, _, _, _, rfl, rfl, readOwner, sign, repo, _, _, rfl, rfl,
    readSign, readRepo⟩ := h
  obtain ⟨rfl, -⟩ := (reads_sign "/" '/' rfl rfl).mp readSign
  obtain ⟨-, hrepo, -⟩ := reads_pathName.mp readRepo
  exact ⟨owner, repo, rfl, owner_of_reads readOwner, hrepo⟩

omit [DigitLibrary] in
theorem startsAlnum_githubRepositoryTarget : StartsAlnum githubRepositoryTarget := by
  intro _ _ _ _ h
  obtain ⟨owner, repo, rfl, ⟨howner, -⟩, -⟩ := exists_of_reads_githubRepositoryTarget h
  cases owner with
  | nil => cases howner
  | cons c others => exact howner

/-- A match of `_LINEAR_REFERENCE`. -/
theorem exists_of_reads_linearReference (h : linearReference.Reads previous taken rest found) :
    ∃ team number, taken = team ++ '-' :: number ∧ team.head?.any isPatternAlnum = true ∧
      (∀ c ∈ team, isPatternAlnum c = true) ∧ number ≠ [] ∧ ∀ c ∈ number, isDecimal c = true := by
  obtain ⟨_, _, _, _, rfl, rfl, ⟨-, rfl, -⟩, team, _, _, _, rfl, rfl,
    ⟨_, rfl, first, others, _, _, rfl, rfl, ⟨⟨c, rfl, hc⟩, -⟩, hothers, -, -, -⟩, sign, _, _, _, rfl, rfl,
    readSign, number, _, _, _, rfl, rfl, readNumber, -, rfl, rfl⟩ := h
  obtain ⟨rfl, -⟩ := (reads_sign "-" '-' rfl rfl).mp readSign
  obtain ⟨hne, hnumber, -⟩ := reads_numberGroup.mp readNumber
  have hfirst : isPatternAlnum c = true := by
    rw [isPatternLetter, Bool.and_eq_true] at hc
    exact hc.1
  exact ⟨[c] ++ others, number, by simp, hfirst, List.forall_mem_cons.mpr ⟨hfirst, hothers⟩, hne, hnumber⟩

/-! ### References in one piece -/

/-- The pattern of a reference that is written in one piece: it starts with a letter or a digit, has a number and
takes no white space. -/
structure InOnePiece (pattern : TicketPattern) : Prop where
  starts : StartsAlnum pattern
  digit : ∀ {previous : Option Char} {taken rest : List Char} {found : List (TicketField × List Char)},
    pattern.Reads previous taken rest found → ∃ c ∈ taken, isDecimal c = true
  solid : pattern.Within isSolid

theorem isSolid_isDecimal [LawfulDigits] {c : Char} (h : isDecimal c = true) : isSolid c = true := by
  refine isSolid_of_not_isSpace ?_
  by_contra hspace
  rw [isDecimal, LawfulDigits.digit_space c (Bool.not_eq_false _ ▸ hspace)] at h
  cases h

theorem inOnePiece_githubUrl [LawfulDigits] : InOnePiece githubUrl where
  starts h := by
    obtain ⟨parts, rfl, hparts, -⟩ := reads_githubUrl_iff.mp h
    obtain ⟨c, others, hc, -, hscheme⟩ := List.forall₂_cons_left_iff.mp hparts.scheme
    rw [UrlParts.text, hscheme, List.cons_append, List.head?_cons, Option.any_some]
    exact isPatternAlnum_of_sameLetter (by decide) hc
  digit h := by
    obtain ⟨parts, rfl, hparts, -⟩ := reads_githubUrl_iff.mp h
    obtain ⟨c, others, hnumber⟩ := List.exists_cons_of_ne_nil hparts.number_ne
    refine ⟨c, ?_, hparts.number c (hnumber ▸ List.mem_cons_self)⟩
    simp [UrlParts.text, UrlParts.tail, hnumber]
  solid := by
    have hname : ∀ c, isNameChar c = true → isSolid c = true := fun c hc ↦
      isSolid_of_not_isSpace (not_isSpace_of_or (by decide) hc)
    have hpath : ∀ c, isPathChar c = true → isSolid c = true := fun c hc ↦
      isSolid_of_not_isSpace (not_isSpace_of_or (by decide) hc)
    exact ⟨solid_literalText (by decide), solid_literalText (by decide), solid_literalText (by decide), hname,
      solid_literalText (by decide), hname, solid_literalText (by decide), (fun c hc ↦ isSolid_isDecimal hc),
      solid_literalText (by decide), hpath⟩

theorem inOnePiece_githubReference [LawfulDigits] : InOnePiece githubReference where
  starts h := by
    obtain ⟨owner, repo, number, rfl, ⟨howner, -⟩, -⟩ := exists_of_reads_githubReference h
    cases owner with
    | nil => cases howner
    | cons c others => exact howner
  digit h := by
    obtain ⟨owner, repo, number, rfl, -, -, hne, hnumber⟩ := exists_of_reads_githubReference h
    obtain ⟨c, others, rfl⟩ := List.exists_cons_of_ne_nil hne
    exact ⟨c, by simp, hnumber c List.mem_cons_self⟩
  solid := by
    have hname : ∀ c, isNameChar c = true → isSolid c = true := fun c hc ↦
      isSolid_of_not_isSpace (not_isSpace_of_or (by decide) hc)
    have halnum : ∀ c, isPatternAlnum c = true → isSolid c = true := fun c hc ↦
      isSolid_of_not_isSpace (not_isSpace_of_isPatternAlnum hc)
    have howner : ∀ c, isOwnerChar c = true → isSolid c = true := by
      intro c hc
      rw [isOwnerChar, Bool.or_eq_true, decide_eq_true_eq] at hc
      rcases hc with hc | rfl
      · exact halnum c hc
      · decide
    exact ⟨trivial, ⟨halnum, howner⟩, solid_literalText (by decide), hname, solid_literalText (by decide),
      (fun c hc ↦ isSolid_isDecimal hc), hname⟩

theorem inOnePiece_linearReference [LawfulDigits] : InOnePiece linearReference where
  starts h := by
    obtain ⟨team, number, rfl, hteam, -⟩ := exists_of_reads_linearReference h
    cases team with
    | nil => cases hteam
    | cons c others => exact hteam
  digit h := by
    obtain ⟨team, number, rfl, -, -, hne, hnumber⟩ := exists_of_reads_linearReference h
    obtain ⟨c, others, rfl⟩ := List.exists_cons_of_ne_nil hne
    exact ⟨c, by simp, hnumber c List.mem_cons_self⟩
  solid := by
    have halnum : ∀ c, isPatternAlnum c = true → isSolid c = true := fun c hc ↦
      isSolid_of_not_isSpace (not_isSpace_of_isPatternAlnum hc)
    have hletter : ∀ c, isPatternLetter c = true → isSolid c = true := by
      intro c hc
      rw [isPatternLetter, Bool.and_eq_true] at hc
      exact halnum c hc.1
    exact ⟨trivial, ⟨hletter, halnum⟩, solid_literalText (by decide), (fun c hc ↦ isSolid_isDecimal hc), halnum⟩

/-! ### Numbers after white space -/

/-- A digit stands after white space, with a hash between them or none. -/
def SpacedNumber (text : List Char) : Prop :=
  ∃ before space hash digit after, text = before ++ space :: (hash ++ digit :: after) ∧ isSpace space = true ∧
    (hash = ['#'] ∨ hash = []) ∧ isDecimal digit = true

theorem SpacedNumber.append_left {text : List Char} (h : SpacedNumber text) (before : List Char) :
    SpacedNumber (before ++ text) := by
  obtain ⟨start, space, hash, digit, after, rfl, hfacts⟩ := h
  exact ⟨before ++ start, space, hash, digit, after, (List.append_assoc ..).symm, hfacts⟩

theorem SpacedNumber.append_right {text : List Char} (h : SpacedNumber text) (after : List Char) :
    SpacedNumber (text ++ after) := by
  obtain ⟨before, space, hash, digit, more, rfl, hfacts⟩ := h
  refine ⟨before, space, hash, digit, more ++ after, ?_, hfacts⟩
  rw [List.append_assoc, List.cons_append, List.append_assoc, List.cons_append]

/-- The end of the patterns with white space. -/
theorem spacedNumber_of_reads {rest : List Char} {more : TicketPattern}
    (h : (Pattern.seq spaces (.seq (.opt (literalText "#")) (.seq numberGroup more))).Reads previous taken rest
      found) : SpacedNumber taken := by
  obtain ⟨gap, _, _, _, rfl, -, ⟨hgap, hlength, -⟩, hash, _, _, _, rfl, -, readHash, number, tail, _, _, rfl, -,
    readNumber, -⟩ := h
  obtain ⟨hhash, -⟩ := (reads_optional_sign "#" '#' rfl rfl).mp readHash
  obtain ⟨hne, hnumber, -⟩ := reads_numberGroup.mp readNumber
  obtain ⟨start, space, rfl⟩ := List.eq_nil_or_concat' gap |>.resolve_left (List.ne_nil_of_length_pos hlength)
  obtain ⟨digit, digits, rfl⟩ := List.exists_cons_of_ne_nil hne
  exact ⟨start, space, hash, digit, digits ++ tail, by simp, hgap space (by simp), hhash,
    hnumber digit List.mem_cons_self⟩

theorem spacedNumber_of_reads_githubRepositoryIssue
    (h : githubRepositoryIssue.Reads previous taken rest found) : SpacedNumber taken := by
  obtain ⟨_, _, _, _, rfl, -, -, _, _, _, _, rfl, -, -, _, _, _, _, rfl, -, -, _, _, _, _, rfl, -, -, _, _, _, _, rfl,
    -, -, _, _, _, _, rfl, -, -, _, _, _, _, rfl, -, -, hnumber⟩ := h
  exact ((((((spacedNumber_of_reads hnumber).append_left _).append_left _).append_left _).append_left
    _).append_left _).append_left _ |>.append_left _

theorem spacedNumber_of_reads_githubInRepository
    (h : githubInRepository.Reads previous taken rest found) : SpacedNumber taken := by
  obtain ⟨_, _, _, _, rfl, -, -, _, _, _, _, rfl, -, -, hnumber⟩ := h
  exact ((spacedNumber_of_reads hnumber).append_left _).append_left _

end

end VoiceHarness
