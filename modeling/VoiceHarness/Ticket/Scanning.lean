import VoiceHarness.Ticket.Matches

/-!
# Where the ticket patterns match

A reference in one piece has digits, starts with a letter or a digit and avoids some marks, so that it has no match
across such a mark or in a text without digits. The parts of a URL are determined by the text.
-/

set_option autoImplicit false
set_option relaxedAutoImplicit false

namespace VoiceHarness

open Library

/-! ### Texts and marks -/

/-- What avoids a character ends before it. -/
theorem exists_of_append_eq {taken rest before after : List Char} {mark : Char}
    (h : taken ++ rest = before ++ mark :: after) (hmark : mark ∉ taken) :
    ∃ between, before = taken ++ between ∧ rest = between ++ mark :: after := by
  rcases List.append_eq_append_iff.mp h with ⟨between, hbefore, hrest⟩ | ⟨beyond, htaken, hafter⟩
  · exact ⟨between, hbefore, hrest⟩
  · cases beyond with
    | nil => exact ⟨[], by simpa using htaken.symm, by simpa using hafter.symm⟩
    | cons c beyond =>
      obtain ⟨rfl, -⟩ := List.cons.inj hafter
      exact absurd (htaken ▸ List.mem_append_right _ List.mem_cons_self) hmark

theorem not_isPathChar_of_isSpace {c : Char} (h : isSpace c = true) : isPathChar c = false := by
  by_contra hpath
  rw [Bool.not_eq_false] at hpath
  rw [not_isSpace_of_or (by decide) hpath] at h
  cases h

theorem not_isPatternAlnum_of_not_isPathChar {c : Char} (h : isPathChar c = false) : isPatternAlnum c = false := by
  rw [isPathChar, Bool.or_eq_false_iff] at h
  exact h.1

theorem notMem_of_forall {accepts : Char → Bool} {text : List Char} {mark : Char}
    (h : ∀ c ∈ text, accepts c = true) (hmark : accepts mark = false) : mark ∉ text := by
  intro hmem
  rw [h mark hmem] at hmark
  cases hmark

theorem isNameChar_of_isAsciiName {c : Char} (h : isAsciiName c = true) : isNameChar c = true := by
  rw [isAsciiName, Bool.or_eq_true] at h
  rw [isNameChar, isPatternAlnum]
  rcases h with h | h
  · rw [h]
    rfl
  · rw [h, Bool.or_true]

/-- The letters of a host are its own. -/
theorem notMem_of_map_toLower {word : List Char} {letters : String} {mark : Char}
    (h : word.map Char.toLower = letters.toList) (hmark : mark.toLower ∉ letters.toList) : mark ∉ word :=
  fun hmem ↦ hmark (h ▸ List.mem_map_of_mem hmem)

/-- A word that differs from its letters in case only is matched by them. -/
theorem forall₂_sameLetter {word letters : List Char} (h : word.map Char.toLower = letters) :
    List.Forall₂ (fun letter c ↦ sameLetter letter c = true) letters word := by
  rw [← h, List.forall₂_map_left_iff]
  exact List.forall₂_same.mpr fun c _ ↦ by simp [sameLetter]

/-- A mark that no letter matches is in no word of the letters. -/
theorem notMem_of_forall₂ {word letters : List Char} {mark : Char}
    (h : List.Forall₂ (fun letter c ↦ sameLetter letter c = true) letters word)
    (hmark : ∀ letter ∈ letters, sameLetter letter mark = false) : mark ∉ word := by
  induction h with
  | nil => exact List.not_mem_nil
  | cons hhead _ ih =>
    obtain ⟨hletter, hletters⟩ := List.forall_mem_cons.mp hmark
    rw [List.mem_cons, not_or]
    refine ⟨?_, ih hletters⟩
    rintro rfl
    rw [hletter] at hhead
    cases hhead

theorem any_isPatternAlnum_of_path {text : List Char} (h : text.head?.any isPathChar = false) :
    text.head?.any isPatternAlnum = false := by
  cases text with
  | nil => rfl
  | cons c text => exact not_isPatternAlnum_of_not_isPathChar h

/-- What is read up to a character of another kind is determined. -/
theorem append_inj_of_kind {kind : Char → Bool} {first second left right : List Char}
    (hfirst : ∀ c ∈ first, kind c = true) (hsecond : ∀ c ∈ second, kind c = true)
    (hleft : left.head?.any kind = false) (hright : right.head?.any kind = false)
    (h : first ++ left = second ++ right) : first = second ∧ left = right := by
  have htake := congrArg (List.takeWhile kind) h
  rw [Pattern.takeWhile_append_of_kind (fun _ hc ↦ hc) hleft, Pattern.takeWhile_append_of_kind (fun _ hc ↦ hc) hright,
    List.takeWhile_eq_self_iff.mpr hfirst, List.takeWhile_eq_self_iff.mpr hsecond] at htake
  subst htake
  exact ⟨rfl, List.append_cancel_left h⟩

/-- Two texts of the same number of letters are read in the same way. -/
theorem append_inj_of_forall₂ {letters first second left right : List Char}
    (hfirst : List.Forall₂ (fun letter c ↦ sameLetter letter c = true) letters first)
    (hsecond : List.Forall₂ (fun letter c ↦ sameLetter letter c = true) letters second)
    (h : first ++ left = second ++ right) : first = second ∧ left = right :=
  List.append_inj h (hfirst.length_eq.symm.trans hsecond.length_eq)

section

variable [DigitLibrary]

def NoDigits (text : List Char) : Prop := ∀ c ∈ text, isDecimal c = false

/-! ### Where matches start -/

variable {pattern : TicketPattern} {previous : Option Char} {text more : List Char} {skip : ℕ}

/-- A pattern with a number has no match in a text without digits. -/
theorem findAll_eq_nil (hpattern : InOnePiece pattern) (htext : NoDigits text) (skip : ℕ)
    (previous : Option Char) : pattern.findAll skip previous text = [] := by
  refine List.eq_nil_iff_forall_not_mem.mpr fun found hfound ↦ ?_
  obtain ⟨before, taken, rfl, -, hahead, hreads⟩ := Pattern.matchIn_of_mem_findAll hfound
  obtain ⟨c, hc, hdigit⟩ := hpattern.digit hreads
  rw [htext c (List.mem_append_right _ (hahead ▸ List.mem_append_left _ hc))] at hdigit
  cases hdigit

omit [DigitLibrary] in
/-- A match does not start with another character than a letter or a digit. -/
theorem findAll_cons (hstarts : StartsAlnum pattern) {c : Char} (hc : isPatternAlnum c = false)
    (previous : Option Char) : pattern.findAll 0 previous (c :: text) = pattern.findAll 0 (some c) text := by
  refine Pattern.findAll_cons_of_none (List.eq_nil_iff_forall_not_mem.mpr fun later hlater ↦ ?_)
  obtain ⟨taken, rest, found, hahead, hreads, -⟩ := (Pattern.mem_run_iff pattern).mp hlater
  have hfirst := hstarts hreads
  cases taken with
  | nil => cases hfirst
  | cons first taken =>
    obtain ⟨rfl, -⟩ := List.cons.inj hahead
    rw [List.head?_cons, Option.any_some, hc] at hfirst
    cases hfirst

omit [DigitLibrary] in
/-- Where a text does not start with a letter or a digit, the character before it does not matter. -/
theorem findAll_previous (hstarts : StartsAlnum pattern) (htext : text.head?.any isPatternAlnum = false)
    (previous other : Option Char) : pattern.findAll 0 previous text = pattern.findAll 0 other text := by
  cases text with
  | nil => rfl
  | cons c text => rw [findAll_cons hstarts htext, findAll_cons hstarts htext]

/-- No match starts before a mark that no match takes, where there are no digits. -/
theorem findAll_append_mark (hpattern : InOnePiece pattern) {before after : List Char} {mark : Char}
    (hmark : ∀ {previous : Option Char} {taken rest : List Char} {found : List (TicketField × List Char)},
      pattern.Reads previous taken rest found → mark ∉ taken)
    (hbefore : NoDigits before) (previous : Option Char) :
    pattern.findAll 0 previous (before ++ mark :: after) = pattern.findAll 0 (some mark) after := by
  have hlength : ∀ found, pattern.MatchIn previous ((before ++ [mark]) ++ after) found →
      found.ahead.length ≤ after.length := by
    intro found hfound
    obtain ⟨start, taken, htext, -, hahead, hreads⟩ := hfound
    by_contra hlong
    have hinside : ∃ inside, NoDigits inside ∧ found.ahead = inside ++ mark :: after := by
      rw [List.append_assoc, List.singleton_append] at htext
      rcases List.append_eq_append_iff.mp htext with ⟨beyond, -, hafter⟩ | ⟨inside, rfl, hrest⟩
      · cases beyond with
        | nil => exact ⟨[], fun c hc ↦ (List.not_mem_nil hc).elim, hafter.symm⟩
        | cons c beyond =>
          rw [List.cons_append] at hafter
          refine absurd ?_ hlong
          rw [(List.cons.inj hafter).2, List.length_append]
          exact Nat.le_add_left _ _
      · exact ⟨inside, fun c hc ↦ hbefore c (List.mem_append_right _ hc), hrest⟩
    obtain ⟨inside, hdigits, hinside⟩ := hinside
    obtain ⟨between, rfl, -⟩ := exists_of_append_eq (hahead ▸ hinside) (hmark hreads)
    obtain ⟨c, hc, hdigit⟩ := hpattern.digit hreads
    rw [hdigits c (List.mem_append_left _ hc)] at hdigit
    cases hdigit
  have h := Pattern.findAll_append_of_none previous hlength
  rwa [List.getLast?_append, List.getLast?_singleton, Option.some_or, List.append_assoc, List.singleton_append,
    Option.some_or] at h

end

section

variable [DigitLibrary]

/-! ### Marks -/

theorem not_isDecimal_sign [LawfulDigits] {sign : Char} (h : sign ∈ [':', '/', '#', '-', '?']) :
    isDecimal sign = false := by
  have hsign : ∀ sign ∈ [':', '/', '#', '-', '?'], sign.val < 128 ∧ sign.isDigit = false := by decide
  obtain ⟨hascii, hdigit⟩ := hsign sign h
  rw [isDecimal, LawfulDigits.digit_ascii sign hascii, hdigit]
  rfl

theorem colon_notMem_githubReference [LawfulDigits] {previous : Option Char} {taken rest : List Char}
    {found : List (TicketField × List Char)} (h : githubReference.Reads previous taken rest found) :
    ':' ∉ taken := by
  obtain ⟨owner, repo, number, rfl, ⟨-, howner⟩, hrepo, -, hnumber⟩ := exists_of_reads_githubReference h
  simp only [List.mem_append, List.mem_cons, not_or]
  exact ⟨notMem_of_forall howner (by decide), by decide, notMem_of_forall hrepo (by decide), by decide,
    notMem_of_forall hnumber (not_isDecimal_sign (by decide))⟩

theorem colon_notMem_linearReference [LawfulDigits] {previous : Option Char} {taken rest : List Char}
    {found : List (TicketField × List Char)} (h : linearReference.Reads previous taken rest found) :
    ':' ∉ taken := by
  obtain ⟨team, number, rfl, -, hteam, -, hnumber⟩ := exists_of_reads_linearReference h
  simp only [List.mem_append, List.mem_cons, not_or]
  exact ⟨notMem_of_forall hteam (by decide), by decide, notMem_of_forall hnumber (not_isDecimal_sign (by decide))⟩

/-- What a key is made of. -/
def isKeyChar (c : Char) : Bool := isPatternAlnum c || c = '-' || isDecimal c

theorem within_linearReference : linearReference.Within isKeyChar := by
  have halnum : ∀ c, isPatternAlnum c = true → isKeyChar c = true := fun c hc ↦ by simp [isKeyChar, hc]
  have hletter : ∀ c, isPatternLetter c = true → isKeyChar c = true := by
    intro c hc
    rw [isPatternLetter, Bool.and_eq_true] at hc
    exact halnum c hc.1
  refine ⟨trivial, ⟨hletter, halnum⟩, within_literalText fun letter hletter c hc ↦ ?_, fun c hc ↦ ?_, halnum⟩
  · have hdash : letter = '-' := List.mem_singleton.mp hletter
    rw [hdash] at hc
    rw [(sameLetter_sign rfl).mp hc]
    simp [isKeyChar]
  · simp [isKeyChar, show isDecimal c = true from hc]

/-- What the name of a repository is made of. -/
def isRepositoryChar (c : Char) : Bool := isNameChar c || c = '/'

omit [DigitLibrary] in
theorem within_githubRepositoryTarget : githubRepositoryTarget.Within isRepositoryChar := by
  have hname : ∀ c, isNameChar c = true → isRepositoryChar c = true := fun c hc ↦ by simp [isRepositoryChar, hc]
  have halnum : ∀ c, isPatternAlnum c = true → isRepositoryChar c = true := fun c hc ↦
    hname c (by simp [isNameChar, hc])
  have howner : ∀ c, isOwnerChar c = true → isRepositoryChar c = true := by
    intro c hc
    rw [isOwnerChar, Bool.or_eq_true, decide_eq_true_eq] at hc
    rcases hc with hc | rfl
    · exact halnum c hc
    · decide
  refine ⟨trivial, ⟨halnum, howner⟩, within_literalText fun letter hletter c hc ↦ ?_, hname⟩
  have hslash : letter = '/' := List.mem_singleton.mp hletter
  rw [hslash] at hc
  rw [(sameLetter_sign rfl).mp hc]
  decide

omit [DigitLibrary] in
theorem solid_githubRepositoryTarget : githubRepositoryTarget.Within isSolid := by
  have hname : ∀ c, isNameChar c = true → isSolid c = true := fun c hc ↦
    isSolid_of_not_isSpace (not_isSpace_of_or (by decide) hc)
  have halnum : ∀ c, isPatternAlnum c = true → isSolid c = true := fun c hc ↦
    isSolid_of_not_isSpace (not_isSpace_of_isPatternAlnum hc)
  have howner : ∀ c, isOwnerChar c = true → isSolid c = true := by
    intro c hc
    rw [isOwnerChar, Bool.or_eq_true, decide_eq_true_eq] at hc
    rcases hc with hc | rfl
    · exact halnum c hc
    · decide
  exact ⟨trivial, ⟨halnum, howner⟩, solid_literalText (by decide), hname⟩

/-! ### The parts of a URL -/

/-- A URL takes a colon at the end of its scheme only. -/
theorem exists_of_reads_githubUrl [LawfulDigits] {previous : Option Char} {taken rest : List Char}
    {found : List (TicketField × List Char)} (h : githubUrl.Reads previous taken rest found) :
    ∃ scheme more, taken = scheme ++ more ∧ scheme.length = 6 ∧ ':' ∉ more ∧ ∃ c ∈ more, isDecimal c = true := by
  obtain ⟨parts, rfl, hparts, -⟩ := reads_githubUrl_iff.mp h
  have hslashes : ':' ∉ parts.scheme.drop 6 := by
    have hdrop := List.forall₂_drop 6 hparts.scheme
    exact notMem_of_forall₂ hdrop (by decide)
  have hlength : (parts.scheme.take 6).length = 6 := by
    rw [List.length_take, ← hparts.scheme.length_eq]
    decide
  have htail : ':' ∉ parts.tail := by
    have hwww : ':' ∉ parts.www := hparts.www.elim (notMem_of_forall₂ · (by decide)) fun h ↦ h ▸ List.not_mem_nil
    have hslash : ':' ∉ parts.slash := hparts.slash.elim (fun h ↦ h ▸ by decide) fun h ↦ h ▸ List.not_mem_nil
    simp only [UrlParts.tail, List.mem_append, List.mem_cons, not_or]
    exact ⟨hwww, notMem_of_forall₂ hparts.domain (by decide), notMem_of_forall hparts.owner (by decide), by decide,
      notMem_of_forall hparts.repo (by decide), notMem_of_forall₂ hparts.issues (by decide),
      notMem_of_forall hparts.number (not_isDecimal_sign (by decide)), hslash⟩
  refine ⟨parts.scheme.take 6, parts.scheme.drop 6 ++ parts.tail, ?_, hlength, ?_, ?_⟩
  · rw [← List.append_assoc, List.take_append_drop]
    rfl
  · rw [List.mem_append, not_or]
    exact ⟨hslashes, htail⟩
  · obtain ⟨c, digits, hdigits⟩ := List.exists_cons_of_ne_nil hparts.number_ne
    refine ⟨c, ?_, hparts.number c (hdigits ▸ List.mem_cons_self)⟩
    simp [UrlParts.tail, hdigits]

namespace UrlParts.Valid

variable {first second : UrlParts} {left right : List Char}

omit [DigitLibrary] in
theorem not_www_domain {www domain : List Char}
    (hwww : List.Forall₂ (fun letter c ↦ sameLetter letter c = true) "www.".toList www)
    (hdomain : List.Forall₂ (fun letter c ↦ sameLetter letter c = true) "github.com/".toList domain) :
    www ++ left ≠ domain ++ right := by
  obtain ⟨c, others, hc, -, rfl⟩ := List.forall₂_cons_left_iff.mp hwww
  obtain ⟨d, more, hd, -, rfl⟩ := List.forall₂_cons_left_iff.mp hdomain
  intro h
  obtain ⟨rfl, -⟩ := List.cons.inj h
  have hc : sameLetter 'w' c = true := hc
  have hd : sameLetter 'g' c = true := hd
  have hw : c.toLower = 'w' := by simpa [sameLetter] using hc
  have hg : c.toLower = 'g' := by simpa [sameLetter] using hd
  rw [hw] at hg
  exact absurd hg (by decide)

theorem issues_head {parts : UrlParts} {rest : List Char} (h : parts.Valid rest) (more : List Char) :
    (parts.issues ++ more).head?.any isNameChar = false := by
  obtain ⟨c, others, hc, -, hissues⟩ := List.forall₂_cons_left_iff.mp h.issues
  rw [hissues, (sameLetter_sign rfl).mp hc]
  rfl

/-- The number of a URL is read in one way where the other one is of digits that belong to paths. -/
theorem number_eq [LawfulDigits] (hfirst : first.Valid left) (hsecond : second.Valid right)
    (hpath : ∀ c ∈ second.number, isPathChar c = true) (hright : right.head?.any isDecimal = false)
    (h : first.number ++ (first.slash ++ left) = second.number ++ (second.slash ++ right)) :
    first.number = second.number := by
  have hslash : isDecimal '/' = false := not_isDecimal_sign (by decide)
  rcases List.append_eq_append_iff.mp h with ⟨beyond, hnumber, hrest⟩ | ⟨beyond, hnumber, hrest⟩
  · cases beyond with
    | nil => rw [hnumber, List.append_nil]
    | cons c beyond =>
      exfalso
      have hc : c ∈ second.number := hnumber ▸ List.mem_append_right _ List.mem_cons_self
      rcases hfirst.slash with hfound | hfound
      · rw [hfound] at hrest
        obtain ⟨rfl, -⟩ := List.cons.inj hrest
        rw [hsecond.number _ hc] at hslash
        cases hslash
      · have hends := hfirst.ends
        rw [hfound, List.nil_append] at hrest
        rw [hrest, List.cons_append, List.head?_cons, Option.any_some, hpath c hc] at hends
        cases hends
  · cases beyond with
    | nil => rw [hnumber, List.append_nil]
    | cons c beyond =>
      exfalso
      have hc : isDecimal c = true := hfirst.number c (hnumber ▸ List.mem_append_right _ List.mem_cons_self)
      rcases hsecond.slash with hfound | hfound
      · rw [hfound] at hrest
        obtain ⟨rfl, -⟩ := List.cons.inj hrest
        rw [hc] at hslash
        cases hslash
      · rw [hfound, List.nil_append] at hrest
        rw [hrest, List.cons_append, List.head?_cons, Option.any_some, hc] at hright
        cases hright

theorem slash_eq (hfirst : first.Valid left) (hsecond : second.Valid right)
    (h : first.slash ++ left = second.slash ++ right) : first.slash = second.slash ∧ left = right := by
  have hends : ∀ rest : List Char, ('/' :: rest).head?.any isPathChar ≠ false := fun rest ↦ by
    rw [List.head?_cons, Option.any_some]
    decide
  rcases hfirst.slash with hleft | hleft
  · rcases hsecond.slash with hright | hright
    · rw [hleft, hright] at h
      exact ⟨hleft.trans hright.symm, (List.cons.inj h).2⟩
    · have hrest := hsecond.ends
      rw [hleft, hright, List.nil_append] at h
      rw [← h] at hrest
      exact absurd hrest (hends left)
  · rcases hsecond.slash with hright | hright
    · have hrest := hfirst.ends
      rw [hleft, hright, List.nil_append] at h
      rw [h] at hrest
      exact absurd hrest (hends right)
    · rw [hleft, hright] at h
      exact ⟨hleft.trans hright.symm, h⟩

/-- A URL is read in one way. -/
theorem unique [LawfulDigits] (hfirst : first.Valid left) (hsecond : second.Valid right)
    (hpath : ∀ c ∈ second.number, isPathChar c = true) (hright : right.head?.any isDecimal = false)
    (h : first.text ++ left = second.text ++ right) : first = second ∧ left = right := by
  simp only [UrlParts.text, UrlParts.tail, List.append_assoc, List.cons_append] at h
  obtain ⟨hscheme, h⟩ := append_inj_of_forall₂ hfirst.scheme hsecond.scheme h
  obtain ⟨hwww, h⟩ : first.www = second.www ∧ _ = _ := by
    rcases hfirst.www with hleft | hleft
    · rcases hsecond.www with hother | hother
      · exact append_inj_of_forall₂ hleft hother h
      · rw [hother, List.nil_append] at h
        exact absurd h (not_www_domain hleft hsecond.domain)
    · rcases hsecond.www with hother | hother
      · rw [hleft, List.nil_append] at h
        exact absurd h.symm (not_www_domain hother hfirst.domain)
      · rw [hleft, hother] at h
        exact ⟨hleft.trans hother.symm, h⟩
  obtain ⟨hdomain, h⟩ := append_inj_of_forall₂ hfirst.domain hsecond.domain h
  obtain ⟨howner, h⟩ := append_inj_of_kind hfirst.owner hsecond.owner (by rfl) (by rfl) h
  obtain ⟨hrepo, h⟩ := append_inj_of_kind hfirst.repo hsecond.repo (hfirst.issues_head _) (hsecond.issues_head _)
    (List.cons.inj h).2
  obtain ⟨hissues, h⟩ := append_inj_of_forall₂ hfirst.issues hsecond.issues h
  have hnumber := number_eq hfirst hsecond hpath hright h
  rw [hnumber] at h
  obtain ⟨hslash, hrest⟩ := slash_eq hfirst hsecond (List.append_cancel_left h)
  exact ⟨UrlParts.ext hscheme hwww hdomain howner hrepo hissues hnumber hslash, hrest⟩

end UrlParts.Valid

end

end VoiceHarness
