import VoiceHarness.Ticket.Matches
import VoiceHarness.Vocabulary.Replacements

/-!
# Targets of aliases

The entities that an alias stands for: a repository, an issue of one, a Linear reference or a Zendesk ticket. A target
is taken from its form, or from the one enabled integration that owns it. `IsTarget` says what every target that is
stored satisfies.
-/

set_option autoImplicit false
set_option relaxedAutoImplicit false

namespace VoiceHarness

open Library

/-- The text library with the categories of Unicode and with `repr`. -/
class VocabularyLibrary extends CaseLibrary, DigitLibrary where
  /-- `unicodedata.category(character) == "Cc"`. -/
  isControl : Char → Bool
  isAlnum : Char → Bool
  /-- `unicodedata.category(character) in {"Mn", "Mc"}`. -/
  isMark : Char → Bool
  repr : Json → String

/-- What Python documents of it: folding a folded text does nothing, nor does folding a small ASCII letter, no white
space is a digit, and the space is no control character. -/
class LawfulVocabulary [VocabularyLibrary] : Prop extends LawfulCase where
  casefold_casefold : ∀ text : String,
    TextLibrary.casefold (TextLibrary.casefold text) = TextLibrary.casefold text
  foldChar_lower : ∀ c : Char, c.isLower = true → CaseLibrary.foldChar c = [c]
  digit_space : ∀ c, isSpace c = true → DigitLibrary.digit c = none
  isControl_space : VocabularyLibrary.isControl ' ' = false

/-- `AliasKind`. -/
inductive AliasKind
  | repository | issue | linear
  deriving DecidableEq, Repr

namespace AliasKind

def value : AliasKind → String
  | repository => "repository"
  | issue => "issue"
  | linear => "linear"

/-- `AliasKind(value)`. -/
def ofValue? : Json → Option AliasKind
  | .str text => [repository, issue, linear].find? fun kind ↦ kind.value = text
  | _ => none

@[simp] theorem ofValue?_value (kind : AliasKind) : ofValue? (.str kind.value) = some kind := by
  cases kind <;> rfl

end AliasKind

/-! ### Forms -/

/-- The groups of the patterns. -/
inductive TargetField
  | owner | repo | number | team | subdomain
  deriving DecidableEq

abbrev TargetPattern := Pattern Char TargetField

/-- The text of a group. -/
def groupText (found : Cursor Char TargetField) (field : TargetField) : List Char :=
  (found.groups.lookup field).getD []

/-- `(?P<owner>[A-Za-z0-9](?:[A-Za-z0-9-]{0,38}))/(?P<repo>[A-Za-z0-9_.-]+)`. -/
def ownedName : TargetPattern :=
  .seq (.group .owner (.seq (.one Char.isAlphanum) (.many (fun c ↦ c.isAlphanum || c = '-') 0 (some 38)))) <|
    .seq (.one (· = '/')) (.group .repo (.many isAsciiName 1 none))

section

variable [DigitLibrary]

/-- `(?P<number>[1-9]\d*)`. -/
def positiveNumber : TargetPattern :=
  .group .number (.seq (.one fun c ↦ c.isDigit && c != '0') (.many isDecimal 0 none))

/-- `_REPOSITORY`. -/
def aliasRepository : TargetPattern := ownedName

/-- `_ISSUE`. -/
def aliasIssue : TargetPattern := .seq ownedName (.seq (.one (· = '#')) positiveNumber)

/-- `_LINEAR`. -/
def aliasLinear : TargetPattern :=
  .seq (.group .team (.seq (.one isPatternLetter) (.many isPatternAlnum 1 none))) <|
    .seq (.one (· = '-')) positiveNumber

/-- `_ZENDESK`. -/
def aliasZendesk : TargetPattern :=
  .seq (.group .subdomain (.seq (.one isPatternAlnum) (.opt
    (.seq (.many isOwnerChar 0 (some 61)) (.one isPatternAlnum))))) <|
    .seq (.one (· = '#')) (.group .number (.many isDecimal 1 none))

attribute [local instance] lawfulBEq_text

/-- The name of a repository, unless it is a directory. -/
def repositoryName (found : Cursor Char TargetField) : Option (List Char) :=
  if groupText found .repo ∈ [['.'], ['.', '.']] then none
  else some (groupText found .owner ++ '/' :: groupText found .repo)

/-- `int(number)` in digits. -/
def plainNumber (found : Cursor Char TargetField) : List Char :=
  Nat.toDigits 10 (readDigits (groupText found .number))

end

section Targets

variable [VocabularyLibrary]

/-- `_canonical_target`. -/
def canonicalTarget (target : String) : Checked (String × AliasKind) :=
  let candidate := stripText target.toList
  match (aliasIssue.fullMatch candidate).bind fun found ↦
      (repositoryName found).map fun name ↦ name ++ '#' :: groupText found .number with
  | some issue => .ok (String.ofList issue, .issue)
  | none =>
    match (aliasRepository.fullMatch (removeGitSuffix candidate)).bind repositoryName with
    | some repository => .ok (String.ofList repository, .repository)
    | none =>
      match aliasLinear.fullMatch candidate with
      | some found => .ok (String.ofList ((groupText found .team).map upperLetter ++ '-' :: plainNumber found), .linear)
      | none => .error ("alias target " ++ VocabularyLibrary.repr (.str target) ++
          " must be an owner/repository, owner/repository#number, or TEAM-79 Linear reference")

/-- `_legacy_alias_source`. -/
def legacyAliasSource (kind : AliasKind) : String := if kind = .linear then "linear" else "github"

/-- `_alias_identity`: the target, the source and the kind. -/
def aliasIdentity (target : String) : Checked (String × String × AliasKind) :=
  match canonicalTarget target with
  | .ok (canonical, kind) => .ok (canonical, legacyAliasSource kind, kind)
  | .error error =>
    match aliasZendesk.fullMatch (stripText target.toList) with
    | none => .error error
    | some found => .ok (TextLibrary.casefold (String.ofList (groupText found .subdomain)) ++
        String.ofList ('#' :: plainNumber found), "zendesk", .issue)

/-! ### Owners -/

/-- The hooks of an integration for one kind of reference. -/
structure ReferenceHooks where
  owns : Option (String → Checked Bool)
  canonicalize : Option (String → Checked String)

/-- An enabled integration, as the vocabulary asks it. -/
structure Integration where
  name : String
  issues : ReferenceHooks
  repositories : ReferenceHooks

/-- `str(canonicalize(target)) if canonicalize is not None else target`. -/
def ReferenceHooks.canonicalText (hooks : ReferenceHooks) (target : String) : Checked String :=
  match hooks.canonicalize with
  | some canonicalize => canonicalize target
  | none => .ok target

/-- One pass of the loop of `_owned_canonical`. -/
def ReferenceHooks.canonical? (hooks : ReferenceHooks) (defaultKind : AliasKind) (target : String) :
    Checked (Option (String × AliasKind)) := do
  let some owns := hooks.owns | return none
  if !(← owns target) then return none
  let canonical := strip (← hooks.canonicalText target)
  if canonical = "" then return none
  if !(← owns canonical) then return none
  match canonicalTarget canonical with
  | .ok owned => return some owned
  | .error _ => return some (canonical, defaultKind)

/-- `_owned_canonical`. -/
def Integration.ownedCanonical (integration : Integration) (target : String) :
    Checked (Option (String × AliasKind)) := do
  match ← integration.issues.canonical? .issue target with
  | some owned => return some owned
  | none => integration.repositories.canonical? .repository target

/-- The owners among the integrations, in their order: the target, the source and the kind. -/
def aliasOwners (expected : Option String) (target : String) :
    List Integration → Checked (List (String × String × AliasKind))
  | [] => .ok []
  | integration :: integrations => do
    let name := TextLibrary.casefold (strip integration.name)
    if name = "" || expected.any (name ≠ ·) then aliasOwners expected target integrations
    else
      let owned ← integration.ownedCanonical target
      let owners ← aliasOwners expected target integrations
      return (owned.map fun (canonical, kind) ↦ (canonical, name, kind)).toList ++ owners

/-- `resolve_owned_alias_target`, among the enabled integrations. -/
def resolveOwnedAliasTarget (target : String) (source : Option String) (integrations : List Integration) :
    Checked (String × String × AliasKind) := do
  let expected := if truthy source then source.map fun name ↦ TextLibrary.casefold (strip name) else none
  match ← aliasOwners expected target integrations with
  | [] => .error "no enabled provider owns that alias target"
  | [owner] => .ok owner
  | _ => .error "multiple enabled providers own that alias target"

end Targets

/-! ### Texts without white space around them -/

theorem dropWhile_of_head {text : List Char} (h : text.head?.any isSpace = false) :
    text.dropWhile isSpace = text := by
  cases text with
  | nil => rfl
  | cons c text => exact List.dropWhile_cons_of_neg (by simpa using h)

theorem stripText_of_ends {text : List Char} (hhead : text.head?.any isSpace = false)
    (hlast : text.getLast?.any isSpace = false) : stripText text = text := by
  have hreverse : text.reverse.head?.any isSpace = false := by
    rwa [List.head?_reverse]
  rw [stripText, dropWhile_of_head hhead, dropWhile_of_head hreverse, List.reverse_reverse]

theorem stripText_of_solid {text : List Char} (h : ∀ c ∈ text, isSpace c = false) :
    stripText text = text := by
  have hany : ∀ found : Option Char, (∀ c ∈ found, c ∈ text) → found.any isSpace = false := by
    intro found hfound
    cases found with
    | none => rfl
    | some c => exact h c (hfound c rfl)
  exact stripText_of_ends (hany _ fun c hc ↦ List.mem_of_mem_head? hc)
    (hany _ fun c hc ↦ List.mem_of_mem_getLast? hc)

/-- The target of an alias that is stored. -/
structure IsTarget (target : String) : Prop where
  nonempty : target ≠ ""
  stripped : strip target = target

theorem isTarget_of_solid {text : List Char} (hne : text ≠ []) (h : ∀ c ∈ text, isSpace c = false) :
    IsTarget (String.ofList text) := by
  constructor
  · intro hempty
    have hnil := congrArg String.toList hempty
    rw [String.toList_ofList] at hnil
    exact hne hnil
  · rw [strip_eq, String.toList_ofList, stripText_of_solid h]

theorem isTarget_strip {text : String} (hne : strip text ≠ "") : IsTarget (strip text) :=
  ⟨hne, strip_strip text⟩

section Forms

variable [VocabularyLibrary] [LawfulVocabulary] {target canonical : String} {kind : AliasKind}

theorem isSolid_of_isDecimal {c : Char} (h : isDecimal c = true) : isSolid c = true := by
  refine isSolid_of_not_isSpace ?_
  by_contra hspace
  rw [Bool.not_eq_false] at hspace
  rw [isDecimal, LawfulVocabulary.digit_space c hspace] at h
  cases h

omit [VocabularyLibrary] [LawfulVocabulary] in
theorem isSolid_of_alnum {c : Char} (h : c.isAlphanum = true) : isSolid c = true := by
  refine isSolid_of_not_isSpace (not_isSpace_of_isPatternAlnum ?_)
  rw [isPatternAlnum, h, Bool.true_or]

omit [VocabularyLibrary] [LawfulVocabulary] in
theorem isSolid_of_or {accepts : Char → Bool} (haccepts : ∀ c, accepts c = true → isSolid c = true)
    {signs : List Char} (hsigns : ∀ sign ∈ signs, isSolid sign = true) {c : Char}
    (h : (accepts c || c ∈ signs) = true) : isSolid c = true := by
  rw [Bool.or_eq_true, decide_eq_true_eq] at h
  exact h.elim (haccepts c) (hsigns c)

omit [VocabularyLibrary] [LawfulVocabulary] in
theorem within_ownedName : ownedName.Within isSolid := by
  have hsign : ∀ c, decide (c = '/') = true → isSolid c = true := by
    intro c hc
    rw [of_decide_eq_true hc]
    decide
  refine ⟨⟨fun c ↦ isSolid_of_alnum, fun c hc ↦ ?_⟩, hsign, fun c ↦ ?_⟩
  · rw [Bool.or_eq_true, decide_eq_true_eq] at hc
    rcases hc with hc | rfl
    · exact isSolid_of_alnum hc
    · decide
  · exact isSolid_of_or (fun _ ↦ isSolid_of_alnum) (by decide)

theorem within_positiveNumber : positiveNumber.Within isSolid := by
  refine ⟨fun c hc ↦ ?_, fun c ↦ isSolid_of_isDecimal⟩
  rw [Bool.and_eq_true] at hc
  exact isSolid_of_alnum (isAlphanum_of_isDigit hc.1)

omit [VocabularyLibrary] [LawfulVocabulary] in
theorem isSolid_of_eq {sign : Char} (hsign : isSolid sign = true) (c : Char) (h : decide (c = sign) = true) :
    isSolid c = true := by
  rwa [of_decide_eq_true h]

theorem within_aliasIssue : aliasIssue.Within isSolid :=
  ⟨within_ownedName, isSolid_of_eq (by decide), within_positiveNumber⟩

omit [VocabularyLibrary] [LawfulVocabulary] in
theorem isSolid_of_isPatternAlnum {c : Char} (h : isPatternAlnum c = true) : isSolid c = true :=
  isSolid_of_not_isSpace (not_isSpace_of_isPatternAlnum h)

theorem within_aliasLinear : aliasLinear.Within isSolid := by
  refine ⟨⟨fun c hc ↦ ?_, fun c ↦ isSolid_of_isPatternAlnum⟩, isSolid_of_eq (by decide), within_positiveNumber⟩
  rw [isPatternLetter, Bool.and_eq_true] at hc
  exact isSolid_of_isPatternAlnum hc.1

theorem within_aliasZendesk : aliasZendesk.Within isSolid := by
  refine ⟨⟨fun c ↦ isSolid_of_isPatternAlnum, fun c hc ↦ ?_, fun c ↦ isSolid_of_isPatternAlnum⟩,
    isSolid_of_eq (by decide), fun c ↦ isSolid_of_isDecimal⟩
  rw [isOwnerChar, Bool.or_eq_true, decide_eq_true_eq] at hc
  rcases hc with hc | rfl
  · exact isSolid_of_isPatternAlnum hc
  · decide

omit [VocabularyLibrary] [LawfulVocabulary] in
/-- The groups of a match of such a pattern hold no white space. -/
theorem solid_groupText {pattern : TargetPattern} (hwithin : pattern.Within isSolid) {text : List Char}
    {found : Cursor Char TargetField} (h : pattern.fullMatch text = some found) (field : TargetField) :
    ∀ c ∈ groupText found field, isSpace c = false := by
  obtain ⟨taken, rest, groups, -, hreads, rfl⟩ :=
    (Pattern.mem_run_iff pattern).mp (List.mem_of_find?_eq_some h)
  intro c hc
  rw [groupText, List.append_nil] at hc
  cases hlookup : groups.lookup field with
  | none =>
    rw [hlookup] at hc
    cases hc
  | some letters =>
    rw [hlookup] at hc
    obtain ⟨before, after, rfl, -⟩ := List.lookup_eq_some_iff.mp hlookup
    have hgroup : (field, letters) ∈ before ++ (field, letters) :: after :=
      List.mem_append_right _ List.mem_cons_self
    have hsolid := hreads.kind_of_mem hwithin c (hreads.subset_of_group hgroup hc)
    rwa [isSolid, Bool.not_eq_true'] at hsolid

omit [LawfulVocabulary] in
theorem solid_plainNumber (found : Cursor Char TargetField) :
    ∀ c ∈ plainNumber found, isSpace c = false := by
  intro c hc
  have hsolid := isSolid_of_alnum (isAlphanum_of_isDigit (isDigit_of_mem_digits hc))
  rwa [isSolid, Bool.not_eq_true'] at hsolid

omit [VocabularyLibrary] [LawfulVocabulary] in
theorem isSpace_toUpper {c : Char} (h : isSpace c = false) : isSpace c.toUpper = false := by
  by_cases hlower : c.val ≥ 'a'.val ∧ c.val ≤ 'z'.val
  · have hlow : 97 ≤ c.val.toNat := UInt32.le_iff_toNat_le.mp hlower.1
    have hhigh : c.val.toNat ≤ 122 := UInt32.le_iff_toNat_le.mp hlower.2
    have hval : c.toUpper.val.toNat = c.val.toNat - 32 := by
      have hoffset : ('A'.val - 'a'.val).toNat = 2 ^ 32 - 32 := by decide
      rw [Char.toUpper, dif_pos hlower, UInt32.toNat_add, hoffset]
      omega
    exact isSpace_of_letter (by omega) (by omega)
  · rwa [Char.toUpper, dif_neg hlower]

omit [VocabularyLibrary] [LawfulVocabulary] in
theorem isSpace_upperLetter {c : Char} (h : isSpace c = false) : isSpace (upperLetter c) = false := by
  rw [upperLetter]
  split_ifs
  · decide
  · decide
  · exact isSpace_toUpper h

/-- Every target that is taken from its form is stored as it is. -/
theorem isTarget_canonicalTarget (h : canonicalTarget target = .ok (canonical, kind)) : IsTarget canonical := by
  unfold canonicalTarget at h
  dsimp only at h
  have hname : ∀ {pattern : TargetPattern} {text name : List Char} {found : Cursor Char TargetField},
      pattern.Within isSolid → pattern.fullMatch text = some found → repositoryName found = some name →
      name ≠ [] ∧ ∀ c ∈ name, isSpace c = false := by
    intro pattern text name found hwithin hfound hname
    rw [repositoryName] at hname
    split_ifs at hname
    obtain rfl := Option.some.inj hname
    refine ⟨by simp, List.forall_mem_append.mpr ⟨solid_groupText hwithin hfound _, ?_⟩⟩
    exact List.forall_mem_cons.mpr ⟨by decide, solid_groupText hwithin hfound _⟩
  split at h
  · next issue hissue =>
    obtain ⟨found, hfound, hmap⟩ := Option.bind_eq_some_iff.mp hissue
    obtain ⟨name, hrepository, rfl⟩ := Option.map_eq_some_iff.mp hmap
    obtain ⟨-, hsolid⟩ := hname within_aliasIssue hfound hrepository
    cases h
    refine isTarget_of_solid (by simp) (List.forall_mem_append.mpr ⟨hsolid, ?_⟩)
    exact List.forall_mem_cons.mpr ⟨by decide, solid_groupText within_aliasIssue hfound _⟩
  · split at h
    · next repository hrepository =>
      obtain ⟨found, hfound, hfields⟩ := Option.bind_eq_some_iff.mp hrepository
      obtain ⟨hne, hsolid⟩ := hname within_ownedName hfound hfields
      cases h
      exact isTarget_of_solid hne hsolid
    · split at h
      · next found hfound =>
        cases h
        refine isTarget_of_solid (by simp) (List.forall_mem_append.mpr ⟨?_, ?_⟩)
        · intro c hc
          obtain ⟨letter, hletter, rfl⟩ := List.mem_map.mp hc
          exact isSpace_upperLetter (solid_groupText within_aliasLinear hfound _ letter hletter)
        · exact List.forall_mem_cons.mpr ⟨by decide, solid_plainNumber found⟩
      · cases h

end Forms

/-! ### Sources -/

section Sources

variable [VocabularyLibrary]

/-- The source of an alias that is stored. -/
structure IsSource (source : String) : Prop where
  nonempty : strip source ≠ ""
  folded : TextLibrary.casefold (strip source) = source

omit [VocabularyLibrary] in
theorem head_of_dropWhile {text : List Char} (h : text.dropWhile isSpace = text) :
    text.head?.any isSpace = false := by
  have hhead := List.head?_dropWhile_not isSpace text
  rw [h] at hhead
  cases text with
  | nil => rfl
  | cons c text => simpa using hhead

omit [VocabularyLibrary] in
/-- Neither end of a stripped text is white space. -/
theorem ends_of_stripText {text : List Char} (h : stripText text = text) :
    text.head?.any isSpace = false ∧ text.getLast?.any isSpace = false := by
  have hfirst : text.dropWhile isSpace = text := by
    rw [← h]
    exact dropWhile_stripText text
  have hlast : text.reverse.dropWhile isSpace = text.reverse := by
    have hreverse := congrArg List.reverse h
    rwa [stripText, hfirst, List.reverse_reverse] at hreverse
  refine ⟨head_of_dropWhile hfirst, ?_⟩
  rw [← List.head?_reverse]
  exact head_of_dropWhile hlast

variable [LawfulVocabulary]

theorem solid_foldLetters {text : List Char} (h : ∀ c ∈ text, isSpace c = false) :
    ∀ c ∈ foldLetters text, isSpace c = false := by
  intro d hd
  obtain ⟨c, hc, hd⟩ := List.mem_flatMap.mp hd
  exact (LawfulCase.foldChar_solid c (h c hc)).2 d hd

/-- Folding a stripped text leaves no white space around it. -/
theorem stripText_foldLetters {text : List Char} (h : stripText text = text) :
    stripText (foldLetters text) = foldLetters text := by
  obtain ⟨hhead, hlast⟩ := ends_of_stripText h
  refine stripText_of_ends ?_ ?_
  · cases text with
    | nil => rfl
    | cons c text =>
      obtain ⟨d, tail, hfold, hd⟩ := foldLetters_cons_solid (by simpa using hhead) text
      rw [hfold]
      simpa using hd
  · rcases List.eq_nil_or_concat' text with rfl | ⟨before, c, rfl⟩
    · rfl
    · have hc : isSpace c = false := by simpa using hlast
      obtain ⟨hne, hsolid⟩ := LawfulCase.foldChar_solid c hc
      obtain ⟨letters, d, hletters⟩ := (List.eq_nil_or_concat' (CaseLibrary.foldChar c)).resolve_left hne
      have hd := hsolid d (hletters ▸ List.mem_append_right _ (List.mem_singleton_self d))
      have hone : foldLetters [c] = letters ++ [d] := by
        rw [foldLetters, List.flatMap_singleton, hletters]
      rw [foldLetters_append, hone, ← List.append_assoc, List.getLast?_concat]
      simpa using hd

theorem casefold_eq (text : String) : TextLibrary.casefold text = String.ofList (foldLetters text.toList) := by
  rw [← toList_casefold_eq, String.ofList_toList]

theorem strip_casefold {text : String} (h : strip text = text) :
    strip (TextLibrary.casefold text) = TextLibrary.casefold text := by
  have hstrip : stripText text.toList = text.toList := by
    have hlist := congrArg String.toList h
    rwa [strip_eq, String.toList_ofList] at hlist
  rw [strip_eq, toList_casefold_eq, stripText_foldLetters hstrip, casefold_eq]

theorem casefold_ne_empty {text : String} (hne : text ≠ "") : TextLibrary.casefold text ≠ "" := by
  intro hempty
  have hfold := congrArg String.toList hempty
  rw [toList_casefold_eq, foldLetters, String.toList_empty, List.flatMap_eq_nil_iff] at hfold
  refine hne (String.toList_eq_nil_iff.mp (List.eq_nil_iff_forall_not_mem.mpr ?_))
  intro c hc
  have hnil := hfold c hc
  cases hspace : isSpace c with
  | true =>
    rw [LawfulCase.foldChar_space c hspace] at hnil
    cases hnil
  | false => exact (LawfulCase.foldChar_solid c hspace).1 hnil

/-- The name of a provider, stripped and folded, is stored as it is. -/
theorem isSource_casefold {text : String} (h : strip text ≠ "") :
    IsSource (TextLibrary.casefold (strip text)) := by
  have hstrip := strip_casefold (strip_strip text)
  constructor
  · rw [hstrip]
    exact casefold_ne_empty h
  · rw [hstrip, LawfulVocabulary.casefold_casefold]

theorem isSource_of_lower {text : String} (hne : text ≠ "") (h : ∀ c ∈ text.toList, c.isLower = true)
    (hstrip : strip text = text) : IsSource text := by
  have hfold : TextLibrary.casefold text = text := by
    have hself : foldLetters text.toList = text.toList := by
      rw [foldLetters, List.flatMap_def, List.map_congr_left fun c hc ↦ LawfulVocabulary.foldChar_lower c (h c hc),
        ← List.flatMap_def]
      exact List.flatMap_singleton' _
    rw [casefold_eq, hself, String.ofList_toList]
  refine ⟨by rwa [hstrip], ?_⟩
  rw [hstrip, hfold]

/-- A target in one of the forms is stored as it is, and so is its source. -/
theorem aliasIdentity_ok {target canonical source : String} {kind : AliasKind}
    (h : aliasIdentity target = .ok (canonical, source, kind)) : IsTarget canonical ∧ IsSource source := by
  unfold aliasIdentity at h
  split at h
  · next hcanonical =>
    cases h
    refine ⟨isTarget_canonicalTarget hcanonical, ?_⟩
    rw [legacyAliasSource]
    split_ifs
    · exact isSource_of_lower (by decide) (by decide) (by decide)
    · exact isSource_of_lower (by decide) (by decide) (by decide)
  · split at h
    · cases h
    · next found hfound =>
      cases h
      refine ⟨?_, isSource_of_lower (by decide) (by decide) (by decide)⟩
      rw [casefold_eq, String.toList_ofList, ← String.ofList_append]
      refine isTarget_of_solid (by simp) (List.forall_mem_append.mpr ⟨?_, ?_⟩)
      · exact solid_foldLetters (solid_groupText within_aliasZendesk hfound _)
      · exact List.forall_mem_cons.mpr ⟨by decide, solid_plainNumber found⟩

omit [LawfulVocabulary] in
/-- What an integration answers is the text that it owns, unless that is in one of the forms. -/
theorem ReferenceHooks.canonical?_cases {hooks : ReferenceHooks} {defaultKind kind : AliasKind}
    {target canonical : String} (h : hooks.canonical? defaultKind target = .ok (some (canonical, kind))) :
    (strip canonical = canonical ∧ canonical ≠ "") ∨
      ∃ text, canonicalTarget text = .ok (canonical, kind) := by
  unfold ReferenceHooks.canonical? at h
  cases howns : hooks.owns with
  | none =>
    rw [howns] at h
    cases h
  | some owns =>
    simp only [howns, checked_bind_eq_ok_iff] at h
    obtain ⟨owned, -, h⟩ := h
    cases owned with
    | false => cases h
    | true =>
      simp only [Bool.not_true, Bool.false_eq_true, if_false, checked_bind_eq_ok_iff] at h
      obtain ⟨answer, -, h⟩ := h
      split_ifs at h with hempty
      · cases h
      · rw [checked_bind_eq_ok_iff] at h
        obtain ⟨still, -, h⟩ := h
        cases still with
        | false => cases h
        | true =>
          simp only [Bool.not_true, Bool.false_eq_true, if_false] at h
          split at h
          · next hform =>
            cases h
            exact .inr ⟨_, hform⟩
          · cases h
            exact .inl ⟨strip_strip answer, hempty⟩

theorem ReferenceHooks.isTarget_canonical? {hooks : ReferenceHooks} {defaultKind kind : AliasKind}
    {target canonical : String} (h : hooks.canonical? defaultKind target = .ok (some (canonical, kind))) :
    IsTarget canonical := by
  rcases ReferenceHooks.canonical?_cases h with ⟨hstrip, hne⟩ | ⟨text, hform⟩
  · exact ⟨hne, hstrip⟩
  · exact isTarget_canonicalTarget hform

theorem Integration.isTarget_ownedCanonical {integration : Integration} {target canonical : String}
    {kind : AliasKind} (h : integration.ownedCanonical target = .ok (some (canonical, kind))) :
    IsTarget canonical := by
  unfold Integration.ownedCanonical at h
  rw [checked_bind_eq_ok_iff] at h
  obtain ⟨answer, hanswer, h⟩ := h
  cases answer with
  | none => exact ReferenceHooks.isTarget_canonical? h
  | some owned =>
    cases h
    exact ReferenceHooks.isTarget_canonical? hanswer

theorem aliasOwners_ok {expected : Option String} {target : String} {integrations : List Integration}
    {owners : List (String × String × AliasKind)} (h : aliasOwners expected target integrations = .ok owners) :
    ∀ owner ∈ owners, IsTarget owner.1 ∧ IsSource owner.2.1 := by
  induction integrations generalizing owners with
  | nil =>
    cases h
    exact fun owner howner ↦ (List.not_mem_nil howner).elim
  | cons integration integrations ih =>
    rw [aliasOwners] at h
    dsimp only at h
    split_ifs at h with hskip
    · exact ih h
    · simp only [checked_bind_eq_ok_iff] at h
      obtain ⟨owned, howned, later, hlater, h⟩ := h
      cases h
      refine List.forall_mem_append.mpr ⟨?_, ih hlater⟩
      have hname : strip integration.name ≠ "" := by
        intro hempty
        rw [hempty] at hskip
        have hfold := LawfulCase.toList_casefold ""
        rw [String.toList_empty, List.flatMap_nil, String.toList_eq_nil_iff] at hfold
        simp [hfold] at hskip
      cases owned with
      | none => exact fun owner howner ↦ (List.not_mem_nil howner).elim
      | some owned =>
        rw [Option.map_some, Option.toList_some, List.forall_mem_singleton]
        exact ⟨integration.isTarget_ownedCanonical howned, isSource_casefold hname⟩

/-- A target that one provider owns is stored as it is, and so is the name of the provider. -/
theorem resolveOwnedAliasTarget_ok {target canonical name : String} {source : Option String}
    {integrations : List Integration} {kind : AliasKind}
    (h : resolveOwnedAliasTarget target source integrations = .ok (canonical, name, kind)) :
    IsTarget canonical ∧ IsSource name := by
  unfold resolveOwnedAliasTarget at h
  rw [checked_bind_eq_ok_iff] at h
  obtain ⟨owners, howners, h⟩ := h
  match owners with
  | [] => cases h
  | [owner] =>
    cases h
    exact aliasOwners_ok howners _ (List.mem_singleton_self _)
  | _ :: _ :: _ => cases h

end Sources

end VoiceHarness
