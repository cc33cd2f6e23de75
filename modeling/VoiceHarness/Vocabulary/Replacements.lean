import VoiceHarness.Vocabulary.Phrase

/-!
# Replacements in a transcript

A replacement of the vocabulary finds its phrase with any white space between the words; the rules that correct
transcripts are built from the replacements, and from configured ones, by `effective_replacements`, and find the
phrase as it is written. `pathsAgree_iff` says for which rules the two come to the same.
-/

set_option autoImplicit false
set_option relaxedAutoImplicit false

namespace VoiceHarness

open Library

/-- `Replacement`. -/
structure Replacement where
  spoken : String
  written : String
  deriving DecidableEq

/-- `TranscriptReplacement`. -/
structure TranscriptReplacement where
  spoken : String
  written : String
  deriving DecidableEq

section Model

variable [CaseLibrary]

/-- `Replacement.apply`. -/
def Replacement.apply (rule : Replacement) (text : List Char) : List Char :=
  replaceAll (phrasePattern rule.spoken.toList) rule.written.toList text

/-- `TranscriptReplacement.apply`. -/
def TranscriptReplacement.apply (rule : TranscriptReplacement) (text : List Char) : List Char :=
  replaceAll (wholePhrase (escape rule.spoken.toList)) rule.written.toList text

/-- `effective_replacements`. -/
def effectiveReplacements (user : List Replacement) (static : List (String × String)) :
    List TranscriptReplacement :=
  let overridden := user.map fun rule ↦ TextLibrary.casefold rule.spoken
  user.map (fun rule ↦ ⟨rule.spoken, rule.written⟩) ++
    (static.filter fun entry ↦ TextLibrary.casefold entry.1 ∉ overridden).map fun entry ↦ ⟨entry.1, entry.2⟩

/-- `normalize_transcript`. -/
def normalizeTranscript (text : List Char) (rules : List TranscriptReplacement) : List Char :=
  rules.foldl (fun text rule ↦ rule.apply text) text

end Model

/-- A replacement as the vocabulary holds it: its phrase is not empty and has single spaces. -/
structure Replacement.Stored (rule : Replacement) : Prop where
  spoken_ne : rule.spoken ≠ ""
  collapsed : collapse rule.spoken = rule.spoken

section Agreement

variable [CaseLibrary]

/-- The rule built from each replacement rewrites every transcript as the replacement does, and no configured rule
for the phrase of a replacement stays in effect. -/
def PathsAgree (user : List Replacement) (static : List (String × String)) : Prop :=
  (∀ (i : ℕ) (rule : Replacement), user[i]? = some rule →
      ∃ built : TranscriptReplacement, (effectiveReplacements user static)[i]? = some built ∧
        ∀ text, built.apply text = rule.apply text) ∧
    ∀ rule ∈ (effectiveReplacements user static).drop user.length, ∀ own ∈ user,
      normalizePhrase rule.spoken ≠ normalizePhrase own.spoken

/-- Each replacement is for a single word, and a configured rule for the phrase of one is written with single
spaces. -/
def SinglySpaced (user : List Replacement) (static : List (String × String)) : Prop :=
  (∀ rule ∈ user, ∀ c ∈ rule.spoken.toList, isSpace c = false) ∧
    ∀ entry ∈ static, ∀ own ∈ user, normalizePhrase entry.1 = normalizePhrase own.spoken →
      collapse entry.1 = entry.1

end Agreement

/-! ### Normalised phrases -/

section Folding

variable [CaseLibrary] [LawfulCase]

/-- `casefold` of characters. -/
def foldLetters (text : List Char) : List Char := text.flatMap CaseLibrary.foldChar

omit [LawfulCase] in
@[simp] theorem foldLetters_append (first second : List Char) :
    foldLetters (first ++ second) = foldLetters first ++ foldLetters second :=
  List.flatMap_append

/-- Folding keeps words words. -/
theorem foldLetters_solid {word : List Char} (hne : word ≠ []) (h : ∀ c ∈ word, isSpace c = false) :
    foldLetters word ≠ [] ∧ ∀ c ∈ foldLetters word, isSpace c = false := by
  constructor
  · obtain ⟨c, word, rfl⟩ := List.exists_cons_of_ne_nil hne
    have hc := (LawfulCase.foldChar_solid c (h c List.mem_cons_self)).1
    rw [foldLetters, List.flatMap_cons, Ne, List.append_eq_nil_iff]
    exact fun hnil ↦ hc hnil.1
  · intro d hd
    obtain ⟨c, hc, hd⟩ := List.mem_flatMap.mp hd
    exact (LawfulCase.foldChar_solid c (h c hc)).2 d hd

theorem foldLetters_cons_space {c : Char} (h : isSpace c = true) (text : List Char) :
    foldLetters (c :: text) = c :: foldLetters text := by
  rw [foldLetters, List.flatMap_cons, LawfulCase.foldChar_space c h]
  rfl

/-- What is no white space is not folded to any. -/
theorem foldLetters_cons_solid {c : Char} (h : isSpace c = false) (text : List Char) :
    ∃ d tail, foldLetters (c :: text) = d :: tail ∧ isSpace d = false := by
  obtain ⟨hne, hsolid⟩ := LawfulCase.foldChar_solid c h
  obtain ⟨d, tail, hd⟩ := List.exists_cons_of_ne_nil hne
  refine ⟨d, tail ++ foldLetters text, ?_, hsolid d (hd ▸ List.mem_cons_self)⟩
  rw [foldLetters, List.flatMap_cons, hd]
  rfl

omit [CaseLibrary] [LawfulCase] in
theorem solidText_cons_solid {c : Char} (h : isSpace c = false) (text : List Char) :
    solidText (c :: text) = c :: solidText text := by
  simp [solidText, h]

omit [CaseLibrary] [LawfulCase] in
theorem solidText_cons_space {c : Char} (h : isSpace c = true) (text : List Char) :
    solidText (c :: text) = solidText text := by
  simp [solidText, h]

/-- Two texts with the same characters but for white space that are folded to the same text are the same. -/
theorem eq_of_foldLetters_eq {first : List Char} :
    ∀ {second : List Char}, solidText first = solidText second → foldLetters first = foldLetters second →
      first = second := by
  induction first with
  | nil =>
    intro second hsolid hfold
    cases second with
    | nil => rfl
    | cons d second =>
      have hspace := solidText_eq_nil_iff.mp hsolid.symm d List.mem_cons_self
      rw [foldLetters_cons_space hspace] at hfold
      cases hfold
  | cons c first ih =>
    intro second hsolid hfold
    cases second with
    | nil =>
      have hspace := solidText_eq_nil_iff.mp hsolid c List.mem_cons_self
      rw [foldLetters_cons_space hspace] at hfold
      cases hfold
    | cons d second =>
      cases hc : isSpace c with
      | true =>
        rw [foldLetters_cons_space hc] at hfold
        cases hd : isSpace d with
        | true =>
          rw [foldLetters_cons_space hd] at hfold
          rw [solidText_cons_space hc, solidText_cons_space hd] at hsolid
          obtain ⟨rfl, htail⟩ := List.cons_eq_cons.mp hfold
          rw [ih hsolid htail]
        | false =>
          obtain ⟨x, tail, htail, hx⟩ := foldLetters_cons_solid hd second
          rw [htail] at hfold
          obtain ⟨rfl, -⟩ := List.cons_eq_cons.mp hfold
          rw [hc] at hx
          cases hx
      | false =>
        cases hd : isSpace d with
        | true =>
          obtain ⟨x, tail, htail, hx⟩ := foldLetters_cons_solid hc first
          rw [htail, foldLetters_cons_space hd] at hfold
          obtain ⟨rfl, -⟩ := List.cons_eq_cons.mp hfold
          rw [hd] at hx
          cases hx
        | false =>
          rw [solidText_cons_solid hc, solidText_cons_solid hd] at hsolid
          obtain ⟨rfl, htail⟩ := List.cons_eq_cons.mp hsolid
          rw [foldLetters, foldLetters, List.flatMap_cons, List.flatMap_cons] at hfold
          rw [ih htail (List.append_cancel_left hfold)]

/-- The words of a folded text are the folded words. -/
theorem splitWords_foldLetters (n : ℕ) :
    ∀ {text : List Char}, text.length ≤ n → splitWords (foldLetters text) = (splitWords text).map foldLetters := by
  induction n with
  | zero =>
    intro text hlength
    obtain rfl := List.length_eq_zero_iff.mp (Nat.le_zero.mp hlength)
    rfl
  | succ n ih =>
    intro text hlength
    -- the text is a word, empty at white space, and what follows it
    have hword : ∀ c ∈ text.takeWhile (!isSpace ·), isSpace c = false := by
      intro c hc
      have hsolid := List.mem_takeWhile_imp hc
      rwa [Bool.not_eq_true'] at hsolid
    have hfirst : splitWords (foldLetters (text.takeWhile (!isSpace ·))) =
        (splitWords (text.takeWhile (!isSpace ·))).map foldLetters := by
      by_cases hempty : text.takeWhile (!isSpace ·) = []
      · rw [hempty]
        rfl
      · obtain ⟨hne, hsolid⟩ := foldLetters_solid hempty hword
        rw [splitWords_of_solid hempty hword, splitWords_of_solid hne hsolid]
        rfl
    cases hrest : text.dropWhile (!isSpace ·) with
    | nil =>
      have htext : text.takeWhile (!isSpace ·) = text := by
        have hsplit := List.takeWhile_append_dropWhile (p := (!isSpace ·)) (l := text)
        rwa [hrest, List.append_nil] at hsplit
      rwa [htext] at hfirst
    | cons c rest =>
      have htext : text = text.takeWhile (!isSpace ·) ++ c :: rest := by
        rw [← hrest, List.takeWhile_append_dropWhile]
      have hc : isSpace c = true := by
        have hhead := List.head?_dropWhile_not (!isSpace ·) text
        rw [hrest] at hhead
        simpa using hhead
      have hshort : rest.length ≤ n := by
        have hle := congrArg List.length htext
        rw [List.length_append, List.length_cons] at hle
        omega
      rw [htext, foldLetters_append, foldLetters_cons_space hc, splitWords_append_cons hc,
        splitWords_append_cons hc, List.map_append, ih hshort, hfirst]

omit [LawfulCase] in
theorem foldLetters_intercalate (hspace : CaseLibrary.foldChar ' ' = [' ']) (words : List (List Char)) :
    foldLetters ([' '].intercalate words) = [' '].intercalate (words.map foldLetters) := by
  induction words with
  | nil => rfl
  | cons word words ih =>
    cases words with
    | nil => rw [List.map_singleton, List.intercalate_singleton, List.intercalate_singleton]
    | cons next words =>
      have hone : foldLetters [' '] = [' '] := by
        rw [foldLetters, List.flatMap_singleton, hspace]
      rw [List.intercalate_cons_cons, foldLetters_append, foldLetters_append, ih, hone]
      simp only [List.map_cons, List.intercalate_cons_cons]

theorem joinWords_foldLetters (text : List Char) : joinWords (foldLetters text) = foldLetters (joinWords text) := by
  rw [joinWords, splitWords_foldLetters _ le_rfl, joinWords,
    foldLetters_intercalate (LawfulCase.foldChar_space ' ' (by decide))]

omit [CaseLibrary] [LawfulCase] in
theorem splitWords_joinWords (text : List Char) : splitWords (joinWords text) = splitWords text := by
  rw [joinWords, splitWords_intercalate]
  have hwords : ∀ word ∈ splitWords text, splitWords word = [word] := by
    intro word hword
    exact splitWords_of_solid (ne_nil_of_mem_splitWords hword) fun c ↦ isSpace_of_mem_splitWords hword
  rw [List.flatMap_def, List.map_congr_left hwords, ← List.flatMap_def]
  exact List.flatMap_singleton' _

omit [CaseLibrary] [LawfulCase] in
theorem solidText_joinWords (text : List Char) : solidText (joinWords text) = solidText text := by
  rw [← flatten_splitWords, splitWords_joinWords, flatten_splitWords]

omit [CaseLibrary] [LawfulCase] in
theorem collapse_eq_iff (value : String) : collapse value = value ↔ joinWords value.toList = value.toList := by
  rw [collapse]
  constructor
  · intro h
    have hlist := congrArg String.toList h
    rwa [String.toList_ofList] at hlist
  · intro h
    rw [h, String.ofList_toList]

theorem toList_casefold_eq (text : String) : (TextLibrary.casefold text).toList = foldLetters text.toList :=
  LawfulCase.toList_casefold text

/-- A text that is folded like one with single spaces has single spaces. -/
theorem collapse_eq_of_casefold_eq {first second : String}
    (h : TextLibrary.casefold first = TextLibrary.casefold second) (hsecond : collapse second = second) :
    collapse first = first := by
  have hfold := congrArg String.toList h
  rw [toList_casefold_eq, toList_casefold_eq] at hfold
  rw [collapse_eq_iff] at hsecond ⊢
  refine eq_of_foldLetters_eq (solidText_joinWords first.toList) ?_
  calc foldLetters (joinWords first.toList)
      = joinWords (foldLetters first.toList) := (joinWords_foldLetters _).symm
    _ = joinWords (foldLetters second.toList) := by rw [hfold]
    _ = foldLetters (joinWords second.toList) := joinWords_foldLetters _
    _ = foldLetters second.toList := by rw [hsecond]
    _ = foldLetters first.toList := hfold.symm

end Folding

/-! ### Whether the two agree -/

section Iff

variable [CaseLibrary]

theorem effectiveReplacements_getElem? {user : List Replacement} (static : List (String × String)) {i : ℕ}
    {rule : Replacement} (h : user[i]? = some rule) :
    (effectiveReplacements user static)[i]? = some ⟨rule.spoken, rule.written⟩ := by
  have hlt := (List.getElem?_eq_some_iff.mp h).1
  rw [effectiveReplacements, List.getElem?_append_left (by rwa [List.length_map]), List.getElem?_map, h]
  rfl

theorem mem_drop_effectiveReplacements {user : List Replacement} {static : List (String × String)}
    {rule : TranscriptReplacement} :
    rule ∈ (effectiveReplacements user static).drop user.length ↔
      (rule.spoken, rule.written) ∈ static ∧
        ∀ own ∈ user, TextLibrary.casefold own.spoken ≠ TextLibrary.casefold rule.spoken := by
  have hdrop : (effectiveReplacements user static).drop user.length =
      (static.filter fun entry ↦ TextLibrary.casefold entry.1 ∉
        user.map fun rule ↦ TextLibrary.casefold rule.spoken).map fun entry ↦ ⟨entry.1, entry.2⟩ := by
    rw [effectiveReplacements]
    exact List.drop_left' (List.length_map _)
  rw [hdrop, List.mem_map]
  simp only [List.mem_filter, decide_eq_true_eq, List.mem_map, not_exists, not_and]
  constructor
  · rintro ⟨entry, hentry, rfl⟩
    exact hentry
  · intro hrule
    exact ⟨(rule.spoken, rule.written), hrule, rfl⟩

theorem Replacement.Stored.normalizePhrase {rule : Replacement} (h : rule.Stored) :
    normalizePhrase rule.spoken = .ok (TextLibrary.casefold rule.spoken) := by
  rw [VoiceHarness.normalizePhrase, h.collapsed, if_neg h.spoken_ne]

variable [LawfulCase]

/-- The rule of a stored replacement rewrites as it does if and only if its phrase is a single word. -/
theorem Replacement.Stored.apply_eq_iff {rule : Replacement} (h : rule.Stored) :
    (∀ text, (⟨rule.spoken, rule.written⟩ : TranscriptReplacement).apply text = rule.apply text) ↔
      ∀ c ∈ rule.spoken.toList, isSpace c = false := by
  have hspoken : spread 1 (splitWords rule.spoken.toList) = rule.spoken.toList :=
    (collapse_eq_iff rule.spoken).mp h.collapsed
  have hne : rule.spoken.toList ≠ [] := by
    rw [Ne, String.toList_eq_nil_iff]
    exact h.spoken_ne
  have hwords := areWords_splitWords rule.spoken.toList
  constructor
  · intro hagree
    match hsplit : splitWords rule.spoken.toList with
    | [] =>
      rw [hsplit] at hspoken
      exact (hne hspoken.symm).elim
    | [word] =>
      rw [hsplit, spread_singleton] at hspoken
      rw [← hspoken]
      exact (hwords word (hsplit ▸ List.mem_cons_self)).2
    | word :: next :: others =>
      -- with more spaces between its words the phrase would have to be the written text already
      have hwritten : ∀ count, 2 ≤ count →
          spread count (splitWords rule.spoken.toList) = rule.written.toList := by
        intro count hcount
        have htext := hagree (spread count (splitWords rule.spoken.toList))
        have hleft := replaceAll_escape_of_wide hwords (by simp [hsplit]) (wide_spread hcount hwords)
          rule.written.toList
        rw [hspoken] at hleft
        rw [TranscriptReplacement.apply, hleft, Replacement.apply, phrasePattern,
          replaceAll_spread (by omega) hwords (by simp [hsplit])] at htext
        exact htext
      have hsame := (hwritten 2 le_rfl).trans (hwritten 3 (by decide)).symm
      rw [hsplit] at hsame hwords
      exact (spread_ne hwords hsame).elim
  · intro hsolid text
    rw [TranscriptReplacement.apply, Replacement.apply, phrasePattern, splitWords_of_solid hne hsolid]
    rfl

/-- The two agree if and only if every replacement is for a single word and the configured rules for the phrase of
one are written with single spaces. -/
theorem pathsAgree_iff (user : List Replacement) (static : List (String × String))
    (h : ∀ rule ∈ user, rule.Stored) : PathsAgree user static ↔ SinglySpaced user static := by
  constructor
  · rintro ⟨hagree, hoverride⟩
    constructor
    · intro rule hrule
      obtain ⟨i, hi⟩ := List.mem_iff_getElem?.mp hrule
      obtain ⟨built, hbuilt, happly⟩ := hagree i rule hi
      rw [effectiveReplacements_getElem? static hi] at hbuilt
      cases hbuilt
      exact (h rule hrule).apply_eq_iff.mp happly
    · intro entry hentry own hown hsame
      by_contra hspaced
      refine hoverride ⟨entry.1, entry.2⟩ ?_ own hown hsame
      refine mem_drop_effectiveReplacements.mpr ⟨hentry, ?_⟩
      intro other hother hfold
      exact hspaced (collapse_eq_of_casefold_eq hfold.symm (h other hother).collapsed)
  · rintro ⟨hsingle, hspaced⟩
    constructor
    · intro i rule hi
      have hrule := List.mem_of_getElem? hi
      exact ⟨_, effectiveReplacements_getElem? static hi, (h rule hrule).apply_eq_iff.mpr (hsingle rule hrule)⟩
    · intro rule hrule own hown hsame
      obtain ⟨hentry, hfold⟩ := mem_drop_effectiveReplacements.mp hrule
      have hcollapsed := hspaced _ hentry own hown hsame
      rw [(h own hown).normalizePhrase, VoiceHarness.normalizePhrase, hcollapsed] at hsame
      split_ifs at hsame
      exact hfold own hown (Except.ok.inj hsame).symm

end Iff

/-! ### A phrase of two words -/

section Example

/-- A case library that is right on ASCII text. -/
@[reducible] def asciiCaseLibrary : CaseLibrary where
  toSpeechLibrary := asciiSpeechLibrary
  sameCase letter c := letter.toLower == c.toLower
  foldChar c := [c.toLower]

theorem isSpace_of_letter {c : Char} (hlow : 65 ≤ c.val.toNat) (hhigh : c.val.toNat ≤ 122) :
    isSpace c = false := by
  simp only [isSpace, List.mem_cons, List.not_mem_nil, or_false, ← UInt32.toNat_inj, UInt32.le_iff_toNat_le,
    Bool.or_eq_false_iff, Bool.and_eq_false_iff, decide_eq_false_iff_not]
  simp only [UInt32.reduceToNat]
  omega

theorem isSpace_toLower (c : Char) : isSpace c.toLower = isSpace c := by
  by_cases h : c.val ≥ 'A'.val ∧ c.val ≤ 'Z'.val
  · have hlow : 65 ≤ c.val.toNat := UInt32.le_iff_toNat_le.mp h.1
    have hhigh : c.val.toNat ≤ 90 := UInt32.le_iff_toNat_le.mp h.2
    have hval : c.toLower.val.toNat = c.val.toNat + 32 := by
      rw [Char.toLower, dif_pos h, UInt32.toNat_add]
      change (c.val.toNat + 32) % 2 ^ 32 = _
      omega
    rw [isSpace_of_letter hlow (by omega), isSpace_of_letter (by omega) (by omega)]
  · rw [Char.toLower, dif_neg h]

attribute [local instance] asciiCaseLibrary

theorem toLower_of_space {c : Char} (h : isSpace c = true) : c.toLower = c := by
  rw [Char.toLower, dif_neg]
  rintro ⟨hlow, hhigh⟩
  have hlow' : 65 ≤ c.val.toNat := UInt32.le_iff_toNat_le.mp hlow
  have hhigh' : c.val.toNat ≤ 90 := UInt32.le_iff_toNat_le.mp hhigh
  rw [isSpace_of_letter hlow' (by omega)] at h
  cases h

instance lawful_asciiCaseLibrary : LawfulCase where
  sameCase_self c := beq_self_eq_true c.toLower
  isSpace_of_sameCase letter c h := by
    rw [← isSpace_toLower letter, ← isSpace_toLower c, eq_of_beq h]
  toList_casefold text := by
    change (text.map Char.toLower).toList = text.toList.flatMap fun c ↦ [c.toLower]
    rw [String.toList_map, List.map_eq_flatMap]
  foldChar_space c h := by
    change [c.toLower] = [c]
    rw [toLower_of_space h]
  foldChar_solid c h := by
    refine ⟨List.cons_ne_nil _ _, ?_⟩
    intro d hd
    rw [List.mem_singleton.mp hd, isSpace_toLower, h]

/-- A user's correction of a name that is heard as two words. -/
def openCode : Replacement := ⟨"open code", "OpenCode"⟩

theorem pathsAgree_word :
    (∀ rule ∈ [(⟨"opencode", "OpenCode"⟩ : Replacement)], rule.Stored) ∧
      (PathsAgree [⟨"opencode", "OpenCode"⟩] [("OPENCODE", "OC")] ↔
        SinglySpaced [⟨"opencode", "OpenCode"⟩] [("OPENCODE", "OC")]) := by
  have hstored : ∀ rule ∈ [(⟨"opencode", "OpenCode"⟩ : Replacement)], rule.Stored := by
    rw [List.forall_mem_singleton]
    exact ⟨by decide, by decide⟩
  exact ⟨hstored, pathsAgree_iff [⟨"opencode", "OpenCode"⟩] [("OPENCODE", "OC")] hstored⟩

/-- Where the words are heard with two spaces between them the stored replacement rewrites them, the rule built from
it does not, and a configured rule for the same phrase with two spaces stays in effect. -/
theorem openCode_disagrees :
    openCode.Stored ∧ openCode.apply "open  code".toList = "OpenCode".toList ∧
      (effectiveReplacements [openCode] [("open  code", "OC")])[0]?.map (·.apply "open  code".toList) =
        some "open  code".toList ∧
      ⟨"open  code", "OC"⟩ ∈ (effectiveReplacements [openCode] [("open  code", "OC")]).drop 1 ∧
      normalizePhrase "open  code" = normalizePhrase openCode.spoken ∧
      ¬PathsAgree [openCode] [("open  code", "OC")] := by
  have hstored : openCode.Stored := ⟨by decide, by decide +kernel⟩
  have hown : openCode.apply "open  code".toList = "OpenCode".toList := by decide +kernel
  have hbuilt : (effectiveReplacements [openCode] [("open  code", "OC")])[0]?.map
      (·.apply "open  code".toList) = some "open  code".toList := by decide +kernel
  have hstays : (⟨"open  code", "OC"⟩ : TranscriptReplacement) ∈
      (effectiveReplacements [openCode] [("open  code", "OC")]).drop 1 := by decide +kernel
  have hsame : normalizePhrase "open  code" = normalizePhrase openCode.spoken := by decide +kernel
  refine ⟨hstored, hown, hbuilt, hstays, hsame, ?_⟩
  rintro ⟨-, hoverride⟩
  exact hoverride _ hstays openCode (List.mem_singleton_self _) hsame

end Example

end VoiceHarness
