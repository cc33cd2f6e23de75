import Mathlib
import VoiceHarness.Library.Pattern
import VoiceHarness.Question.Answer

/-!
# Phrases

The spoken phrases of the vocabulary: how they are normalised for comparison, and the regular expressions that
find them in a text whatever the case of their letters. What `re.IGNORECASE` and `str.casefold` make of a
character is the library's.
-/

set_option autoImplicit false
set_option relaxedAutoImplicit false

namespace VoiceHarness

open Library

/-- The text library with the comparison of characters without regard to case, and the folding of one. -/
class CaseLibrary extends SpeechLibrary where
  /-- The character of a pattern matches the one of a text under `re.IGNORECASE`. -/
  sameCase : Char → Char → Bool
  foldChar : Char → List Char

/-- What Python documents of the two: folding goes character by character, and neither takes white space for
anything else. -/
class LawfulCase [CaseLibrary] : Prop where
  sameCase_self : ∀ c, CaseLibrary.sameCase c c = true
  isSpace_of_sameCase : ∀ letter c, CaseLibrary.sameCase letter c = true → isSpace letter = isSpace c
  toList_casefold : ∀ text : String,
    (TextLibrary.casefold text).toList = text.toList.flatMap CaseLibrary.foldChar
  foldChar_space : ∀ c, isSpace c = true → CaseLibrary.foldChar c = [c]
  foldChar_solid : ∀ c, isSpace c = false →
    CaseLibrary.foldChar c ≠ [] ∧ ∀ d ∈ CaseLibrary.foldChar c, isSpace d = false

/-- `" ".join(value.split())`. -/
def collapse (value : String) : String := String.ofList (joinWords value.toList)

section Patterns

variable [CaseLibrary]

/-- `_normalize_phrase`. -/
def normalizePhrase (value : String) : Checked String :=
  if collapse value = "" then .error "phrase must not be empty"
  else .ok (TextLibrary.casefold (collapse value))

/-- `re.escape(text)` under `re.IGNORECASE`. -/
def escape (text : List Char) : Pattern Char Empty := Pattern.literal (text.map CaseLibrary.sameCase)

/-- `(?<!\w)body(?!\w)`. -/
def wholePhrase (body : Pattern Char Empty) : Pattern Char Empty :=
  .seq (.notBehind SpeechLibrary.isWord) (.seq body (.notAhead SpeechLibrary.isWord))

/-- `r"\s+".join(re.escape(word) for word in words)`. -/
def spacedWords : List (List Char) → Pattern Char Empty
  | [] => .empty
  | [word] => escape word
  | word :: words => .seq (escape word) (.seq (.many isSpace 1 none) (spacedWords words))

/-- `_phrase_pattern`. -/
def phrasePattern (phrase : List Char) : Pattern Char Empty := wholePhrase (spacedWords (splitWords phrase))

/-- `re.sub(pattern, lambda _match: written, text)`. -/
def replaceAll (pattern : Pattern Char Empty) (written text : List Char) : List Char :=
  pattern.substitute (fun _ ↦ written) 0 none text

end Patterns

/-! ### Words with spaces between them -/

/-- These words with `count` spaces between them. -/
def spread (count : ℕ) (words : List (List Char)) : List Char :=
  (List.replicate count ' ').intercalate words

/-- Words as `split` leaves them. -/
def AreWords (words : List (List Char)) : Prop := ∀ word ∈ words, word ≠ [] ∧ ∀ c ∈ word, isSpace c = false

theorem areWords_splitWords (text : List Char) : AreWords (splitWords text) :=
  fun _ hword ↦ ⟨ne_nil_of_mem_splitWords hword, fun _ ↦ isSpace_of_mem_splitWords hword⟩

theorem spread_singleton (count : ℕ) (word : List Char) : spread count [word] = word :=
  List.intercalate_singleton

theorem spread_cons_cons (count : ℕ) (word next : List Char) (words : List (List Char)) :
    spread count (word :: next :: words) =
      word ++ (List.replicate count ' ' ++ spread count (next :: words)) := by
  rw [spread, List.intercalate_cons_cons, List.append_assoc]
  rfl

/-- Words with spaces between them begin with the first word. -/
theorem exists_spread_eq_cons {word : List Char} {words : List (List Char)}
    (hwords : AreWords (word :: words)) (count : ℕ) :
    ∃ c text, spread count (word :: words) = c :: text ∧ isSpace c = false := by
  obtain ⟨hne, hsolid⟩ := hwords word List.mem_cons_self
  obtain ⟨c, tail, rfl⟩ := List.exists_cons_of_ne_nil hne
  have hc := hsolid c List.mem_cons_self
  cases words with
  | nil =>
    rw [spread_singleton]
    exact ⟨c, tail, rfl, hc⟩
  | cons next words =>
    rw [spread_cons_cons]
    exact ⟨c, _, rfl, hc⟩

/-- A run of white space is as long as it can be where what follows it is none. -/
theorem append_inj_of_spaces {first second left right : List Char}
    (hfirst : ∀ c ∈ first, isSpace c = true) (hsecond : ∀ c ∈ second, isSpace c = true)
    (hleft : left.head?.any isSpace = false) (hright : right.head?.any isSpace = false)
    (h : first ++ left = second ++ right) : first = second ∧ left = right := by
  have htake : ∀ {spaces text : List Char}, (∀ c ∈ spaces, isSpace c = true) →
      text.head?.any isSpace = false → (spaces ++ text).takeWhile isSpace = spaces := by
    intro spaces text hspaces htext
    rw [List.takeWhile_append_of_pos hspaces]
    cases text with
    | nil => simp
    | cons c text =>
      rw [List.takeWhile_cons_of_neg (by simpa using htext), List.append_nil]
  have hsame := congrArg (List.takeWhile isSpace) h
  rw [htake hfirst hleft, htake hsecond hright] at hsame
  subst hsame
  exact ⟨rfl, List.append_cancel_left h⟩

theorem isSpace_of_mem_replicate {count : ℕ} {c : Char} (h : c ∈ List.replicate count ' ') :
    isSpace c = true := by
  rw [List.eq_of_mem_replicate h]
  decide

/-- Two words with two spaces between them are not the same with three. -/
theorem spread_ne {word next : List Char} {words : List (List Char)}
    (hwords : AreWords (word :: next :: words)) :
    spread 2 (word :: next :: words) ≠ spread 3 (word :: next :: words) := by
  intro h
  rw [spread_cons_cons, spread_cons_cons] at h
  have hnext := (List.forall_mem_cons.mp hwords).2
  have hhead : ∀ count, (spread count (next :: words)).head?.any isSpace = false := by
    intro count
    obtain ⟨c, text, htext, hc⟩ := exists_spread_eq_cons hnext count
    rw [htext]
    simpa using hc
  have hspaces := (append_inj_of_spaces (fun _ ↦ isSpace_of_mem_replicate)
    (fun _ ↦ isSpace_of_mem_replicate) (hhead 2) (hhead 3) (List.append_cancel_left h)).1
  cases hspaces

/-- No single white space stands between two other characters. -/
def Wide : List Char → Prop
  | x :: space :: y :: text =>
    (isSpace x = false → isSpace space = true → isSpace y = true) ∧ Wide (space :: y :: text)
  | _ => True

theorem Wide.of_append {before text : List Char} (h : Wide (before ++ text)) : Wide text := by
  induction before with
  | nil => exact h
  | cons x before ih =>
    refine ih ?_
    match hrest : before ++ text with
    | [] => trivial
    | [_] => trivial
    | space :: y :: rest =>
      rw [List.cons_append, hrest] at h
      exact h.2

theorem wide_cons_of_space {space : Char} (hspace : isSpace space = true) {text : List Char} (h : Wide text) :
    Wide (space :: text) := by
  match text with
  | [] => trivial
  | [_] => trivial
  | x :: y :: rest =>
    refine ⟨?_, h⟩
    intro hsolid
    rw [hspace] at hsolid
    cases hsolid

theorem wide_replicate_append (count : ℕ) {text : List Char} (h : Wide text) :
    Wide (List.replicate count ' ' ++ text) := by
  induction count with
  | zero => exact h
  | succ count ih =>
    rw [List.replicate_succ, List.cons_append]
    exact wide_cons_of_space (by decide) ih

/-- A word before nothing, or before two spaces. -/
theorem wide_word_append {word : List Char} (hword : ∀ c ∈ word, isSpace c = false) {text : List Char}
    (h : Wide text) (hstart : text = [] ∨ ∃ rest, text = ' ' :: ' ' :: rest) : Wide (word ++ text) := by
  induction word with
  | nil => exact h
  | cons x word ih =>
    obtain ⟨hx, hword⟩ := List.forall_mem_cons.mp hword
    have hrest := ih hword
    cases word with
    | nil =>
      obtain rfl | ⟨rest, rfl⟩ := hstart
      · trivial
      · exact ⟨fun _ _ ↦ by decide, hrest⟩
    | cons y word =>
      have hy := hword y List.mem_cons_self
      match hsplit : word ++ text with
      | [] =>
        rw [List.cons_append, List.cons_append, hsplit]
        trivial
      | z :: rest =>
        rw [List.cons_append, hsplit] at hrest
        rw [List.cons_append, List.cons_append, hsplit]
        refine ⟨?_, hrest⟩
        intro _ hspace
        rw [hy] at hspace
        cases hspace

theorem wide_spread {count : ℕ} (hcount : 2 ≤ count) {words : List (List Char)} (hwords : AreWords words) :
    Wide (spread count words) := by
  induction words with
  | nil => trivial
  | cons word words ih =>
    obtain ⟨hword, hrest⟩ := List.forall_mem_cons.mp hwords
    cases words with
    | nil =>
      have hnil : Wide [] := trivial
      have hwide := wide_word_append hword.2 hnil (.inl rfl)
      rwa [List.append_nil, ← spread_singleton count word] at hwide
    | cons next words =>
      rw [spread_cons_cons]
      refine wide_word_append hword.2 (wide_replicate_append count (ih hrest)) (.inr ?_)
      obtain ⟨more, rfl⟩ := Nat.exists_eq_add_of_le' hcount
      exact ⟨List.replicate more ' ' ++ spread (more + 2) (next :: words), rfl⟩

/-! ### The phrase in a text with other spaces -/

section Spread

variable [CaseLibrary]

theorem reads_escape {previous : Option Char} {text taken rest : List Char}
    {groups : List (Empty × List Char)} :
    (escape text).Reads previous taken rest groups ↔
      List.Forall₂ (fun letter c ↦ CaseLibrary.sameCase letter c = true) text taken ∧ groups = [] := by
  rw [escape, Pattern.reads_literal, List.forall₂_map_left_iff]

variable [LawfulCase]

theorem forall₂_sameCase_self (text : List Char) :
    List.Forall₂ (fun letter c ↦ CaseLibrary.sameCase letter c = true) text text :=
  List.forall₂_same.mpr fun c _ ↦ LawfulCase.sameCase_self c

/-- The phrase pattern reads its words whatever the white space between them. -/
theorem reads_spread {count : ℕ} (hcount : 1 ≤ count) (words : List (List Char)) :
    ∀ (previous : Option Char) (rest : List Char),
      (spacedWords words).Reads previous (spread count words) rest [] := by
  induction words with
  | nil => exact fun previous rest ↦ ⟨rfl, rfl⟩
  | cons word words ih =>
    intro previous rest
    cases words with
    | nil =>
      rw [spread_singleton, spacedWords, reads_escape]
      exact ⟨forall₂_sameCase_self word, rfl⟩
    | cons next words =>
      have hspaces : (Pattern.many isSpace 1 none : Pattern Char Empty).Reads
          (word.getLast?.or previous) (List.replicate count ' ')
          (spread count (next :: words) ++ rest) [] := by
        refine ⟨fun _ ↦ isSpace_of_mem_replicate, ?_, ?_, rfl⟩
        · rwa [List.length_replicate]
        · intro most hmost
          cases hmost
      rw [spread_cons_cons, spacedWords]
      · refine ⟨word, _, [], [], rfl, rfl, ?_, _, _, [], [], rfl, rfl, hspaces, ih _ _⟩
        exact reads_escape.mpr ⟨forall₂_sameCase_self word, rfl⟩
      · intro h
        cases h

/-- What the pattern of words reads begins with no white space. -/
theorem head_of_reads_spacedWords {word : List Char} {words : List (List Char)}
    (hwords : AreWords (word :: words)) {previous : Option Char} {taken rest : List Char}
    {groups : List (Empty × List Char)}
    (h : (spacedWords (word :: words)).Reads previous taken rest groups) :
    ∃ c tail, taken = c :: tail ∧ isSpace c = false := by
  obtain ⟨hne, hsolid⟩ := hwords word List.mem_cons_self
  have hword : ∃ left right, taken = left ++ right ∧
      List.Forall₂ (fun letter c ↦ CaseLibrary.sameCase letter c = true) word left := by
    cases words with
    | nil =>
      rw [spacedWords, reads_escape] at h
      exact ⟨taken, [], (List.append_nil taken).symm, h.1⟩
    | cons next words =>
      rw [spacedWords] at h
      · obtain ⟨left, right, _, _, htaken, _, hleft, _⟩ := h
        exact ⟨left, right, htaken, (reads_escape.mp hleft).1⟩
      · intro h
        cases h
  obtain ⟨left, right, rfl, hsame⟩ := hword
  cases hsame with
  | nil => exact (hne rfl).elim
  | cons hhead htail =>
    refine ⟨_, _, rfl, ?_⟩
    rw [← LawfulCase.isSpace_of_sameCase _ _ hhead]
    exact hsolid _ List.mem_cons_self

/-- The words with spaces between them are read as a whole only. -/
theorem eq_spread_of_reads {count : ℕ} {words : List (List Char)} (hwords : AreWords words) :
    ∀ {previous : Option Char} {taken rest : List Char} {groups : List (Empty × List Char)},
      taken ++ rest = spread count words → (spacedWords words).Reads previous taken rest groups →
      taken = spread count words ∧ rest = [] ∧ groups = [] := by
  induction words with
  | nil =>
    intro previous taken rest groups htext h
    obtain ⟨rfl, rfl⟩ := h
    exact ⟨rfl, htext, rfl⟩
  | cons word words ih =>
    have hrest := List.forall_mem_cons.mp hwords
    intro previous taken rest groups htext h
    cases words with
    | nil =>
      rw [spacedWords, reads_escape] at h
      rw [spread_singleton] at htext ⊢
      have hlength := h.1.length_eq
      obtain ⟨htaken, hnil⟩ := List.append_inj (htext.trans (List.append_nil word).symm) hlength.symm
      exact ⟨htaken, hnil, h.2⟩
    | cons next words =>
      rw [spacedWords] at h
      · obtain ⟨left, right, _, _, rfl, rfl, hleft, hright⟩ := h
        obtain ⟨spaces, tail, _, _, rfl, rfl, hspaces, htail⟩ := hright
        obtain ⟨hword, rfl⟩ := reads_escape.mp hleft
        obtain ⟨hspaces, -, -, rfl⟩ := hspaces
        rw [spread_cons_cons, List.append_assoc, List.append_assoc] at htext
        obtain ⟨rfl, hafter⟩ := List.append_inj htext hword.length_eq.symm
        obtain ⟨c, tail, rfl, hc⟩ := head_of_reads_spacedWords hrest.2 htail
        have hhead : (c :: tail ++ rest).head?.any isSpace = false := by simpa using hc
        have hnext : (spread count (next :: words)).head?.any isSpace = false := by
          obtain ⟨d, text, htext, hd⟩ := exists_spread_eq_cons hrest.2 count
          rw [htext]
          simpa using hd
        obtain ⟨hsame, hbehind⟩ := append_inj_of_spaces hspaces (fun _ ↦ isSpace_of_mem_replicate) hhead
          hnext hafter
        obtain ⟨htail, hnil, hgroups⟩ := ih hrest.2 hbehind htail
        rw [spread_cons_cons, hsame, htail, hgroups]
        exact ⟨rfl, hnil, rfl⟩
      · intro h
        cases h

/-! ### What the two patterns find -/

/-- The phrase pattern replaces its words as a whole, whatever white space is between them. -/
theorem replaceAll_spread {count : ℕ} (hcount : 1 ≤ count) {words : List (List Char)} (hwords : AreWords words)
    (hne : words ≠ []) (written : List Char) :
    replaceAll (wholePhrase (spacedWords words)) written (spread count words) = written := by
  obtain ⟨word, others, rfl⟩ := List.exists_cons_of_ne_nil hne
  obtain ⟨c, text, htext, -⟩ := head_of_reads_spacedWords hwords (reads_spread hcount (word :: others) none [])
  have hrun : ((wholePhrase (spacedWords (word :: others))).run ⟨none, c :: text, []⟩).head? =
      some ⟨(c :: text).getLast?.or none, [], []⟩ := by
    rw [← htext]
    refine Pattern.run_head?_eq ?_ ?_
    · refine (Pattern.mem_run_iff _).mpr
        ⟨spread count (word :: others), [], [], (List.append_nil _).symm, ?_, rfl⟩
      refine ⟨[], _, [], [], rfl, rfl, ⟨rfl, rfl, rfl⟩, _, [], [], [], (List.append_nil _).symm, rfl, ?_,
        rfl, rfl, rfl⟩
      exact reads_spread hcount (word :: others) _ _
    · intro other hother
      obtain ⟨taken, rest, _, hsplit, hreads, rfl⟩ := (Pattern.mem_run_iff _).mp hother
      obtain ⟨_, _, _, _, rfl, rfl, ⟨-, rfl, rfl⟩, body, _, _, _, rfl, rfl, hbody, -, rfl, rfl⟩ := hreads
      simp only [List.nil_append, List.append_nil] at hsplit hbody ⊢
      obtain ⟨rfl, rfl, rfl⟩ := eq_spread_of_reads hwords hsplit.symm hbody
      rfl
  rw [replaceAll, htext, Pattern.substitute_of_whole hrun]

end Spread

section Narrow

variable [CaseLibrary] [LawfulCase]

omit [LawfulCase] in
theorem exists_append_of_forall₂ {first second taken : List Char}
    (h : List.Forall₂ (fun letter c ↦ CaseLibrary.sameCase letter c = true) (first ++ second) taken) :
    ∃ left right, taken = left ++ right ∧
      List.Forall₂ (fun letter c ↦ CaseLibrary.sameCase letter c = true) second right := by
  induction first generalizing taken with
  | nil => exact ⟨[], taken, rfl, h⟩
  | cons letter first ih =>
    cases h with
    | cons _ htail =>
      obtain ⟨left, right, rfl, hright⟩ := ih htail
      exact ⟨_ :: left, right, rfl, hright⟩

/-- A phrase with a space between two words reads no text without a single white space. -/
theorem not_wide_of_reads {word next : List Char} {words : List (List Char)}
    (hwords : AreWords (word :: next :: words)) {previous : Option Char} {taken rest : List Char}
    {groups : List (Empty × List Char)}
    (h : (escape (spread 1 (word :: next :: words))).Reads previous taken rest groups) (before after : List Char) :
    ¬Wide (before ++ (taken ++ after)) := by
  have hsame := (reads_escape.mp h).1
  obtain ⟨hword, hnext⟩ := List.forall_mem_cons.mp hwords
  obtain ⟨letters, last, rfl⟩ := (List.eq_nil_or_concat' word).resolve_left hword.1
  have hlast := hword.2 last (List.mem_append_right _ (List.mem_singleton_self last))
  obtain ⟨letter, others, hrest, hletter⟩ := exists_spread_eq_cons hnext 1
  rw [spread_cons_cons, hrest, List.append_assoc] at hsame
  obtain ⟨left, right, rfl, hright⟩ := exists_append_of_forall₂ hsame
  -- the last letter of the word, the space and the first letter of the next word
  cases hright with
  | cons hx hright =>
    cases hright with
    | cons hspace hright =>
      cases hright with
      | cons hy hright =>
        intro hwide
        rw [List.append_assoc, ← List.append_assoc] at hwide
        have hsingle := hwide.of_append.1
        rw [← LawfulCase.isSpace_of_sameCase _ _ hx, ← LawfulCase.isSpace_of_sameCase _ _ hspace,
          ← LawfulCase.isSpace_of_sameCase _ _ hy, hletter] at hsingle
        cases hsingle hlast (by decide)

/-- The escaped phrase leaves a text without a single white space as it is. -/
theorem replaceAll_escape_of_wide {words : List (List Char)} (hwords : AreWords words)
    (hmany : 2 ≤ words.length) {text : List Char} (hwide : Wide text) (written : List Char) :
    replaceAll (wholePhrase (escape (spread 1 words))) written text = text := by
  obtain ⟨word, next, others, rfl⟩ : ∃ word next others, words = word :: next :: others := by
    match words, hmany with
    | word :: next :: others, _ => exact ⟨word, next, others, rfl⟩
  refine Pattern.substitute_of_no_match ?_
  rintro found ⟨before, taken, htext, -, hahead, hreads⟩
  obtain ⟨_, _, _, _, rfl, -, ⟨-, rfl, -⟩, body, tail, _, _, rfl, -, hbody, -, rfl, -⟩ := hreads
  simp only [List.nil_append, List.append_nil] at hahead hbody
  rw [htext, hahead] at hwide
  exact not_wide_of_reads hwords hbody before found.rest hwide

end Narrow

end VoiceHarness
