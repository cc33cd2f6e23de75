import VoiceHarness.Job.Labels
import Mathlib.Data.List.DropRight
import Mathlib.Data.List.TakeWhile

/-!
White space around and inside texts, as `str.strip` and the equality of texts up to white space see it.
-/

set_option autoImplicit false
set_option relaxedAutoImplicit false

namespace VoiceHarness

/-- `strip` of characters. -/
def stripText (text : List Char) : List Char :=
  ((text.dropWhile isSpace).reverse.dropWhile isSpace).reverse

/-- The characters of a text that are no white space. -/
def solidText (text : List Char) : List Char := text.filter fun c ↦ !isSpace c

@[simp] theorem solidText_nil : solidText [] = [] := rfl

@[simp] theorem solidText_append (first second : List Char) :
    solidText (first ++ second) = solidText first ++ solidText second :=
  List.filter_append _ _

theorem solidText_reverse (text : List Char) : solidText text.reverse = (solidText text).reverse :=
  List.filter_reverse

theorem solidText_eq_nil_iff {text : List Char} : solidText text = [] ↔ ∀ c ∈ text, isSpace c = true := by
  simp [solidText, List.filter_eq_nil_iff]

theorem solidText_dropWhile (text : List Char) : solidText (text.dropWhile isSpace) = solidText text := by
  induction text with
  | nil => rfl
  | cons c text ih =>
    rw [List.dropWhile_cons]
    by_cases hc : isSpace c = true
    · rw [if_pos hc, ih, solidText, solidText, List.filter_cons_of_neg (by simp [hc])]
    · rw [if_neg hc]

@[simp] theorem solidText_stripText (text : List Char) : solidText (stripText text) = solidText text := by
  rw [stripText, solidText_reverse, solidText_dropWhile, solidText_reverse, List.reverse_reverse,
    solidText_dropWhile]

/-- `not text.strip()`. -/
theorem stripText_eq_nil_iff {text : List Char} : stripText text = [] ↔ solidText text = [] := by
  constructor
  · intro h
    rw [← solidText_stripText, h, solidText_nil]
  · intro h
    have hspaces := solidText_eq_nil_iff.mp h
    rw [stripText, List.dropWhile_eq_nil_iff.mpr hspaces]
    rfl

/-- A text whose first character is no white space keeps it. -/
theorem dropWhile_stripText (text : List Char) : (stripText text).dropWhile isSpace = stripText text := by
  cases hdrop : text.dropWhile isSpace with
  | nil =>
    have hnil : stripText text = [] := by
      rw [stripText, hdrop]
      rfl
    rw [hnil]
    rfl
  | cons c rest =>
    have hc : isSpace c = false := by
      have hhead := List.head?_dropWhile_not isSpace text
      rw [hdrop] at hhead
      exact hhead
    -- what is stripped at the end leaves the first character
    have hstrip : ∃ tail, stripText text = c :: tail := by
      rw [stripText, hdrop, List.reverse_cons, List.dropWhile_append]
      split_ifs with hrest
      · exact ⟨[], by simp [hc]⟩
      · exact ⟨(rest.reverse.dropWhile isSpace).reverse, by simp⟩
    obtain ⟨tail, htail⟩ := hstrip
    rw [htail, List.dropWhile_cons_of_neg (by simp [hc])]

theorem stripText_stripText (text : List Char) : stripText (stripText text) = stripText text := by
  rw [stripText, dropWhile_stripText]
  have hend : (stripText text).reverse = (text.dropWhile isSpace).reverse.dropWhile isSpace :=
    List.reverse_reverse _
  rw [hend, List.dropWhile_idempotent]
  rfl

/-! ### Words -/

/-- `text.split()`. -/
def splitWords (text : List Char) : List (List Char) :=
  (text.splitOnP isSpace).filter (!·.isEmpty)

@[simp] theorem splitWords_nil : splitWords [] = [] := rfl

/-- White space ends a word. -/
theorem splitWords_append_cons {c : Char} (h : isSpace c = true) (first second : List Char) :
    splitWords (first ++ c :: second) = splitWords first ++ splitWords second := by
  rw [splitWords, List.splitOnP_append_cons _ _ h, List.filter_append]
  rfl

/-- The words of two texts that are apart. -/
theorem splitWords_append {second : List Char} (h : second.head?.all isSpace = true)
    (first : List Char) : splitWords (first ++ second) = splitWords first ++ splitWords second := by
  cases second with
  | nil => rw [List.append_nil, splitWords_nil, List.append_nil]
  | cons c second =>
    have hspace : isSpace c = true := h
    have hfirst := splitWords_append_cons hspace first second
    have hsecond := splitWords_append_cons hspace [] second
    rw [List.nil_append, splitWords_nil, List.nil_append] at hsecond
    rw [hfirst, hsecond]

theorem splitWords_dropWhile (text : List Char) : splitWords (text.dropWhile isSpace) = splitWords text := by
  induction text with
  | nil => rfl
  | cons c text ih =>
    rw [List.dropWhile_cons]
    by_cases hc : isSpace c = true
    · have hcons := splitWords_append_cons hc [] text
      rw [if_pos hc, ih]
      exact hcons.symm
    · rw [if_neg hc]

/-- The text from its first to its last character that is no white space, and the white space around it. -/
theorem exists_stripText_append (text : List Char) :
    ∃ spaces, solidText spaces = [] ∧ text.dropWhile isSpace = stripText text ++ spaces := by
  refine ⟨((text.dropWhile isSpace).reverse.takeWhile isSpace).reverse, ?_, ?_⟩
  · rw [solidText_eq_nil_iff]
    intro c hc
    exact List.mem_takeWhile_imp (List.mem_reverse.mp hc)
  · rw [stripText, ← List.reverse_append, List.takeWhile_append_dropWhile, List.reverse_reverse]

theorem splitWords_of_blank {text : List Char} (h : solidText text = []) : splitWords text = [] := by
  have hdrop : text.dropWhile isSpace = [] := List.dropWhile_eq_nil_iff.mpr (solidText_eq_nil_iff.mp h)
  rw [← splitWords_dropWhile, hdrop, splitWords_nil]

@[simp] theorem splitWords_stripText (text : List Char) : splitWords (stripText text) = splitWords text := by
  obtain ⟨spaces, hspaces, htext⟩ := exists_stripText_append text
  have hhead : spaces.head?.all isSpace = true := by
    cases spaces with
    | nil => rfl
    | cons c spaces => exact solidText_eq_nil_iff.mp hspaces c List.mem_cons_self
  rw [← splitWords_dropWhile text, htext, splitWords_append hhead, splitWords_of_blank hspaces,
    List.append_nil]

/-- The words of texts that a space is between. -/
theorem splitWords_intercalate (sentences : List (List Char)) :
    splitWords ([' '].intercalate sentences) = sentences.flatMap splitWords := by
  induction sentences with
  | nil => rfl
  | cons sentence sentences ih =>
    cases sentences with
    | nil => rw [List.intercalate_singleton, List.flatMap_singleton]
    | cons next sentences =>
      have hspace : isSpace ' ' = true := by decide
      rw [List.intercalate_cons_cons, List.append_assoc, List.singleton_append,
        splitWords_append_cons hspace, ih]
      rfl

/-! ### The words as parts of the text -/

/-- The words hold the characters of the text that are no white space, in order. -/
theorem flatten_splitWords (text : List Char) : (splitWords text).flatten = solidText text := by
  have hsplit : (text.splitOnP isSpace).flatten = solidText text := by
    induction text with
    | nil => rfl
    | cons c text ih =>
      obtain ⟨piece, pieces, hpieces⟩ := List.exists_cons_of_ne_nil (List.splitOnP_ne_nil isSpace text)
      rw [List.splitOnP_cons_eq_if_modifyHead]
      rw [hpieces] at ih ⊢
      by_cases hc : isSpace c = true
      · rw [if_pos hc, List.flatten_cons, List.nil_append, ih, solidText, solidText,
          List.filter_cons_of_neg (by simp [hc])]
      · rw [if_neg hc, List.modifyHead_cons, List.flatten_cons, List.cons_append, ← List.flatten_cons, ih,
          solidText, solidText, List.filter_cons_of_pos (by simp [hc])]
  rw [splitWords, List.flatten_filter_not_isEmpty, hsplit]

theorem ne_nil_of_mem_splitWords {text word : List Char} (h : word ∈ splitWords text) : word ≠ [] := by
  have hfilter := (List.mem_filter.mp h).2
  intro hnil
  rw [hnil] at hfilter
  cases hfilter

theorem isSpace_of_mem_splitWords {text word : List Char} (h : word ∈ splitWords text) {c : Char}
    (hc : c ∈ word) : isSpace c = false := by
  have hmem : c ∈ solidText text := by
    rw [← flatten_splitWords]
    exact List.mem_flatten_of_mem h hc
  have hsolid := (List.mem_filter.mp hmem).2
  rwa [Bool.not_eq_true'] at hsolid

theorem length_le_of_mem_splitWords {text word : List Char} (h : word ∈ splitWords text) :
    word.length ≤ text.length := by
  have hword : word.length ≤ (splitWords text).flatten.length :=
    (List.sublist_flatten_of_mem h).length_le
  rw [flatten_splitWords] at hword
  exact hword.trans (List.length_filter_le _ _)

/-- A text without white space is one word. -/
theorem splitWords_of_solid {word : List Char} (hne : word ≠ []) (h : ∀ c ∈ word, isSpace c = false) :
    splitWords word = [word] := by
  rw [splitWords, List.splitOnP_eq_singleton h]
  cases word with
  | nil => exact (hne rfl).elim
  | cons c word => rfl

end VoiceHarness
