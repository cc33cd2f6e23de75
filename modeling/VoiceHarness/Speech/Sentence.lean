import VoiceHarness.Text
import VoiceHarness.Library.Lazily

/-!
# Sentences

The patterns `_SENTENCE` of `speech.py` and of `llm_transport.py`: the shortest text with a mark at its end,
perhaps in quotes. The first takes the end of the text for the end of a sentence, the second waits for white
space.
-/

set_option autoImplicit false
set_option relaxedAutoImplicit false

namespace VoiceHarness

open Library

/-- `[.!?]`. -/
def isSentenceMark (c : Char) : Bool := c ∈ ['.', '!', '?']

/-- `["']`. -/
def isSentenceQuote (c : Char) : Bool := c = '"' || c = Char.ofNat 0x27

/-- `[.!?]["']?` and what the pattern sees behind it. -/
def sentenceClose (goesOn : List Char → Bool) : List Char → Option (List Char × List Char)
  | [] => none
  | mark :: text =>
    if isSentenceMark mark then
      if text.head?.any isSentenceQuote && goesOn text.tail then
        some (mark :: text.take 1, text.tail)
      else if goesOn text then some ([mark], text)
      else none
    else none

/-- `(?=\s|$)`. -/
def atSpaceOrEnd (text : List Char) : Bool := text.head?.all isSpace

/-- `_SENTENCE` of `speech.py`: the sentence and the text behind it. -/
def speechSentence (text : List Char) : Option (List Char × List Char) :=
  lazily (sentenceClose atSpaceOrEnd) text

/-- `_SENTENCE` of `llm_transport.py`, with the text behind its white space. -/
def replySentence (text : List Char) : Option (List Char × List Char) :=
  (lazily (sentenceClose fun rest ↦ rest.head?.any isSpace) text).map fun found ↦
    (found.1, found.2.dropWhile isSpace)

section

variable {goesOn : List Char → Bool} {text last rest : List Char}

/-- The end of a sentence is a mark, or a mark and a quote. -/
theorem sentenceClose_eq_some (h : sentenceClose goesOn text = some (last, rest)) :
    text = last ++ rest ∧ goesOn rest = true ∧
      ∃ mark, isSentenceMark mark = true ∧
        (last = [mark] ∨ ∃ quote, isSentenceQuote quote = true ∧ last = [mark, quote]) := by
  cases text with
  | nil => cases h
  | cons mark text =>
    rw [sentenceClose] at h
    split_ifs at h with hmark hquoted hplain
    · obtain ⟨rfl, rfl⟩ := Prod.mk.inj (Option.some.inj h)
      rw [Bool.and_eq_true] at hquoted
      cases text with
      | nil => exact absurd hquoted.1 (by simp)
      | cons quote text =>
        exact ⟨rfl, hquoted.2, mark, hmark, .inr ⟨quote, by simpa using hquoted.1, rfl⟩⟩
    · obtain ⟨rfl, rfl⟩ := Prod.mk.inj (Option.some.inj h)
      exact ⟨rfl, hplain, mark, hmark, .inl rfl⟩

/-- A mark and a quote are no white space. -/
theorem not_isSpace_of_isSentenceMark {c : Char} (h : isSentenceMark c = true) : isSpace c = false := by
  simp only [isSentenceMark, List.mem_cons, List.not_mem_nil, or_false, decide_eq_true_eq] at h
  rcases h with rfl | rfl | rfl <;> decide

theorem not_isSpace_of_isSentenceQuote {c : Char} (h : isSentenceQuote c = true) :
    isSpace c = false := by
  simp only [isSentenceQuote, Bool.or_eq_true, decide_eq_true_eq] at h
  rcases h with rfl | rfl <;> decide

end

theorem speechSentence_append {text taken rest : List Char}
    (h : speechSentence text = some (taken, rest)) : text = taken ++ rest := by
  obtain ⟨before, tail, last, rfl, -, hclose, rfl, -⟩ := exists_of_lazily h
  rw [(sentenceClose_eq_some hclose).1, List.append_assoc]

/-- A sentence of a reply, the white space behind it and the rest are the text. -/
theorem replySentence_append {text taken rest : List Char}
    (h : replySentence text = some (taken, rest)) :
    ∃ spaces, solidText spaces = [] ∧ text = taken ++ (spaces ++ rest) := by
  obtain ⟨⟨found, after⟩, hfound, heq⟩ := Option.map_eq_some_iff.mp h
  obtain ⟨rfl, rfl⟩ := Prod.mk.inj heq
  obtain ⟨before, tail, last, rfl, -, hclose, rfl, -⟩ := exists_of_lazily hfound
  refine ⟨after.takeWhile isSpace, ?_, ?_⟩
  · exact solidText_eq_nil_iff.mpr fun c hc ↦ List.mem_takeWhile_imp hc
  · rw [List.takeWhile_append_dropWhile, (sentenceClose_eq_some hclose).1, List.append_assoc]

/-! ### More text behind a sentence -/

section

variable {text more last rest taken : List Char}

theorem atSpaceOrEnd_append (h : rest ≠ []) (more : List Char) :
    atSpaceOrEnd (rest ++ more) = atSpaceOrEnd rest := by
  cases rest with
  | nil => exact absurd rfl h
  | cons c rest => rfl

/-- A quote is seen where more text follows if it was seen before, or is the first of that text. -/
theorem any_head_append (h : text ≠ []) (p : Char → Bool) (more : List Char) :
    (text ++ more).head?.any p = text.head?.any p := by
  cases text with
  | nil => exact absurd rfl h
  | cons c text => rfl

/-- Text that goes on with white space, or behind white space, keeps the end of a sentence. -/
theorem sentenceClose_append (h : sentenceClose atSpaceOrEnd text = some (last, rest))
    (hmore : rest ≠ [] ∨ more.head?.all isSpace = true) :
    sentenceClose atSpaceOrEnd (text ++ more) = some (last, rest ++ more) := by
  have hgoes : ∀ other : List Char, other ≠ [] ∨ more.head?.all isSpace = true →
      atSpaceOrEnd other = true → atSpaceOrEnd (other ++ more) = true := by
    intro other hother hends
    by_cases hnil : other = []
    · subst hnil
      exact hother.resolve_left fun hne ↦ hne rfl
    · rw [atSpaceOrEnd_append hnil]
      exact hends
  cases text with
  | nil => cases h
  | cons mark text =>
    rw [sentenceClose] at h
    rw [List.cons_append, sentenceClose]
    split_ifs at h with hmark hquoted hplain
    · obtain ⟨rfl, rfl⟩ := Prod.mk.inj (Option.some.inj h)
      rw [Bool.and_eq_true] at hquoted
      cases text with
      | nil => exact absurd hquoted.1 (by simp)
      | cons quote text =>
        have hends : atSpaceOrEnd (text ++ more) = true := hgoes text hmore hquoted.2
        have hquote : isSentenceQuote quote = true := by simpa using hquoted.1
        rw [if_pos hmark, if_pos (by simp [hquote, hends])]
        rfl
    · obtain ⟨rfl, rfl⟩ := Prod.mk.inj (Option.some.inj h)
      have hends := hgoes text hmore hplain
      -- the character behind the mark is white space, or the text ends there
      have hquote : (text ++ more).head?.any isSentenceQuote = false := by
        cases hhead : (text ++ more).head? with
        | none => rfl
        | some c =>
          rw [atSpaceOrEnd, hhead] at hends
          show isSentenceQuote c = false
          by_contra hnot
          have hspace : isSpace c = true := hends
          rw [not_isSpace_of_isSentenceQuote (by simpa using hnot)] at hspace
          cases hspace
      rw [if_pos hmark, hquote, Bool.false_and, if_neg Bool.false_ne_true, if_pos hends]

/-- More text makes no end of a sentence where there was none. -/
theorem sentenceClose_append_eq_none (hne : text ≠ []) (h : sentenceClose atSpaceOrEnd text = none)
    (more : List Char) : sentenceClose atSpaceOrEnd (text ++ more) = none := by
  cases text with
  | nil => exact absurd rfl hne
  | cons mark text =>
    rw [sentenceClose] at h
    rw [List.cons_append, sentenceClose]
    split_ifs at h with hmark hquoted hplain
    · have hnil : text ≠ [] := by
        rintro rfl
        exact hplain rfl
      have htail : text.tail = [] → text.head?.any isSentenceQuote = false := by
        intro htail
        by_contra hquote
        refine hquoted ?_
        rw [Bool.and_eq_true, htail]
        exact ⟨by simpa using hquote, rfl⟩
      have hsame : ((text ++ more).head?.any isSentenceQuote && atSpaceOrEnd (text ++ more).tail) = true →
          False := by
        intro hboth
        rw [Bool.and_eq_true, any_head_append hnil, List.tail_append_of_ne_nil hnil] at hboth
        by_cases hend : text.tail = []
        · rw [htail hend] at hboth
          cases hboth.1
        · rw [atSpaceOrEnd_append hend] at hboth
          exact hquoted (by rw [Bool.and_eq_true]; exact hboth)
      rw [if_pos hmark, if_neg hsame, atSpaceOrEnd_append hnil, if_neg hplain]
    · rw [if_neg hmark]

/-- A sentence that text goes on behind at once is none, or is one character longer. -/
theorem sentenceClose_append_of_solid {c : Char} (h : sentenceClose atSpaceOrEnd text = some (last, []))
    (hc : isSpace c = false) {longer : List Char}
    (hother : sentenceClose atSpaceOrEnd (text ++ c :: more) = some (longer, rest)) :
    longer = last ++ [c] := by
  obtain ⟨htext, -, mark, hmark, hlast⟩ := sentenceClose_eq_some h
  rw [List.append_nil] at htext
  have hends : ∀ behind : List Char, atSpaceOrEnd (c :: behind) = false := fun _ ↦ hc
  rcases hlast with rfl | ⟨quote, hquote, rfl⟩ <;> subst htext
  · rw [List.cons_append, List.nil_append, sentenceClose, if_pos hmark, hends more] at hother
    by_cases hquoted : ((c :: more).head?.any isSentenceQuote && atSpaceOrEnd (c :: more).tail) = true
    · rw [if_pos hquoted] at hother
      obtain ⟨rfl, -⟩ := Prod.mk.inj (Option.some.inj hother)
      rfl
    · rw [if_neg hquoted, if_neg Bool.false_ne_true] at hother
      cases hother
  · have hplain : atSpaceOrEnd (quote :: c :: more) = false := not_isSpace_of_isSentenceQuote hquote
    rw [List.cons_append, List.cons_append, List.nil_append, sentenceClose, if_pos hmark, hplain,
      List.tail_cons, hends more] at hother
    simp at hother

theorem not_isSentenceMark_of_isSentenceQuote {c : Char} (h : isSentenceQuote c = true) :
    isSentenceMark c ≠ true := by
  simp only [isSentenceQuote, Bool.or_eq_true, decide_eq_true_eq] at h
  rcases h with rfl | rfl <;> decide

/-- White space in front of a text hides no sentence of it. -/
theorem sentenceClose_of_isSpace {c : Char} (h : isSpace c = true) (text : List Char) :
    sentenceClose atSpaceOrEnd (c :: text) = none := by
  rw [sentenceClose, if_neg]
  intro hmark
  rw [not_isSpace_of_isSentenceMark hmark] at h
  cases h

/-! ### Sentences of a text that goes on -/

theorem speechSentence_append_of (h : speechSentence text = some (taken, rest))
    (hmore : rest ≠ [] ∨ more.head?.all isSpace = true) :
    speechSentence (text ++ more) = some (taken, rest ++ more) := by
  obtain ⟨before, tail, last, rfl, hne, hclose, rfl, hnone⟩ := exists_of_lazily h
  have htail : tail ≠ [] := by
    rintro rfl
    cases hclose
  rw [List.append_assoc]
  refine lazily_append hne (sentenceClose_append hclose hmore) fun first second hsplit hfirst hsecond ↦ ?_
  rw [← List.append_assoc]
  exact sentenceClose_append_eq_none (List.append_ne_nil_of_left_ne_nil hsecond _)
    (hnone first second hsplit hfirst hsecond) more

/-- A text without a sentence is in the first sentence it is continued to. -/
theorem exists_of_speechSentence_append (h : speechSentence text = none)
    (hmore : speechSentence (text ++ more) = some (taken, rest)) :
    ∃ added, taken = text ++ added ∧ added ≠ [] ∧ more = added ++ rest := by
  obtain ⟨before, tail, last, hsplit, hne, hclose, rfl, -⟩ := exists_of_lazily hmore
  have hlast : tail = last ++ rest := (sentenceClose_eq_some hclose).1
  have hlastNe : last ≠ [] := by
    rintro rfl
    obtain ⟨-, -, mark, -, heq | ⟨quote, -, heq⟩⟩ := sentenceClose_eq_some hclose <;> cases heq
  rcases List.append_eq_append_iff.mp hsplit with ⟨more', rfl, rfl⟩ | ⟨second, rfl, rfl⟩
  · refine ⟨more' ++ last, by rw [List.append_assoc], by simp [hlastNe], ?_⟩
    rw [hlast, List.append_assoc]
  · by_cases hsecond : second = []
    · subst hsecond
      rw [List.nil_append] at hlast
      exact ⟨last, by rw [List.append_nil], hlastNe, hlast⟩
    · have hnone := lazily_eq_none_iff.mp h before second rfl hne
      rw [sentenceClose_append_eq_none hsecond hnone] at hclose
      cases hclose

/-- A sentence that text goes on behind at once is longer, or is no sentence. -/
theorem length_lt_of_speechSentence_append {c : Char} {longer : List Char}
    (h : speechSentence text = some (taken, [])) (hc : isSpace c = false)
    (hmore : speechSentence (text ++ c :: more) = some (longer, rest)) :
    text.length < longer.length := by
  obtain ⟨before, tail, last, rfl, hne, hclose, rfl, hnone⟩ := exists_of_lazily h
  obtain ⟨other, otherTail, otherLast, hsplit, hotherNe, hotherClose, rfl, -⟩ := exists_of_lazily hmore
  obtain ⟨htail, -, mark, -, hlast⟩ := sentenceClose_eq_some hclose
  rw [List.append_nil] at htail
  have hotherLast : otherLast ≠ [] := by
    rintro rfl
    obtain ⟨-, -, mark, -, heq | ⟨quote, -, heq⟩⟩ := sentenceClose_eq_some hotherClose <;> cases heq
  have hpositive := List.length_pos_iff.mpr hotherLast
  subst htail
  rw [List.append_assoc] at hsplit
  rw [List.length_append, List.length_append]
  have hsame : otherTail = tail ++ c :: more → tail.length < otherLast.length := by
    rintro rfl
    have hlonger := sentenceClose_append_of_solid hclose hc hotherClose
    rw [hlonger, List.length_append, List.length_singleton]
    exact Nat.lt_succ_self _
  rcases List.append_eq_append_iff.mp hsplit with ⟨added, rfl, hadded⟩ | ⟨second, rfl, rfl⟩
  · rw [List.length_append]
    rcases added with _ | ⟨first, added⟩
    · have := hsame hadded.symm
      rw [List.length_nil]
      omega
    · rw [List.length_cons]
      rcases hlast with rfl | ⟨quote, hquote, rfl⟩
      · rw [List.length_singleton]
        omega
      · cases added with
        | nil =>
          -- a sentence does not end at its quote
          obtain rfl : quote :: c :: more = otherTail := (List.cons.inj hadded).2
          rw [sentenceClose, if_neg (not_isSentenceMark_of_isSentenceQuote hquote)] at hotherClose
          cases hotherClose
        | cons second added =>
          simp only [List.length_cons, List.length_nil]
          omega
  · by_cases hsecond : second = []
    · subst hsecond
      have := hsame rfl
      rw [List.append_nil]
      omega
    · have hclosed := hnone other second rfl hotherNe hsecond
      rw [← List.append_assoc, sentenceClose_append_eq_none (List.append_ne_nil_of_left_ne_nil hsecond _)
        hclosed] at hotherClose
      cases hotherClose

end

end VoiceHarness
