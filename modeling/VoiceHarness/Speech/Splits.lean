import VoiceHarness.Speech.Streaming

/-!
# Texts that go on

The sentences of a text that goes on behind a buffer, the first sentence that a renderer says of it, and what
white space in front of it changes.
-/

set_option autoImplicit false
set_option relaxedAutoImplicit false

namespace VoiceHarness

open Library

/-- The buffer ends with a sentence and the text goes on at once. -/
def EndsEarly (buffer after : List Char) : Prop :=
  remainder buffer = [] ∧ buffer.getLast?.any (!isSpace ·) = true ∧ after.head?.any (!isSpace ·) = true

/-- A text starts with a mark alone, and more text follows. -/
def StartsWithMark (text after : List Char) : Prop :=
  ∃ last rest, sentenceClose atSpaceOrEnd text = some (last, rest) ∧ stripText (rest ++ after) ≠ []

section

variable {buffer delta after text more spaces : List Char} {deltas : List (List Char)}

theorem dropWhile_append_of_ne_nil {first : List Char} (h : first.dropWhile isSpace ≠ [])
    (second : List Char) :
    (first ++ second).dropWhile isSpace = first.dropWhile isSpace ++ second := by
  rw [List.dropWhile_append, if_neg]
  simpa using h

theorem dropWhile_append_of_blank {first : List Char} (h : solidText first = []) (second : List Char) :
    (first ++ second).dropWhile isSpace = second.dropWhile isSpace := by
  rw [List.dropWhile_append, if_pos]
  rw [solidText_dropWhile_eq_nil h]
  rfl

theorem getLast?_dropWhile {first : List Char} (h : first.dropWhile isSpace ≠ []) :
    (first.dropWhile isSpace).getLast? = first.getLast? := by
  have hsplit := List.takeWhile_append_dropWhile (p := isSpace) (l := first)
  rw [← List.getLast?_append_of_ne_nil (first.takeWhile isSpace) h, hsplit]

/-- What is left of a buffer is continued. -/
theorem sentencesOf_append_of_remainder (h : remainder buffer ≠ []) (more : List Char) :
    sentencesOf (buffer ++ more) = sentencesIn buffer ++ sentencesOf (remainder buffer ++ more) := by
  induction buffer using renderSentences.induct id with
  | case1 buffer hnone =>
    rw [sentencesIn_of_none hnone, remainder_of_none hnone]
    rfl
  | case2 buffer sentence rest hsome ih =>
    rw [remainder_of_some hsome] at h ⊢
    have hdrop : rest.dropWhile isSpace ≠ [] := by
      intro hnil
      rw [hnil] at h
      exact h remainder_nil
    have hrest : rest ≠ [] := by
      rintro rfl
      exact hdrop rfl
    rw [sentencesIn_of_some hsome, sentencesOf_of_some (speechSentence_append_of hsome (.inl hrest)),
      dropWhile_append_of_ne_nil hdrop, ih h]
    rfl

/-- Where nothing is left the text goes on behind the white space. -/
theorem sentencesOf_append_of_nil (h : remainder buffer = []) (hne : buffer ≠ [])
    (hearly : ¬ EndsEarly buffer more) :
    sentencesOf (buffer ++ more) = sentencesIn buffer ++ sentencesOf (more.dropWhile isSpace) := by
  induction buffer using renderSentences.induct id with
  | case1 buffer hnone =>
    rw [remainder_of_none hnone] at h
    exact absurd h hne
  | case2 buffer sentence rest hsome ih =>
    have hsplit := speechSentence_append hsome
    rw [sentencesIn_of_some hsome]
    by_cases hblank : solidText rest = []
    · have hspace : rest ≠ [] ∨ more.head?.all isSpace = true := by
        by_cases hrest : rest = []
        · right
          subst hrest
          rw [List.append_nil] at hsplit
          obtain ⟨first, last, hlast, hsolid⟩ := exists_getLast_of_speechSentence hsome
          have hend : buffer.getLast?.any (!isSpace ·) = true := by
            rw [hsplit, hlast, List.getLast?_concat]
            simpa using hsolid
          cases more with
          | nil => rfl
          | cons c more =>
            show isSpace c = true
            by_contra hc
            exact hearly ⟨h, hend, by simpa using hc⟩
        · exact .inl hrest
      rw [sentencesOf_of_some (speechSentence_append_of hsome hspace), dropWhile_append_of_blank hblank,
        solidText_dropWhile_eq_nil hblank, sentencesIn_of_none speechSentence_nil]
      rfl
    · have hdrop : rest.dropWhile isSpace ≠ [] := by
        intro hnil
        rw [← solidText_dropWhile, hnil] at hblank
        exact hblank rfl
      have hrest : rest ≠ [] := by
        rintro rfl
        exact hblank rfl
      rw [remainder_of_some hsome] at h
      have hlater : ¬ EndsEarly (rest.dropWhile isSpace) more := by
        rintro ⟨-, hend, hhead⟩
        refine hearly ⟨by rw [remainder_of_some hsome, h], ?_, hhead⟩
        have hlast : (rest.dropWhile isSpace).getLast? = buffer.getLast? := by
          rw [hsplit, List.getLast?_append_of_ne_nil _ hrest]
          exact getLast?_dropWhile hdrop
        rw [← hlast]
        exact hend
      rw [sentencesOf_of_some (speechSentence_append_of hsome (.inl hrest)),
        dropWhile_append_of_ne_nil hdrop, ih h hdrop hlater]
      rfl

/-- A sentence that ends early is the start of a longer one. -/
theorem exists_of_endsEarly (h : EndsEarly buffer more) :
    ∃ sentences last longer others, sentencesIn buffer = sentences ++ [last] ∧
      sentencesOf (buffer ++ more) = sentences ++ longer :: others ∧ last ≠ longer := by
  obtain ⟨hnil, hend, hhead⟩ := h
  induction buffer using renderSentences.induct id with
  | case1 buffer hnone =>
    rw [remainder_of_none hnone] at hnil
    rw [hnil] at hend
    cases hend
  | case2 buffer sentence rest hsome ih =>
    have hsplit := speechSentence_append hsome
    rw [remainder_of_some hsome] at hnil
    rw [sentencesIn_of_some hsome]
    by_cases hrest : rest = []
    · subst hrest
      rw [List.append_nil] at hsplit
      subst hsplit
      obtain ⟨c, after, rfl⟩ : ∃ c after, more = c :: after := by
        cases more with
        | nil => cases hhead
        | cons c after => exact ⟨c, after, rfl⟩
      have hc : isSpace c = false := by simpa using hhead
      have hlonger : ∀ added, solidText (buffer ++ c :: added) ≠ solidText buffer := by
        intro added heq
        rw [solidText_append] at heq
        have hlength := congrArg List.length heq
        rw [solidText, solidText, List.filter_cons_of_pos (by simp [hc]), List.length_append,
          List.length_cons] at hlength
        omega
      refine ⟨[], stripText buffer, ?_⟩
      rw [List.dropWhile_nil, sentencesIn_of_none speechSentence_nil]
      rcases hgoes : speechSentence (buffer ++ c :: after) with _ | ⟨longer, behind⟩
      · rw [sentencesOf_of_none hgoes, lastSentence]
        have hsolid : stripText (buffer ++ c :: after) ≠ [] := by
          intro hblank
          rw [stripText_eq_nil_iff, solidText_eq_nil_iff] at hblank
          rw [hblank c (by simp)] at hc
          cases hc
        rw [if_neg hsolid]
        refine ⟨_, [], rfl, rfl, fun heq ↦ hlonger after ?_⟩
        rw [← solidText_stripText, ← heq, solidText_stripText]
      · rw [sentencesOf_of_some hgoes]
        refine ⟨_, _, rfl, rfl, fun heq ↦ ?_⟩
        have hlt := length_lt_of_speechSentence_append hsome hc hgoes
        have hprefix := speechSentence_append hgoes
        rcases List.append_eq_append_iff.mp hprefix with ⟨added, rfl, hadded⟩ | ⟨second, rfl, -⟩
        · cases added with
          | nil => simp at hlt
          | cons other added =>
            obtain ⟨rfl, -⟩ := List.cons.inj hadded
            refine hlonger added ?_
            rw [← solidText_stripText, ← heq, solidText_stripText]
        · rw [List.length_append] at hlt
          omega
    · have hdropEnd : (rest.dropWhile isSpace).getLast?.any (!isSpace ·) = true ∧
          rest.dropWhile isSpace ≠ [] := by
        rw [hsplit, List.getLast?_append_of_ne_nil _ hrest] at hend
        have hdrop : rest.dropWhile isSpace ≠ [] := by
          intro hblank
          rw [List.dropWhile_eq_nil_iff] at hblank
          rw [List.getLast?_eq_some_getLast hrest, Option.any_some, hblank _ (List.getLast_mem hrest)] at hend
          cases hend
        rw [getLast?_dropWhile hdrop]
        exact ⟨hend, hdrop⟩
      obtain ⟨sentences, last, longer, others, hin, hof, hne⟩ := ih hnil hdropEnd.1
      refine ⟨stripText sentence :: sentences, last, longer, others, by rw [hin]; rfl, ?_, hne⟩
      rw [sentencesOf_of_some (speechSentence_append_of hsome (.inl hrest)),
        dropWhile_append_of_ne_nil hdropEnd.2, hof]
      rfl

/-! ### The first sentence -/

/-- The text is the first sentence of a text that starts with it. -/
def IsSentence (text : List Char) : Prop := ∃ rest, speechSentence (text ++ rest) = some (text, rest)

theorem isSentence_of_speechSentence {sentence rest : List Char}
    (h : speechSentence buffer = some (sentence, rest)) : IsSentence sentence :=
  ⟨rest, by rw [← speechSentence_append h, h]⟩

theorem lastSentence_of_solid (h : solidText text ≠ []) : lastSentence text = [stripText text] :=
  if_neg (mt stripText_eq_nil_iff.mp h)

/-- A first sentence takes what was left before and some of what follows. -/
theorem exists_taken (hnone : speechSentence buffer = none) {sentence rest : List Char}
    (hsome : speechSentence (buffer ++ text) = some (sentence, rest)) :
    ∃ taken, sentence = buffer ++ taken ∧ taken <+: text ∧ solidText taken ≠ [] := by
  obtain ⟨taken, rfl, hne, rfl⟩ := exists_of_speechSentence_append hnone hsome
  obtain ⟨first, last, hlast, hend⟩ := exists_getLast_of_speechSentence hsome
  refine ⟨taken, rfl, List.prefix_append _ _, ?_⟩
  rcases List.eq_nil_or_concat taken with rfl | ⟨start, other, rfl⟩
  · exact absurd rfl hne
  · rw [List.concat_eq_append, ← List.append_assoc] at hlast
    obtain ⟨-, hother⟩ := List.append_inj' hlast rfl
    obtain rfl := List.head_eq_of_cons_eq hother
    rw [List.concat_eq_append, solidText_append]
    refine List.append_ne_nil_of_right_ne_nil _ ?_
    rw [solidText, List.filter_cons_of_pos (by simp [hend])]
    exact List.cons_ne_nil _ _

theorem exists_first_sentencesOf (hnone : speechSentence buffer = none) (hsolid : solidText text ≠ []) :
    ∃ taken others, sentencesOf (buffer ++ text) = stripText (buffer ++ taken) :: others ∧
      taken <+: text ∧ solidText taken ≠ [] ∧ (IsSentence (buffer ++ taken) ∨ taken = text) := by
  rcases hsome : speechSentence (buffer ++ text) with _ | ⟨sentence, rest⟩
  · refine ⟨text, [], ?_, List.prefix_rfl, hsolid, .inr rfl⟩
    have hall : solidText (buffer ++ text) ≠ [] := by
      rw [solidText_append]
      exact List.append_ne_nil_of_right_ne_nil _ hsolid
    rw [sentencesOf_of_none hsome, lastSentence_of_solid hall]
  · obtain ⟨taken, rfl, hprefix, htaken⟩ := exists_taken hnone hsome
    exact ⟨taken, _, sentencesOf_of_some hsome, hprefix, htaken,
      .inl (isSentence_of_speechSentence hsome)⟩

/-- The white space in front of a text. -/
def leadingSpace (text : List Char) : ℕ := (text.takeWhile isSpace).length

theorem leadingSpace_append_of_blank (h : solidText spaces = []) (text : List Char) :
    leadingSpace (spaces ++ text) = spaces.length + leadingSpace text := by
  have hall : ∀ c ∈ spaces, isSpace c = true := solidText_eq_nil_iff.mp h
  rw [leadingSpace, leadingSpace, List.takeWhile_append_of_pos hall, List.length_append]

theorem leadingSpace_append_of_solid (h : solidText text ≠ []) (more : List Char) :
    leadingSpace (text ++ more) = leadingSpace text := by
  rw [leadingSpace, leadingSpace, List.takeWhile_append, if_neg]
  intro hlength
  refine h (solidText_eq_nil_iff.mpr fun c hc ↦ ?_)
  have hwhole := (List.takeWhile_sublist (l := text) isSpace).eq_of_length hlength
  rw [← hwhole] at hc
  exact List.mem_takeWhile_imp hc

/-- Only white space follows. -/
theorem sentencesFrom_of_blanks (h : solidText deltas.flatten = []) (buffer : List Char) :
    sentencesFrom buffer deltas = lastSentence buffer := by
  induction deltas with
  | nil => rw [sentencesFrom_nil]
  | cons delta deltas ih =>
    rw [List.flatten_cons, solidText_append, List.append_eq_nil_iff] at h
    rw [sentencesFrom_of_blank h.1, ih h.2]

theorem flatten_ne_nil_of_solid (h : solidText (delta :: deltas).flatten ≠ [])
    (hblank : solidText delta = []) : solidText deltas.flatten ≠ [] := by
  rw [List.flatten_cons, solidText_append, hblank, List.nil_append] at h
  exact h

/-- The first sentence of a text in deltas has no more white space between what was left before and what
follows. -/
theorem exists_first_sentencesFrom (hnone : speechSentence buffer = none)
    (hsolid : solidText deltas.flatten ≠ []) :
    ∃ taken others, sentencesFrom buffer deltas = stripText (buffer ++ taken) :: others ∧
      solidText taken ≠ [] ∧ leadingSpace taken ≤ leadingSpace deltas.flatten ∧
        (IsSentence (buffer ++ taken) ∨ solidText taken = solidText deltas.flatten) := by
  induction deltas generalizing buffer with
  | nil => exact absurd rfl hsolid
  | cons delta deltas ih =>
    by_cases hblank : solidText delta = []
    · have hlater := flatten_ne_nil_of_solid hsolid hblank
      obtain ⟨taken, others, hfrom, htaken, hlead, hend⟩ := ih hnone hlater
      refine ⟨taken, others, by rw [sentencesFrom_of_blank hblank, hfrom], htaken, ?_, ?_⟩
      · rw [List.flatten_cons, leadingSpace_append_of_blank hblank]
        omega
      · rw [List.flatten_cons, solidText_append, hblank]
        exact hend
    · rw [sentencesFrom_of_solid hblank, List.flatten_cons, leadingSpace_append_of_solid hblank]
      rcases hsome : speechSentence (buffer ++ delta) with _ | ⟨sentence, rest⟩
      · rw [sentencesIn_of_none hsome, remainder_of_none hsome, List.nil_append]
        by_cases hlater : solidText deltas.flatten = []
        · refine ⟨delta, [], ?_, hblank, le_rfl, .inr ?_⟩
          · rw [sentencesFrom_of_blanks hlater, lastSentence_of_solid]
            rw [solidText_append]
            exact List.append_ne_nil_of_right_ne_nil _ hblank
          · rw [solidText_append, hlater, List.append_nil]
        · obtain ⟨taken, others, hfrom, htaken, -, hend⟩ := ih hsome hlater
          rw [List.append_assoc] at hfrom hend
          refine ⟨delta ++ taken, others, hfrom, ?_, ?_, ?_⟩
          · rw [solidText_append]
            exact List.append_ne_nil_of_left_ne_nil hblank _
          · rw [leadingSpace_append_of_solid hblank]
          · rw [solidText_append, solidText_append]
            exact hend.imp_right fun heq ↦ by rw [heq]
      · obtain ⟨taken, rfl, ⟨behind, rfl⟩, htaken⟩ := exists_taken hnone hsome
        refine ⟨taken, _, by rw [sentencesIn_of_some hsome]; rfl, htaken, ?_,
          .inl (isSentence_of_speechSentence hsome)⟩
        rw [leadingSpace_append_of_solid htaken]

/-! ### A sentence that starts with a mark -/

theorem leadingSpace_of_close {last rest : List Char}
    (h : sentenceClose atSpaceOrEnd text = some (last, rest)) : leadingSpace text = 0 := by
  obtain ⟨rfl, -, mark, hmark, hlast⟩ := sentenceClose_eq_some h
  rcases hlast with rfl | ⟨quote, -, rfl⟩ <;>
    exact congrArg List.length (List.takeWhile_cons_of_neg (by simp [not_isSpace_of_isSentenceMark hmark]))

theorem solidText_of_close {last rest : List Char}
    (h : sentenceClose atSpaceOrEnd text = some (last, rest)) : solidText text ≠ [] := by
  obtain ⟨rfl, -, mark, hmark, hlast⟩ := sentenceClose_eq_some h
  intro hnil
  have hmem : mark ∈ last ++ rest := by rcases hlast with rfl | ⟨quote, -, rfl⟩ <;> simp
  have hspace := solidText_eq_nil_iff.mp hnil mark hmem
  rw [not_isSpace_of_isSentenceMark hmark] at hspace
  cases hspace

/-- A mark alone is a sentence where white space is in front of it. -/
theorem speechSentence_of_close {last rest : List Char}
    (h : sentenceClose atSpaceOrEnd text = some (last, rest)) (hne : spaces ≠ [])
    (hblank : solidText spaces = []) : speechSentence (spaces ++ text) = some (spaces ++ last, rest) := by
  refine lazily_append hne h fun first second hsplit _ hsecond ↦ ?_
  cases second with
  | nil => exact absurd rfl hsecond
  | cons c second =>
    have hc : isSpace c = true := solidText_eq_nil_iff.mp hblank c (by rw [hsplit]; simp)
    exact sentenceClose_of_isSpace hc _

theorem stripText_append_of_blank (h : solidText spaces = []) (text : List Char) :
    stripText (spaces ++ text) = stripText text := by
  rw [stripText, dropWhile_append_of_blank h]
  rfl

/-- A text without white space around it. -/
theorem stripText_eq_self {first : List Char} {last : Char} (hlead : leadingSpace (first ++ [last]) = 0)
    (hlast : isSpace last = false) : stripText (first ++ [last]) = first ++ [last] := by
  have hdrop : (first ++ [last]).dropWhile isSpace = first ++ [last] := by
    have hsplit := List.takeWhile_append_dropWhile (p := isSpace) (l := first ++ [last])
    rw [List.eq_nil_of_length_eq_zero hlead, List.nil_append] at hsplit
    exact hsplit
  rw [stripText, hdrop, List.reverse_append, List.reverse_singleton, List.singleton_append,
    List.dropWhile_cons_of_neg (by simp [hlast]), List.reverse_cons, List.reverse_reverse]

/-- A mark alone has no white space around it. -/
theorem stripText_of_close {last rest : List Char}
    (h : sentenceClose atSpaceOrEnd text = some (last, rest)) : stripText last = last := by
  obtain ⟨-, -, mark, hmark, rfl | ⟨quote, hquote, rfl⟩⟩ := sentenceClose_eq_some h
  · have hspace := not_isSpace_of_isSentenceMark hmark
    have hlead : leadingSpace ([] ++ [mark]) = 0 :=
      congrArg List.length (List.takeWhile_cons_of_neg (by simp [hspace]))
    exact stripText_eq_self hlead hspace
  · have hspace := not_isSpace_of_isSentenceMark hmark
    have hlead : leadingSpace ([mark] ++ [quote]) = 0 :=
      congrArg List.length (List.takeWhile_cons_of_neg (by simp [hspace]))
    exact stripText_eq_self hlead (not_isSpace_of_isSentenceQuote hquote)

/-- A mark is no sentence of its own in a text that starts with it. -/
theorem stripText_ne_of_isSentence {last rest taken : List Char}
    (hclose : sentenceClose atSpaceOrEnd text = some (last, rest)) (hrest : solidText (rest ++ after) ≠ [])
    (hlead : leadingSpace taken = 0)
    (hend : IsSentence taken ∨ solidText taken = solidText (text ++ after)) : stripText taken ≠ last := by
  obtain ⟨rfl, -, mark, -, hmark⟩ := sentenceClose_eq_some hclose
  intro hstrip
  rcases hend with ⟨behind, hsome⟩ | hsolid
  · obtain ⟨first, final, htaken, hfinal⟩ := exists_getLast_of_speechSentence hsome
    rw [htaken] at hlead
    have hself : taken = last := by
      rw [← hstrip, htaken, stripText_eq_self hlead hfinal]
    obtain ⟨before, tail, close, -, hbefore, hend, htail, -⟩ := exists_of_lazily hsome
    obtain ⟨-, -, other, hother, hlength⟩ := sentenceClose_eq_some hend
    have hpositive := List.length_pos_iff.mpr hbefore
    have htotal : last = before ++ close := hself.symm.trans htail
    rcases hmark with rfl | ⟨quote, hquote, rfl⟩ <;> rcases hlength with rfl | ⟨second, -, rfl⟩
    · have hlong := congrArg List.length htotal
      simp only [List.length_append, List.length_cons, List.length_nil] at hlong
      omega
    · have hlong := congrArg List.length htotal
      simp only [List.length_append, List.length_cons, List.length_nil] at hlong
      omega
    · -- the quote would be the mark of the sentence
      have hsame : [mark] ++ [quote] = before ++ [other] := htotal
      obtain ⟨-, hcons⟩ := List.append_inj' hsame rfl
      obtain rfl := List.head_eq_of_cons_eq hcons
      exact not_isSentenceMark_of_isSentenceQuote hquote hother
    · have hlong := congrArg List.length htotal
      simp only [List.length_append, List.length_cons, List.length_nil] at hlong
      omega
  · rw [← solidText_stripText, hstrip, List.append_assoc, solidText_append] at hsolid
    exact hrest (List.self_eq_append_right.mp hsolid)

/-- Without a later mark there is no sentence. -/
theorem speechSentence_cons_eq_none {c : Char} (h : ∀ other ∈ text, isSentenceMark other = false) :
    speechSentence (c :: text) = none := by
  rw [speechSentence, lazily_eq_none_iff]
  intro first second hsplit hfirst
  cases second with
  | nil => rfl
  | cons other second =>
    have hmem : other ∈ text := by
      cases first with
      | nil => exact absurd rfl hfirst
      | cons head first =>
        obtain ⟨-, rfl⟩ := List.cons.inj hsplit
        exact List.mem_append_right _ List.mem_cons_self
    rw [sentenceClose, if_neg (by simp [h other hmem])]

/-- A mark with nothing but white space behind it is no sentence. -/
theorem speechSentence_of_mark {last rest : List Char}
    (h : sentenceClose atSpaceOrEnd text = some (last, rest)) (hrest : solidText rest = []) :
    speechSentence text = none := by
  have hmarks : ∀ c ∈ rest, isSentenceMark c = false := by
    intro c hc
    by_contra hmark
    have hspace := not_isSpace_of_isSentenceMark (by simpa using hmark)
    rw [solidText_eq_nil_iff.mp hrest c hc] at hspace
    cases hspace
  obtain ⟨rfl, -, mark, -, rfl | ⟨quote, hquote, rfl⟩⟩ := sentenceClose_eq_some h
  · exact speechSentence_cons_eq_none hmarks
  · refine speechSentence_cons_eq_none fun c hc ↦ ?_
    rcases List.mem_cons.mp hc with rfl | hrestMem
    · simpa using not_isSentenceMark_of_isSentenceQuote hquote
    · exact hmarks c hrestMem

theorem stripText_append_blank (h : solidText spaces = []) (text : List Char) :
    stripText (text ++ spaces) = stripText text := by
  by_cases hblank : solidText text = []
  · rw [stripText_append_of_blank hblank, stripText_eq_nil_iff.mpr h, stripText_eq_nil_iff.mpr hblank]
  · have hdrop : text.dropWhile isSpace ≠ [] := by
      intro hnil
      rw [← solidText_dropWhile, hnil] at hblank
      exact hblank rfl
    have hreverse : solidText spaces.reverse = [] := by rw [solidText_reverse, h, List.reverse_nil]
    rw [stripText, stripText, dropWhile_append_of_ne_nil hdrop, List.reverse_append,
      dropWhile_append_of_blank hreverse]

/-! ### White space in front of a text -/

/-- White space in front of a text changes nothing, unless the text starts with a mark alone. -/
theorem sentencesOf_append_of_blank (hblank : solidText spaces = []) (h : ¬ StartsWithMark text []) :
    sentencesOf (spaces ++ text) = sentencesOf text := by
  by_cases hspaces : spaces = []
  · rw [hspaces, List.nil_append]
  have hall : ∀ c ∈ spaces, isSpace c = true := solidText_eq_nil_iff.mp hblank
  rcases hclose : sentenceClose atSpaceOrEnd text with _ | ⟨last, rest⟩
  · have hlazily : speechSentence (spaces ++ text) =
        (speechSentence text).map fun found ↦ (spaces ++ found.1, found.2) := by
      clear hblank h
      induction spaces with
      | nil => exact absurd rfl hspaces
      | cons c spaces ih =>
        have hnone : sentenceClose atSpaceOrEnd (spaces ++ text) = none := by
          cases spaces with
          | nil => exact hclose
          | cons other spaces => exact sentenceClose_of_isSpace (hall other (by simp)) _
        rw [List.cons_append, speechSentence, lazily_cons_of_none hnone]
        by_cases hnil : spaces = []
        · subst hnil
          rfl
        · have hlater := ih hnil fun other hother ↦ hall other (List.mem_cons_of_mem _ hother)
          rw [speechSentence] at hlater
          rw [hlater, Option.map_map]
          rfl
    rcases hsome : speechSentence text with _ | ⟨sentence, rest⟩
    · rw [hsome] at hlazily
      rw [sentencesOf_of_none hlazily, sentencesOf_of_none hsome, lastSentence, lastSentence,
        stripText_append_of_blank hblank]
    · rw [hsome] at hlazily
      rw [sentencesOf_of_some hlazily, sentencesOf_of_some hsome, stripText_append_of_blank hblank]
  · -- nothing but white space follows the mark
    have hrest : solidText rest = [] := by
      by_contra hsolid
      refine h ⟨last, rest, hclose, ?_⟩
      rw [List.append_nil]
      exact mt stripText_eq_nil_iff.mp hsolid
    have hnone := speechSentence_of_mark hclose hrest
    have hsome := speechSentence_of_close hclose hspaces hblank
    have hsolid := solidText_of_close hclose
    obtain ⟨rfl, -, -⟩ := sentenceClose_eq_some hclose
    rw [sentencesOf_of_some hsome, sentencesOf_of_none hnone, stripText_append_of_blank hblank,
      solidText_dropWhile_eq_nil hrest, sentencesOf_nil, lastSentence_of_solid hsolid,
      stripText_append_blank hrest]

end

end VoiceHarness
