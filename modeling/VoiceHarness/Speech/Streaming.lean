import VoiceHarness.Speech.Sentence

/-!
# Streamed speech

`StreamingSpeechRenderer` of `speech.py`. It takes a text in deltas and renders each sentence as soon as its
buffer ends it. What it says depends on where the deltas end: a delta of white space is not heard, a sentence at
the end of the buffer may be none in the text, and white space at the start of a delta can make a sentence of a
mark alone.
-/

set_option autoImplicit false
set_option relaxedAutoImplicit false

namespace VoiceHarness

open Library

/-- A sentence is not empty: the text behind it is shorter. -/
theorem length_lt_of_speechSentence {buffer sentence rest : List Char}
    (h : speechSentence buffer = some (sentence, rest)) :
    (rest.dropWhile isSpace).length < buffer.length := by
  obtain ⟨before, tail, last, rfl, hne, hclose, -, -⟩ := exists_of_lazily h
  have hpositive := List.length_pos_iff.mpr hne
  have hdrop := (List.dropWhile_sublist (l := rest) isSpace).length_le
  rw [(sentenceClose_eq_some hclose).1, List.length_append, List.length_append]
  omega

/-- The loop of `feed`: the rendered sentences of a buffer and what is left of it. -/
def renderSentences (render : List Char → List Char) (buffer : List Char) :
    List (List Char) × List Char :=
  match _h : speechSentence buffer with
  | none => ([], buffer)
  | some (sentence, rest) =>
    let rendered := renderSentences render (rest.dropWhile isSpace)
    (render (stripText sentence) :: rendered.1, rendered.2)
termination_by buffer.length
decreasing_by exact length_lt_of_speechSentence _h

/-- `StreamingSpeechRenderer`, with the function of its renderer. -/
structure StreamingSpeechRenderer where
  render : List Char → List Char
  buffer : List Char

namespace StreamingSpeechRenderer

def feed (renderer : StreamingSpeechRenderer) (text : List Char) :
    List (List Char) × StreamingSpeechRenderer :=
  if stripText text = [] then ([], renderer)
  else
    let rendered := renderSentences renderer.render (renderer.buffer ++ text)
    (rendered.1, { renderer with buffer := rendered.2 })

def flush (renderer : StreamingSpeechRenderer) : List (List Char) × StreamingSpeechRenderer :=
  if renderer.buffer = [] then ([], renderer)
  else
    let text := stripText renderer.buffer
    (if text = [] then [] else [renderer.render text], { renderer with buffer := [] })

/-- What a renderer says of deltas that are fed to it one by one, with the flush at the end. -/
def speak (renderer : StreamingSpeechRenderer) : List (List Char) → List (List Char)
  | [] => renderer.flush.1
  | delta :: deltas => (renderer.feed delta).1 ++ (renderer.feed delta).2.speak deltas

end StreamingSpeechRenderer

/-- The sentences that a new renderer says of deltas. -/
def spoken (render : List Char → List Char) (deltas : List (List Char)) : List (List Char) :=
  (StreamingSpeechRenderer.mk render []).speak deltas

/-! ### Sentences of a text -/

/-- The sentences of a buffer, and what is left of it. -/
def sentencesIn (buffer : List Char) : List (List Char) := (renderSentences id buffer).1

def remainder (buffer : List Char) : List Char := (renderSentences id buffer).2

/-- The text that is left is a sentence at the end. -/
def lastSentence (buffer : List Char) : List (List Char) :=
  if stripText buffer = [] then [] else [stripText buffer]

/-- The sentences of a whole text. -/
def sentencesOf (text : List Char) : List (List Char) :=
  sentencesIn text ++ lastSentence (remainder text)

section

variable {buffer sentence rest : List Char}

theorem renderSentences_of_none (h : speechSentence buffer = none) (render : List Char → List Char) :
    renderSentences render buffer = ([], buffer) := by
  unfold renderSentences
  split
  · rfl
  · next hsome =>
    rw [h] at hsome
    cases hsome

theorem renderSentences_of_some (h : speechSentence buffer = some (sentence, rest))
    (render : List Char → List Char) :
    renderSentences render buffer =
      (render (stripText sentence) :: (renderSentences render (rest.dropWhile isSpace)).1,
        (renderSentences render (rest.dropWhile isSpace)).2) := by
  rw [renderSentences]
  split
  · next hnone =>
    rw [h] at hnone
    cases hnone
  · next hsome =>
    rw [h] at hsome
    obtain ⟨rfl, rfl⟩ := Prod.mk.inj (Option.some.inj hsome)
    rfl

/-- The renderer has no part in where sentences end. -/
theorem renderSentences_eq (render : List Char → List Char) (buffer : List Char) :
    renderSentences render buffer = ((sentencesIn buffer).map render, remainder buffer) := by
  induction buffer using renderSentences.induct id with
  | case1 buffer h =>
    rw [sentencesIn, remainder, renderSentences_of_none h, renderSentences_of_none h]
    rfl
  | case2 buffer sentence rest h ih =>
    rw [sentencesIn, remainder, renderSentences_of_some h, renderSentences_of_some h, ih]
    rfl

theorem sentencesIn_of_none (h : speechSentence buffer = none) : sentencesIn buffer = [] := by
  rw [sentencesIn, renderSentences_of_none h]

theorem remainder_of_none (h : speechSentence buffer = none) : remainder buffer = buffer := by
  rw [remainder, renderSentences_of_none h]

theorem sentencesIn_of_some (h : speechSentence buffer = some (sentence, rest)) :
    sentencesIn buffer = stripText sentence :: sentencesIn (rest.dropWhile isSpace) := by
  rw [sentencesIn, renderSentences_of_some h]
  rfl

theorem remainder_of_some (h : speechSentence buffer = some (sentence, rest)) :
    remainder buffer = remainder (rest.dropWhile isSpace) := by
  rw [remainder, renderSentences_of_some h]
  rfl

theorem sentencesOf_of_none (h : speechSentence buffer = none) :
    sentencesOf buffer = lastSentence buffer := by
  rw [sentencesOf, sentencesIn_of_none h, remainder_of_none h]
  rfl

theorem sentencesOf_of_some (h : speechSentence buffer = some (sentence, rest)) :
    sentencesOf buffer = stripText sentence :: sentencesOf (rest.dropWhile isSpace) := by
  rw [sentencesOf, sentencesIn_of_some h, remainder_of_some h]
  rfl

theorem speechSentence_nil : speechSentence [] = none := rfl

@[simp] theorem remainder_nil : remainder [] = [] := remainder_of_none speechSentence_nil

@[simp] theorem sentencesOf_nil : sentencesOf [] = [] := by
  rw [sentencesOf_of_none speechSentence_nil]
  rfl

/-- What is left has no sentence. -/
theorem speechSentence_remainder (buffer : List Char) : speechSentence (remainder buffer) = none := by
  induction buffer using renderSentences.induct id with
  | case1 buffer h => rw [remainder_of_none h, h]
  | case2 buffer sentence rest h ih => rw [remainder_of_some h, ih]

theorem sentencesIn_remainder (buffer : List Char) : sentencesIn (remainder buffer) = [] :=
  sentencesIn_of_none (speechSentence_remainder buffer)

theorem solidText_dropWhile_eq_nil {text : List Char} (h : solidText text = []) :
    text.dropWhile isSpace = [] :=
  List.dropWhile_eq_nil_iff.mpr (solidText_eq_nil_iff.mp h)

/-- White space alone is left only of white space alone. -/
theorem remainder_eq_nil (hbuffer : solidText buffer ≠ []) (h : solidText (remainder buffer) = []) :
    remainder buffer = [] := by
  induction buffer using renderSentences.induct id with
  | case1 buffer hnone =>
    rw [remainder_of_none hnone] at h
    exact absurd h hbuffer
  | case2 buffer sentence rest hsome ih =>
    rw [remainder_of_some hsome] at h ⊢
    by_cases hrest : solidText rest = []
    · rw [solidText_dropWhile_eq_nil hrest, remainder_nil]
    · exact ih (by rwa [solidText_dropWhile]) h

/-- A sentence ends with a mark or a quote. -/
theorem exists_getLast_of_speechSentence (h : speechSentence buffer = some (sentence, rest)) :
    ∃ first last, sentence = first ++ [last] ∧ isSpace last = false := by
  obtain ⟨before, tail, close, -, -, hclose, rfl, -⟩ := exists_of_lazily h
  obtain ⟨-, -, mark, hmark, rfl | ⟨quote, hquote, rfl⟩⟩ := sentenceClose_eq_some hclose
  · exact ⟨before, mark, rfl, not_isSpace_of_isSentenceMark hmark⟩
  · exact ⟨before ++ [mark], quote, by simp, not_isSpace_of_isSentenceQuote hquote⟩

/-- What is behind a sentence starts with white space. -/
theorem all_head_of_speechSentence (h : speechSentence buffer = some (sentence, rest)) :
    rest.head?.all isSpace = true := by
  obtain ⟨before, tail, close, -, -, hclose, -, -⟩ := exists_of_lazily h
  exact (sentenceClose_eq_some hclose).2.1

/-- The words of a text are the words of its sentences. -/
theorem flatMap_splitWords_sentencesOf (buffer : List Char) :
    (sentencesOf buffer).flatMap splitWords = splitWords buffer := by
  induction buffer using renderSentences.induct id with
  | case1 buffer h =>
    rw [sentencesOf_of_none h, lastSentence]
    by_cases hblank : stripText buffer = []
    · rw [if_pos hblank, splitWords_of_blank (stripText_eq_nil_iff.mp hblank)]
      rfl
    · rw [if_neg hblank, List.flatMap_singleton, splitWords_stripText]
  | case2 buffer sentence rest h ih =>
    rw [sentencesOf_of_some h, List.flatMap_cons, ih, splitWords_dropWhile, splitWords_stripText,
      ← splitWords_append (all_head_of_speechSentence h), ← speechSentence_append h]

end

/-! ### A text in deltas -/

/-- The sentences that a renderer of this buffer says of deltas. -/
def sentencesFrom (buffer : List Char) (deltas : List (List Char)) : List (List Char) :=
  (StreamingSpeechRenderer.mk id buffer).speak deltas

section

variable {buffer delta : List Char} {deltas : List (List Char)}

theorem sentencesFrom_nil (buffer : List Char) : sentencesFrom buffer [] = lastSentence buffer := by
  rw [sentencesFrom, StreamingSpeechRenderer.speak, StreamingSpeechRenderer.flush, lastSentence]
  by_cases hnil : buffer = []
  · subst hnil
    rfl
  · rw [if_neg hnil]
    rfl

/-- White space is not heard. -/
theorem sentencesFrom_of_blank (h : solidText delta = []) (buffer : List Char)
    (deltas : List (List Char)) : sentencesFrom buffer (delta :: deltas) = sentencesFrom buffer deltas := by
  rw [sentencesFrom, StreamingSpeechRenderer.speak, StreamingSpeechRenderer.feed,
    if_pos (stripText_eq_nil_iff.mpr h)]
  rfl

theorem sentencesFrom_of_solid (h : solidText delta ≠ []) (buffer : List Char)
    (deltas : List (List Char)) :
    sentencesFrom buffer (delta :: deltas) =
      sentencesIn (buffer ++ delta) ++ sentencesFrom (remainder (buffer ++ delta)) deltas := by
  rw [sentencesFrom, StreamingSpeechRenderer.speak, StreamingSpeechRenderer.feed,
    if_neg (mt stripText_eq_nil_iff.mp h)]
  rfl

/-- A renderer renders the sentences that the identity leaves as they are. -/
theorem speak_eq_map (render : List Char → List Char) (buffer : List Char) (deltas : List (List Char)) :
    (StreamingSpeechRenderer.mk render buffer).speak deltas = (sentencesFrom buffer deltas).map render := by
  induction deltas generalizing buffer with
  | nil =>
    rw [sentencesFrom_nil, StreamingSpeechRenderer.speak, StreamingSpeechRenderer.flush, lastSentence]
    by_cases hnil : buffer = []
    · subst hnil
      rfl
    · rw [if_neg hnil]
      by_cases hblank : stripText buffer = []
      · simp only [if_pos hblank, List.map_nil]
      · simp only [if_neg hblank, List.map_cons, List.map_nil]
  | cons delta deltas ih =>
    rw [StreamingSpeechRenderer.speak, StreamingSpeechRenderer.feed]
    by_cases hblank : solidText delta = []
    · rw [sentencesFrom_of_blank hblank, if_pos (stripText_eq_nil_iff.mpr hblank)]
      exact ih buffer
    · rw [sentencesFrom_of_solid hblank, if_neg (mt stripText_eq_nil_iff.mp hblank), List.map_append, ← ih]
      simp only [renderSentences_eq]

theorem spoken_eq_map (render : List Char → List Char) (deltas : List (List Char)) :
    spoken render deltas = (sentencesFrom [] deltas).map render :=
  speak_eq_map render [] deltas

/-- A text in one delta. -/
theorem sentencesFrom_singleton (buffer text : List Char) (h : speechSentence buffer = none)
    (hbuffer : solidText text = [] → buffer = []) :
    sentencesFrom buffer [text] = sentencesOf (buffer ++ text) := by
  by_cases hblank : solidText text = []
  · have hnil := hbuffer hblank
    subst hnil
    have hnone : speechSentence text = none := by
      rw [speechSentence, lazily_eq_none_iff]
      rintro first second rfl -
      cases second with
      | nil => rfl
      | cons c second =>
        exact sentenceClose_of_isSpace (solidText_eq_nil_iff.mp hblank c (by simp)) second
    rw [sentencesFrom_of_blank hblank, sentencesFrom_nil, List.nil_append, sentencesOf_of_none hnone,
      lastSentence, lastSentence, if_pos (stripText_eq_nil_iff.mpr hblank)]
    rfl
  · rw [sentencesFrom_of_solid hblank, sentencesFrom_nil]
    rfl

end

end VoiceHarness
