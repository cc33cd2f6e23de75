import VoiceHarness.Speech.Sentence

/-!
# Chunks of a streamed reply

`_TextChunker` of `llm_transport.py`. In early mode it gives a sentence to the callback when the next one has
begun, in late mode the whole text at the end. A callback that answers `False`, and a tool call, end its work.
-/

set_option autoImplicit false
set_option relaxedAutoImplicit false

namespace VoiceHarness.Llm

/-- The arguments of `streamed_message` behind the response. A callback answers by the chunks it was given so
far, the last one included; the check for a cancellation by the number of lines read before it. -/
structure StreamSettings where
  onTextChunk : Option (List (List Char) → Option Bool)
  contentFilter : Option (List Char → List Char)
  emitTextEarly : Bool
  shouldCancel : ℕ → Bool

/-- What the callback answers to the last of these chunks. -/
def StreamSettings.answer (settings : StreamSettings) (passed : List (List Char)) : Option Bool :=
  settings.onTextChunk.bind fun callback ↦ callback passed

/-- `_TextChunker`: whether it has a callback, its texts, and the chunks that the callback was given. -/
structure TextChunker where
  listening : Bool
  buffer : List Char
  held : List Char
  passed : List (List Char)
  deriving DecidableEq, Repr

namespace TextChunker

/-- A new chunker. -/
def new (settings : StreamSettings) : TextChunker where
  listening := settings.onTextChunk.isSome
  buffer := []
  held := []
  passed := []

/-- `discard`. -/
def discard (chunker : TextChunker) : TextChunker where
  listening := false
  buffer := []
  held := []
  passed := chunker.passed

/-- `_emit` of the callback that `_chunk_callback` makes. -/
def emit (settings : StreamSettings) (chunker : TextChunker) (text : List Char) : TextChunker × Bool :=
  if !chunker.listening then (chunker, false)
  else
    let spoken := (settings.contentFilter.map fun filter ↦ filter text).getD text
    if spoken = [] then (chunker, true)
    else
      let passed := chunker.passed ++ [spoken]
      if settings.answer passed = some false then ({ chunker with passed }.discard, false)
      else ({ chunker with passed }, true)

/-- The loop of `feed` over the sentences of the buffer, of which there are no more than its characters. -/
def takeSentences (settings : StreamSettings) : ℕ → TextChunker → TextChunker × Bool
  | 0, chunker => (chunker, true)
  | fuel + 1, chunker =>
    match replySentence chunker.buffer with
    | none => (chunker, true)
    | some (sentence, rest) =>
      let chunk := stripText sentence
      let next := { chunker with buffer := rest }
      if chunk = [] then takeSentences settings fuel next
      else if next.held = [] then takeSentences settings fuel { next with held := chunk }
      else
        match next.emit settings next.held with
        | (stopped, false) => (stopped, false)
        | (emitted, true) => takeSentences settings fuel { emitted with held := chunk }

/-- What `feed` does behind its loop: the held sentence is over when the next text has begun. -/
def releaseHeld (settings : StreamSettings) (chunker : TextChunker) : TextChunker × Bool :=
  if chunker.held ≠ [] ∧ chunker.buffer ≠ [] then
    match chunker.emit settings chunker.held with
    | (stopped, false) => (stopped, false)
    | (emitted, true) => ({ emitted with held := [] }, true)
  else (chunker, true)

/-- `feed`. -/
def feed (settings : StreamSettings) (chunker : TextChunker) (text : List Char) : TextChunker × Bool :=
  if !chunker.listening then (chunker, true)
  else
    let next := { chunker with buffer := chunker.buffer ++ text }
    if !settings.emitTextEarly then (next, true)
    else
      match next.takeSentences settings next.buffer.length with
      | (stopped, false) => (stopped, false)
      | (taken, true) => taken.releaseHeld settings

/-- The end of `flush`, behind the held sentence. -/
def flushBuffer (settings : StreamSettings) (chunker : TextChunker) : TextChunker × Bool :=
  let chunk := stripText chunker.buffer
  let next := { chunker with buffer := [] }
  if chunk = [] then (next, true) else next.emit settings chunk

/-- `flush`. -/
def flush (settings : StreamSettings) (chunker : TextChunker) : TextChunker × Bool :=
  if !chunker.listening then ({ chunker with buffer := [], held := [] }, false)
  else if chunker.held = [] then chunker.flushBuffer settings
  else
    match chunker.emit settings chunker.held with
    | (stopped, false) => (stopped, false)
    | (emitted, true) => { emitted with held := [] }.flushBuffer settings

/-! ### The loop ends -/

/-- A sentence takes characters off the buffer. -/
theorem length_rest_lt {text sentence rest : List Char} (h : replySentence text = some (sentence, rest)) :
    rest.length < text.length := by
  obtain ⟨spaces, -, htext⟩ := replySentence_append h
  have hne : sentence ≠ [] := by
    obtain ⟨⟨found, after⟩, hfound, heq⟩ := Option.map_eq_some_iff.mp h
    obtain ⟨before, tail, last, -, hbefore, -, htaken, -⟩ := Library.exists_of_lazily hfound
    obtain ⟨rfl, -⟩ := Prod.mk.inj heq
    simp only [htaken]
    exact List.append_ne_nil_of_left_ne_nil hbefore last
  have hpositive := List.length_pos_iff.mpr hne
  rw [htext, List.length_append, List.length_append]
  omega

variable {settings : StreamSettings} {chunker : TextChunker}

/-- A call that goes on changes what was passed only. -/
theorem exists_of_emit {emitted : TextChunker} {text : List Char}
    (h : chunker.emit settings text = (emitted, true)) : ∃ passed, emitted = { chunker with passed } := by
  simp only [emit] at h
  split_ifs at h
  · cases (Prod.mk.inj h).2
  · exact ⟨chunker.passed, (Prod.mk.inj h).1.symm⟩
  · cases (Prod.mk.inj h).2
  · exact ⟨_, (Prod.mk.inj h).1.symm⟩

/-- With a step for each character of its buffer the loop ends because no sentence is left in it. -/
theorem replySentence_takeSentences {fuel : ℕ} (hfuel : chunker.buffer.length ≤ fuel)
    (h : (chunker.takeSentences settings fuel).2 = true) :
    replySentence (chunker.takeSentences settings fuel).1.buffer = none := by
  induction fuel generalizing chunker with
  | zero =>
    have hnil : chunker.buffer = [] := List.length_eq_zero_iff.mp (Nat.le_zero.mp hfuel)
    rw [takeSentences, hnil]
    rfl
  | succ fuel ih =>
    rw [takeSentences] at h ⊢
    rcases hsentence : replySentence chunker.buffer with _ | ⟨sentence, rest⟩
    · exact hsentence
    · have hlength := length_rest_lt hsentence
      have hrest : rest.length ≤ fuel := by omega
      simp only [hsentence] at h ⊢
      split_ifs at h ⊢ with hchunk hheld
      · exact ih hrest h
      · exact ih hrest h
      · rcases hemit : ({ chunker with buffer := rest } : TextChunker).emit settings chunker.held with
          ⟨emitted, _ | _⟩
        · simp [hemit] at h
        · simp only [hemit] at h ⊢
          obtain ⟨passed, rfl⟩ := exists_of_emit hemit
          exact @ih { chunker with buffer := rest, passed, held := stripText sentence } hrest h

/-! ### What the callback was given -/

/-- The callback answered `False` to the last chunk. -/
def Refused (settings : StreamSettings) (chunker : TextChunker) : Prop :=
  chunker.passed ≠ [] ∧ settings.answer chunker.passed = some false

/-- The text that was fed is passed on, held or in the buffer, and a listening chunker was never refused. -/
structure Keeps (settings : StreamSettings) (fed : List Char) (chunker : TextChunker) : Prop where
  listens : chunker.listening = true →
    solidText (chunker.passed.flatten ++ chunker.held ++ chunker.buffer) = solidText fed
  inOrder : solidText chunker.passed.flatten <+: solidText fed
  never : ∀ count, count < chunker.passed.length →
    settings.answer (chunker.passed.take (count + 1)) = some false →
      count + 1 = chunker.passed.length ∧ chunker.listening = false

section

variable {fed text : List Char}

/-- Nothing was passed on yet. -/
theorem keeps_new (settings : StreamSettings) : Keeps settings [] (new settings) where
  listens _ := rfl
  inOrder := List.prefix_rfl
  never count h := absurd h (Nat.not_lt_zero count)

/-- Without a callback the texts of the chunker do not matter. -/
theorem Keeps.of_deaf {other : TextChunker} (h : Keeps settings fed chunker)
    (hdeaf : other.listening = false) (hpassed : other.passed = chunker.passed) : Keeps settings fed other where
  listens hlisten := by
    rw [hdeaf] at hlisten
    cases hlisten
  inOrder := hpassed ▸ h.inOrder
  never count hcount hanswer := by
    rw [hpassed] at hcount hanswer ⊢
    exact ⟨(h.never count hcount hanswer).1, hdeaf⟩

/-- What is discarded stays unsaid. -/
theorem Keeps.discard (h : Keeps settings fed chunker) : Keeps settings fed chunker.discard :=
  h.of_deaf rfl rfl

/-- A chunker without a callback is given no more text. -/
theorem Keeps.append_of_deaf (h : Keeps settings fed chunker) (hdeaf : chunker.listening = false)
    (more : List Char) : Keeps settings (fed ++ more) chunker where
  listens hlisten := by
    rw [hdeaf] at hlisten
    cases hlisten
  inOrder := h.inOrder.trans (solidText_append fed more ▸ List.prefix_append _ _)
  never := h.never

/-- The text of the chunker may be cut in other places, and white space does not matter. -/
theorem Keeps.of_solidText {other : TextChunker} (h : Keeps settings fed chunker)
    (hlistening : other.listening = chunker.listening) (hpassed : other.passed = chunker.passed)
    (htext : solidText (other.held ++ other.buffer) = solidText (chunker.held ++ chunker.buffer)) :
    Keeps settings fed other where
  listens hlisten := by
    have hfed := h.listens (hlistening ▸ hlisten)
    rw [List.append_assoc, solidText_append] at hfed ⊢
    rw [hpassed, htext]
    exact hfed
  inOrder := hpassed ▸ h.inOrder
  never := by
    rw [hpassed, hlistening]
    exact h.never

theorem getD_contentFilter (hfilter : settings.contentFilter = none) (text : List Char) :
    (settings.contentFilter.map fun filter ↦ filter text).getD text = text := by
  rw [hfilter]
  rfl

/-- One call of the callback: the chunk is the next of the text, and the chunker goes on if the callback did not
answer `False`. -/
theorem Keeps.emit (hfilter : settings.contentFilter = none) {rest : List Char} (htext : text ≠ [])
    (h : Keeps settings fed { chunker with held := text, buffer := rest })
    (hlisten : chunker.listening = true) :
    (chunker.emit settings text = ({ chunker with passed := chunker.passed ++ [text] }, true) ∧
        Keeps settings fed ⟨true, rest, [], chunker.passed ++ [text]⟩) ∨
      ((chunker.emit settings text).2 = false ∧ Refused settings (chunker.emit settings text).1 ∧
        (chunker.emit settings text).1.listening = false ∧
        Keeps settings fed (chunker.emit settings text).1) := by
  have hfed := h.listens hlisten
  have hflatten : (chunker.passed ++ [text]).flatten = chunker.passed.flatten ++ text := by simp
  have hprefix : solidText (chunker.passed ++ [text]).flatten <+: solidText fed := by
    rw [hflatten, ← hfed, solidText_append _ rest]
    exact List.prefix_append _ _
  have hearlier : ∀ count, count < chunker.passed.length →
      settings.answer ((chunker.passed ++ [text]).take (count + 1)) ≠ some false := by
    intro count hcount hanswer
    rw [List.take_append_of_le_length hcount] at hanswer
    have hdeaf : chunker.listening = false := (h.never count hcount hanswer).2
    rw [hlisten] at hdeaf
    cases hdeaf
  have hlast : (chunker.passed ++ [text]).take (chunker.passed.length + 1) = chunker.passed ++ [text] :=
    List.take_of_length_le (by simp)
  have hcases : ∀ count, count < (chunker.passed ++ [text]).length →
      count < chunker.passed.length ∨ count = chunker.passed.length := by
    intro count hcount
    rw [List.length_append, List.length_singleton] at hcount
    omega
  simp only [TextChunker.emit, getD_contentFilter hfilter, hlisten, Bool.not_true, Bool.false_eq_true, if_false,
    if_neg htext]
  by_cases hanswer : settings.answer (chunker.passed ++ [text]) = some false
  · rw [if_pos hanswer]
    refine .inr ⟨rfl, ⟨List.append_ne_nil_of_right_ne_nil _ (List.cons_ne_nil _ _), hanswer⟩, rfl, fun hdeaf ↦ ?_, hprefix, fun count hcount hrefused ↦ ?_⟩
    · cases hdeaf
    · rcases hcases count hcount with hless | rfl
      · exact absurd hrefused (hearlier count hless)
      · exact ⟨by simp [TextChunker.discard], rfl⟩
  · rw [if_neg hanswer]
    refine .inl ⟨rfl, fun _ ↦ ?_, hprefix, fun count hcount hrefused ↦ ?_⟩
    · simp only [hflatten, List.append_nil]
      exact hfed
    · rcases hcases count hcount with hless | rfl
      · exact absurd hrefused (hearlier count hless)
      · exact absurd (hlast ▸ hrefused) hanswer

/-- What a step of the chunker leaves: it keeps the text and goes on, or was refused and is deaf. -/
def Settles (settings : StreamSettings) (fed : List Char) (outcome : TextChunker × Bool) : Prop :=
  Keeps settings fed outcome.1 ∧
    if outcome.2 then outcome.1.listening = true
    else Refused settings outcome.1 ∧ outcome.1.listening = false

theorem settles_takeSentences (hfilter : settings.contentFilter = none) (fuel : ℕ)
    (h : Keeps settings fed chunker) (hlisten : chunker.listening = true) :
    Settles settings fed (chunker.takeSentences settings fuel) := by
  induction fuel generalizing chunker with
  | zero => exact ⟨h, hlisten⟩
  | succ fuel ih =>
    rw [takeSentences]
    rcases hsentence : replySentence chunker.buffer with _ | ⟨sentence, rest⟩
    · exact ⟨h, hlisten⟩
    · obtain ⟨spaces, hspaces, hbuffer⟩ := replySentence_append hsentence
      have hsolid : solidText chunker.buffer = solidText (stripText sentence ++ rest) := by
        rw [hbuffer]
        simp [hspaces]
      simp only []
      split_ifs with hchunk hheld
      · refine ih (h.of_solidText rfl rfl ?_) hlisten
        rw [solidText_append, solidText_append, hsolid, hchunk, List.nil_append]
      · refine ih (h.of_solidText rfl rfl ?_) hlisten
        rw [hheld, List.nil_append, hsolid]
      · -- the held sentence is over, and the new one takes its place
        have hnext : Keeps settings fed { chunker with buffer := stripText sentence ++ rest } :=
          h.of_solidText rfl rfl (by simp only [solidText_append, hsolid])
        rcases @Keeps.emit settings { chunker with buffer := rest } fed chunker.held hfilter _ hheld hnext
          hlisten with ⟨hemit, hkeeps⟩ | ⟨hstop, hrefused, hdeaf, hkeeps⟩
        · rw [hemit]
          refine ih (hkeeps.of_solidText hlisten rfl ?_) hlisten
          rw [List.nil_append]
        · rcases hemit : ({ chunker with buffer := rest } : TextChunker).emit settings chunker.held with
            ⟨stopped, _ | _⟩
          · rw [hemit] at hrefused hdeaf hkeeps
            exact ⟨hkeeps, hrefused, hdeaf⟩
          · rw [hemit] at hstop
            cases hstop

theorem settles_releaseHeld (hfilter : settings.contentFilter = none) (h : Keeps settings fed chunker)
    (hlisten : chunker.listening = true) : Settles settings fed (chunker.releaseHeld settings) := by
  rw [releaseHeld]
  split_ifs with hheld
  · rcases Keeps.emit hfilter hheld.1 h hlisten with ⟨hemit, hkeeps⟩ | ⟨hstop, hrefused, hdeaf, hkeeps⟩
    · rw [hemit]
      exact ⟨hkeeps.of_solidText hlisten rfl rfl, hlisten⟩
    · rcases hemit : chunker.emit settings chunker.held with ⟨stopped, _ | _⟩
      · rw [hemit] at hrefused hdeaf hkeeps
        exact ⟨hkeeps, hrefused, hdeaf⟩
      · rw [hemit] at hstop
        cases hstop
  · exact ⟨h, hlisten⟩

/-- `feed` keeps the text. -/
theorem settles_feed (hfilter : settings.contentFilter = none) (h : Keeps settings fed chunker)
    (hlisten : chunker.listening = true) (text : List Char) :
    Settles settings (fed ++ text) (chunker.feed settings text) := by
  have hnext : Keeps settings (fed ++ text) { chunker with buffer := chunker.buffer ++ text } :=
    ⟨fun _ ↦ by rw [← List.append_assoc, solidText_append, h.listens hlisten, solidText_append],
      h.inOrder.trans (solidText_append fed text ▸ List.prefix_append _ _), h.never⟩
  rw [feed, if_neg (by simp [hlisten])]
  split_ifs with hlate
  · exact ⟨hnext, hlisten⟩
  · have htaken := settles_takeSentences hfilter (chunker.buffer ++ text).length hnext hlisten
    rcases htake : ({ chunker with buffer := chunker.buffer ++ text } : TextChunker).takeSentences settings
      (chunker.buffer ++ text).length with ⟨taken, _ | _⟩
    · rw [htake] at htaken
      simp only [htake]
      exact htaken
    · rw [htake] at htaken
      simp only [htake]
      exact settles_releaseHeld hfilter htaken.1 htaken.2

theorem feed_of_deaf (hdeaf : chunker.listening = false) (text : List Char) :
    chunker.feed settings text = (chunker, true) := by
  rw [feed, hdeaf]
  rfl

/-- All of the text that was fed is passed on, or the callback answered `False`. -/
def Said (settings : StreamSettings) (fed : List Char) (chunker : TextChunker) : Prop :=
  Keeps settings fed chunker ∧
    (Refused settings chunker ∨ solidText chunker.passed.flatten = solidText fed)

theorem said_flushBuffer (hfilter : settings.contentFilter = none) (h : Keeps settings fed chunker)
    (hlisten : chunker.listening = true) (hheld : chunker.held = []) :
    Said settings fed (chunker.flushBuffer settings).1 := by
  have hfed := h.listens hlisten
  rw [hheld, List.append_nil, solidText_append] at hfed
  rw [flushBuffer]
  split_ifs with hchunk
  · rw [stripText_eq_nil_iff.mp hchunk, List.append_nil] at hfed
    exact ⟨h.of_solidText rfl rfl (by rw [solidText_append, solidText_append,
      stripText_eq_nil_iff.mp hchunk, solidText_nil]), .inr hfed⟩
  · have hnext : Keeps settings fed { chunker with held := stripText chunker.buffer, buffer := [] } :=
      h.of_solidText rfl rfl (by rw [hheld, List.append_nil, List.nil_append, solidText_stripText])
    rcases @Keeps.emit settings { chunker with buffer := [] } fed _ hfilter _ hchunk hnext hlisten with
      ⟨hemit, hkeeps⟩ | ⟨-, hrefused, -, hkeeps⟩
    · rw [hemit]
      refine ⟨hkeeps.of_solidText hlisten rfl (by rw [hheld]), .inr ?_⟩
      have hall := hkeeps.listens rfl
      simpa using hall
    · exact ⟨hkeeps, .inl hrefused⟩

/-- `flush` passes on what is left. -/
theorem said_flush (hfilter : settings.contentFilter = none) (h : Keeps settings fed chunker)
    (hlisten : chunker.listening = true) : Said settings fed (chunker.flush settings).1 := by
  rw [flush, if_neg (by simp [hlisten])]
  split_ifs with hheld
  · exact said_flushBuffer hfilter h hlisten hheld
  · rcases Keeps.emit hfilter hheld h hlisten with ⟨hemit, hkeeps⟩ | ⟨hstop, hrefused, -, hkeeps⟩
    · rw [hemit]
      exact said_flushBuffer hfilter (hkeeps.of_solidText hlisten rfl rfl) hlisten rfl
    · rcases hemit : chunker.emit settings chunker.held with ⟨stopped, _ | _⟩
      · rw [hemit] at hrefused hkeeps
        exact ⟨hkeeps, .inl hrefused⟩
      · rw [hemit] at hstop
        cases hstop

theorem flush_of_deaf (hdeaf : chunker.listening = false) :
    (chunker.flush settings).1 = { chunker with buffer := [], held := [] } := by
  rw [flush, hdeaf]
  rfl

end

end TextChunker

end VoiceHarness.Llm
