import VoiceHarness.Speech.Splits

/-!
# Splits of a streamed text

When the sentences that a renderer says of a text in deltas are those of the text in one piece: no delta of
white space inside a sentence is lost, no sentence ends with a delta where the text goes on at once, and no mark
alone becomes a sentence, or is kept from it, by where a delta starts.
-/

set_option autoImplicit false
set_option relaxedAutoImplicit false

namespace VoiceHarness

/-- The delta is white space inside a sentence. -/
def LosesSpace (buffer delta after : List Char) : Prop :=
  delta ≠ [] ∧ stripText delta = [] ∧ buffer ≠ [] ∧ stripText after ≠ []

/-- A delta that a renderer of this buffer takes as a part of the text that goes on after it. -/
structure IsHarmless (buffer delta after : List Char) : Prop where
  keepsSpace : ¬ LosesSpace buffer delta after
  endsRight : ¬ EndsEarly (buffer ++ delta) after
  startsRight : buffer = [] → delta.head?.any isSpace = true →
    ¬ StartsWithMark (delta.dropWhile isSpace) after

/-- The buffer after a delta. -/
def bufferAfter (buffer delta : List Char) : List Char :=
  ((StreamingSpeechRenderer.mk id buffer).feed delta).2.buffer

/-- All deltas are harmless, once some text was heard. -/
def IsSafeFrom (buffer : List Char) : List (List Char) → Prop
  | [] => True
  | delta :: deltas => IsHarmless buffer delta deltas.flatten ∧ IsSafeFrom (bufferAfter buffer delta) deltas

/-- `not delta.strip()`. -/
def isBlankDelta (delta : List Char) : Bool := stripText delta = []

/-- The deltas of white space before the first text are not heard, so the text may not start with a mark alone
behind them; from there on all deltas are harmless. -/
def IsSafe (deltas : List (List Char)) : Prop :=
  match deltas.dropWhile isBlankDelta with
  | [] => True
  | delta :: after =>
    ((deltas.takeWhile isBlankDelta).flatten ≠ [] → ¬ StartsWithMark (delta ++ after.flatten) []) ∧
      ¬ EndsEarly delta after.flatten ∧ IsSafeFrom (bufferAfter [] delta) after

/-- A split of a text is spoken as every safe split of it, and the words of what is spoken are those of the
text. -/
def KeepsText (deltas : List (List Char)) : Prop :=
  (∀ other : List (List Char), other.flatten = deltas.flatten → IsSafe other →
    ∀ render, spoken render deltas = spoken render other) ∧
  splitWords ([' '].intercalate (spoken id deltas)) = splitWords deltas.flatten

section

variable {buffer delta after text spaces : List Char} {deltas : List (List Char)}

theorem bufferAfter_of_blank (h : solidText delta = []) (buffer : List Char) :
    bufferAfter buffer delta = buffer := by
  rw [bufferAfter, StreamingSpeechRenderer.feed, if_pos (stripText_eq_nil_iff.mpr h)]

theorem bufferAfter_of_solid (h : solidText delta ≠ []) (buffer : List Char) :
    bufferAfter buffer delta = remainder (buffer ++ delta) := by
  rw [bufferAfter, StreamingSpeechRenderer.feed, if_neg (mt stripText_eq_nil_iff.mp h)]
  rfl

theorem append_ne_nil_of_solid (h : solidText delta ≠ []) (buffer : List Char) : buffer ++ delta ≠ [] := by
  refine List.append_ne_nil_of_right_ne_nil _ ?_
  rintro rfl
  exact h rfl

/-! ### One delta -/

/-- The sentences of a text behind what was left. -/
def continued (buffer text : List Char) : List (List Char) :=
  if buffer = [] then sentencesOf (text.dropWhile isSpace) else sentencesOf (buffer ++ text)

/-- The text behind a buffer has the sentences of the buffer, unless one of them ends early. -/
theorem sentencesOf_append (hne : buffer ≠ []) (hearly : ¬ EndsEarly buffer after) :
    sentencesOf (buffer ++ after) = sentencesIn buffer ++ continued (remainder buffer) after := by
  unfold continued
  by_cases hnil : remainder buffer = []
  · rw [if_pos hnil, sentencesOf_append_of_nil hnil hne hearly]
  · rw [if_neg hnil, sentencesOf_append_of_remainder hnil]

/-- A sentence that ends early is said. -/
theorem sentencesOf_append_ne (hearly : EndsEarly buffer after) (others : List (List Char)) :
    sentencesIn buffer ++ others ≠ sentencesOf (buffer ++ after) := by
  obtain ⟨sentences, last, longer, rest, hin, hof, hne⟩ := exists_of_endsEarly hearly
  intro hsame
  rw [hin, hof, List.append_assoc, List.append_cancel_left_eq] at hsame
  exact hne (List.cons.inj hsame).1

/-- Texts behind a buffer with one strip start with the same white space. -/
theorem leadingSpace_eq_of_stripText {first second : List Char} (hbuffer : solidText buffer ≠ [])
    (hfirst : solidText first ≠ []) (hsecond : solidText second ≠ [])
    (h : stripText (buffer ++ first) = stripText (buffer ++ second)) :
    leadingSpace first = leadingSpace second := by
  have hdrop : buffer.dropWhile isSpace ≠ [] := by
    intro hnil
    rw [← solidText_dropWhile, hnil] at hbuffer
    exact hbuffer rfl
  have hstart : ∀ text : List Char, solidText text ≠ [] → ∃ start spaces, solidText spaces = [] ∧
      text = start ++ spaces ∧ stripText (buffer ++ text) = buffer.dropWhile isSpace ++ start := by
    intro text hsolid
    obtain ⟨spaces, hspaces, htext⟩ := exists_stripText_append (buffer ++ text)
    rw [dropWhile_append_of_ne_nil hdrop] at htext
    rcases List.append_eq_append_iff.mp htext with ⟨start, hstrip, rfl⟩ | ⟨second, -, rfl⟩
    · exact ⟨start, spaces, hspaces, rfl, hstrip⟩
    · rw [solidText_append, List.append_eq_nil_iff] at hspaces
      exact absurd hspaces.2 hsolid
  obtain ⟨start, spaces, hspaces, rfl, hstrip⟩ := hstart first hfirst
  obtain ⟨other, others, hothers, rfl, hotherStrip⟩ := hstart second hsecond
  rw [hstrip, hotherStrip, List.append_cancel_left_eq] at h
  subst h
  have hsolid : solidText start ≠ [] := by
    rw [solidText_append, hspaces, List.append_nil] at hfirst
    exact hfirst
  rw [leadingSpace_append_of_solid hsolid, leadingSpace_append_of_solid hsolid]

/-- White space that is not heard is missing in the next sentence. -/
theorem sentencesFrom_ne_of_losesSpace (hnone : speechSentence buffer = none)
    (hbuffer : solidText buffer = [] → buffer = []) (hloses : LosesSpace buffer delta deltas.flatten) :
    sentencesFrom buffer deltas ≠ continued buffer (delta ++ deltas.flatten) := by
  obtain ⟨hdelta, hblank, hne, hsolid⟩ := hloses
  rw [stripText_eq_nil_iff] at hblank
  have hlater : solidText deltas.flatten ≠ [] := mt stripText_eq_nil_iff.mpr hsolid
  have hwhole : solidText (delta ++ deltas.flatten) ≠ [] := by
    rw [solidText_append]
    exact List.append_ne_nil_of_right_ne_nil _ hlater
  obtain ⟨taken, others, hfrom, htaken, hlead, -⟩ := exists_first_sentencesFrom hnone hlater
  obtain ⟨whole, rest, hof, ⟨behind, hbehind⟩, hwholeSolid, -⟩ := exists_first_sentencesOf hnone hwhole
  intro hsame
  rw [continued, if_neg hne, hfrom, hof] at hsame
  have hfirst := (List.cons.inj hsame).1
  have hspace : leadingSpace taken = leadingSpace whole :=
    leadingSpace_eq_of_stripText (mt hbuffer hne) htaken hwholeSolid hfirst
  have hdeltaLength := List.length_pos_iff.mpr hdelta
  have hcount : leadingSpace whole = delta.length + leadingSpace deltas.flatten := by
    rw [← leadingSpace_append_of_blank hblank, ← hbehind, leadingSpace_append_of_solid hwholeSolid]
  omega

/-- White space ends no sentence. -/
theorem speechSentence_append_blank (hnone : speechSentence buffer = none) (h : solidText spaces = []) :
    speechSentence (buffer ++ spaces) = none := by
  rcases hsome : speechSentence (buffer ++ spaces) with _ | ⟨sentence, rest⟩
  · rfl
  · obtain ⟨taken, -, ⟨behind, rfl⟩, htaken⟩ := exists_taken hnone hsome
    rw [solidText_append, List.append_eq_nil_iff] at h
    exact absurd h.1 htaken

/-- White space that nothing follows, or that nothing was left before, is not missed. -/
theorem continued_append_of_blank (hnone : speechSentence buffer = none) (hblank : solidText delta = [])
    (hkeeps : ¬ LosesSpace buffer delta after) :
    continued buffer (delta ++ after) = continued buffer after := by
  unfold continued
  by_cases hnil : buffer = []
  · rw [if_pos hnil, if_pos hnil, dropWhile_append_of_blank hblank]
  · rw [if_neg hnil, if_neg hnil]
    by_cases hdelta : delta = []
    · rw [hdelta, List.nil_append]
    · have hafter : solidText after = [] := by
        by_contra hsolid
        exact hkeeps ⟨hdelta, stripText_eq_nil_iff.mpr hblank, hnil, mt stripText_eq_nil_iff.mp hsolid⟩
      have hboth : ∀ spaces, solidText spaces = [] →
          sentencesOf (buffer ++ spaces) = lastSentence buffer := by
        intro spaces hspaces
        rw [sentencesOf_of_none (speechSentence_append_blank hnone hspaces), lastSentence,
          stripText_append_blank hspaces, lastSentence]
      rw [hboth after hafter, hboth]
      rw [solidText_append, hblank, hafter]
      rfl

/-- White space that is not missed is harmless. -/
theorem isHarmless_of_blank (hnone : speechSentence buffer = none) (hblank : solidText delta = [])
    (hkeeps : ¬ LosesSpace buffer delta after) : IsHarmless buffer delta after := by
  refine ⟨hkeeps, ?_, ?_⟩
  · rintro ⟨hnil, hend, -⟩
    rw [remainder_of_none (speechSentence_append_blank hnone hblank)] at hnil
    rw [hnil] at hend
    cases hend
  · rintro - - ⟨last, rest, hclose, -⟩
    rw [solidText_dropWhile_eq_nil hblank] at hclose
    cases hclose

/-- Where a mark alone starts the text behind white space, the renderer says it. -/
theorem sentencesIn_ne_of_startsWithMark (hspace : delta.head?.any isSpace = true)
    (hmark : StartsWithMark (delta.dropWhile isSpace) after) (others : List (List Char)) :
    sentencesIn delta ++ others ≠ sentencesOf (delta.dropWhile isSpace ++ after) := by
  obtain ⟨last, rest, hclose, hrest⟩ := hmark
  have hsplit := List.takeWhile_append_dropWhile (p := isSpace) (l := delta)
  have hblank : solidText (delta.takeWhile isSpace) = [] :=
    solidText_eq_nil_iff.mpr fun c hc ↦ List.mem_takeWhile_imp hc
  have hne : delta.takeWhile isSpace ≠ [] := by
    cases delta with
    | nil => cases hspace
    | cons c delta =>
      have hc : isSpace c = true := hspace
      rw [List.takeWhile_cons_of_pos hc]
      exact List.cons_ne_nil _ _
  have hsome := speechSentence_of_close hclose hne hblank
  rw [hsplit] at hsome
  have hsolid := solidText_of_close hclose
  have hwhole : solidText (delta.dropWhile isSpace ++ after) ≠ [] := by
    rw [solidText_append]
    exact List.append_ne_nil_of_left_ne_nil hsolid _
  obtain ⟨taken, more, hof, ⟨behind, hbehind⟩, htaken, hend⟩ :=
    exists_first_sentencesOf speechSentence_nil hwhole
  rw [List.nil_append] at hof
  have hlead : leadingSpace taken = 0 := by
    rw [← leadingSpace_append_of_solid htaken behind, hbehind, leadingSpace_append_of_solid hsolid,
      leadingSpace_of_close hclose]
  have hdiffers := stripText_ne_of_isSentence hclose (mt stripText_eq_nil_iff.mpr hrest) hlead
    (hend.imp_right fun heq ↦ by rw [heq])
  intro hsame
  rw [sentencesIn_of_some hsome, stripText_append_of_blank hblank, stripText_of_close hclose, hof] at hsame
  exact hdiffers (List.cons.inj hsame).1.symm

/-- White space at the start of a delta changes nothing else. -/
theorem sentencesOf_dropWhile_append
    (h : delta.head?.any isSpace = true → ¬ StartsWithMark (delta.dropWhile isSpace) after)
    (hsolid : solidText delta ≠ []) :
    sentencesOf (delta.dropWhile isSpace ++ after) = sentencesOf (delta ++ after) := by
  have hsplit := List.takeWhile_append_dropWhile (p := isSpace) (l := delta)
  by_cases hspace : delta.head?.any isSpace = true
  · have hblank : solidText (delta.takeWhile isSpace) = [] :=
      solidText_eq_nil_iff.mpr fun c hc ↦ List.mem_takeWhile_imp hc
    have hdrop : delta.dropWhile isSpace ≠ [] := by
      intro hnil
      rw [← solidText_dropWhile, hnil] at hsolid
      exact hsolid rfl
    have hmark : ¬ StartsWithMark (delta.dropWhile isSpace ++ after) [] := by
      rintro ⟨last, rest, hclose, hrest⟩
      rcases hown : sentenceClose atSpaceOrEnd (delta.dropWhile isSpace) with _ | ⟨ownLast, ownRest⟩
      · rw [sentenceClose_append_eq_none hdrop hown] at hclose
        cases hclose
      · have hnothing : stripText (ownRest ++ after) = [] := by
          by_contra hmore
          exact h hspace ⟨ownLast, ownRest, hown, hmore⟩
        have hblanks := stripText_eq_nil_iff.mp hnothing
        rw [solidText_append, List.append_eq_nil_iff] at hblanks
        have hhead : after.head?.all isSpace = true := by
          cases after with
          | nil => rfl
          | cons c after => exact solidText_eq_nil_iff.mp hblanks.2 c List.mem_cons_self
        rw [sentenceClose_append hown (.inr hhead)] at hclose
        obtain ⟨-, rfl⟩ := Prod.mk.inj (Option.some.inj hclose)
        rw [List.append_nil] at hrest
        exact hrest hnothing
    conv_rhs => rw [← hsplit, List.append_assoc, sentencesOf_append_of_blank hblank hmark]
  · have hnone : delta.dropWhile isSpace = delta := by
      cases delta with
      | nil => rfl
      | cons c delta =>
        have hc : ¬ isSpace c = true := hspace
        rw [List.dropWhile_cons_of_neg hc]
    rw [hnone]

/-! ### All deltas -/

/-- The deltas after some text are spoken as their text if and only if they are harmless. -/
theorem sentencesFrom_eq_iff (hnone : speechSentence buffer = none)
    (hbuffer : solidText buffer = [] → buffer = []) :
    sentencesFrom buffer deltas = continued buffer deltas.flatten ↔ IsSafeFrom buffer deltas := by
  induction deltas generalizing buffer with
  | nil =>
    refine iff_of_true ?_ trivial
    rw [sentencesFrom_nil, continued, List.flatten_nil, List.append_nil]
    by_cases hnil : buffer = []
    · rw [if_pos hnil, hnil, List.dropWhile_nil, sentencesOf_nil]
      rfl
    · rw [if_neg hnil, sentencesOf_of_none hnone]
  | cons delta deltas ih =>
    rw [List.flatten_cons, IsSafeFrom]
    by_cases hblank : solidText delta = []
    · rw [sentencesFrom_of_blank hblank, bufferAfter_of_blank hblank]
      by_cases hloses : LosesSpace buffer delta deltas.flatten
      · refine iff_of_false ?_ fun hsafe ↦ hsafe.1.keepsSpace hloses
        exact sentencesFrom_ne_of_losesSpace hnone hbuffer hloses
      · rw [continued_append_of_blank hnone hblank hloses, ih hnone hbuffer]
        exact ⟨fun hsafe ↦ ⟨isHarmless_of_blank hnone hblank hloses, hsafe⟩, And.right⟩
    · have hne := append_ne_nil_of_solid hblank buffer
      have hsolid : solidText (buffer ++ delta) ≠ [] := by
        rw [solidText_append]
        exact List.append_ne_nil_of_right_ne_nil _ hblank
      have hlater := ih (speechSentence_remainder (buffer ++ delta)) (remainder_eq_nil hsolid)
      rw [sentencesFrom_of_solid hblank, bufferAfter_of_solid hblank]
      by_cases hmark : buffer = [] ∧ delta.head?.any isSpace = true ∧
          StartsWithMark (delta.dropWhile isSpace) deltas.flatten
      · obtain ⟨rfl, hspace, hstarts⟩ := hmark
        refine iff_of_false ?_ fun hsafe ↦ hsafe.1.startsRight rfl hspace hstarts
        have hdrop : delta.dropWhile isSpace ≠ [] := by
          intro hnil
          rw [← solidText_dropWhile, hnil] at hblank
          exact hblank rfl
        rw [continued, if_pos rfl, dropWhile_append_of_ne_nil hdrop]
        exact sentencesIn_ne_of_startsWithMark hspace hstarts _
      · have hwhole : continued buffer (delta ++ deltas.flatten) =
            sentencesOf (buffer ++ delta ++ deltas.flatten) := by
          unfold continued
          by_cases hnil : buffer = []
          · subst hnil
            have hdrop : delta.dropWhile isSpace ≠ [] := by
              intro hnil
              rw [← solidText_dropWhile, hnil] at hblank
              exact hblank rfl
            rw [if_pos rfl, dropWhile_append_of_ne_nil hdrop, List.nil_append]
            exact sentencesOf_dropWhile_append (fun hspace hstarts ↦ hmark ⟨rfl, hspace, hstarts⟩) hblank
          · rw [if_neg hnil, List.append_assoc]
        rw [hwhole]
        by_cases hearly : EndsEarly (buffer ++ delta) deltas.flatten
        · exact iff_of_false (sentencesOf_append_ne hearly _) fun hsafe ↦ hsafe.1.endsRight hearly
        · rw [sentencesOf_append hne hearly, List.append_cancel_left_eq, hlater]
          refine ⟨fun hsafe ↦ ⟨⟨?_, hearly, ?_⟩, hsafe⟩, And.right⟩
          · rintro ⟨-, hdelta, -⟩
            exact hblank (stripText_eq_nil_iff.mp hdelta)
          · intro hnil hspace hstarts
            exact hmark ⟨hnil, hspace, hstarts⟩

/-! ### The split of a text -/

/-- Deltas of white space before the first text are not heard. -/
theorem sentencesFrom_dropWhile (buffer : List Char) (deltas : List (List Char)) :
    sentencesFrom buffer (deltas.dropWhile isBlankDelta) = sentencesFrom buffer deltas := by
  induction deltas with
  | nil => rfl
  | cons delta deltas ih =>
    by_cases hblank : isBlankDelta delta = true
    · have hsolid := stripText_eq_nil_iff.mp (of_decide_eq_true hblank)
      rw [List.dropWhile_cons_of_pos hblank, sentencesFrom_of_blank hsolid, ih]
    · rw [List.dropWhile_cons_of_neg hblank]

theorem solidText_flatten_takeWhile (deltas : List (List Char)) :
    solidText (deltas.takeWhile isBlankDelta).flatten = [] := by
  induction deltas with
  | nil => rfl
  | cons delta deltas ih =>
    by_cases hblank : isBlankDelta delta = true
    · have hsolid := stripText_eq_nil_iff.mp (of_decide_eq_true hblank)
      rw [List.takeWhile_cons_of_pos hblank, List.flatten_cons, solidText_append, hsolid, ih]
      rfl
    · rw [List.takeWhile_cons_of_neg hblank]
      rfl

/-- The renderer does not say the mark alone that a text starts with, where it did not hear the white space in
front of it. -/
theorem sentencesFrom_ne_of_startsWithMark (hblank : solidText spaces = []) (hne : spaces ≠ [])
    (hmark : StartsWithMark deltas.flatten []) :
    sentencesFrom [] deltas ≠ sentencesOf (spaces ++ deltas.flatten) := by
  obtain ⟨last, rest, hclose, hrest⟩ := hmark
  obtain ⟨taken, others, hfrom, -, hlead, hend⟩ :=
    exists_first_sentencesFrom speechSentence_nil (solidText_of_close hclose)
  rw [leadingSpace_of_close hclose, Nat.le_zero] at hlead
  rw [List.nil_append] at hfrom hend
  have hdiffers := stripText_ne_of_isSentence hclose (mt stripText_eq_nil_iff.mpr hrest) hlead
    (hend.imp_right fun heq ↦ by rw [heq, List.append_nil])
  intro hsame
  rw [hfrom, sentencesOf_of_some (speechSentence_of_close hclose hne hblank),
    stripText_append_of_blank hblank, stripText_of_close hclose] at hsame
  exact hdiffers (List.cons.inj hsame).1

/-- A split is spoken as its text in one piece if and only if it is safe. -/
theorem sentencesFrom_eq_sentencesOf_iff :
    sentencesFrom [] deltas = sentencesOf deltas.flatten ↔ IsSafe deltas := by
  have hspaces := solidText_flatten_takeWhile deltas
  have hsplit : deltas.flatten =
      (deltas.takeWhile isBlankDelta).flatten ++ (deltas.dropWhile isBlankDelta).flatten := by
    rw [← List.flatten_append, List.takeWhile_append_dropWhile]
  rw [← sentencesFrom_dropWhile, hsplit, IsSafe]
  rcases hdeltas : deltas.dropWhile isBlankDelta with _ | ⟨delta, after⟩
  · refine iff_of_true ?_ trivial
    rw [sentencesFrom_nil, List.flatten_nil, sentencesOf_append_of_blank hspaces, sentencesOf_nil]
    · rfl
    · rintro ⟨last, rest, hclose, -⟩
      cases hclose
  · have hblank : solidText delta ≠ [] := by
      have hne : deltas.dropWhile isBlankDelta ≠ [] := by
        rw [hdeltas]
        exact List.cons_ne_nil _ _
      have hhead := List.head_dropWhile_not isBlankDelta hne
      simp only [hdeltas, List.head_cons] at hhead
      exact mt stripText_eq_nil_iff.mpr (of_decide_eq_false hhead)
    have hlater := @sentencesFrom_eq_iff _ after (speechSentence_remainder ([] ++ delta))
      (remainder_eq_nil hblank)
    by_cases hmark : (deltas.takeWhile isBlankDelta).flatten ≠ [] ∧
        StartsWithMark (delta :: after).flatten []
    · refine iff_of_false (sentencesFrom_ne_of_startsWithMark hspaces hmark.1 hmark.2) fun hsafe ↦ ?_
      exact hsafe.1 hmark.1 hmark.2
    · have hstarts : (deltas.takeWhile isBlankDelta).flatten ≠ [] →
          ¬ StartsWithMark (delta ++ after.flatten) [] := fun hne hstart ↦ hmark ⟨hne, hstart⟩
      have hwhole : sentencesOf ((deltas.takeWhile isBlankDelta).flatten ++ (delta :: after).flatten) =
          sentencesOf (delta ++ after.flatten) := by
        by_cases hnil : (deltas.takeWhile isBlankDelta).flatten = []
        · rw [hnil]
          rfl
        · exact sentencesOf_append_of_blank hspaces (hstarts hnil)
      rw [hwhole, sentencesFrom_of_solid hblank]
      show _ ↔ ((deltas.takeWhile isBlankDelta).flatten ≠ [] → ¬ StartsWithMark (delta ++ after.flatten) []) ∧
        ¬ EndsEarly delta after.flatten ∧ IsSafeFrom (bufferAfter [] delta) after
      rw [bufferAfter_of_solid hblank]
      by_cases hearly : EndsEarly delta after.flatten
      · exact iff_of_false (sentencesOf_append_ne hearly _) fun hsafe ↦ hsafe.2.1 hearly
      · rw [List.nil_append] at hlater ⊢
        have hne : delta ≠ [] := append_ne_nil_of_solid hblank []
        rw [sentencesOf_append hne hearly, List.append_cancel_left_eq, hlater]
        exact ⟨fun hsafe ↦ ⟨hstarts, hearly, hsafe⟩, fun hsafe ↦ hsafe.2.2⟩

/-- A split of a text is spoken as every safe split of it, with the words of the text, if and only if it is
safe. -/
theorem keepsText_iff (deltas : List (List Char)) : KeepsText deltas ↔ IsSafe deltas := by
  constructor
  · rintro ⟨hsame, -⟩
    have hwhole : IsSafe [deltas.flatten] := by
      rw [← sentencesFrom_eq_sentencesOf_iff, List.flatten_singleton]
      exact sentencesFrom_singleton [] _ speechSentence_nil fun _ ↦ rfl
    have hone := hsame [deltas.flatten] List.flatten_singleton hwhole id
    rw [spoken_eq_map, spoken_eq_map, List.map_id, List.map_id,
      sentencesFrom_singleton [] _ speechSentence_nil fun _ ↦ rfl] at hone
    exact sentencesFrom_eq_sentencesOf_iff.mp hone
  · intro hsafe
    have hdeltas := sentencesFrom_eq_sentencesOf_iff.mpr hsafe
    constructor
    · intro other htext hother render
      rw [spoken_eq_map, spoken_eq_map, hdeltas, sentencesFrom_eq_sentencesOf_iff.mpr hother, htext]
    · rw [spoken_eq_map, List.map_id, hdeltas, splitWords_intercalate, flatMap_splitWords_sentencesOf]

/-- A text without a sentence is left as it is. -/
theorem spoken_of_none (h : speechSentence text = none) (hsolid : stripText text ≠ []) :
    spoken id [text] = [stripText text] := by
  rw [spoken_eq_map, List.map_id, sentencesFrom_singleton [] _ speechSentence_nil fun _ ↦ rfl,
    List.nil_append, sentencesOf_of_none h, lastSentence, if_neg hsolid]

/-- The space between two words is a delta of its own. -/
theorem not_keepsText_space :
    spoken id ["Hello".toList, " ".toList, "world".toList] = ["Helloworld".toList] ∧
      spoken id ["Hello world".toList] = ["Hello world".toList] ∧
      ¬ KeepsText ["Hello".toList, " ".toList, "world".toList] := by
  have hsplit : spoken id ["Hello".toList, " ".toList, "world".toList] = ["Helloworld".toList] := by
    have hhello : speechSentence ([] ++ "Hello".toList) = none := by decide
    have hboth : speechSentence ("Hello".toList ++ "world".toList) = none := by decide
    rw [spoken_eq_map, List.map_id, sentencesFrom_of_solid (by decide), sentencesIn_of_none hhello,
      remainder_of_none hhello, sentencesFrom_of_blank (by decide), List.nil_append, List.nil_append,
      sentencesFrom_of_solid (by decide), sentencesIn_of_none hboth, remainder_of_none hboth,
      sentencesFrom_nil]
    decide
  refine ⟨hsplit, spoken_of_none (by decide) (by decide), fun hkeeps ↦ ?_⟩
  have hwords := hkeeps.2
  rw [hsplit] at hwords
  revert hwords
  decide

end

end VoiceHarness
