import VoiceHarness.Llm.Assembly

/-!
# What a streamed reply keeps

The chunks that the callback is given are the text of the reply in order, and the message has the text and the
tool calls of the deltas that were read. A list of tool calls without an entry ends the chunks as a tool call
does, although the loop and the end of the function take it for none.
-/

set_option autoImplicit false
set_option relaxedAutoImplicit false

namespace VoiceHarness.Llm

/-! ### Deltas -/

/-- The pieces of tool calls of a delta. -/
def Delta.calls (delta : Delta) : List ToolDelta := delta.toolCalls.getD []

/-- The content of deltas. -/
def contentOf (deltas : List Delta) : List Char := deltas.flatMap fun delta ↦ delta.content.getD []

/-- The pieces of tool calls of deltas. -/
def callsOf (deltas : List Delta) : List ToolDelta := deltas.flatMap Delta.calls

theorem contentOf_append (first second : List Delta) :
    contentOf (first ++ second) = contentOf first ++ contentOf second :=
  List.flatMap_append

theorem callsOf_append (first second : List Delta) :
    callsOf (first ++ second) = callsOf first ++ callsOf second :=
  List.flatMap_append

/-- A delta with a list of tool calls, perhaps an empty one. -/
def Delta.EndsChunks (delta : Delta) : Prop := delta.toolCalls.isSome = true

section

variable [TransportText]

/-- The deltas of a response up to the end of the stream. -/
def deltasOf : List (List Char) → List Delta
  | [] => []
  | line :: lines =>
    match readLine line with
    | .ok .done => []
    | .ok (.delta delta) => delta :: deltasOf lines
    | _ => deltasOf lines

/-- No line up to the end of the stream raises. -/
def IsWellFormed : List (List Char) → Prop
  | [] => True
  | line :: lines =>
    match readLine line with
    | .error _ => False
    | .ok .done => True
    | .ok _ => IsWellFormed lines

end

/-! ### The state of the loop -/

/-- The state after these deltas: their text and calls, and a chunker that was fed the text until a list of tool
calls came or the callback answered `False`. -/
structure Follows (settings : StreamSettings) (deltas : List Delta) (state : StreamState) : Prop where
  content : state.content = contentOf deltas
  calls : Holds (callsOf deltas) state.toolCalls
  received : state.receivedEvent = true ↔ deltas ≠ []
  keeps : state.chunker.Keeps settings (contentOf deltas)
  deaf : state.chunker.listening = false →
    state.chunker.Refused settings ∨ ∃ delta ∈ deltas, delta.EndsChunks
  ends : (∃ delta ∈ deltas, delta.EndsChunks) → state.chunker.listening = false
  stops : state.cancelled = true →
    (state.chunker.Refused settings ∧ deltas ≠ []) ∨ ∃ number, settings.shouldCancel number = true

section

variable {settings : StreamSettings} {deltas : List Delta} {state : StreamState}

theorem follows_new (hlisten : settings.onTextChunk.isSome = true) :
    Follows settings [] (.new settings) where
  content := rfl
  calls := holds_nil
  received := by simp [StreamState.new]
  keeps := TextChunker.keeps_new settings
  deaf h := by
    have hdeaf : settings.onTextChunk.isSome = false := h
    rw [hlisten] at hdeaf
    cases hdeaf
  ends := by
    rintro ⟨delta, hdelta, -⟩
    exact absurd hdelta List.not_mem_nil
  stops h := by cases h

/-- The check for a cancellation ends the loop. -/
theorem Follows.cancel (h : Follows settings deltas state) {number : ℕ}
    (hcancel : settings.shouldCancel number = true) :
    Follows settings deltas { state with cancelled := true } where
  content := h.content
  calls := h.calls
  received := h.received
  keeps := h.keeps
  deaf := h.deaf
  ends := h.ends
  stops _ := .inr ⟨number, hcancel⟩

theorem contentOf_concat (deltas : List Delta) (delta : Delta) :
    contentOf (deltas ++ [delta]) = contentOf deltas ++ delta.content.getD [] := by
  simp [contentOf]

theorem callsOf_concat (deltas : List Delta) (delta : Delta) :
    callsOf (deltas ++ [delta]) = callsOf deltas ++ delta.calls := by
  simp [callsOf]

theorem concat_ne_nil (deltas : List Delta) (delta : Delta) : deltas ++ [delta] ≠ [] :=
  List.append_ne_nil_of_right_ne_nil _ (List.cons_ne_nil _ _)

/-- The tool calls of a delta, before its content. -/
theorem Follows.takeCalls (h : Follows settings deltas state) (hgoing : state.cancelled = false)
    (toolCalls : Option (List ToolDelta)) :
    Follows settings (deltas ++ [⟨toolCalls, none⟩]) (state.takeCalls toolCalls) := by
  have hcontent : contentOf (deltas ++ [⟨toolCalls, none⟩]) = contentOf deltas := by
    rw [contentOf_concat]
    exact List.append_nil _
  have hcalls := callsOf_concat deltas ⟨toolCalls, none⟩
  have hne := concat_ne_nil deltas ⟨toolCalls, none⟩
  have hstops : ∀ {p : Prop}, state.cancelled = true → p := fun hcancelled ↦ by
    rw [hgoing] at hcancelled
    cases hcancelled
  cases toolCalls with
  | none =>
    refine ⟨hcontent ▸ h.content, ?_, by simp [StreamState.takeCalls], hcontent ▸ h.keeps, fun hdeaf ↦ ?_,
      ?_, hstops⟩
    · rw [hcalls]
      exact (List.append_nil (callsOf deltas)).symm ▸ h.calls
    · rcases h.deaf hdeaf with hrefused | ⟨earlier, hmem, hearlier⟩
      · exact .inl hrefused
      · exact .inr ⟨earlier, List.mem_append_left _ hmem, hearlier⟩
    · rintro ⟨earlier, hmem, hearlier⟩
      rcases List.mem_append.mp hmem with hold | hlast
      · exact h.ends ⟨earlier, hold, hearlier⟩
      · obtain rfl := List.mem_singleton.mp hlast
        cases hearlier
  | some pieces =>
    refine ⟨hcontent ▸ h.content, ?_, by simp [StreamState.takeCalls], hcontent ▸ h.keeps.discard, fun _ ↦ ?_,
      fun _ ↦ rfl, hstops⟩
    · rw [hcalls]
      exact h.calls.foldl pieces
    · exact .inr ⟨⟨some pieces, none⟩, List.mem_append_right _ List.mem_cons_self, rfl⟩

/-- The content of a delta, behind its tool calls. -/
theorem Follows.takeContent (hfilter : settings.contentFilter = none) {toolCalls : Option (List ToolDelta)}
    (h : Follows settings (deltas ++ [⟨toolCalls, none⟩]) state) (hgoing : state.cancelled = false)
    (content : Option (List Char)) :
    Follows settings (deltas ++ [⟨toolCalls, content⟩]) (state.takeContent settings content) := by
  cases content with
  | none => exact h
  | some text =>
    have hbefore : contentOf (deltas ++ [⟨toolCalls, none⟩]) = contentOf deltas := by
      rw [contentOf_concat]
      exact List.append_nil _
    have hcontent : contentOf (deltas ++ [⟨toolCalls, some text⟩]) = contentOf deltas ++ text :=
      contentOf_concat deltas ⟨toolCalls, some text⟩
    have hcalls : callsOf (deltas ++ [⟨toolCalls, some text⟩]) =
        callsOf (deltas ++ [⟨toolCalls, none⟩]) := by
      rw [callsOf_concat, callsOf_concat]
      rfl
    have hne := concat_ne_nil deltas ⟨toolCalls, some text⟩
    have hreceived : state.receivedEvent = true :=
      h.received.mpr (concat_ne_nil deltas ⟨toolCalls, none⟩)
    have hends : (∃ earlier ∈ deltas ++ [⟨toolCalls, some text⟩], earlier.EndsChunks) ↔
        ∃ earlier ∈ deltas ++ [⟨toolCalls, none⟩], earlier.EndsChunks := by
      simp [or_and_right, exists_or, Delta.EndsChunks]
    have hnewContent : state.content ++ text = contentOf (deltas ++ [⟨toolCalls, some text⟩]) := by
      rw [h.content, hbefore, hcontent]
    have hkeeps := h.keeps
    rw [hbefore] at hkeeps
    -- a chunker that has lost its callback is as it was, whether it is fed or not
    have hsame : state.chunker.listening = false →
        Follows settings (deltas ++ [⟨toolCalls, some text⟩])
          { state with content := state.content ++ text, cancelled := false } := by
      intro hdeaf
      refine ⟨hnewContent, hcalls ▸ h.calls, iff_of_true hreceived hne, ?_, fun _ ↦ ?_, fun _ ↦ hdeaf,
        fun hcancelled ↦ by cases hcancelled⟩
      · rw [hcontent]
        exact hkeeps.append_of_deaf hdeaf text
      · exact (h.deaf hdeaf).imp_right hends.mpr
    rw [StreamState.takeContent]
    split_ifs with hnone
    · cases hlisten : state.chunker.listening with
      | true =>
        obtain ⟨hfed, houtcome⟩ := TextChunker.settles_feed hfilter hkeeps hlisten text
        rw [← hcontent] at hfed
        refine ⟨hnewContent, hcalls ▸ h.calls, iff_of_true hreceived hne, hfed, fun hdeaf ↦ .inl ?_,
          fun hended ↦ ?_, fun hcancelled ↦ .inl ⟨?_, hne⟩⟩
        · split_ifs at houtcome with hgoes
          · exact absurd (hdeaf.symm.trans houtcome) Bool.false_ne_true
          · exact houtcome.1
        · have hdeaf := h.ends (hends.mp hended)
          rw [hlisten] at hdeaf
          cases hdeaf
        · have hstopped : (state.chunker.feed settings text).2 = false := by simpa using hcancelled
          rw [hstopped] at houtcome
          exact houtcome.1
      | false =>
        rw [TextChunker.feed_of_deaf hlisten]
        exact hsame hlisten
    · obtain ⟨entry, hentry⟩ := List.exists_mem_of_ne_nil _ hnone
      have hindex := (h.calls.indexes entry.1).mp (List.mem_map.mpr ⟨entry, hentry, rfl⟩)
      obtain ⟨piece, hpiece, -⟩ := List.mem_map.mp hindex
      obtain ⟨earlier, hmem, hcall⟩ := List.mem_flatMap.mp hpiece
      have hended : earlier.EndsChunks := by
        rcases earlier with ⟨_ | pieces, content⟩
        · exact absurd hcall List.not_mem_nil
        · rfl
      have hfollows := hsame (h.ends ⟨earlier, hmem, hended⟩)
      rw [← hgoing] at hfollows
      exact hfollows

/-- One delta. -/
theorem Follows.takeDelta (hfilter : settings.contentFilter = none) (h : Follows settings deltas state)
    (hgoing : state.cancelled = false) (delta : Delta) :
    Follows settings (deltas ++ [delta]) (state.takeDelta settings delta) := by
  refine (h.takeCalls hgoing delta.toolCalls).takeContent hfilter ?_ delta.content
  rcases delta with ⟨_ | pieces, content⟩ <;> exact hgoing

end

/-- A chunker without a callback passes nothing on, whatever deltas come. -/
theorem passed_takeDelta_of_deaf (settings : StreamSettings) {state : StreamState}
    (hdeaf : state.chunker.listening = false) (delta : Delta) :
    (state.takeDelta settings delta).chunker.listening = false ∧
      (state.takeDelta settings delta).chunker.passed = state.chunker.passed := by
  have hcalls : ∀ toolCalls, (state.takeCalls toolCalls).chunker.listening = false ∧
      (state.takeCalls toolCalls).chunker.passed = state.chunker.passed := by
    intro toolCalls
    cases toolCalls with
    | none => exact ⟨hdeaf, rfl⟩
    | some pieces => exact ⟨rfl, rfl⟩
  obtain ⟨hstill, hpassed⟩ := hcalls delta.toolCalls
  unfold StreamState.takeDelta
  cases delta.content with
  | none => exact ⟨hstill, hpassed⟩
  | some text =>
    rw [StreamState.takeContent]
    split_ifs with hnone
    · rw [TextChunker.feed_of_deaf hstill]
      exact ⟨hstill, hpassed⟩
    · exact ⟨hstill, hpassed⟩

/-! ### Runs of the loop -/

section Runs

variable [TransportText] {settings : StreamSettings} {deltas : List Delta} {state final : StreamState}
  {number : ℕ} {lines unread : List (List Char)}

/-- What a line adds to the deltas of a response. -/
theorem deltasOf_append_prefix (first second : List (List Char)) :
    deltasOf first <+: deltasOf (first ++ second) := by
  induction first with
  | nil => exact List.nil_prefix
  | cons line first ih =>
    rw [List.cons_append]
    unfold deltasOf
    rcases readLine line with error | _ | _ | delta
    · exact ih
    · exact ih
    · exact List.prefix_rfl
    · exact List.cons_prefix_cons.mpr ⟨rfl, ih⟩

omit [TransportText] in
theorem contentOf_prefix {first second : List Delta} (h : first <+: second) :
    contentOf first <+: contentOf second := by
  obtain ⟨rest, rfl⟩ := h
  rw [contentOf_append]
  exact List.prefix_append _ _

/-- The deltas that the loop takes from lines, none behind the end of the stream. -/
def takenFrom (state : StreamState) (lines : List (List Char)) : List Delta :=
  if state.streamDone then [] else deltasOf lines

/-- The loop reads lines from the front and takes their deltas. -/
theorem follows_readResponse (hfilter : settings.contentFilter = none)
    (h : Follows settings deltas state) (hgoing : state.cancelled = false)
    (hrun : state.readResponse settings number lines = .ok (final, unread)) :
    ∃ read, lines = read ++ unread ∧ Follows settings (deltas ++ takenFrom state read) final ∧
      (final.cancelled = false → unread = []) := by
  induction lines generalizing number state deltas with
  | nil =>
    obtain ⟨rfl, rfl⟩ := Prod.mk.inj (Except.ok.inj hrun)
    refine ⟨[], rfl, ?_, fun _ ↦ rfl⟩
    have htaken : takenFrom state [] = [] := by
      unfold takenFrom
      split_ifs <;> rfl
    rw [htaken, List.append_nil]
    exact h
  | cons line lines ih =>
    rw [StreamState.readResponse] at hrun
    split_ifs at hrun with hcancel hdone
    · obtain ⟨rfl, rfl⟩ := Prod.mk.inj (Except.ok.inj hrun)
      refine ⟨[], rfl, ?_, fun hgoes ↦ by cases hgoes⟩
      have htaken : takenFrom state [] = [] := by
        unfold takenFrom
        split_ifs <;> rfl
      rw [htaken, List.append_nil]
      exact h.cancel hcancel
    · obtain ⟨read, rfl, hfollows, hall⟩ := ih h hgoing hrun
      refine ⟨line :: read, rfl, ?_, hall⟩
      rw [takenFrom, if_pos hdone] at hfollows ⊢
      exact hfollows
    · rcases hline : readLine line with error | _ | _ | delta
      · rw [hline] at hrun
        cases hrun
      · simp only [hline] at hrun
        obtain ⟨read, rfl, hfollows, hall⟩ := ih h hgoing hrun
        refine ⟨line :: read, rfl, ?_, hall⟩
        rw [takenFrom, if_neg hdone] at hfollows ⊢
        rw [deltasOf, hline]
        exact hfollows
      · simp only [hline] at hrun
        obtain ⟨read, rfl, hfollows, hall⟩ := @ih deltas { state with streamDone := true } _
          ⟨h.content, h.calls, h.received, h.keeps, h.deaf, h.ends, h.stops⟩ hgoing hrun
        refine ⟨line :: read, rfl, ?_, hall⟩
        rw [takenFrom, if_neg hdone, deltasOf, hline]
        exact hfollows
      · simp only [hline] at hrun
        have hnext := h.takeDelta hfilter hgoing delta
        have htaken : ∀ read, deltas ++ takenFrom state (line :: read) =
            deltas ++ [delta] ++ deltasOf read := by
          intro read
          rw [takenFrom, if_neg hdone, deltasOf, hline, List.append_assoc, List.singleton_append]
        split_ifs at hrun with hstopped
        · obtain ⟨rfl, rfl⟩ := Prod.mk.inj (Except.ok.inj hrun)
          refine ⟨[line], rfl, ?_, fun hgoes ↦ ?_⟩
          · rw [htaken]
            exact (List.append_nil _).symm ▸ hnext
          · rw [hstopped] at hgoes
            cases hgoes
        · obtain ⟨read, rfl, hfollows, hall⟩ := ih hnext (Bool.eq_false_iff.mpr hstopped) hrun
          refine ⟨line :: read, rfl, ?_, hall⟩
          rw [takenFrom, StreamState.takeDelta_streamDone, if_neg hdone] at hfollows
          rw [htaken]
          exact hfollows

/-- Where no line raises, the loop does not. -/
theorem exists_readResponse (hformed : state.streamDone = false → IsWellFormed lines) :
    ∃ outcome, state.readResponse settings number lines = .ok outcome := by
  induction lines generalizing number state with
  | nil => exact ⟨_, rfl⟩
  | cons line lines ih =>
    rw [StreamState.readResponse]
    split_ifs with hcancel hdone
    · exact ⟨_, rfl⟩
    · exact ih fun hgoes ↦ absurd (hdone.symm.trans hgoes) (by decide)
    · have hline := hformed (Bool.eq_false_iff.mpr hdone)
      rw [IsWellFormed] at hline
      rcases hread : readLine line with error | _ | _ | delta
      · rw [hread] at hline
        exact hline.elim
      · rw [hread] at hline
        exact ih fun _ ↦ hline
      · exact ih fun hgoes ↦ by cases hgoes
      · rw [hread] at hline
        simp only []
        split_ifs with hstopped
        · exact ⟨_, rfl⟩
        · exact ih fun _ ↦ hline

/-- A run over lines and then over more of them. -/
theorem readResponse_append (hgoing : state.cancelled = false) (more : List (List Char))
    (hrun : state.readResponse settings number lines = .ok (final, unread)) :
    state.readResponse settings number (lines ++ more) =
      if final.cancelled then .ok (final, unread ++ more)
      else final.readResponse settings (number + lines.length) more := by
  induction lines generalizing number state with
  | nil =>
    obtain ⟨rfl, rfl⟩ := Prod.mk.inj (Except.ok.inj hrun)
    rw [hgoing]
    rfl
  | cons line lines ih =>
    have hnumber : number + (line :: lines).length = number + 1 + lines.length := by
      rw [List.length_cons]
      omega
    rw [hnumber, List.cons_append]
    rw [StreamState.readResponse] at hrun ⊢
    by_cases hcancel : settings.shouldCancel number = true
    · rw [if_pos hcancel] at hrun ⊢
      obtain ⟨rfl, rfl⟩ := Prod.mk.inj (Except.ok.inj hrun)
      rfl
    · rw [if_neg hcancel] at hrun ⊢
      by_cases hdone : state.streamDone = true
      · rw [if_pos hdone] at hrun ⊢
        exact ih hgoing hrun
      · rw [if_neg hdone] at hrun ⊢
        rcases hread : readLine line with error | _ | _ | delta
        · rw [hread] at hrun
          cases hrun
        · rw [hread] at hrun
          exact ih hgoing hrun
        · rw [hread] at hrun
          exact @ih { state with streamDone := true } _ hgoing hrun
        · simp only [hread] at hrun ⊢
          by_cases hstopped : (state.takeDelta settings delta).cancelled = true
          · rw [if_pos hstopped] at hrun ⊢
            obtain ⟨rfl, rfl⟩ := Prod.mk.inj (Except.ok.inj hrun)
            rw [if_pos hstopped]
          · rw [if_neg hstopped] at hrun ⊢
            exact ih (Bool.eq_false_iff.mpr hstopped) hrun

/-- Without the end of the stream among its lines a run does not see it. -/
theorem streamDone_readResponse (hnever : ∀ line ∈ lines, readLine line ≠ .ok .done)
    (hrun : state.readResponse settings number lines = .ok (final, unread)) :
    final.streamDone = state.streamDone := by
  induction lines generalizing number state with
  | nil =>
    obtain ⟨rfl, rfl⟩ := Prod.mk.inj (Except.ok.inj hrun)
    rfl
  | cons line lines ih =>
    have hlater := fun other hother ↦ hnever other (List.mem_cons_of_mem _ hother)
    rw [StreamState.readResponse] at hrun
    split_ifs at hrun with hcancel hdone
    · obtain ⟨rfl, rfl⟩ := Prod.mk.inj (Except.ok.inj hrun)
      rfl
    · exact ih hlater hrun
    · rcases hread : readLine line with error | _ | _ | delta
      · rw [hread] at hrun
        cases hrun
      · rw [hread] at hrun
        exact ih hlater hrun
      · exact absurd hread (hnever line List.mem_cons_self)
      · simp only [hread] at hrun
        split_ifs at hrun with hstopped
        · obtain ⟨rfl, rfl⟩ := Prod.mk.inj (Except.ok.inj hrun)
          exact StreamState.takeDelta_streamDone settings state delta
        · rw [ih hlater hrun, StreamState.takeDelta_streamDone]

/-- What every delta keeps of the chunker, a run keeps. -/
theorem chunker_readResponse {P : TextChunker → Prop}
    (hstep : ∀ (state : StreamState) delta, P state.chunker → P (state.takeDelta settings delta).chunker)
    (h : P state.chunker) (hrun : state.readResponse settings number lines = .ok (final, unread)) :
    P final.chunker := by
  induction lines generalizing number state with
  | nil =>
    obtain ⟨rfl, rfl⟩ := Prod.mk.inj (Except.ok.inj hrun)
    exact h
  | cons line lines ih =>
    rw [StreamState.readResponse] at hrun
    split_ifs at hrun with hcancel hdone
    · obtain ⟨rfl, rfl⟩ := Prod.mk.inj (Except.ok.inj hrun)
      exact h
    · exact ih h hrun
    · rcases hread : readLine line with error | _ | _ | delta
      · rw [hread] at hrun
        cases hrun
      · rw [hread] at hrun
        exact ih h hrun
      · rw [hread] at hrun
        exact @ih { state with streamDone := true } _ h hrun
      · simp only [hread] at hrun
        split_ifs at hrun with hstopped
        · obtain ⟨rfl, rfl⟩ := Prod.mk.inj (Except.ok.inj hrun)
          exact hstep state delta h
        · exact ih (hstep state delta h) hrun

/-- A chunker without a callback passes nothing on. -/
theorem passed_readResponse_of_deaf (hdeaf : state.chunker.listening = false)
    (hrun : state.readResponse settings number lines = .ok (final, unread)) :
    final.chunker.listening = false ∧ final.chunker.passed = state.chunker.passed := by
  refine chunker_readResponse
    (P := fun chunker ↦ chunker.listening = false ∧ chunker.passed = state.chunker.passed)
    (fun other delta hother ↦ ?_) ⟨hdeaf, rfl⟩ hrun
  obtain ⟨hstill, hsame⟩ := passed_takeDelta_of_deaf settings hother.1 delta
  exact ⟨hstill, hsame.trans hother.2⟩

/-- In late mode the loop passes nothing on. -/
theorem passed_readResponse_of_late (hlate : settings.emitTextEarly = false)
    (hpassed : state.chunker.passed = [])
    (hrun : state.readResponse settings number lines = .ok (final, unread)) :
    final.chunker.passed = [] := by
  refine chunker_readResponse (P := fun chunker ↦ chunker.passed = []) (fun other delta hother ↦ ?_)
    hpassed hrun
  have hcalls : (other.takeCalls delta.toolCalls).chunker.passed = [] := by
    cases delta.toolCalls with
    | none => exact hother
    | some pieces => exact hother
  unfold StreamState.takeDelta
  cases delta.content with
  | none => exact hcalls
  | some text =>
    rw [StreamState.takeContent]
    split_ifs with hnone
    · show ((other.takeCalls delta.toolCalls).chunker.feed settings text).1.passed = []
      rw [TextChunker.feed]
      split_ifs with hdeaf hmode
      · exact hcalls
      · exact hcalls
      · exact absurd hlate (by simpa using hmode)
    · exact hcalls

/-- A run over good lines has an outcome. -/
theorem exists_run (settings : StreamSettings) {response : List (List Char)}
    (hformed : IsWellFormed response) :
    ∃ final unread, (StreamState.new settings).readResponse settings 0 response = .ok (final, unread) := by
  have hnew : (StreamState.new settings).streamDone = false → IsWellFormed response := fun _ ↦ hformed
  obtain ⟨⟨final, unread⟩, hrun⟩ := exists_readResponse hnew
  exact ⟨final, unread, hrun⟩

end Runs

end VoiceHarness.Llm
