import VoiceHarness.Llm.Conservation

/-!
# The laws of a streamed reply

A response of good lines keeps the laws of `streamed_message` for every callback and in both modes, unless a
delta has a list of tool calls without an entry: then the callback may miss text of a reply without tool calls.
-/

set_option autoImplicit false
set_option relaxedAutoImplicit false

namespace VoiceHarness.Llm

/-- A call of the callback answered `False`. -/
def Refuses (settings : StreamSettings) (passed : List (List Char)) : Prop :=
  ∃ count, count < passed.length ∧ settings.answer (passed.take (count + 1)) = some false

/-- `text or None`. -/
def textOrNone (text : List Char) : Option (List Char) := if text = [] then none else some text

/-- The tool calls of a message; a message without any has no list. -/
def callsOrNone (deltas : List ToolDelta) : Option (List ToolCall) :=
  if deltas = [] then none else some (assembledCalls deltas)

variable [TransportText] {settings : StreamSettings} {response : List (List Char)}

/-- What the chunks and the message of a reply are to the deltas of its response. -/
structure IsFaithful (settings : StreamSettings) (response : List (List Char)) (streamed : Streamed) :
    Prop where
  complete : (∀ delta ∈ deltasOf response, delta.calls = []) → ¬ Refuses settings streamed.passed →
    (∀ number, settings.shouldCancel number = false) →
      solidText streamed.passed.flatten = solidText (contentOf (deltasOf response))
  inOrder : solidText streamed.passed.flatten <+: solidText (contentOf (deltasOf response))
  afterRefusal : ∀ count, count < streamed.passed.length →
    settings.answer (streamed.passed.take (count + 1)) = some false → count + 1 = streamed.passed.length
  afterCalls : ∀ before line delta after, response = before ++ line :: after →
    (∀ other ∈ before, readLine other ≠ .ok .done) → readLine line = .ok (.delta delta) →
      delta.calls ≠ [] → ∃ state unread,
        (StreamState.new settings).readResponse settings 0 before = .ok (state, unread) ∧
          streamed.passed = state.chunker.passed
  message : ∃ read, response = read ++ streamed.unread ∧
    streamed.content = textOrNone (contentOf (deltasOf read)) ∧
      streamed.toolCalls = callsOrNone (callsOf (deltasOf read))
  whole : ¬ Refuses settings streamed.passed → (∀ number, settings.shouldCancel number = false) →
    streamed.unread = []

/-- The function answers, unless it is cancelled or there is no delta, and its answer is faithful. -/
def KeepsLaws (settings : StreamSettings) (response : List (List Char)) : Prop :=
  ((∀ number, settings.shouldCancel number = false) → deltasOf response ≠ [] →
    ∃ streamed, streamedMessage settings response = .ok streamed) ∧
  ∀ streamed, streamedMessage settings response = .ok streamed → IsFaithful settings response streamed

/-! ### The end of the function -/

section

omit [TransportText]

variable {deltas : List Delta} {state : StreamState} {unread : List (List Char)} {streamed : Streamed}

theorem TextChunker.Refused.refuses {chunker : TextChunker} (h : chunker.Refused settings) :
    Refuses settings chunker.passed := by
  have hpositive := List.length_pos_iff.mpr h.1
  refine ⟨chunker.passed.length - 1, by omega, ?_⟩
  rw [List.take_of_length_le (by omega)]
  exact h.2

/-- A chunker that was refused has no callback. -/
theorem TextChunker.Keeps.deaf_of_refused {fed : List Char} {chunker : TextChunker}
    (h : chunker.Keeps settings fed) (hrefused : chunker.Refused settings) :
    chunker.listening = false := by
  obtain ⟨count, hcount, hanswer⟩ := hrefused.refuses
  exact (h.never count hcount hanswer).2

/-- The message has the text and the calls of the deltas, and the chunker passes on what is left if it still
has its callback. -/
theorem exists_of_message (hfilter : settings.contentFilter = none) (h : Follows settings deltas state)
    (hmessage : state.message settings unread = .ok streamed) :
    deltas ≠ [] ∧ streamed.unread = unread ∧ streamed.content = textOrNone (contentOf deltas) ∧
      streamed.toolCalls = callsOrNone (callsOf deltas) ∧
      ∃ chunker : TextChunker, chunker.passed = streamed.passed ∧
        chunker.Keeps settings (contentOf deltas) ∧
        (state.chunker.listening = false ∨ state.cancelled = true →
          streamed.passed = state.chunker.passed) ∧
        (state.chunker.listening = true → state.cancelled = false → callsOf deltas = [] →
          chunker.Refused settings ∨
            solidText streamed.passed.flatten = solidText (contentOf deltas)) := by
  have hcalls : state.toolCalls = [] ↔ callsOf deltas = [] := by
    constructor
    · intro hnone
      rw [List.eq_nil_iff_forall_not_mem]
      intro piece hpiece
      have hindex := (h.calls.indexes piece.index).mpr (List.mem_map.mpr ⟨piece, hpiece, rfl⟩)
      rw [hnone] at hindex
      exact List.not_mem_nil hindex
    · intro hnone
      rw [List.eq_nil_iff_forall_not_mem]
      intro entry hentry
      have hindex := (h.calls.indexes entry.1).mp (List.mem_map.mpr ⟨entry, hentry, rfl⟩)
      rw [hnone] at hindex
      exact List.not_mem_nil hindex
  have hreceived : state.receivedEvent = true := by
    by_contra hnot
    rw [StreamState.message, if_pos (by simpa using hnot)] at hmessage
    cases hmessage
  rw [StreamState.message, if_neg (by simp [hreceived])] at hmessage
  obtain rfl := Except.ok.inj hmessage
  have hanswer : state.answer settings = contentOf deltas := by
    rw [StreamState.answer, TextChunker.getD_contentFilter hfilter, ite_self, h.content]
  refine ⟨h.received.mp hreceived, rfl, ?_, ?_, state.lastChunker settings, rfl, ?_, ?_, ?_⟩
  · rw [hanswer]
    rfl
  · simp only [hcalls, h.calls.sortedCalls_eq]
    rfl
  · unfold StreamState.lastChunker
    split_ifs with hflush
    · cases hlisten : state.chunker.listening with
      | true => exact (TextChunker.said_flush hfilter h.keeps hlisten).1
      | false =>
        rw [TextChunker.flush_of_deaf hlisten]
        exact h.keeps.of_deaf hlisten rfl
    · exact h.keeps
  · show state.chunker.listening = false ∨ state.cancelled = true →
      (state.lastChunker settings).passed = state.chunker.passed
    unfold StreamState.lastChunker
    rintro (hdeaf | hcancelled)
    · split_ifs with hflush
      · rw [TextChunker.flush_of_deaf hdeaf]
      · rfl
    · rw [if_neg fun hflush ↦ absurd (hcancelled.symm.trans hflush.2) (by decide)]
  · intro hlisten hgoing hnone
    show (state.lastChunker settings).Refused settings ∨
      solidText (state.lastChunker settings).passed.flatten = solidText (contentOf deltas)
    unfold StreamState.lastChunker
    by_cases hempty : state.content = []
    · have hcontent : contentOf deltas = [] := h.content ▸ hempty
      have hin := h.keeps.inOrder
      rw [hcontent, solidText_nil, List.prefix_nil] at hin
      rw [if_neg fun hflush ↦ hflush.1.1 hempty, hcontent]
      exact .inr hin
    · rw [if_pos ⟨⟨hempty, hcalls.mpr hnone⟩, hgoing⟩]
      exact (TextChunker.said_flush hfilter h.keeps hlisten).2

end

/-! ### The laws -/

/-- A response of good lines starts with good lines. -/
theorem IsWellFormed.of_append {first second : List (List Char)} (h : IsWellFormed (first ++ second)) :
    IsWellFormed first := by
  induction first with
  | nil => trivial
  | cons line first ih =>
    rw [List.cons_append] at h
    unfold IsWellFormed at h ⊢
    rcases hread : readLine line with error | _ | _ | delta <;> rw [hread] at h
    · exact h
    · exact ih h
    · exact h
    · exact ih h

/-- A delta with a tool call ends the chunks for good. -/
theorem passed_of_afterCalls (hformed : IsWellFormed response) {before after : List (List Char)}
    {line : List Char} {delta : Delta} (hresponse : response = before ++ line :: after)
    (hnever : ∀ other ∈ before, readLine other ≠ .ok .done) (hline : readLine line = .ok (.delta delta))
    (hcalls : delta.calls ≠ []) {final : StreamState} {unread : List (List Char)}
    (hrun : (StreamState.new settings).readResponse settings 0 response = .ok (final, unread)) :
    ∃ state rest, (StreamState.new settings).readResponse settings 0 before = .ok (state, rest) ∧
      final.chunker.passed = state.chunker.passed ∧
        (final.chunker.listening = false ∨ final.cancelled = true) := by
  subst hresponse
  obtain ⟨state, rest, hbefore⟩ := exists_run settings hformed.of_append
  have hdone : state.streamDone = false := streamDone_readResponse hnever hbefore
  refine ⟨state, rest, hbefore, ?_⟩
  rw [readResponse_append rfl _ hbefore] at hrun
  by_cases hstopped : state.cancelled = true
  · rw [if_pos hstopped] at hrun
    obtain ⟨rfl, -⟩ := Prod.mk.inj (Except.ok.inj hrun)
    exact ⟨rfl, .inr hstopped⟩
  · rw [if_neg hstopped, StreamState.readResponse] at hrun
    by_cases hcancel : settings.shouldCancel (0 + before.length) = true
    · rw [if_pos hcancel] at hrun
      obtain ⟨rfl, -⟩ := Prod.mk.inj (Except.ok.inj hrun)
      exact ⟨rfl, .inr rfl⟩
    · rw [if_neg hcancel, if_neg (by simp [hdone]), hline] at hrun
      -- the tool calls of the delta take the callback away before its content is read
      have htaken : (state.takeDelta settings delta).chunker.listening = false ∧
          (state.takeDelta settings delta).chunker.passed = state.chunker.passed := by
        obtain ⟨_ | pieces, content⟩ := delta
        · exact absurd rfl hcalls
        · have hdeaf : (state.takeCalls (some pieces)).chunker.listening = false := rfl
          exact passed_takeDelta_of_deaf settings hdeaf ⟨none, content⟩
      simp only [] at hrun
      split_ifs at hrun with hended
      · obtain ⟨rfl, -⟩ := Prod.mk.inj (Except.ok.inj hrun)
        exact ⟨htaken.2, .inl htaken.1⟩
      · obtain ⟨hdeaf, hpassed⟩ := passed_readResponse_of_deaf htaken.1 hrun
        exact ⟨hpassed.trans htaken.2, .inl hdeaf⟩

/-- All but the completeness of the chunks holds for every response of good lines. -/
theorem keepsLaws_of (hformed : IsWellFormed response) (hfilter : settings.contentFilter = none)
    (hlisten : settings.onTextChunk.isSome = true)
    (hcomplete : (∃ delta ∈ deltasOf response, delta.calls ≠ []) ∨
      (∀ delta ∈ deltasOf response, delta.toolCalls ≠ some []) ∨
        solidText (contentOf (deltasOf response)) = []) : KeepsLaws settings response := by
  obtain ⟨final, unread, hrun⟩ := exists_run settings hformed
  obtain ⟨read, hread, hfollows, hall⟩ := follows_readResponse hfilter (follows_new hlisten) rfl hrun
  have htaken : ([] : List Delta) ++ takenFrom (.new settings) read = deltasOf read := rfl
  rw [htaken] at hfollows
  have hmessage : streamedMessage settings response = final.message settings unread := by
    rw [streamedMessage, hrun]
  have hprefix : deltasOf read <+: deltasOf response := hread ▸ deltasOf_append_prefix read unread
  constructor
  · intro hnever hdeltas
    have hne : deltasOf read ≠ [] := by
      by_cases hgoing : final.cancelled = true
      · rcases hfollows.stops hgoing with ⟨-, hne⟩ | ⟨number, hcancel⟩
        · exact hne
        · rw [hnever number] at hcancel
          cases hcancel
      · have hend := hall (Bool.eq_false_iff.mpr hgoing)
        rw [hread, hend, List.append_nil] at hdeltas
        exact hdeltas
    rw [hmessage, StreamState.message, if_neg (by simp [hfollows.received.mpr hne])]
    exact ⟨_, rfl⟩
  · intro streamed hstreamed
    rw [hmessage] at hstreamed
    obtain ⟨-, hunread, hcontent, hcallsOf, chunker, hpassed, hkeeps, hsame, hsaid⟩ :=
      exists_of_message hfilter hfollows hstreamed
    have hrefuses : ∀ {other : TextChunker}, other.passed = streamed.passed →
        other.Refused settings → Refuses settings streamed.passed := by
      intro other hother hrefused
      rw [← hother]
      exact hrefused.refuses
    -- a refusal in the loop is the last call of the callback
    have hloop : final.chunker.Refused settings → Refuses settings streamed.passed := by
      intro hrefused
      have hdeaf := hfollows.keeps.deaf_of_refused hrefused
      exact hrefuses (hsame (.inl hdeaf)).symm hrefused
    have hwhole : ¬ Refuses settings streamed.passed →
        (∀ number, settings.shouldCancel number = false) → final.cancelled = false := by
      intro hnot hnever
      by_contra hcancelled
      rcases hfollows.stops (by simpa using hcancelled) with ⟨hrefused, -⟩ | ⟨number, hcancel⟩
      · exact hnot (hloop hrefused)
      · rw [hnever number] at hcancel
        cases hcancel
    refine ⟨fun hnone hnot hnever ↦ ?_, ?_, ?_, ?_, ⟨read, hunread ▸ hread, hcontent, hcallsOf⟩,
      fun hnot hnever ↦ hunread.trans (hall (hwhole hnot hnever))⟩
    · have hgoing := hwhole hnot hnever
      have hsameDeltas : deltasOf read = deltasOf response := by
        rw [hread, hall hgoing, List.append_nil]
      rw [← hsameDeltas] at hnone hcomplete ⊢
      have hnoCalls : callsOf (deltasOf read) = [] := by
        rw [callsOf, List.flatMap_eq_nil_iff]
        exact hnone
      rcases hcomplete with ⟨delta, hdelta, hcall⟩ | hlists | hblank
      · exact absurd (hnone delta hdelta) hcall
      · cases hlistens : final.chunker.listening with
        | true =>
          rcases hsaid hlistens hgoing hnoCalls with hrefused | hsolid
          · exact absurd (hrefuses hpassed hrefused) hnot
          · exact hsolid
        | false =>
          rcases hfollows.deaf hlistens with hrefused | ⟨delta, hdelta, hends⟩
          · exact absurd (hloop hrefused) hnot
          · have hlist := hlists delta hdelta
            have hcall := hnone delta hdelta
            obtain ⟨_ | pieces, content⟩ := delta
            · cases hends
            · obtain rfl : pieces = [] := hcall
              exact absurd rfl hlist
      · have hin := hkeeps.inOrder
        rw [hpassed, hblank, List.prefix_nil] at hin
        rw [hin, hblank]
    · have hsolid : solidText (contentOf (deltasOf read)) <+: solidText (contentOf (deltasOf response)) := by
        obtain ⟨more, hmore⟩ := contentOf_prefix hprefix
        rw [← hmore, solidText_append]
        exact List.prefix_append _ _
      rw [← hpassed]
      exact hkeeps.inOrder.trans hsolid
    · intro count hcount hanswer
      rw [← hpassed] at hcount hanswer ⊢
      exact (hkeeps.never count hcount hanswer).1
    · intro before line delta after hsplit hnever hline hcalls
      obtain ⟨state, rest, hbefore, hfinal, hend⟩ :=
        passed_of_afterCalls hformed hsplit hnever hline hcalls hrun
      exact ⟨state, rest, hbefore, (hsame hend).trans hfinal⟩

/-- A response of one delta. -/
theorem isWellFormed_of_line {line : List Char} {delta : Delta} (h : readLine line = .ok (.delta delta)) :
    IsWellFormed [line] := by
  rw [IsWellFormed, h]
  trivial

theorem deltasOf_of_line {line : List Char} {delta : Delta} (h : readLine line = .ok (.delta delta)) :
    deltasOf [line] = [delta] := by
  rw [deltasOf, h]
  rfl

/-- A callback that goes on, in late mode. -/
def lateSettings : StreamSettings where
  onTextChunk := some fun _ ↦ none
  contentFilter := none
  emitTextEarly := false
  shouldCancel _ := false

/-- The laws hold for every callback, both modes and every check for a cancellation if and only if the response
has a tool call, no list of tool calls without an entry, or no text. -/
theorem keepsLaws_iff (hformed : IsWellFormed response) :
    (∀ settings : StreamSettings, settings.contentFilter = none → settings.onTextChunk.isSome = true →
        KeepsLaws settings response) ↔
      (∃ delta ∈ deltasOf response, delta.calls ≠ []) ∨
        (∀ delta ∈ deltasOf response, delta.toolCalls ≠ some []) ∨
          solidText (contentOf (deltasOf response)) = [] := by
  constructor
  · intro hlaws
    by_contra hnot
    simp only [not_or, not_exists, not_and, not_forall] at hnot
    obtain ⟨hnoCalls, ⟨delta, hdelta, hlist⟩, htext⟩ := hnot
    have hnever : ∀ number, lateSettings.shouldCancel number = false := fun _ ↦ rfl
    obtain ⟨htotal, hfaithful⟩ := hlaws lateSettings rfl rfl
    obtain ⟨streamed, hstreamed⟩ := htotal hnever (List.ne_nil_of_mem hdelta)
    obtain ⟨final, unread, hrun⟩ := exists_run lateSettings hformed
    obtain ⟨read, hread, hfollows, hall⟩ := follows_readResponse rfl (follows_new rfl) rfl hrun
    have htaken : ([] : List Delta) ++ takenFrom (.new lateSettings) read = deltasOf read := rfl
    rw [htaken] at hfollows
    rw [streamedMessage, hrun] at hstreamed
    obtain ⟨-, -, -, -, chunker, hpassed, -, hsame, -⟩ := exists_of_message rfl hfollows hstreamed
    have hlaw := (hfaithful streamed (by rw [streamedMessage, hrun]; exact hstreamed))
    have hnone : final.chunker.passed = [] := passed_readResponse_of_late rfl rfl hrun
    have hgoing : final.cancelled = false := by
      by_contra hcancelled
      rcases hfollows.stops (by simpa using hcancelled) with ⟨hrefused, -⟩ | ⟨number, hcancel⟩
      · exact hrefused.1 hnone
      · cases hcancel
    have hdeaf : final.chunker.listening = false := by
      rw [hread, hall hgoing, List.append_nil] at hdelta
      refine hfollows.ends ⟨delta, hdelta, ?_⟩
      rw [Delta.EndsChunks, not_not.mp hlist]
      rfl
    have hempty : streamed.passed = [] := (hsame (.inl hdeaf)).trans hnone
    have hcomplete := hlaw.complete (fun other hother ↦ not_not.mp (hnoCalls other hother)) ?_ hnever
    · rw [hempty] at hcomplete
      exact htext hcomplete.symm
    · rintro ⟨count, hcount, -⟩
      rw [hempty] at hcount
      exact absurd hcount (Nat.not_lt_zero count)
  · intro hcomplete settings hfilter hlisten
    exact keepsLaws_of hformed hfilter hlisten hcomplete

section

omit [TransportText]

/-- The functions of the transport where every value is a text. -/
@[reducible] def plainTransport : TransportText where
  str _ := ""
  int _ := none
  redactDiagnostic _ := ""

def plainLine : List Char :=
  "data: \x7b\"choices\": [\x7b\"delta\": \x7b\"content\": \"Hello there.\"\x7d\x7d]\x7d".toList

theorem readLine_plain :
    @readLine plainTransport plainLine = .ok (.delta ⟨none, some "Hello there.".toList⟩) := by
  have hloads : JsonText.loads (stripText ((stripText plainLine).drop 5)) =
      some (.obj [("choices", .arr [.obj [("delta", .obj [("content", .str "Hello there.")])]])]) := by
    decide +kernel
  have hprefix : "data:".toList.isPrefixOf (stripText plainLine) = true := by decide +kernel
  have hdone : stripText ((stripText plainLine).drop 5) ≠ "[DONE]".toList := by decide +kernel
  exact @readLine_of_loads plainTransport _ _ hprefix hdone hloads

theorem keepsLaws_plain : @KeepsLaws plainTransport lateSettings [plainLine] := by
  let _ := plainTransport
  have hlaws : ∀ line : List Char, readLine line = .ok (.delta ⟨none, some "Hello there.".toList⟩) →
      KeepsLaws lateSettings [line] := by
    intro line hline
    refine (keepsLaws_iff (isWellFormed_of_line hline)).mpr (.inr (.inl fun delta hdelta ↦ ?_))
      lateSettings rfl rfl
    rw [deltasOf_of_line hline, List.mem_singleton] at hdelta
    rw [hdelta]
    exact nofun
  exact hlaws plainLine readLine_plain

/-- The delta says "Hello there." and has an empty list of tool calls. -/
def emptyCallsLine : List Char :=
  ("data: \x7b\"choices\": [\x7b\"delta\": \x7b\"content\": \"Hello there.\", " ++
    "\"tool_calls\": []\x7d\x7d]\x7d").toList

theorem readLine_emptyCalls :
    @readLine plainTransport emptyCallsLine = .ok (.delta ⟨some [], some "Hello there.".toList⟩) := by
  have hloads : JsonText.loads (stripText ((stripText emptyCallsLine).drop 5)) =
      some (.obj [("choices", .arr [.obj [("delta", .obj
        [("content", .str "Hello there."), ("tool_calls", .arr [])])]])]) := by
    decide +kernel
  have hprefix : "data:".toList.isPrefixOf (stripText emptyCallsLine) = true := by decide +kernel
  have hdone : stripText ((stripText emptyCallsLine).drop 5) ≠ "[DONE]".toList := by decide +kernel
  exact @readLine_of_loads plainTransport _ _ hprefix hdone hloads

/-- The message has the text and no tool calls, and the callback was given nothing. -/
theorem not_keepsLaws_emptyCalls :
    @IsWellFormed plainTransport [emptyCallsLine] ∧
      @streamedMessage plainTransport lateSettings [emptyCallsLine] =
        .ok ⟨some "Hello there.".toList, none, [], []⟩ ∧
      ¬ @KeepsLaws plainTransport lateSettings [emptyCallsLine] := by
  let _ := plainTransport
  have hbreaks : ∀ line : List Char, readLine line = .ok (.delta ⟨some [], some "Hello there.".toList⟩) →
      IsWellFormed [line] ∧
        streamedMessage lateSettings [line] = .ok ⟨some "Hello there.".toList, none, [], []⟩ ∧
          ¬ KeepsLaws lateSettings [line] := by
    intro line hline
    have hrun : (StreamState.new lateSettings).readResponse lateSettings 0 [line] =
        .ok ((StreamState.new lateSettings).takeDelta lateSettings
          ⟨some [], some "Hello there.".toList⟩, []) := by
      rw [StreamState.readResponse, hline]
      rfl
    have hmessage : streamedMessage lateSettings [line] =
        .ok ⟨some "Hello there.".toList, none, [], []⟩ := by
      rw [streamedMessage, hrun]
      decide +kernel
    refine ⟨isWellFormed_of_line hline, hmessage, fun hlaws ↦ ?_⟩
    have hcomplete := (hlaws.2 _ hmessage).complete
    rw [deltasOf_of_line hline] at hcomplete
    have hsolid := hcomplete (by decide) (by rintro ⟨count, hcount, -⟩; cases hcount) fun _ ↦ rfl
    revert hsolid
    decide +kernel
  exact hbreaks emptyCallsLine readLine_emptyCalls

end

end VoiceHarness.Llm
