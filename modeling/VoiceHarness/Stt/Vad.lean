import Mathlib.Data.List.TakeWhile
import Mathlib.Data.Rat.Defs
import Mathlib.Algebra.Order.Field.Rat
import Mathlib.Order.Bounds.Basic
import Mathlib.Tactic.Ring

/-!
# Capturing speech from the microphone

`capture_vad_audio` reads frames, holds them back until enough consecutive ones are speech, and writes every
frame from then on until the speaker has been silent long enough or the recording is long enough. A frame is
whatever the microphone delivers, with the detector's verdict on it. `captureVadAudio_slice` says which frames
of the input are written.
-/

set_option autoImplicit false
set_option relaxedAutoImplicit false

namespace VoiceHarness.Stt

/-- `FRAME_MS`. -/
def frameMs : ℚ := 80

/-- The settings of `VadCaptureSettings` that the capture reads. -/
structure VadCaptureSettings where
  endSilenceMs : ℚ
  maxSeconds : ℚ
  startSpeechFrames : ℕ

/-- Why no further frame comes. -/
inductive MicrophoneEnd
  | cancelled
  | unavailable
  | ended (detail : String)

/-- The text of the `HarnessError`. -/
def MicrophoneEnd.message : MicrophoneEnd → String
  | .cancelled => "VAD dictation was cancelled"
  | .unavailable => "microphone stream is unavailable"
  | .ended detail => "microphone stream ended: " ++ detail

/-- The locals of the loop, and the frames written to the file. -/
structure Capture (Frame : Type*) where
  hasSpeech : Bool := false
  candidateFrames : List Frame := []
  silenceMs : ℚ := 0
  capturedFrameCount : ℕ := 0
  output : List Frame := []

section Capture

variable {Frame : Type*} (settings : VadCaptureSettings) (round : ℚ → ℚ)

/-- The tests at the end of the loop's body, with the outcome with which it breaks. `round` is the rounding of
a quotient to a float. -/
def Capture.conclude (capture : Capture Frame) : Capture Frame × Option String :=
  let duration := round (capture.capturedFrameCount * frameMs / 1000)
  if settings.endSilenceMs ≤ capture.silenceMs then (capture, some "silence")
  else if settings.maxSeconds ≤ duration then (capture, some "maximum duration")
  else (capture, none)

/-- The loop's body for one frame. -/
def Capture.step (capture : Capture Frame) (frame : Frame) (speechDetected : Bool) :
    Capture Frame × Option String :=
  if !capture.hasSpeech then
    let candidateFrames := if speechDetected then capture.candidateFrames ++ [frame] else []
    if candidateFrames.length < settings.startSpeechFrames then
      ({ capture with candidateFrames }, none)
    else
      { capture with
        hasSpeech := true
        candidateFrames := []
        silenceMs := 0
        capturedFrameCount := capture.capturedFrameCount + candidateFrames.length
        output := capture.output ++ candidateFrames : Capture Frame }.conclude settings round
  else if speechDetected then
    { capture with
      silenceMs := 0
      capturedFrameCount := capture.capturedFrameCount + 1
      output := capture.output ++ [frame] : Capture Frame }.conclude settings round
  else
    { capture with
      silenceMs := capture.silenceMs + frameMs
      capturedFrameCount := capture.capturedFrameCount + 1
      output := capture.output ++ [frame] : Capture Frame }.conclude settings round

/-- The loop over the frames that come, and how it ends. -/
def Capture.run (ending : MicrophoneEnd) :
    Capture Frame → List (Frame × Bool) → List Frame × Except String String
  | capture, [] => (capture.output, .error ending.message)
  | capture, (frame, speechDetected) :: rest =>
    match capture.step settings round frame speechDetected with
    | (capture, some outcome) => (capture.output, .ok outcome)
    | (capture, none) => capture.run ending rest

/-- `capture_vad_audio`: the frames written, and the outcome or the error raised. -/
def captureVadAudio (ending : MicrophoneEnd) (input : List (Frame × Bool)) :
    List Frame × Except String String :=
  ({} : Capture Frame).run settings round ending input

end Capture

/-! ### Runs of speech and their ends -/

section Slices

variable {Frame : Type*}

/-- `count` consecutive frames from `first` on are speech. -/
def SpeechRun (count : ℕ) (input : List (Frame × Bool)) (first : ℕ) : Prop :=
  ∀ i < count, ∃ frame, input[first + i]? = some (frame, true)

/-- The number of frames at the end that are no speech. -/
def trailingSilence (input : List (Frame × Bool)) : ℕ :=
  (input.reverse.takeWhile fun reading ↦ !reading.2).length

/-- At the frame `last` the recording from `first` on is over: the time without speech up to it, or the time
written, has reached its limit. -/
def RecordingOver (settings : VadCaptureSettings) (round : ℚ → ℚ) (input : List (Frame × Bool))
    (first last : ℕ) : Prop :=
  first + settings.startSpeechFrames ≤ last + 1 ∧ last < input.length ∧
    (settings.endSilenceMs ≤ trailingSilence (input.take (last + 1)) * frameMs ∨
      settings.maxSeconds ≤ round ((last + 1 - first : ℕ) * frameMs / 1000))

@[simp] theorem trailingSilence_append_speech (seen : List (Frame × Bool)) (frame : Frame) :
    trailingSilence (seen ++ [(frame, true)]) = 0 := by
  simp [trailingSilence]

@[simp] theorem trailingSilence_append_silence (seen : List (Frame × Bool)) (frame : Frame) :
    trailingSilence (seen ++ [(frame, false)]) = trailingSilence seen + 1 := by
  simp [trailingSilence]

theorem SpeechRun.length_le {count first : ℕ} {input : List (Frame × Bool)} (hcount : 1 ≤ count)
    (h : SpeechRun count input first) : first + count ≤ input.length := by
  obtain ⟨frame, hframe⟩ := h (count - 1) (by omega)
  have hlt := (List.getElem?_eq_some_iff.mp hframe).1
  omega

/-- A run in the frames seen so far is one of the whole input, and no other starts there. -/
theorem speechRun_append_iff {count first : ℕ} {seen : List (Frame × Bool)} (h : first + count ≤ seen.length)
    (rest : List (Frame × Bool)) : SpeechRun count (seen ++ rest) first ↔ SpeechRun count seen first := by
  constructor
  · intro hrun i hi
    have hget := hrun i hi
    rwa [List.getElem?_append_left (by omega)] at hget
  · intro hrun i hi
    rw [List.getElem?_append_left (by omega)]
    exact hrun i hi

/-- The first run of the frames seen so far stays the first one. -/
theorem isLeast_speechRun_append {count first : ℕ} {seen : List (Frame × Bool)} (hcount : 1 ≤ count)
    (h : IsLeast {start | SpeechRun count seen start} first) (rest : List (Frame × Bool)) :
    IsLeast {start | SpeechRun count (seen ++ rest) start} first := by
  have hlength := SpeechRun.length_le hcount h.1
  constructor
  · exact (speechRun_append_iff hlength rest).mpr h.1
  · intro start hstart
    by_contra hless
    have hseen : SpeechRun count seen start := (speechRun_append_iff (by omega) rest).mp hstart
    exact hless (h.2 hseen)

/-- Whether the recording is over at a frame depends on the frames up to it only. -/
theorem recordingOver_append_iff {settings : VadCaptureSettings} {round : ℚ → ℚ}
    {seen : List (Frame × Bool)} {first last : ℕ} (h : last < seen.length) (rest : List (Frame × Bool)) :
    RecordingOver settings round (seen ++ rest) first last ↔
      RecordingOver settings round seen first last := by
  have hlength : last < (seen ++ rest).length := by
    rw [List.length_append]
    omega
  rw [RecordingOver, RecordingOver, List.take_append_of_le_length (by omega)]
  simp only [h, hlength, true_and]

/-- What a capture of `input` should give: nothing without a run of speech, else the slice from the first run
to the first frame at which the recording is over, or to the end of the input. -/
structure CapturesSlice (settings : VadCaptureSettings) (round : ℚ → ℚ) (ending : MicrophoneEnd)
    (input : List (Frame × Bool)) (captured : List Frame × Except String String) : Prop where
  unheard : (∀ first, ¬SpeechRun settings.startSpeechFrames input first) →
    captured = ([], .error ending.message)
  finished : ∀ first last, IsLeast {start | SpeechRun settings.startSpeechFrames input start} first →
    IsLeast {stop | RecordingOver settings round input first stop} last →
    captured = (((input.drop first).take (last + 1 - first)).map Prod.fst,
      .ok (if settings.endSilenceMs ≤ trailingSilence (input.take (last + 1)) * frameMs then "silence"
        else "maximum duration"))
  unfinished : ∀ first, IsLeast {start | SpeechRun settings.startSpeechFrames input start} first →
    (∀ last, ¬RecordingOver settings round input first last) →
    captured = ((input.drop first).map Prod.fst, .error ending.message)

end Slices

/-! ### The loop before and after the first run -/

section Invariant

variable {Frame : Type*} {settings : VadCaptureSettings} {round : ℚ → ℚ} {ending : MicrophoneEnd}

/-- No run has come: the candidates are the speech at the end of the frames seen, too few for a run, and nothing
is written. -/
structure Capture.Waiting (settings : VadCaptureSettings) (seen : List (Frame × Bool))
    (capture : Capture Frame) : Prop where
  hasSpeech : capture.hasSpeech = false
  output : capture.output = []
  capturedFrameCount : capture.capturedFrameCount = 0
  few : capture.candidateFrames.length < settings.startSpeechFrames
  unheard : ∀ first, ¬SpeechRun settings.startSpeechFrames seen first
  candidates : ∃ before, seen = before ++ capture.candidateFrames.map (·, true) ∧
    ∀ reading, before.getLast? = some reading → reading.2 = false

/-- The first run began at `first`: what is written is everything from there on, and at no frame before the last
one was the recording over. -/
structure Capture.Written (settings : VadCaptureSettings) (round : ℚ → ℚ) (seen : List (Frame × Bool))
    (first : ℕ) (capture : Capture Frame) : Prop where
  hasSpeech : capture.hasSpeech = true
  least : IsLeast {start | SpeechRun settings.startSpeechFrames seen start} first
  output : capture.output = (seen.drop first).map Prod.fst
  capturedFrameCount : capture.capturedFrameCount = seen.length - first
  silenceMs : capture.silenceMs = trailingSilence seen * frameMs
  goesOn : ∀ last, last + 1 < seen.length → ¬RecordingOver settings round seen first last

theorem Capture.waiting_start (hstart : 1 ≤ settings.startSpeechFrames) :
    ({} : Capture Frame).Waiting settings [] where
  hasSpeech := rfl
  output := rfl
  capturedFrameCount := rfl
  few := hstart
  unheard := by
    intro first hrun
    have hlength := hrun.length_le hstart
    rw [List.length_nil] at hlength
    omega
  candidates := ⟨[], rfl, by simp⟩

/-- The outcome of the loop's last tests. -/
theorem Capture.conclude_cases (capture : Capture Frame) :
    (capture.conclude settings round = (capture, none) ∧
        ¬settings.endSilenceMs ≤ capture.silenceMs ∧
        ¬settings.maxSeconds ≤ round (capture.capturedFrameCount * frameMs / 1000)) ∨
      (capture.conclude settings round = (capture, some (if settings.endSilenceMs ≤ capture.silenceMs then
          "silence" else "maximum duration")) ∧
        (settings.endSilenceMs ≤ capture.silenceMs ∨
          settings.maxSeconds ≤ round (capture.capturedFrameCount * frameMs / 1000))) := by
  rw [Capture.conclude]
  by_cases hsilence : settings.endSilenceMs ≤ capture.silenceMs
  · right
    rw [if_pos hsilence, if_pos hsilence]
    exact ⟨rfl, .inl hsilence⟩
  · by_cases hduration : settings.maxSeconds ≤ round (capture.capturedFrameCount * frameMs / 1000)
    · right
      rw [if_neg hsilence, if_pos hduration, if_neg hsilence]
      exact ⟨rfl, .inr hduration⟩
    · left
      rw [if_neg hsilence, if_neg hduration]
      exact ⟨rfl, hsilence, hduration⟩

/-- After the last tests the loop goes on, or the recording is over at the last frame seen for the first time. -/
theorem Capture.Written.conclude {seen : List (Frame × Bool)} {first : ℕ} {capture : Capture Frame}
    (hstart : 1 ≤ settings.startSpeechFrames) (h : capture.Written settings round seen first) :
    (capture.conclude settings round = (capture, none) ∧
        ∀ last, ¬RecordingOver settings round seen first last) ∨
      (capture.conclude settings round = (capture, some (if settings.endSilenceMs ≤ capture.silenceMs then
          "silence" else "maximum duration")) ∧
        IsLeast {stop | RecordingOver settings round seen first stop} (seen.length - 1)) := by
  have hlength := SpeechRun.length_le hstart h.least.1
  have hlast : seen.length - 1 + 1 = seen.length := by omega
  -- the tests are the definition's, at the last frame
  have hover : RecordingOver settings round seen first (seen.length - 1) ↔
      (settings.endSilenceMs ≤ capture.silenceMs ∨
        settings.maxSeconds ≤ round (capture.capturedFrameCount * frameMs / 1000)) := by
    rw [RecordingOver, hlast, List.take_length, h.silenceMs, h.capturedFrameCount]
    constructor
    · intro hrecording
      exact hrecording.2.2
    · intro htests
      exact ⟨hlength, by omega, htests⟩
  obtain ⟨hconclude, hsilence, hduration⟩ | ⟨hconclude, htests⟩ := capture.conclude_cases
  · left
    refine ⟨hconclude, ?_⟩
    intro last hrecording
    have hlt := hrecording.2.1
    by_cases hbefore : last + 1 < seen.length
    · exact h.goesOn last hbefore hrecording
    · have heq : last = seen.length - 1 := by omega
      rw [heq, hover] at hrecording
      exact hrecording.elim hsilence hduration
  · right
    refine ⟨hconclude, hover.mpr htests, ?_⟩
    intro stop hstop
    by_contra hless
    exact h.goesOn stop (by omega) hstop

/-- A frame that is no speech clears the candidates. -/
theorem Capture.Waiting.silence {seen : List (Frame × Bool)} {capture : Capture Frame}
    (hstart : 1 ≤ settings.startSpeechFrames) (h : capture.Waiting settings seen) (round : ℚ → ℚ)
    (frame : Frame) : ∃ next, capture.step settings round frame false = (next, none) ∧
      next.Waiting settings (seen ++ [(frame, false)]) := by
  refine ⟨{ capture with candidateFrames := [] }, ?_, ?_⟩
  · have hfew : ([] : List Frame).length < settings.startSpeechFrames := hstart
    rw [Capture.step, h.hasSpeech]
    exact if_pos hfew
  · refine ⟨h.hasSpeech, h.output, h.capturedFrameCount, hstart, ?_, seen ++ [(frame, false)], ?_, ?_⟩
    · intro first hrun
      have hlength := hrun.length_le hstart
      rw [List.length_append, List.length_singleton] at hlength
      by_cases hseen : first + settings.startSpeechFrames ≤ seen.length
      · exact h.unheard first ((speechRun_append_iff hseen _).mp hrun)
      · -- the run would end with the frame that is no speech
        obtain ⟨last, hlast⟩ := hrun (seen.length - first) (by omega)
        rw [show first + (seen.length - first) = seen.length by omega, List.getElem?_concat_length] at hlast
        cases hlast
    · rw [List.map_nil, List.append_nil]
    · intro reading hreading
      rw [List.getLast?_concat] at hreading
      cases hreading
      rfl

/-- A run that ends with the last frame lies in the candidates. -/
theorem Capture.Waiting.run_start {seen : List (Frame × Bool)} {capture : Capture Frame}
    (hstart : 1 ≤ settings.startSpeechFrames) (h : capture.Waiting settings seen) {frame : Frame}
    {first : ℕ}
    (hrun : SpeechRun settings.startSpeechFrames (seen ++ [(frame, true)]) first) :
    first + settings.startSpeechFrames = seen.length + 1 ∧
      settings.startSpeechFrames ≤ capture.candidateFrames.length + 1 := by
  have hlength := hrun.length_le hstart
  rw [List.length_append, List.length_singleton] at hlength
  have hend : ¬first + settings.startSpeechFrames ≤ seen.length := by
    intro hseen
    exact h.unheard first ((speechRun_append_iff hseen _).mp hrun)
  refine ⟨by omega, ?_⟩
  by_contra hmany
  obtain ⟨before, hsplit, hlast⟩ := h.candidates
  have hseen : seen.length = before.length + capture.candidateFrames.length := by
    rw [hsplit, List.length_append, List.length_map]
  -- the frame before the candidates is no speech
  obtain ⟨speech, hspeech⟩ := hrun (before.length - 1 - first) (by omega)
  rw [show first + (before.length - 1 - first) = before.length - 1 by omega, hsplit, List.append_assoc,
    List.getElem?_append_left (by omega), ← List.getLast?_eq_getElem?] at hspeech
  cases hlast _ hspeech

/-- A speech frame that does not complete a run is one more candidate. -/
theorem Capture.Waiting.speech {seen : List (Frame × Bool)} {capture : Capture Frame}
    (hstart : 1 ≤ settings.startSpeechFrames) (h : capture.Waiting settings seen) (round : ℚ → ℚ)
    (frame : Frame)
    (hfew : capture.candidateFrames.length + 1 < settings.startSpeechFrames) :
    ∃ next, capture.step settings round frame true = (next, none) ∧
      next.Waiting settings (seen ++ [(frame, true)]) := by
  have hcandidates : (capture.candidateFrames ++ [frame]).length < settings.startSpeechFrames := by
    rwa [List.length_append, List.length_singleton]
  refine ⟨{ capture with candidateFrames := capture.candidateFrames ++ [frame] }, ?_, ?_⟩
  · rw [Capture.step, h.hasSpeech]
    exact if_pos hcandidates
  · obtain ⟨before, hsplit, hlast⟩ := h.candidates
    refine ⟨h.hasSpeech, h.output, h.capturedFrameCount, hcandidates, ?_, before, ?_, hlast⟩
    · intro first hrun
      have hmany := (h.run_start hstart hrun).2
      omega
    · rw [List.map_append, ← List.append_assoc, ← hsplit]
      rfl

/-- The speech frame that completes the first run: the candidates and it are written. -/
theorem Capture.Waiting.heard {seen : List (Frame × Bool)} {capture : Capture Frame}
    (hstart : 1 ≤ settings.startSpeechFrames) (h : capture.Waiting settings seen) (round : ℚ → ℚ)
    (frame : Frame)
    (hmany : ¬capture.candidateFrames.length + 1 < settings.startSpeechFrames) :
    ∃ (next : Capture Frame) (first : ℕ),
      capture.step settings round frame true = next.conclude settings round ∧
      next.Written settings round (seen ++ [(frame, true)]) first := by
  obtain ⟨before, hsplit, hlast⟩ := h.candidates
  have hcount : capture.candidateFrames.length + 1 = settings.startSpeechFrames := by
    have hfew := h.few
    omega
  have hseen : seen.length = before.length + capture.candidateFrames.length := by
    rw [hsplit, List.length_append, List.length_map]
  have hframes : seen ++ [(frame, true)] =
      before ++ (capture.candidateFrames ++ [frame]).map (·, true) := by
    rw [List.map_append, ← List.append_assoc, ← hsplit]
    rfl
  have hcandidates : ¬(capture.candidateFrames ++ [frame]).length < settings.startSpeechFrames := by
    rwa [List.length_append, List.length_singleton]
  refine ⟨{ capture with
      hasSpeech := true
      candidateFrames := []
      silenceMs := 0
      capturedFrameCount := capture.capturedFrameCount + (capture.candidateFrames ++ [frame]).length
      output := capture.output ++ (capture.candidateFrames ++ [frame]) }, before.length, ?_, ?_⟩
  · rw [Capture.step, h.hasSpeech]
    exact if_neg hcandidates
  · refine ⟨rfl, ⟨?_, ?_⟩, ?_, ?_, ?_, ?_⟩
    · intro i hi
      have hbound : i < (capture.candidateFrames ++ [frame]).length := by simp; omega
      refine ⟨(capture.candidateFrames ++ [frame]).get ⟨i, hbound⟩, ?_⟩
      rw [hframes, List.getElem?_append_right (by omega), Nat.add_sub_cancel_left, List.getElem?_map,
        List.getElem?_eq_getElem]
      rfl
    · intro start hrun
      have hend := (h.run_start hstart hrun).1
      omega
    · rw [hframes, List.drop_left, List.map_map]
      simp only [h.output, List.nil_append]
      exact (List.map_id _).symm
    · simp only [h.capturedFrameCount, List.length_append, List.length_singleton]
      omega
    · rw [trailingSilence_append_speech, Nat.cast_zero, zero_mul]
    · intro last hbefore hrecording
      have hlate := hrecording.1
      rw [List.length_append, List.length_singleton] at hbefore
      omega

/-- Once the run has come every frame is written. -/
theorem Capture.Written.frame {seen : List (Frame × Bool)} {first : ℕ} {capture : Capture Frame}
    (hstart : 1 ≤ settings.startSpeechFrames) (h : capture.Written settings round seen first)
    (hgoes : ∀ last, ¬RecordingOver settings round seen first last) (frame : Frame) (speechDetected : Bool) :
    ∃ next : Capture Frame,
      capture.step settings round frame speechDetected = next.conclude settings round ∧
      next.Written settings round (seen ++ [(frame, speechDetected)]) first := by
  have hlength := SpeechRun.length_le hstart h.least.1
  have hleast := isLeast_speechRun_append hstart h.least [(frame, speechDetected)]
  have houtput : capture.output ++ [frame] =
      ((seen ++ [(frame, speechDetected)]).drop first).map Prod.fst := by
    rw [List.drop_append_of_le_length (by omega), List.map_append, h.output]
    rfl
  have hcount : capture.capturedFrameCount + 1 =
      (seen ++ [(frame, speechDetected)]).length - first := by
    rw [h.capturedFrameCount, List.length_append, List.length_singleton]
    omega
  have hgoesOn : ∀ last, last + 1 < (seen ++ [(frame, speechDetected)]).length →
      ¬RecordingOver settings round (seen ++ [(frame, speechDetected)]) first last := by
    intro last hbefore hrecording
    rw [List.length_append, List.length_singleton] at hbefore
    exact hgoes last ((recordingOver_append_iff (by omega) _).mp hrecording)
  cases speechDetected with
  | true =>
    refine ⟨{ capture with
        silenceMs := 0
        capturedFrameCount := capture.capturedFrameCount + 1
        output := capture.output ++ [frame] }, ?_, h.hasSpeech, hleast, houtput, hcount, ?_, hgoesOn⟩
    · rw [Capture.step, h.hasSpeech]
      rfl
    · rw [trailingSilence_append_speech, Nat.cast_zero, zero_mul]
  | false =>
    refine ⟨{ capture with
        silenceMs := capture.silenceMs + frameMs
        capturedFrameCount := capture.capturedFrameCount + 1
        output := capture.output ++ [frame] }, ?_, h.hasSpeech, hleast, houtput, hcount, ?_, hgoesOn⟩
    · rw [Capture.step, h.hasSpeech]
      rfl
    · rw [trailingSilence_append_silence, h.silenceMs]
      push_cast
      ring

end Invariant

/-! ### Whole captures -/

section Runs

variable {Frame : Type*} {settings : VadCaptureSettings} {round : ℚ → ℚ}

/-- The recording that ends with the last frame seen is the slice up to it. -/
theorem Capture.Written.capturesSlice_of_over {seen : List (Frame × Bool)} {first : ℕ}
    {capture : Capture Frame} (hstart : 1 ≤ settings.startSpeechFrames)
    (h : capture.Written settings round seen first)
    (hover : IsLeast {stop | RecordingOver settings round seen first stop} (seen.length - 1))
    (ending : MicrophoneEnd) (rest : List (Frame × Bool)) :
    CapturesSlice settings round ending (seen ++ rest)
      (capture.output, .ok (if settings.endSilenceMs ≤ capture.silenceMs then "silence"
        else "maximum duration")) := by
  have hleast := isLeast_speechRun_append hstart h.least rest
  have hlength := SpeechRun.length_le hstart h.least.1
  have hlast : seen.length - 1 + 1 = seen.length := by omega
  have hover' : IsLeast {stop | RecordingOver settings round (seen ++ rest) first stop}
      (seen.length - 1) := by
    constructor
    · exact (recordingOver_append_iff (by omega) rest).mpr hover.1
    · intro stop hstop
      by_contra hless
      have hseen := (recordingOver_append_iff (by omega) rest).mp hstop
      exact hless (hover.2 hseen)
  constructor
  · intro hnone
    exact (hnone first hleast.1).elim
  · intro first' last hfirst hstop
    obtain rfl := hfirst.unique hleast
    obtain rfl := hstop.unique hover'
    rw [hlast, List.take_left, List.drop_append_of_le_length (by omega),
      List.take_left' (by rw [List.length_drop]), h.output, h.silenceMs]
  · intro first' hfirst hnone
    obtain rfl := hfirst.unique hleast
    exact (hnone _ hover'.1).elim

/-- A capture that has begun to write. -/
theorem Capture.Written.run (hstart : 1 ≤ settings.startSpeechFrames) (ending : MicrophoneEnd)
    (rest : List (Frame × Bool)) :
    ∀ {seen : List (Frame × Bool)} {first : ℕ} {capture : Capture Frame},
      capture.Written settings round seen first →
      (∀ last, ¬RecordingOver settings round seen first last) →
      CapturesSlice settings round ending (seen ++ rest) (capture.run settings round ending rest) := by
  induction rest with
  | nil =>
    intro seen first capture h hgoes
    rw [List.append_nil, Capture.run]
    constructor
    · intro hnone
      exact (hnone first h.least.1).elim
    · intro first' last hfirst hstop
      obtain rfl := hfirst.unique h.least
      exact (hgoes last hstop.1).elim
    · intro first' hfirst hnone
      obtain rfl := hfirst.unique h.least
      rw [h.output]
  | cons reading rest ih =>
    obtain ⟨frame, speechDetected⟩ := reading
    intro seen first capture h hgoes
    obtain ⟨next, hstep, hnext⟩ := h.frame hstart hgoes frame speechDetected
    rw [List.append_cons, Capture.run, hstep]
    obtain ⟨hconclude, hgoes⟩ | ⟨hconclude, hover⟩ := hnext.conclude hstart
    · rw [hconclude]
      exact ih hnext hgoes
    · rw [hconclude]
      exact hnext.capturesSlice_of_over hstart hover ending rest

/-- A capture that has not heard a run of speech yet. -/
theorem Capture.Waiting.run (hstart : 1 ≤ settings.startSpeechFrames) (ending : MicrophoneEnd)
    (rest : List (Frame × Bool)) :
    ∀ {seen : List (Frame × Bool)} {capture : Capture Frame}, capture.Waiting settings seen →
      CapturesSlice settings round ending (seen ++ rest) (capture.run settings round ending rest) := by
  induction rest with
  | nil =>
    intro seen capture h
    rw [List.append_nil, Capture.run, h.output]
    constructor
    · intro hnone
      rfl
    · intro first last hfirst
      exact (h.unheard first hfirst.1).elim
    · intro first hfirst
      exact (h.unheard first hfirst.1).elim
  | cons reading rest ih =>
    obtain ⟨frame, speechDetected⟩ := reading
    intro seen capture h
    rw [List.append_cons, Capture.run]
    cases speechDetected with
    | false =>
      obtain ⟨next, hstep, hnext⟩ := h.silence hstart round frame
      rw [hstep]
      exact ih hnext
    | true =>
      by_cases hfew : capture.candidateFrames.length + 1 < settings.startSpeechFrames
      · obtain ⟨next, hstep, hnext⟩ := h.speech hstart round frame hfew
        rw [hstep]
        exact ih hnext
      · obtain ⟨next, first, hstep, hnext⟩ := h.heard hstart round frame hfew
        rw [hstep]
        obtain ⟨hconclude, hgoes⟩ | ⟨hconclude, hover⟩ := hnext.conclude hstart
        · rw [hconclude]
          exact hnext.run hstart ending rest hgoes
        · rw [hconclude]
          exact hnext.capturesSlice_of_over hstart hover ending rest

/-- The frames written are one slice of the input: from the first frame of the first run of speech to the first
frame, not before the run's end, at which the silence or the recording is long enough. -/
theorem captureVadAudio_slice (settings : VadCaptureSettings) (hstart : 1 ≤ settings.startSpeechFrames)
    (round : ℚ → ℚ) (ending : MicrophoneEnd) (input : List (Frame × Bool)) :
    CapturesSlice settings round ending input (captureVadAudio settings round ending input) :=
  (Capture.waiting_start hstart).run hstart ending input

/-- A cough, then two words around a pause. -/
theorem captureVadAudio_slice_pause :
    1 ≤ (⟨160, 120, 2⟩ : VadCaptureSettings).startSpeechFrames ∧
      CapturesSlice ⟨160, 120, 2⟩ id (.ended "1")
        [(0, true), (1, false), (2, true), (3, true), (4, false), (5, true), (6, false), (7, false), (8, true)]
        (captureVadAudio ⟨160, 120, 2⟩ id (.ended "1")
          [(0, true), (1, false), (2, true), (3, true), (4, false), (5, true), (6, false), (7, false),
            (8, true)]) :=
  ⟨by decide, captureVadAudio_slice ⟨160, 120, 2⟩ (by decide) id (.ended "1") _⟩

end Runs

end VoiceHarness.Stt
