import VoiceHarness.Tts.Agreement

/-!
# What a client hears of a speech stream

`feed` decodes all lines that a fragment completes and gives their events back together, so that a line that
fails takes the events of the lines before it in the same call with it. `_prefetch_utterance` knows the chunk
files of the events that it was given, and cleans up those.
-/

set_option autoImplicit false
set_option relaxedAutoImplicit false

namespace VoiceHarness.Tts

open Library

variable [JsonText]

namespace Parser

/-! ### Reading line by line -/

/-- A line as an event, and what the stream has come to with it. -/
def readLine (requestId : String) (progress : StreamProgress) (line : List Char) :
    Except String (Dict × StreamProgress) :=
  match decodeLine line with
  | .error error => .error error
  | .ok event =>
    match progress.validateEvent requestId event with
    | .error error => .error error
    | .ok next => .ok (event, next)

/-- Lines read one after the other: the events up to the first line that fails, and what the stream has come
to or the error. -/
def readLines (requestId : String) (progress : StreamProgress) :
    List (List Char) → List Dict × Except String StreamProgress
  | [] => ([], .ok progress)
  | line :: lines =>
    match readLine requestId progress line with
    | .error error => ([], .error error)
    | .ok (event, next) =>
      (event :: (readLines requestId next lines).1, (readLines requestId next lines).2)

section

variable {requestId : String} {progress next final : StreamProgress} {line : List Char}
  {lines : List (List Char)} {event : Dict} {events : List Dict} {error : String}

theorem readLines_cons_of_ok (h : readLine requestId progress line = .ok (event, next))
    (lines : List (List Char)) :
    readLines requestId progress (line :: lines) =
      (event :: (readLines requestId next lines).1, (readLines requestId next lines).2) := by
  rw [readLines, h]

theorem readLines_cons_of_error (h : readLine requestId progress line = .error error)
    (lines : List (List Char)) :
    readLines requestId progress (line :: lines) = ([], .error error) := by
  rw [readLines, h]

/-- Lines that read well, then more lines. -/
theorem readLines_append_of_ok (h : readLines requestId progress lines = (events, .ok final))
    (more : List (List Char)) :
    readLines requestId progress (lines ++ more) =
      (events ++ (readLines requestId final more).1, (readLines requestId final more).2) := by
  induction lines generalizing progress events with
  | nil =>
    obtain ⟨rfl, hfinal⟩ := Prod.mk.inj h
    obtain rfl := Except.ok.inj hfinal
    rfl
  | cons line lines ih =>
    rw [List.cons_append]
    rcases hline : readLine requestId progress line with error | ⟨event, next⟩
    · rw [readLines_cons_of_error hline] at h
      cases h
    · rw [readLines_cons_of_ok hline] at h ⊢
      obtain ⟨rfl, hfinal⟩ := Prod.mk.inj h
      rw [ih (Prod.ext rfl hfinal), List.cons_append]

/-- Nothing is read behind a line that fails. -/
theorem readLines_append_of_error
    (h : readLines requestId progress lines = (events, .error error))
    (more : List (List Char)) :
    readLines requestId progress (lines ++ more) = (events, .error error) := by
  induction lines generalizing progress events with
  | nil => cases h
  | cons line lines ih =>
    rw [List.cons_append]
    rcases hline : readLine requestId progress line with other | ⟨event, next⟩
    · rw [readLines_cons_of_error hline] at h ⊢
      exact h
    · rw [readLines_cons_of_ok hline] at h ⊢
      obtain ⟨rfl, hfinal⟩ := Prod.mk.inj h
      rw [ih (Prod.ext rfl hfinal)]

/-- A stream that does not fail gives an event for each line. -/
theorem length_of_readLines_ok (h : readLines requestId progress lines = (events, .ok final)) :
    events.length = lines.length := by
  induction lines generalizing progress events with
  | nil =>
    obtain ⟨rfl, -⟩ := Prod.mk.inj h
    rfl
  | cons line lines ih =>
    rcases hline : readLine requestId progress line with error | ⟨event, next⟩
    · rw [readLines_cons_of_error hline] at h
      cases h
    · rw [readLines_cons_of_ok hline] at h
      obtain ⟨rfl, hfinal⟩ := Prod.mk.inj h
      rw [List.length_cons, ih (Prod.ext rfl hfinal), List.length_cons]

/-- A stream that fails gives the events before one of its lines. -/
theorem length_of_readLines_error
    (h : readLines requestId progress lines = (events, .error error)) :
    events.length < lines.length := by
  induction lines generalizing progress events with
  | nil => cases h
  | cons line lines ih =>
    rw [List.length_cons]
    rcases hline : readLine requestId progress line with other | ⟨event, next⟩
    · rw [readLines_cons_of_error hline] at h
      obtain ⟨rfl, -⟩ := Prod.mk.inj h
      exact Nat.succ_pos _
    · rw [readLines_cons_of_ok hline] at h
      obtain ⟨rfl, hfinal⟩ := Prod.mk.inj h
      exact Nat.succ_lt_succ (ih (Prod.ext rfl hfinal))

end

/-! ### One call -/

/-- What a call does with the lines that it completes. -/
def afterLines (parser : Parser) (rest : List Char) :
    List Dict × Except String StreamProgress → Except String (List Dict × Parser)
  | (events, .ok progress) => .ok (events, { parser with buffer := rest, progress })
  | (_, .error error) => .error error

theorem takeLines_eq {parser : Parser} {lines : List (List Char)} {rest : List Char}
    (hlines : ∀ line ∈ lines, '\n' ∉ line)
    (hbuffer : parser.buffer = encodeLines '\n' lines ++ rest) :
    parser.takeLines lines.length =
      parser.afterLines rest (readLines parser.requestId parser.progress lines) := by
  induction lines generalizing parser with
  | nil =>
    have hrest : parser.buffer = rest := hbuffer
    subst hrest
    rfl
  | cons line lines ih =>
    have hline : partitionLine '\n' parser.buffer = (line, encodeLines '\n' lines ++ rest) := by
      rw [hbuffer, encodeLines_cons, List.append_assoc, List.cons_append]
      exact partitionLine_append (hlines line List.mem_cons_self) _
    rw [List.length_cons]
    unfold takeLines
    simp only [hline]
    cases hdecoded : decodeLine line with
    | error error =>
      have hread : readLine parser.requestId parser.progress line = .error error := by
        rw [readLine, hdecoded]
      rw [readLines_cons_of_error hread]
      rfl
    | ok event =>
      cases hevent : parser.progress.validateEvent parser.requestId event with
      | error error =>
        have hread : readLine parser.requestId parser.progress line = .error error := by
          simp only [readLine, hdecoded, hevent]
        rw [readLines_cons_of_error hread]
        simp only [hevent]
        rfl
      | ok progress =>
        have hread : readLine parser.requestId parser.progress line = .ok (event, progress) := by
          simp only [readLine, hdecoded, hevent]
        have hlater : ({ parser with buffer := encodeLines '\n' lines ++ rest, progress } :
            Parser).takeLines lines.length = _ :=
          ih (fun other hother ↦ hlines other (List.mem_cons_of_mem _ hother)) rfl
        rw [readLines_cons_of_ok hread]
        simp only [hevent, hlater]
        rcases readLines parser.requestId progress lines with ⟨events, error | final⟩ <;> rfl

/-- A call reads the lines that the buffer has with the new data, and keeps the rest. -/
theorem feed_eq (parser : Parser) (data : List Char) :
    parser.feed data =
      parser.afterLines (cutLines '\n' (parser.buffer ++ data)).2
        (readLines parser.requestId parser.progress
          (cutLines '\n' (parser.buffer ++ data)).1) := by
  have hcount := length_cutLines '\n' (parser.buffer ++ data)
  unfold feed
  simp only [← hcount]
  exact takeLines_eq (separator_notMem_cutLines '\n' _).1 (encodeLines_cutLines '\n' _).symm

/-! ### The events that the caller is given -/

/-- The events of the calls up to the first that fails, and the parser or the error. -/
def deliver (parser : Parser) : List (List Char) → List Dict × Except String Parser
  | [] => ([], .ok parser)
  | fragment :: fragments =>
    match parser.feed fragment with
    | .error error => ([], .error error)
    | .ok (events, next) => (events ++ (next.deliver fragments).1, (next.deliver fragments).2)

/-- The lines that calls complete before the call that completes the line of this number. -/
def linesBefore : List (List Char) → ℕ → ℕ
  | [], _ => 0
  | fragment :: fragments, line =>
    if line < fragment.count '\n' then 0
    else fragment.count '\n' + linesBefore fragments (line - fragment.count '\n')

omit [JsonText] in
theorem linesBefore_le (fragments : List (List Char)) (line : ℕ) :
    linesBefore fragments line ≤ line := by
  induction fragments generalizing line with
  | nil => exact Nat.zero_le _
  | cons fragment fragments ih =>
    rw [linesBefore]
    split_ifs with hline
    · exact Nat.zero_le _
    · have hlater := ih (line - fragment.count '\n')
      omega

section

variable {fragments : List (List Char)} {events : List Dict}

omit [JsonText] in
/-- The lines of the first fragment, and those of the others behind what it leaves. -/
theorem cutLines_flatten_cons (parser : Parser) (fragment : List Char)
    (fragments : List (List Char)) :
    cutLines '\n' (parser.buffer ++ (fragment :: fragments).flatten) =
      ((cutLines '\n' (parser.buffer ++ fragment)).1 ++
          (cutLines '\n' ((cutLines '\n' (parser.buffer ++ fragment)).2 ++
            fragments.flatten)).1,
        (cutLines '\n' ((cutLines '\n' (parser.buffer ++ fragment)).2 ++
          fragments.flatten)).2) := by
  rw [List.flatten_cons, ← List.append_assoc]
  exact cutLines_append '\n' _ _

/-- A stream without a failing line is delivered whole, wherever it is cut. -/
theorem deliver_of_ok (parser : Parser) (hbuffer : '\n' ∉ parser.buffer) {final : StreamProgress}
    (h : readLines parser.requestId parser.progress
      (cutLines '\n' (parser.buffer ++ fragments.flatten)).1 = (events, .ok final)) :
    parser.deliver fragments =
      (events, .ok { parser with
        buffer := (cutLines '\n' (parser.buffer ++ fragments.flatten)).2, progress := final }) := by
  induction fragments generalizing parser events with
  | nil =>
    have hlines := cutLines_of_notMem hbuffer
    rw [List.flatten_nil, List.append_nil, hlines] at h ⊢
    obtain ⟨rfl, hfinal⟩ := Prod.mk.inj h
    obtain rfl := Except.ok.inj hfinal
    rfl
  | cons fragment fragments ih =>
    rw [cutLines_flatten_cons] at h ⊢
    rw [deliver, feed_eq]
    rcases hfirst : readLines parser.requestId parser.progress
      (cutLines '\n' (parser.buffer ++ fragment)).1 with ⟨first, error | next⟩
    · rw [readLines_append_of_error hfirst] at h
      exact absurd (Prod.mk.inj h).2 (by simp)
    · rw [readLines_append_of_ok hfirst] at h
      obtain ⟨rfl, hfinal⟩ := Prod.mk.inj h
      have hlater := @ih _ { parser with
        buffer := (cutLines '\n' (parser.buffer ++ fragment)).2, progress := next }
        (separator_notMem_cutLines '\n' _).2 (Prod.ext rfl hfinal)
      simp only [afterLines, hlater]

/-- A stream with a failing line gives its error, and the events of the calls before that line's call. -/
theorem deliver_of_error (parser : Parser) (hbuffer : '\n' ∉ parser.buffer) {error : String}
    (h : readLines parser.requestId parser.progress
      (cutLines '\n' (parser.buffer ++ fragments.flatten)).1 = (events, .error error)) :
    parser.deliver fragments =
      (events.take (linesBefore fragments events.length), .error error) := by
  induction fragments generalizing parser events with
  | nil =>
    have hlines := cutLines_of_notMem hbuffer
    rw [List.flatten_nil, List.append_nil, hlines] at h
    cases h
  | cons fragment fragments ih =>
    have hcount : (cutLines '\n' (parser.buffer ++ fragment)).1.length = fragment.count '\n' := by
      rw [length_cutLines, List.count_append, List.count_eq_zero.mpr hbuffer, Nat.zero_add]
    rw [cutLines_flatten_cons] at h
    rw [deliver, feed_eq, linesBefore]
    rcases hfirst : readLines parser.requestId parser.progress
      (cutLines '\n' (parser.buffer ++ fragment)).1 with ⟨first, other | next⟩
    · -- the first call fails: it completes the failing line, and gives none of its events
      have hlength := length_of_readLines_error hfirst
      rw [readLines_append_of_error hfirst] at h
      obtain ⟨rfl, herror⟩ := Prod.mk.inj h
      obtain rfl := Except.error.inj herror
      rw [if_pos (hcount ▸ hlength)]
      rfl
    · have hlength := length_of_readLines_ok hfirst
      rw [readLines_append_of_ok hfirst] at h
      obtain ⟨rfl, herror⟩ := Prod.mk.inj h
      have hlater := @ih _ { parser with
        buffer := (cutLines '\n' (parser.buffer ++ fragment)).2, progress := next }
        (separator_notMem_cutLines '\n' _).2 (Prod.ext rfl herror)
      rw [hcount] at hlength
      have hcall : ¬ (first ++ (readLines parser.requestId next (cutLines '\n'
          ((cutLines '\n' (parser.buffer ++ fragment)).2 ++ fragments.flatten)).1).1).length <
          fragment.count '\n' := by
        rw [List.length_append]
        omega
      rw [if_neg hcall, ← hlength, List.length_append, Nat.add_sub_cancel_left, List.take_append,
        List.take_of_length_le (Nat.le_add_right _ _), Nat.add_sub_cancel_left]
      simp only [afterLines, hlater]

end

end Parser

/-! ### The chunk files of a prefetch -/

/-- How the reading of a prefetch ends behind its data. -/
inductive StreamEnd
  | closed | cancelled | timedOut
  deriving DecidableEq, Repr

/-- The file of a chunk and its text. -/
structure ChunkFile where
  output : String
  text : String
  deriving DecidableEq, Repr

/-- The chunk that an event announces; the parser has checked that a chunk event has both texts. -/
def chunkOf? (event : Dict) : Option ChunkFile :=
  if event.get? "event" = some (.str "chunk") then
    match event.get? "output", event.get? "text" with
    | some (.str output), some (.str text) => some { output, text }
    | _, _ => none
  else none

/-- `PrefetchedUtterance`. -/
structure PrefetchedUtterance where
  sampleRate : ℤ
  chunks : List ChunkFile
  doneMeta : Dict
  deriving DecidableEq, Repr

/-- `_prefetch_utterance` when it is over: the chunks it knows of and what it returns or raises. -/
structure Prefetch where
  chunks : List ChunkFile
  result : Except String PrefetchedUtterance

namespace Prefetch

/-- The files that `_cleanup_chunks` is given. -/
def cleaned (prefetch : Prefetch) : List String :=
  match prefetch.result with
  | .error _ => prefetch.chunks.map ChunkFile.output
  | .ok _ => []

end Prefetch

/-- The loop of `_prefetch_utterance` over the data of its socket. -/
def receive (parser : Parser) (chunks : List ChunkFile) :
    List (List Char) → List ChunkFile × Except String Parser
  | [] => (chunks, .ok parser)
  | data :: later =>
    match parser.feed data with
    | .error error => (chunks, .error error)
    | .ok (events, next) => receive next (chunks ++ events.filterMap chunkOf?) later

/-- `_prefetch_utterance` after its request was sent. The data is what the socket gave before the end. -/
def prefetchUtterance (requestId : String) (data : List (List Char)) (ending : StreamEnd) : Prefetch :=
  match receive (.new requestId) [] data with
  | (chunks, .error error) => { chunks, result := .error error }
  | (chunks, .ok parser) =>
    match ending with
    | .cancelled => { chunks, result := .error "TTS prefetch was cancelled" }
    | .timedOut => { chunks, result := .error "TTS prefetch stream timed out" }
    | .closed =>
      { chunks
        result := parser.finish.map fun doneMeta ↦
          { sampleRate := parser.progress.sampleRate, chunks, doneMeta } }

/-- The loop knows the chunks of the events that it was given. -/
theorem receive_eq (parser : Parser) (chunks : List ChunkFile) (data : List (List Char)) :
    receive parser chunks data =
      (chunks ++ (parser.deliver data).1.filterMap chunkOf?, (parser.deliver data).2) := by
  induction data generalizing parser chunks with
  | nil => rw [receive, Parser.deliver, List.filterMap_nil, List.append_nil]
  | cons fragment data ih =>
    rw [receive, Parser.deliver]
    rcases parser.feed fragment with error | ⟨events, next⟩
    · simp only [List.filterMap_nil, List.append_nil]
    · simp only [ih, List.filterMap_append, List.append_assoc]

/-! ### Two ways to cut a stream -/

/-- The reading of a stream line by line, as a client with an event for each call has it. -/
def reading (requestId : String) (stream : List Char) :
    List Dict × Except String StreamProgress :=
  Parser.readLines requestId .initial (cutLines '\n' stream).1

section

variable (requestId : String)

/-- The chunk files that the lines before a failing line announce are cleaned up, however the stream ends. -/
def CleansAnnounced (data : List (List Char)) : Prop :=
  ∀ events error, reading requestId data.flatten = (events, .error error) →
    ∀ chunk ∈ events.filterMap chunkOf?, ∀ ending,
      chunk.output ∈ (prefetchUtterance requestId data ending).cleaned

/-- The call with the failing line completes no line before it that is the first to announce a file. -/
def AnnouncesNone (data : List (List Char)) (events : List Dict) : Prop :=
  ∀ chunk ∈ (events.drop (Parser.linesBefore data events.length)).filterMap chunkOf?,
    ∃ known ∈ (events.take (Parser.linesBefore data events.length)).filterMap chunkOf?,
      known.output = chunk.output

variable {requestId}

theorem deliver_of_reading_ok {data : List (List Char)} {events : List Dict}
    {final : StreamProgress} (h : reading requestId data.flatten = (events, .ok final)) :
    (Parser.new requestId).deliver data =
      (events, .ok ⟨requestId, (cutLines '\n' data.flatten).2, final⟩) :=
  Parser.deliver_of_ok (.new requestId) List.not_mem_nil h

theorem deliver_of_reading_error {data : List (List Char)} {events : List Dict} {error : String}
    (h : reading requestId data.flatten = (events, .error error)) :
    (Parser.new requestId).deliver data =
      (events.take (Parser.linesBefore data events.length), .error error) :=
  Parser.deliver_of_error (.new requestId) List.not_mem_nil h

/-- The files of the events that were delivered are cleaned up. -/
theorem cleaned_of_reading_error {data : List (List Char)} {events : List Dict} {error : String}
    (h : reading requestId data.flatten = (events, .error error)) (ending : StreamEnd) :
    (prefetchUtterance requestId data ending).cleaned =
      ((events.take (Parser.linesBefore data events.length)).filterMap chunkOf?).map
        ChunkFile.output := by
  unfold prefetchUtterance
  rw [receive_eq, deliver_of_reading_error h]
  rfl

theorem cleansAnnounced_iff {data : List (List Char)} {events : List Dict} {error : String}
    (h : reading requestId data.flatten = (events, .error error)) :
    CleansAnnounced requestId data ↔ AnnouncesNone data events := by
  constructor
  · intro hclean chunk hchunk
    have hmem : chunk ∈ events.filterMap chunkOf? :=
      ((List.drop_sublist _ _).filterMap chunkOf?).subset hchunk
    have hcleaned := hclean events error h chunk hmem .closed
    rw [cleaned_of_reading_error h] at hcleaned
    exact List.mem_map.mp hcleaned
  · intro hnone others other hothers chunk hchunk ending
    obtain ⟨rfl, -⟩ := Prod.mk.inj (h.symm.trans hothers)
    rw [cleaned_of_reading_error h, List.mem_map]
    rw [← List.take_append_drop (Parser.linesBefore data events.length) events,
      List.filterMap_append, List.mem_append] at hchunk
    rcases hchunk with hgiven | hlost
    · exact ⟨chunk, hgiven, rfl⟩
    · exact hnone chunk hlost

/-- Two ways to cut a stream deliver the same events and the same error, and both clean up what was announced,
if and only if the call with the first failing line completes as many lines before it in both, and none of
these is the first to announce a file. -/
theorem deliver_eq_iff (requestId : String) {first second : List (List Char)}
    (hstream : first.flatten = second.flatten) :
    ((Parser.new requestId).deliver first = (Parser.new requestId).deliver second ∧
        CleansAnnounced requestId first ∧ CleansAnnounced requestId second) ↔
      ∀ events error, reading requestId first.flatten = (events, .error error) →
        Parser.linesBefore first events.length = Parser.linesBefore second events.length ∧
          AnnouncesNone first events ∧ AnnouncesNone second events := by
  rcases hreading : reading requestId first.flatten with ⟨events, error | final⟩
  · have hsecond : reading requestId second.flatten = (events, .error error) := hstream ▸ hreading
    rw [deliver_of_reading_error hreading, deliver_of_reading_error hsecond,
      cleansAnnounced_iff hreading, cleansAnnounced_iff hsecond]
    have hfirstLe := Parser.linesBefore_le first events.length
    have hsecondLe := Parser.linesBefore_le second events.length
    constructor
    · rintro ⟨hevents, hfirstNone, hsecondNone⟩ others other hothers
      obtain ⟨rfl, -⟩ := Prod.mk.inj hothers
      have hlength := congrArg (fun delivered ↦ delivered.1.length) hevents
      simp only [List.length_take] at hlength
      exact ⟨by omega, hfirstNone, hsecondNone⟩
    · intro hcondition
      obtain ⟨hlines, hfirstNone, hsecondNone⟩ := hcondition events error rfl
      exact ⟨by rw [hlines], hfirstNone, hsecondNone⟩
  · have hsecond : reading requestId second.flatten = (events, .ok final) := hstream ▸ hreading
    have hnever : ∀ others other, reading requestId second.flatten ≠ (others, .error other) := by
      intro others other hothers
      rw [hsecond] at hothers
      cases hothers
    constructor
    · intro _ others other hothers
      cases hothers
    · intro _
      rw [deliver_of_reading_ok hreading, deliver_of_reading_ok hsecond, hstream]
      exact ⟨rfl, fun others other hothers ↦ absurd (hstream ▸ hothers) (hnever others other),
        fun others other hothers ↦ absurd hothers (hnever others other)⟩

end

/-! ### A stream whose third line fails -/

def startLine : Dict :=
  [("ok", .bool true), ("request_id", .str "reply-1"), ("event", .str "start"),
    ("sample_rate", .int 24000), ("chunks", .int 2)]

def chunkLine : Dict :=
  [("ok", .bool true), ("request_id", .str "reply-1"), ("event", .str "chunk"), ("index", .int 0),
    ("output", .str "/run/voice-harness/stream-reply-1/0.wav"), ("text", .str "Hello.")]

def strayLine : Dict := [("ok", .bool true), ("request_id", .str "reply-2")]

@[reducible] def brokenText : JsonText :=
  StreamRequest.recordsText [startLine, chunkLine, strayLine]

/-- The three lines, each with its newline. -/
def brokenLines : List (List Char) :=
  [startLine, chunkLine, strayLine].map fun event ↦ StreamRequest.recordText event ++ ['\n']

omit [JsonText] in
theorem reading_brokenLines :
    @reading brokenText "reply-1" brokenLines.flatten =
      ([startLine, chunkLine], .error "TTS stream request_id did not match the request") := by
  decide +kernel

omit [JsonText] in
theorem deliver_eq_broken :
    let _ := brokenText
    (Parser.new "reply-1").deliver brokenLines =
      (Parser.new "reply-1").deliver [(brokenLines.take 2).flatten, (brokenLines.drop 2).flatten] := by
  intro text
  have halike := (@deliver_eq_iff text "reply-1" brokenLines
    [(brokenLines.take 2).flatten, (brokenLines.drop 2).flatten] (by decide +kernel)).mpr
  refine (halike fun events error hevents ↦ ?_).1
  obtain ⟨rfl, -⟩ := Prod.mk.inj (reading_brokenLines.symm.trans hevents)
  refine ⟨by decide +kernel, ?_, ?_⟩
  · have hlines : Parser.linesBefore brokenLines 2 = 2 := by decide +kernel
    intro chunk hchunk
    rw [List.length_cons, List.length_singleton, hlines] at hchunk
    cases hchunk
  · have hlines : Parser.linesBefore
        [(brokenLines.take 2).flatten, (brokenLines.drop 2).flatten] 2 = 2 := by decide +kernel
    intro chunk hchunk
    rw [List.length_cons, List.length_singleton, hlines] at hchunk
    cases hchunk

omit [JsonText] in
/-- In one piece the stream delivers nothing, and the file of the chunk stays behind; line by line it delivers
the start and the chunk. -/
theorem deliver_whole_ne :
    let _ := brokenText
    [brokenLines.flatten].flatten = brokenLines.flatten ∧
      (Parser.new "reply-1").deliver [brokenLines.flatten] =
        ([], .error "TTS stream request_id did not match the request") ∧
      (Parser.new "reply-1").deliver brokenLines =
        ([startLine, chunkLine], .error "TTS stream request_id did not match the request") ∧
      ¬ CleansAnnounced "reply-1" [brokenLines.flatten] := by
  intro text
  have hwhole : [brokenLines.flatten].flatten = brokenLines.flatten := List.flatten_singleton
  have hreading : @reading text "reply-1" [brokenLines.flatten].flatten =
      ([startLine, chunkLine], .error "TTS stream request_id did not match the request") := by
    rw [hwhole]
    exact reading_brokenLines
  have hnone : Parser.linesBefore [brokenLines.flatten] 2 = 0 := by decide +kernel
  have htwo : Parser.linesBefore brokenLines 2 = 2 := by decide +kernel
  refine ⟨hwhole, ?_, ?_, fun hclean ↦ ?_⟩
  · rw [deliver_of_reading_error hreading, List.length_cons, List.length_singleton, hnone,
      List.take_zero]
  · rw [deliver_of_reading_error reading_brokenLines, List.length_cons, List.length_singleton, htwo]
    rfl
  · have hcleaned := hclean _ _ hreading
      ⟨"/run/voice-harness/stream-reply-1/0.wav", "Hello."⟩ (by decide +kernel) .closed
    rw [cleaned_of_reading_error hreading, List.length_cons, List.length_singleton, hnone] at hcleaned
    cases hcleaned

end VoiceHarness.Tts
