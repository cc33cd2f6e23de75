import VoiceHarness.Playback.Asked

/-!
# Waiting for audio and writing it

The triples of what a drain does with one chunk. Whatever it knows besides is a claim `P` that its writes leave
(`Steady`); a chunk that is not interrupted has been written to its end, behind the audio of the chunks before it.
-/

set_option autoImplicit false
set_option relaxedAutoImplicit false

namespace VoiceHarness.Playback

open Library Process

variable {ε α : Type} {P : Claim}

/-! ### Quiet requests -/

/-- A quiet request leaves every claim. -/
theorem triple_quiet {Raised : ε → Claim} {asked : Request} (hquiet : asked.isQuiet = true) :
    Triple P (ask asked) (fun _ ↦ P) Raised :=
  Triple.request fun _ hsound hstate oracle ↦
    have hkept := kept_perform hsound hquiet oracle
    ⟨hkept.sound, P.stable hkept.rely hstate⟩

/-- What is raised may forget a part of what was known. -/
theorem triple_drop {Q : Claim} {program : Steps ε α} {Post : α → Claim}
    (h : Triple (P.and Q) program Post fun _ ↦ P.and Q) : Triple (P.and Q) program Post fun _ ↦ P :=
  h.raises fun _ _ _ hstate ↦ hstate.1

theorem triple_answer {answer : Attempt α} : Triple P (ofExcept answer) (fun _ ↦ P) fun _ ↦ P :=
  Triple.ofExcept (fun _ _ _ _ hstate ↦ hstate) fun _ _ _ _ hstate ↦ hstate

theorem triple_poll : Triple P poll (fun _ ↦ P) fun _ ↦ P :=
  (triple_quiet rfl).bind fun _ ↦ triple_answer

theorem triple_discardHandle (handle : ℕ) : Triple P (discardHandle handle) (fun _ ↦ P) fun _ ↦ P :=
  (triple_quiet rfl).bind fun _ ↦ triple_answer

theorem triple_cancelHandle (handle : ℕ) : Triple P (cancelHandle handle) (fun _ ↦ P) fun _ ↦ P :=
  (triple_quiet rfl).bind fun _ ↦ triple_answer

theorem triple_terminateProcess : Triple P terminateProcess (fun _ ↦ P) fun _ ↦ P :=
  (triple_quiet rfl).bind fun _ ↦ triple_answer

theorem triple_terminateRunning (opened : Bool) : Triple P (terminateRunning opened) (fun _ ↦ P) fun _ ↦ P := by
  refine Triple.ite (fun _ ↦ ?_) fun _ ↦ Triple.pure fun _ _ hstate ↦ hstate
  refine (triple_quiet rfl).bind fun ended ↦ ?_
  exact Triple.ite (fun _ ↦ Triple.pure fun _ _ hstate ↦ hstate) fun _ ↦ triple_terminateProcess

/-- If it answers so, `should_interrupt` has answered that it should. -/
def interruptedIf (answer : Bool) : Claim where
  Holds world := answer = true → world.batch.interrupts = true
  stable hrely h hanswer := hrely.interrupts (h hanswer)

theorem triple_shouldInterrupt : Triple P shouldInterrupt (fun answer ↦ P.and (interruptedIf answer)) fun _ ↦ P := by
  have hasked : Triple P (ask .shouldInterrupt : Steps Failure _)
      (fun answer : Attempt Bool ↦ P.and (interruptedIf (answer = .ok true))) fun _ ↦ P := by
    refine Triple.request fun world hsound hstate oracle ↦ ?_
    have hkept : Kept world (perform oracle .shouldInterrupt world).2 := kept_perform hsound rfl oracle
    refine ⟨hkept.sound, P.stable hkept.rely hstate, fun hanswer ↦ ?_⟩
    have hinterrupt : oracle.interrupt = .ok true := of_decide_eq_true hanswer
    change (perform oracle .shouldInterrupt world).2.batch.interrupts = true
    simp only [perform, hinterrupt]
  refine hasked.bind fun answer ↦ Triple.ofExcept ?_ ?_
  · rintro result rfl world - ⟨hstate, hinterrupted⟩
    refine ⟨hstate, fun hresult ↦ hinterrupted ?_⟩
    rw [hresult]
    exact decide_eq_true rfl
  · intro error _ world _ hstate
    exact hstate.1

/-! ### Waiting for a worker -/

/-- The chunks that a look has found behind those seen before. They are all of them where the worker had ended. -/
structure SeenBy (handle : ℕ) (before : List Chunk) (progress : Progress) (world : World) : Prop where
  created : handle < world.handles.created
  before : before <+: progress.chunks
  chunks : progress.chunks <+: (world.handles.get handle).chunks
  done : progress.done = true → ∃ doneMeta,
    (world.handles.get handle).result = some (.ok doneMeta) ∧ (world.handles.get handle).chunks = progress.chunks

theorem SeenBy.grows {handle : ℕ} {before : List Chunk} {progress : Progress} {world later : World}
    (h : SeenBy handle before progress world) (hgrows : QueueGrows world later) : SeenBy handle before progress later where
  created := h.created.trans_le hgrows.created
  before := h.before
  chunks := h.chunks.trans (hgrows.handles handle h.created).chunks
  done hended := by
    obtain ⟨doneMeta, hresult, hall⟩ := h.done hended
    obtain ⟨hlater, hsame⟩ := (hgrows.handles handle h.created).result _ hresult
    exact ⟨doneMeta, hlater, hsame.trans hall⟩

def seenBy (handle : ℕ) (before : List Chunk) (progress : Progress) : Claim where
  Holds := SeenBy handle before progress
  stable hrely h := h.grows hrely.toQueueGrows

/-- What `wait_progress` has found. -/
def waited (handle : ℕ) (before : List Chunk) : Option Progress → Claim
  | none => interruptedIf true
  | some progress => seenBy handle before progress

theorem look_progress {handle : PrefetchHandle} {seen sampleRate : ℕ} {chunks : List Chunk} {done : Bool}
    (h : handle.look seen = .progress sampleRate chunks done) :
    chunks = handle.chunks ∧ (done = true → ∃ doneMeta, handle.result = some (.ok doneMeta)) := by
  rw [PrefetchHandle.look] at h
  rcases hresult : handle.result with _ | error | doneMeta
  · rw [hresult] at h
    dsimp only at h
    split_ifs at h
    cases h
    refine ⟨rfl, fun hdone ↦ ?_⟩
    cases hdone
  · rw [hresult] at h
    cases h
  · rw [hresult] at h
    dsimp only at h
    split_ifs at h
    cases h
    exact ⟨rfl, fun _ ↦ ⟨doneMeta, rfl⟩⟩

/-- The handle exists, and these chunks have been seen of it. -/
def Watching (P : Claim) (handle : ℕ) (before : List Chunk) : Prop :=
  ∀ world, P world → handle < world.handles.created ∧ before <+: (world.handles.get handle).chunks

theorem triple_look {handle : ℕ} {before : List Chunk} (hwatching : Watching P handle before) (seen : ℕ) :
    Triple P (ask (.look handle seen) : Steps Failure _)
      (fun found ↦ P.and ⟨fun world ↦ ∀ sampleRate chunks done, found = .progress sampleRate chunks done →
        seenBy handle before { sampleRate, chunks, done } world,
        fun hrely h sampleRate chunks done hfound ↦ (seenBy handle before _).stable hrely (h sampleRate chunks done hfound)⟩)
      fun _ ↦ P := by
  refine Triple.request fun world hsound hstate oracle ↦ ⟨hsound, hstate, ?_⟩
  intro sampleRate chunks done hfound
  obtain ⟨rfl, hdone⟩ := look_progress hfound
  obtain ⟨hcreated, hbefore⟩ := hwatching world hstate
  refine ⟨hcreated, hbefore, List.prefix_refl _, fun hended ↦ ?_⟩
  obtain ⟨doneMeta, hresult⟩ := hdone hended
  exact ⟨doneMeta, hresult, rfl⟩

theorem triple_waitProgress {handle : ℕ} {before : List Chunk} (hwatching : Watching P handle before)
    (rounds seen : ℕ) :
    Triple P (waitProgress rounds handle seen) (fun found ↦ P.and (waited handle before found)) fun _ ↦ P := by
  refine triple_poll.bind fun _ ↦ ?_
  refine Triple.loop (fun _ ↦ P) (fun _ ↦ ?_) (fun _ _ _ hstate ↦ hstate) rounds ()
  refine (triple_look hwatching seen).bind fun found ↦ ?_
  cases found with
  | failed error => exact Triple.throw fun _ _ hstate ↦ hstate.1
  | progress sampleRate chunks done =>
    exact Triple.pure fun _ _ hstate ↦ ⟨hstate.1, hstate.2 sampleRate chunks done rfl⟩
  | nothing =>
    refine Triple.pre ?_ fun _ _ hstate ↦ hstate.1
    refine (triple_quiet rfl).bind fun timedOut ↦ Triple.ite (fun _ ↦ ?_) fun _ ↦ ?_
    · exact (triple_discardHandle handle).bind fun _ ↦ Triple.throw fun _ _ hstate ↦ hstate
    · refine triple_poll.bind fun _ ↦ triple_shouldInterrupt.bind fun answer ↦ Triple.ite (fun hanswer ↦ ?_) fun _ ↦ ?_
      · refine (triple_drop (triple_cancelHandle handle)).bind fun _ ↦ ?_
        exact Triple.pure fun _ _ hstate ↦ ⟨hstate.1, fun _ ↦ hstate.2 hanswer⟩
      · exact Triple.pure fun _ _ hstate ↦ hstate.1

/-! ### Writing -/

/-- The player has been given more audio. -/
def World.wrote (world : World) (audio : List UInt8) : World :=
  world.mapPlayer fun player ↦ { player with written := player.written ++ audio }

/-- A chunk file has been opened for playing. -/
def World.withOpened (world : World) (opened : List (String × Wave)) : World :=
  { world with batch := { world.batch with opened } }

/-- A claim that neither a write changes nor the opening of a chunk file. -/
structure Steady (P : Claim) : Prop where
  wrote : ∀ world audio, P world → P (world.wrote audio)
  opened : ∀ world opened, P world → P (world.withOpened opened)

/-- These files have been opened, and the player lacks this end of their audio. -/
def audioLeft (log : List (String × Wave)) (rest : List UInt8) : Claim where
  Holds world := world.batch.opened = log ∧
    ∃ player, world.batch.player = some player ∧ player.written ++ rest = audioOf log
  stable := by
    rintro before after hrely ⟨hopened, player, hplayer, haudio⟩
    obtain ⟨next, hnext, hsame⟩ := hrely.player player hplayer
    refine ⟨hrely.opened.trans hopened, next, hnext, ?_⟩
    rw [hsame.written]
    exact haudio

theorem Sound.wrote {world : World} (h : Sound world) (audio : List UInt8) : Sound (world.wrote audio) := by
  have hplayer : ∀ next, (world.wrote audio).batch.player = some next → ∃ player, world.batch.player = some player ∧
      next.stdinOpen = player.stdinOpen ∧ next.returncode = player.returncode := by
    intro next hnext
    obtain ⟨player, hplayer, rfl⟩ := Option.map_eq_some_iff.mp hnext
    exact ⟨player, hplayer, rfl, rfl⟩
  refine ⟨h.toSoundHandles.withBatch _, ?_, ⟨fun hreports next hnext ↦ ?_, fun report hreport hinterrupted ↦ ?_⟩⟩
  · exact ⟨h.window, h.sorted, h.issued, h.takenSorted, h.takenIssued, h.overtaken, h.removed⟩
  · obtain ⟨player, hold, -, hreturncode⟩ := hplayer next hnext
    rw [hreturncode]
    exact h.ended hreports player hold
  · obtain ⟨hcomplete, hclosed⟩ := h.complete report hreport hinterrupted
    refine ⟨hcomplete.grows (grows_mapPlayer fun player ↦ ⟨rfl, List.prefix_append _ _⟩), ?_⟩
    refine hclosed.imp_right fun hall next hnext ↦ ?_
    obtain ⟨player, hold, hstdin, hreturncode⟩ := hplayer next hnext
    rw [hstdin, hreturncode]
    exact hall player hold

section Write

variable {log : List (String × Wave)} {pending rest : List UInt8}

/-- What a write leaves to be written. -/
def leftAfter (P : Claim) (log : List (String × Wave)) (pending rest : List UInt8) : WriteOutcome → Claim
  | .wrote count => P.and (audioLeft log (pending.drop count ++ rest))
  | _ => P.and (audioLeft log (pending ++ rest))

theorem triple_write (hP : Steady P) :
    Triple (P.and (audioLeft log (pending ++ rest))) (ask (.write pending) : Steps Failure _)
      (leftAfter P log pending rest) fun _ ↦ P := by
  refine Triple.request fun world hsound hstate oracle ↦ ?_
  obtain ⟨hclaim, hopened, player, hplayer, haudio⟩ := hstate
  change Sound (perform oracle (.write pending) world).2 ∧ leftAfter P log pending rest
    (perform oracle (.write pending) world).1 (perform oracle (.write pending) world).2
  cases houtcome : oracle.write with
  | wrote count =>
    simp only [perform, houtcome]
    refine ⟨hsound.wrote _, hP.wrote world _ hclaim, hopened, { player with written := player.written ++ pending.take count }, ?_, ?_⟩
    · rw [World.mapPlayer, hplayer]
      rfl
    · have hdrop : pending.drop (min count pending.length) = pending.drop count := by
        rcases le_total count pending.length with hle | hle
        · rw [min_eq_left hle]
        · rw [min_eq_right hle, List.drop_length, List.drop_eq_nil_of_le hle]
      change player.written ++ pending.take count ++ (pending.drop (min count pending.length) ++ rest) = audioOf log
      rw [hdrop, List.append_assoc, ← List.append_assoc (pending.take count), List.take_append_drop]
      exact haudio
  | wouldBlock | brokenPipe | failed message =>
    simp only [perform, houtcome]
    exact ⟨hsound, hclaim, hopened, player, hplayer, haudio⟩

/-- Whether it was interrupted, or has written what it was to write. -/
def written (P : Claim) (log : List (String × Wave)) (rest : List UInt8) (interrupted : Bool) : Claim :=
  if interrupted = true then P.and (interruptedIf true) else P.and (audioLeft log rest)

theorem triple_afterWrite (outcome : WriteOutcome) :
    Triple (leftAfter P log pending rest outcome) (afterWrite pending outcome)
      (Sum.elim (fun left ↦ P.and (audioLeft log (left ++ rest))) (written P log rest)) fun _ ↦ P := by
  cases outcome with
  | wrote count =>
    refine Triple.ite (fun _ ↦ ?_) fun _ ↦ ?_
    · exact Triple.throw fun _ _ hstate ↦ hstate.1
    · exact Triple.pure fun _ _ hstate ↦ hstate
  | wouldBlock => exact Triple.pure fun _ _ hstate ↦ hstate
  | brokenPipe => exact Triple.throw fun _ _ hstate ↦ hstate.1
  | failed message => exact Triple.throw fun _ _ hstate ↦ hstate.1

theorem triple_selectFailed {Post : List UInt8 ⊕ Bool → Claim} (failure : Failure) :
    Triple P (selectFailed failure) Post fun _ ↦ P :=
  (triple_quiet rfl).bind fun _ ↦
    Triple.ite (fun _ ↦ Triple.throw fun _ _ hstate ↦ hstate) fun _ ↦ Triple.throw fun _ _ hstate ↦ hstate

theorem triple_writePlaybackRound (hP : Steady P) (pending : List UInt8) :
    Triple (P.and (audioLeft log (pending ++ rest))) (writePlaybackRound pending)
      (Sum.elim (fun left ↦ P.and (audioLeft log (left ++ rest))) (written P log rest)) fun _ ↦ P := by
  refine Triple.ite (fun hpending ↦ Triple.pure ?_) fun _ ↦ ?_
  · intro world _ hstate
    rw [hpending] at hstate
    exact hstate
  refine (triple_drop triple_poll).bind fun _ ↦ (triple_drop triple_shouldInterrupt).bind fun answer ↦ ?_
  refine Triple.ite (fun hanswer ↦ Triple.pure fun _ _ hstate ↦ ⟨hstate.1.1, fun _ ↦ hstate.2 hanswer⟩) fun _ ↦ ?_
  refine Triple.pre ?_ fun _ _ hstate ↦ hstate.1
  refine (triple_quiet rfl).bind fun ended ↦ Triple.ite (fun _ ↦ Triple.throw fun _ _ hstate ↦ hstate.1) fun _ ↦ ?_
  refine (triple_quiet rfl).bind fun timedOut ↦ Triple.ite (fun _ ↦ Triple.throw fun _ _ hstate ↦ hstate.1) fun _ ↦ ?_
  refine (triple_quiet rfl).bind fun selected ↦ ?_
  cases selected with
  | error failure => exact triple_drop (triple_selectFailed failure)
  | ok writable =>
    cases writable with
    | false => exact Triple.pure fun _ _ hstate ↦ hstate
    | true => exact (triple_write hP).bind triple_afterWrite

theorem triple_writePlayback (hP : Steady P) (rounds : ℕ) (audio : List UInt8) :
    Triple (P.and (audioLeft log (audio ++ rest))) (writePlayback rounds audio) (written P log rest) fun _ ↦ P :=
  Triple.loop (fun left ↦ P.and (audioLeft log (left ++ rest))) (triple_writePlaybackRound hP)
    (fun _ _ _ hstate ↦ hstate.1) rounds audio

theorem triple_playFramesRound (hP : Steady P) (rounds : ℕ) (audio : List UInt8) :
    Triple (P.and (audioLeft log audio)) (playFramesRound rounds audio)
      (Sum.elim (fun left ↦ P.and (audioLeft log left)) (written P log [])) fun _ ↦ P := by
  refine (triple_drop triple_poll).bind fun _ ↦ (triple_drop triple_shouldInterrupt).bind fun answer ↦ ?_
  refine Triple.ite (fun hanswer ↦ Triple.pure fun _ _ hstate ↦ ⟨hstate.1.1, fun _ ↦ hstate.2 hanswer⟩) fun _ ↦ ?_
  refine Triple.pre ?_ fun _ _ hstate ↦ hstate.1
  refine (triple_quiet rfl).bind fun read ↦ (triple_drop triple_answer).bind fun _ ↦ ?_
  refine Triple.ite (fun haudio ↦ Triple.pure ?_) fun _ ↦ ?_
  · intro world _ hstate
    rw [haudio] at hstate
    exact hstate
  · have hwrite : Triple (P.and (audioLeft log audio)) (writePlayback rounds (audio.take framesRead))
        (written P log (audio.drop framesRead)) fun _ ↦ P := by
      have hsplit := @triple_writePlayback P log (audio.drop framesRead) hP rounds (audio.take framesRead)
      rwa [List.take_append_drop] at hsplit
    refine hwrite.bind fun interrupted ↦ ?_
    cases interrupted with
    | true => exact Triple.pure fun _ _ hstate ↦ hstate
    | false => exact Triple.pure fun _ _ hstate ↦ hstate

/-! ### Playing a chunk -/

/-- The chunk files have been opened behind others, and all of their audio has been written. -/
def streamedTo (log : List (String × Wave)) (outputs : List String) (rate : ℕ) : Claim where
  Holds world := ∃ waves : List (String × Wave), waves.map Prod.fst = outputs ∧
    (∀ wave ∈ waves, wave.2.channels = 1 ∧ wave.2.sampleWidth = 2 ∧ wave.2.frameRate = rate) ∧
      audioLeft (log ++ waves) [] world
  stable hrely := by
    rintro ⟨waves, houtputs, hformat, haudio⟩
    exact ⟨waves, houtputs, hformat, (audioLeft _ _).stable hrely haudio⟩

theorem audioOf_append (first second : List (String × Wave)) :
    audioOf (first ++ second) = audioOf first ++ audioOf second :=
  List.flatMap_append

theorem Sound.withOpened {world : World} (h : Sound world) (opened : List (String × Wave))
    (hopened : world.batch.opened <+: opened) : Sound (world.withOpened opened) := by
  refine ⟨h.toSoundHandles.withBatch _, ?_, ⟨h.ended, fun report hreport hinterrupted ↦ ?_⟩⟩
  · exact ⟨h.window, h.sorted, h.issued, h.takenSorted, h.takenIssued, h.overtaken, h.removed⟩
  · obtain ⟨hcomplete, hclosed⟩ := h.complete report hreport hinterrupted
    refine ⟨hcomplete.grows ?_, hclosed⟩
    exact grows_batch (List.prefix_refl _) hopened fun player hplayer ↦ ⟨player, hplayer, .refl player⟩

/-- The file of a chunk that is opened is the last one, and its audio is left to be written. -/
theorem triple_openWave (hP : Steady P) (output : String) :
    Triple (P.and (audioLeft log [])) (openWave output)
      (fun wave ↦ P.and (audioLeft (log ++ [(output, wave)]) wave.audio)) fun _ ↦ P := by
  have hasked : Triple (P.and (audioLeft log [])) (ask (.openWave output) : Steps Failure (Attempt Wave))
      (fun answer ↦ P.and ⟨fun world ↦ ∀ wave, answer = .ok wave → audioLeft (log ++ [(output, wave)]) wave.audio world,
        fun hrely h wave hwave ↦ (audioLeft _ _).stable hrely (h wave hwave)⟩) fun _ ↦ P := by
    refine Triple.request fun world hsound hstate oracle ↦ ?_
    obtain ⟨hclaim, hopened, player, hplayer, haudio⟩ := hstate
    have hfailed : ∀ failure : Failure, Sound world ∧ P world ∧
        ∀ wave, (Except.error failure : Attempt Wave) = .ok wave →
          audioLeft (log ++ [(output, wave)]) wave.audio world := by
      refine fun failure ↦ ⟨hsound, hclaim, fun wave hwave ↦ ?_⟩
      cases hwave
    change Sound (perform oracle (.openWave output) world).2 ∧ P (perform oracle (.openWave output) world).2 ∧
      ∀ wave, (perform oracle (.openWave output) world).1 = .ok wave →
        audioLeft (log ++ [(output, wave)]) wave.audio (perform oracle (.openWave output) world).2
    simp only [perform]
    cases oracle.openWave with
    | error failure => exact hfailed failure
    | ok _ =>
      simp only [World.openWave]
      rcases world.files output with _ | ⟨id, wave⟩
      · exact hfailed _
      · refine ⟨hsound.withOpened _ (List.prefix_append _ _), hP.opened world _ hclaim, fun other hother ↦ ?_⟩
        cases hother
        refine ⟨?_, player, hplayer, ?_⟩
        · rw [← hopened]
        · rw [List.append_nil] at haudio
          rw [haudio, audioOf_append]
          exact congrArg (audioOf log ++ ·) (List.append_nil _).symm
  refine hasked.bind fun answer ↦ Triple.ofExcept ?_ fun _ _ _ _ hstate ↦ hstate.1
  rintro wave rfl world - ⟨hclaim, haudio⟩
  exact ⟨hclaim, haudio wave rfl⟩

/-- Whether a chunk was interrupted, or its file has been played behind the others. -/
def chunkPlayed (P : Claim) (log : List (String × Wave)) (outputs : List String) (rate : ℕ) (interrupted : Bool) : Claim :=
  if interrupted = true then P.and (interruptedIf true) else P.and (streamedTo log outputs rate)

theorem triple_playChunk (hP : Steady P) {outputs : List String} {rate : ℕ} (rounds : ℕ) (chunk : Chunk) :
    Triple (P.and (streamedTo log outputs rate)) (playChunk rounds rate chunk)
      (chunkPlayed P log (outputs ++ [chunk.output]) rate) fun _ ↦ P := by
  refine (triple_drop triple_poll).bind fun _ ↦ (triple_drop triple_shouldInterrupt).bind fun answer ↦ ?_
  refine Triple.ite (fun hanswer ↦ Triple.pure fun _ _ hstate ↦ ⟨hstate.1.1, fun _ ↦ hstate.2 hanswer⟩) fun _ ↦ ?_
  -- the files that were played before are named first
  refine Triple.of_exists (fun waves : List (String × Wave) ↦ (Assertion.fact (waves.map Prod.fst = outputs ∧
    ∀ wave ∈ waves, wave.2.channels = 1 ∧ wave.2.sampleWidth = 2 ∧ wave.2.frameRate = rate)).and
      (P.and (audioLeft (log ++ waves) []))) ?_ ?_
  · refine fun waves ↦ Triple.of_fact (fun _ _ hstate ↦ hstate.1) ?_
    rintro ⟨houtputs, hformat⟩
    refine Triple.pre ?_ fun _ _ hstate ↦ hstate.2
    refine (triple_openWave hP chunk.output).bind fun wave ↦ ?_
    refine Triple.ite (fun _ ↦ Triple.throw fun _ _ hstate ↦ hstate.1) fun hwave ↦ ?_
    have hplay : Triple (P.and (audioLeft (log ++ waves ++ [(chunk.output, wave)]) wave.audio))
        (Process.loop .exhausted (playFramesRound rounds) rounds wave.audio)
        (written P (log ++ waves ++ [(chunk.output, wave)]) []) fun _ ↦ P :=
      Triple.loop (fun left ↦ P.and (audioLeft (log ++ waves ++ [(chunk.output, wave)]) left))
        (triple_playFramesRound hP rounds) (fun _ _ _ hstate ↦ hstate.1) rounds wave.audio
    refine hplay.conseq (fun _ _ hstate ↦ hstate) (fun interrupted world _ hstate ↦ ?_) fun _ _ _ hstate ↦ hstate
    cases interrupted with
    | true => exact hstate
    | false =>
      obtain ⟨hclaim, haudio⟩ := hstate
      refine ⟨hclaim, waves ++ [(chunk.output, wave)], ?_, ?_, ?_⟩
      · rw [List.map_append, houtputs]
        rfl
      · intro other hother
        rcases List.mem_append.mp hother with hother | hother
        · exact hformat other hother
        · rw [List.mem_singleton.mp hother]
          simpa only [not_or, not_not] using hwave
      · rw [← List.append_assoc]
        exact haudio
  · rintro world _ ⟨⟨hclaim, waves, houtputs, hformat, haudio⟩, -⟩
    exact ⟨waves, ⟨houtputs, hformat⟩, hclaim, haudio⟩

end Write

end VoiceHarness.Playback
