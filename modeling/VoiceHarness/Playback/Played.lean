import VoiceHarness.Playback.Written

/-!
# Playing a request

The triples of the loop over the chunks of one request (`triple_playItem`). A request that is neither interrupted nor
fails has been played as a whole. `Place` names what does not change while it is played.
-/

set_option autoImplicit false
set_option relaxedAutoImplicit false

namespace VoiceHarness.Playback

open Library Process

/-- The request that a drain plays, behind those that it has taken before. -/
structure Place where
  drains : ℕ
  before : List (PlaybackRequest × ℕ)
  request : PlaybackRequest
  handle : ℕ

/-- The drain is at its request, and `on_played` has not been called in it. -/
structure AtRequest (place : Place) (world : World) : Prop where
  drains : world.drains = place.drains
  reports : world.batch.reports = []
  taken : world.batch.taken = place.before ++ [(place.request, place.handle)]
  created : place.handle < world.handles.created
  issued : place.request.ticket < world.issued
  owned : ∀ request handle, (request, handle) ∈ world.items → request.ticket = place.request.ticket →
    handle = some place.handle

def atRequest (place : Place) : Claim where
  Holds := AtRequest place
  stable hrely h :=
    { drains := hrely.drains.trans h.drains
      reports := hrely.reports.trans h.reports
      taken := hrely.taken.trans h.taken
      created := h.created.trans_le hrely.created
      issued := h.issued.trans_le hrely.issued
      owned := by
        intro request handle hmem hticket
        rcases hrely.items request handle hmem with ⟨old, hold, hkept⟩ | hnew
        · exact hkept place.handle (h.owned request old hold hticket)
        · have hissued := h.issued
          omega }

/-- Whether there is a player, which plays at the rate. -/
def hasPlayer (opened : Bool) (rate : ℕ) : Claim where
  Holds world := world.batch.player.isSome = opened ∧ ∀ player, world.batch.player = some player → player.rate = rate
  stable := by
    rintro world later hrely ⟨hopened, hrate⟩
    cases hplayer : world.batch.player with
    | none =>
      rw [hrely.noPlayer hplayer]
      refine ⟨?_, fun player hnone ↦ ?_⟩
      · rw [← hopened, hplayer]
      · cases hnone
    | some player =>
      obtain ⟨next, hnext, hsame⟩ := hrely.player player hplayer
      refine ⟨?_, fun other hother ↦ ?_⟩
      · rw [← hopened, hplayer, hnext]
        rfl
      · obtain rfl := Option.some.inj (hnext.symm.trans hother)
        exact hsame.rate.trans (hrate player hplayer)

/-- The chunk files have been played behind the others; without a player, there were none. -/
def flowing (opened : Bool) (log : List (String × Wave)) (outputs : List String) (rate : ℕ) : Claim :=
  if opened = true then streamedTo log outputs rate
  else
    { Holds := fun world ↦ world.batch.opened = [] ∧ log = [] ∧ outputs = []
      stable := fun hrely h ↦ ⟨hrely.opened.trans h.1, h.2⟩ }

/-- It is about the player and the opened files alone. -/
theorem flowing_congr {opened : Bool} {log : List (String × Wave)} {outputs : List String} {rate : ℕ} {world later : World}
    (h : flowing opened log outputs rate world) (hopened : later.batch.opened = world.batch.opened)
    (hplayer : later.batch.player = world.batch.player) : flowing opened log outputs rate later := by
  rw [flowing] at h ⊢
  split_ifs at h ⊢
  · obtain ⟨waves, houtputs, hformat, hlog, player, hsome, haudio⟩ := h
    exact ⟨waves, houtputs, hformat, hopened.trans hlog, player, hplayer.trans hsome, haudio⟩
  · exact ⟨hopened.trans h.1, h.2⟩

theorem steady_atRequest (place : Place) : Steady (atRequest place) where
  wrote _ _ h := ⟨h.drains, h.reports, h.taken, h.created, h.issued, h.owned⟩
  opened _ _ h := ⟨h.drains, h.reports, h.taken, h.created, h.issued, h.owned⟩

theorem steady_hasPlayer (opened : Bool) (rate : ℕ) : Steady (hasPlayer opened rate) where
  wrote world audio h := by
    refine ⟨?_, fun next hnext ↦ ?_⟩
    · change (world.batch.player.map _).isSome = opened
      rw [Option.isSome_map]
      exact h.1
    · obtain ⟨player, hplayer, rfl⟩ := Option.map_eq_some_iff.mp hnext
      exact h.2 player hplayer
  opened _ _ h := h

theorem Steady.and {P Q : Claim} (hP : Steady P) (hQ : Steady Q) : Steady (P.and Q) where
  wrote world audio h := ⟨hP.wrote world audio h.1, hQ.wrote world audio h.2⟩
  opened world opened h := ⟨hP.opened world opened h.1, hQ.opened world opened h.2⟩

/-! ### The chunks of a request -/

/-- The drain is at its request, with its variables about the player. -/
def playingAt (place : Place) (playing : Playing) : Claim :=
  (atRequest place).and (hasPlayer playing.opened playing.sampleRate)

theorem steady_playingAt (place : Place) (playing : Playing) : Steady (playingAt place playing) :=
  (steady_atRequest place).and (steady_hasPlayer _ _)

/-- The variables that playing chunks does not change. -/
structure Playing.Same (before after : Playing) : Prop where
  opened : after.opened = before.opened
  sampleRate : after.sampleRate = before.sampleRate
  finished : after.finished = before.finished
  deferredError : after.deferredError = before.deferredError
  chunksSeen : after.chunksSeen = before.chunksSeen

theorem Playing.Same.refl (playing : Playing) : playing.Same playing := ⟨rfl, rfl, rfl, rfl, rfl⟩

/-- What playing chunks comes to: it has been interrupted, or they have been played. -/
def chunksPlayed (place : Place) (log : List (String × Wave)) (outputs texts : List String) (before after : Playing) :
    Claim where
  Holds world := playingAt place before world ∧ before.Same after ∧ interruptedIf after.interrupted world ∧
    (after.interrupted = false → after.chunkTexts = texts ∧ flowing before.opened log outputs before.sampleRate world)
  stable := by
    rintro world later hrely ⟨hat, hsame, hinterrupted, hplayed⟩
    refine ⟨(playingAt place before).stable hrely hat, hsame, (interruptedIf _).stable hrely hinterrupted, fun hgoes ↦ ?_⟩
    obtain ⟨htexts, hflowing⟩ := hplayed hgoes
    exact ⟨htexts, (flowing _ _ _ _).stable hrely hflowing⟩

/-- What is known where a step of a request raises. -/
def raisedAt (place : Place) (raised : Playing × Failure) : Claim :=
  if raised.2 = .exhausted then .any else (playingAt place raised.1).and (.fact (raised.1.interrupted = false))

theorem raisedAt_of_playingAt {place : Place} {raised : Playing × Failure} {world : World}
    (h : playingAt place raised.1 world) (hgoes : raised.1.interrupted = false) : raisedAt place raised world := by
  rw [raisedAt]
  split_ifs
  · exact trivial
  · exact ⟨h, hgoes⟩

theorem raisedAt_exhausted {place : Place} {playing : Playing} {world : World} :
    raisedAt place (playing, .exhausted) world :=
  trivial

theorem triple_attempting {α : Type} {place : Place} {playing : Playing} {P : Claim} {Post : α → Claim}
    {program : Steps Failure α} (h : Triple P program Post fun _ ↦ playingAt place playing)
    (hgoes : playing.interrupted = false) :
    Triple P (playing.attempting program) Post (raisedAt place) :=
  h.mapError fun _ _ _ hstate ↦ raisedAt_of_playingAt hstate hgoes

theorem triple_playChunks {place : Place} {log : List (String × Wave)} (rounds : ℕ) (chunks : List Chunk)
    {outputs : List String} {before playing : Playing} (hsame : before.Same playing) (hopened : before.opened = true)
    (hgoes : playing.interrupted = false) :
    Triple ((playingAt place before).and (streamedTo log outputs before.sampleRate))
      (Playing.playChunks rounds chunks playing)
      (chunksPlayed place log (outputs ++ chunks.map Chunk.output) (playing.chunkTexts ++ chunks.map Chunk.text) before)
      (raisedAt place) := by
  induction chunks generalizing outputs playing with
  | nil =>
    refine Triple.pure fun world _ hstate ↦ ⟨hstate.1, hsame, fun hinterrupted ↦ ?_, fun _ ↦ ⟨?_, ?_⟩⟩
    · rw [hgoes] at hinterrupted
      cases hinterrupted
    · rw [List.map_nil, List.append_nil]
    · rw [flowing, if_pos hopened, List.map_nil, List.append_nil]
      exact hstate.2
  | cons chunk chunks ih =>
    have hraised : ∀ state, playingAt place before state → playingAt place playing state := by
      intro state hstate
      rwa [playingAt, hsame.opened, hsame.sampleRate]
    have hplay : Triple ((playingAt place before).and (streamedTo log outputs before.sampleRate))
        (playChunk rounds playing.sampleRate chunk)
        (chunkPlayed (playingAt place before) log (outputs ++ [chunk.output]) before.sampleRate)
        fun _ ↦ playingAt place before := by
      rw [hsame.sampleRate]
      exact triple_playChunk (steady_playingAt place before) rounds chunk
    refine (triple_attempting (hplay.raises fun _ state _ hstate ↦ hraised state hstate) hgoes).bind
      fun interrupted ↦ ?_
    cases interrupted with
    | true =>
      refine Triple.pure fun world _ hstate ↦ ⟨hstate.1, ?_, fun _ ↦ hstate.2 rfl, fun hother ↦ ?_⟩
      · exact ⟨hsame.opened, hsame.sampleRate, hsame.finished, hsame.deferredError, hsame.chunksSeen⟩
      · cases hother
    | false =>
      have hnext : before.Same { playing with chunkTexts := playing.chunkTexts ++ [chunk.text] } :=
        ⟨hsame.opened, hsame.sampleRate, hsame.finished, hsame.deferredError, hsame.chunksSeen⟩
      have hrest := @ih (outputs ++ [chunk.output]) _ hnext hgoes
      rw [List.append_assoc, List.append_assoc, List.singleton_append, List.singleton_append] at hrest
      exact (triple_quiet rfl).bind fun _ ↦ hrest.pre fun world _ hstate ↦ hstate

/-! ### Opening the player -/

theorem Sound.openPlayer {world : World} (h : Sound world) (hreports : world.batch.reports = []) (player : Player) :
    Sound { world with batch := { world.batch with player := some player } } := by
  refine ⟨h.toSoundHandles.withBatch _, ?_, ⟨fun hsome ↦ absurd hreports hsome, fun report hreport ↦ ?_⟩⟩
  · exact ⟨h.window, h.sorted, h.issued, h.takenSorted, h.takenIssued, h.overtaken, h.removed⟩
  · change report ∈ world.batch.reports at hreport
    rw [hreports] at hreport
    cases hreport

/-- A player that is opened has been given nothing. -/
theorem triple_openPlayback {place : Place} {log : List (String × Wave)} {outputs : List String} {rate : ℕ}
    (sampleRate : ℕ) :
    Triple (((atRequest place).and (hasPlayer false rate)).and (flowing false log outputs rate))
      (openPlayback sampleRate)
      (fun _ ↦ ((atRequest place).and (hasPlayer true sampleRate)).and (streamedTo log outputs sampleRate))
      fun _ ↦ (atRequest place).and (hasPlayer false sampleRate) := by
  let opened : Attempt Unit → Claim := Assertion.either
    (fun _ ↦ ((atRequest place).and (hasPlayer true sampleRate)).and (streamedTo log outputs sampleRate))
    fun _ ↦ (atRequest place).and (hasPlayer false sampleRate)
  have hasked : Triple (((atRequest place).and (hasPlayer false rate)).and (flowing false log outputs rate))
      (ask (.openPlayback sampleRate) : Steps Failure (Attempt Unit)) opened
      fun _ ↦ (atRequest place).and (hasPlayer false sampleRate) := by
    refine Triple.request fun world hsound hstate oracle ↦ ?_
    obtain ⟨⟨hat, hnone, -⟩, hlog, rfl, rfl⟩ := hstate
    have hplayer : world.batch.player = none := Option.isSome_eq_false_iff.mp hnone |> Option.isNone_iff_eq_none.mp
    change Sound (perform oracle (.openPlayback sampleRate) world).2 ∧
      opened (perform oracle (.openPlayback sampleRate) world).1 (perform oracle (.openPlayback sampleRate) world).2
    cases hattempt : oracle.attempt with
    | error failure =>
      simp only [perform, hattempt]
      refine ⟨hsound, hat, hnone, fun player hsome ↦ ?_⟩
      rw [hplayer] at hsome
      cases hsome
    | ok _ =>
      simp only [perform, hattempt, hplayer]
      refine ⟨hsound.openPlayer hat.reports _, ⟨⟨hat.drains, hat.reports, hat.taken, hat.created, hat.issued, hat.owned⟩,
        rfl, fun player hsome ↦ ?_⟩, [], rfl, ?_, hlog, _, rfl, rfl⟩
      · rw [← Option.some.inj hsome]
      · intro wave hwave
        cases hwave
  refine hasked.bind fun answer ↦ ?_
  cases answer with
  | error failure => exact Triple.throw fun _ _ hstate ↦ hstate
  | ok _ => exact Triple.pure fun _ _ hstate ↦ hstate

/-- The player is there where a chunk is. -/
def playerOpened (place : Place) (log : List (String × Wave)) (outputs : List String) (before after : Playing) : Claim where
  Holds world := (playingAt place after).and (flowing after.opened log outputs after.sampleRate) world ∧
    after = { before with opened := after.opened, sampleRate := after.sampleRate } ∧
    (after.opened = false → before.chunksSeen.length ≤ before.seen)
  stable hrely h := ⟨((playingAt place after).and (flowing _ _ _ _)).stable hrely h.1, h.2⟩

theorem triple_openPlayer {place : Place} {log : List (String × Wave)} {outputs : List String} (playing : Playing)
    (hgoes : playing.interrupted = false) (sampleRate : ℕ) :
    Triple ((playingAt place playing).and (flowing playing.opened log outputs playing.sampleRate))
      (playing.openPlayer sampleRate) (playerOpened place log outputs playing) (raisedAt place) := by
  refine Triple.ite (fun hopens ↦ ?_) fun hopens ↦ Triple.pure fun world _ hstate ↦ ⟨hstate, rfl, fun hclosed ↦ ?_⟩
  · have hopen : Triple ((playingAt place playing).and (flowing playing.opened log outputs playing.sampleRate))
        (openPlayback sampleRate)
        (fun _ ↦ (playingAt place { playing with sampleRate, opened := true }).and (streamedTo log outputs sampleRate))
        fun _ ↦ playingAt place { playing with sampleRate } := by
      simp only [playingAt, hopens.1]
      exact triple_openPlayback sampleRate
    have hdescriptor : Triple
        ((playingAt place { playing with sampleRate, opened := true }).and (streamedTo log outputs sampleRate)) playbackFd
        (fun _ ↦ (playingAt place { playing with sampleRate, opened := true }).and (streamedTo log outputs sampleRate))
        fun _ ↦ playingAt place { playing with sampleRate, opened := true } :=
      triple_drop ((triple_quiet rfl).bind fun _ ↦ triple_answer)
    refine (triple_attempting hopen hgoes).bind fun _ ↦ (triple_attempting hdescriptor hgoes).bind fun _ ↦ ?_
    refine Triple.pure fun world _ hstate ↦ ⟨hstate, rfl, fun hclosed ↦ ?_⟩
    cases hclosed
  · exact not_lt.mp fun hlt ↦ hopens ⟨hclosed, hlt⟩

/-! ### One look after the other -/

/-- What is known before a look: all chunks that have been seen have been played. -/
def itemAt (place : Place) (log : List (String × Wave)) (playing : Playing) : Claim where
  Holds world := playingAt place playing world ∧
    flowing playing.opened log (playing.chunksSeen.map Chunk.output) playing.sampleRate world ∧
    playing.chunksSeen <+: (world.handles.get place.handle).chunks ∧
    playing.chunkTexts = playing.chunksSeen.map Chunk.text ∧ playing.interrupted = false ∧ playing.deferredError = none
  stable := by
    rintro world later hrely ⟨hat, hflowing, hseen, hvariables⟩
    refine ⟨(playingAt place playing).stable hrely hat, (flowing _ _ _ _).stable hrely hflowing, ?_, hvariables⟩
    exact hseen.trans (hrely.handles place.handle hat.1.created).chunks

/-- The request has been played as a whole. -/
def Whole (place : Place) (log : List (String × Wave)) (playing : Playing) (world : World) : Prop :=
  place.handle < world.handles.created ∧ ∃ chunks doneMeta,
    (world.handles.get place.handle).result = some (.ok doneMeta) ∧ (world.handles.get place.handle).chunks = chunks ∧
    playing.chunkTexts = chunks.map Chunk.text ∧
    flowing playing.opened log (chunks.map Chunk.output) playing.sampleRate world

theorem Whole.rely {place : Place} {log : List (String × Wave)} {playing : Playing} {world later : World}
    (h : Whole place log playing world) (hrely : Rely world later) : Whole place log playing later := by
  obtain ⟨hcreated, chunks, doneMeta, hresult, hchunks, htexts, hflowing⟩ := h
  obtain ⟨hafter, hsame⟩ := (hrely.handles place.handle hcreated).result _ hresult
  exact ⟨hcreated.trans_le hrely.created, chunks, doneMeta, hafter, hsame.trans hchunks, htexts,
    (flowing _ _ _ _).stable hrely hflowing⟩

/-- What playing a request comes to: it has been interrupted, or it has failed, or it has been played as a whole. -/
def itemPlayed (place : Place) (log : List (String × Wave)) (playing : Playing) : Claim where
  Holds world := playingAt place playing world ∧ interruptedIf playing.interrupted world ∧
    (playing.interrupted = false → playing.deferredError = none → Whole place log playing world)
  stable hrely h := ⟨(playingAt place playing).stable hrely h.1, (interruptedIf _).stable hrely h.2.1,
    fun hgoes hnone ↦ (h.2.2 hgoes hnone).rely hrely⟩

/-- What comes of the chunks that a look has found. -/
def lookPlayed (place : Place) (log : List (String × Wave)) (progress : Progress) (playing : Playing) : Claim where
  Holds world := playingAt place playing world ∧ interruptedIf playing.interrupted world ∧
    seenBy place.handle [] progress world ∧ playing.finished = progress.done ∧ playing.chunksSeen = progress.chunks ∧
    playing.deferredError = none ∧ (playing.interrupted = false → playing.chunkTexts = progress.chunks.map Chunk.text ∧
      flowing playing.opened log (progress.chunks.map Chunk.output) playing.sampleRate world)
  stable := by
    rintro world later hrely ⟨hat, hinterrupted, hseen, hfinished, hchunks, hdeferred, hplayed⟩
    refine ⟨(playingAt place playing).stable hrely hat, (interruptedIf _).stable hrely hinterrupted,
      (seenBy _ _ _).stable hrely hseen, hfinished, hchunks, hdeferred, fun hgoes ↦ ?_⟩
    obtain ⟨htexts, hflowing⟩ := hplayed hgoes
    exact ⟨htexts, (flowing _ _ _ _).stable hrely hflowing⟩

/-- What every request leaves of the handle that is watched. -/
theorem seenBy_perform (handle : ℕ) (before : List Chunk) (progress : Progress) (oracle : Oracle) (asked : Request)
    (world : World) (_ : Sound world) (h : seenBy handle before progress world) :
    seenBy handle before progress (perform oracle asked world).2 :=
  h.grows (queueGrows_perform asked oracle)

/-- The chunks behind those seen before are played, once the player is there. -/
theorem triple_playFresh {place : Place} {log : List (String × Wave)} (rounds : ℕ) {playing after : Playing}
    {progress : Progress} {fresh : List Chunk} (hfresh : progress.chunks = playing.chunksSeen ++ fresh)
    (htexts : playing.chunkTexts = playing.chunksSeen.map Chunk.text) (hgoes : playing.interrupted = false)
    (hdeferred : playing.deferredError = none)
    (hafter : after = { playing with
      chunksSeen := progress.chunks, finished := progress.done, opened := after.opened, sampleRate := after.sampleRate })
    (hnone : after.opened = false → fresh = []) :
    Triple (((playingAt place after).and
        (flowing after.opened log (playing.chunksSeen.map Chunk.output) after.sampleRate)).and
          (seenBy place.handle playing.chunksSeen progress))
      (Playing.playChunks rounds fresh after) (lookPlayed place log progress) (raisedAt place) := by
  have hchunks : after.chunksSeen = progress.chunks := by rw [hafter]
  have hfinished : after.finished = progress.done := by rw [hafter]
  have hgoing : after.interrupted = false := by rw [hafter]; exact hgoes
  have hplayedTexts : after.chunkTexts = playing.chunksSeen.map Chunk.text := by rw [hafter]; exact htexts
  have herror : after.deferredError = none := by rw [hafter]; exact hdeferred
  have hseen : ∀ {world}, seenBy place.handle playing.chunksSeen progress world → seenBy place.handle [] progress world :=
    fun h ↦ ⟨h.created, List.nil_prefix, h.chunks, h.done⟩
  cases hopened : after.opened with
  | false =>
    obtain rfl := hnone hopened
    rw [List.append_nil] at hfresh
    refine Triple.pure fun world _ hstate ↦ ⟨hstate.1.1, fun hinterrupted ↦ ?_, hseen hstate.2, hfinished, hchunks, herror,
      fun _ ↦ ⟨?_, ?_⟩⟩
    · rw [hgoing] at hinterrupted
      cases hinterrupted
    · rw [hplayedTexts, hfresh]
    · rw [hfresh, hopened]
      exact hstate.1.2
  | true =>
    have hplay := (@triple_playChunks place log rounds fresh (playing.chunksSeen.map Chunk.output) after after (.refl after)
      hopened hgoing).frame (seenBy_perform place.handle playing.chunksSeen progress)
    refine hplay.conseq (fun world _ hstate ↦ ?_) (fun last world _ hstate ↦ ?_) fun _ _ _ hstate ↦ hstate.1
    · rw [flowing, if_pos rfl] at hstate
      exact hstate
    · obtain ⟨⟨hat, hsame, hinterrupted, hplayed⟩, hlook⟩ := hstate
      refine ⟨?_, hinterrupted, hseen hlook, hsame.finished.trans hfinished, hsame.chunksSeen.trans hchunks,
        hsame.deferredError.trans herror, fun hlast ↦ ?_⟩
      · rw [playingAt, hsame.opened, hsame.sampleRate]
        exact hat
      · obtain ⟨hmore, hflowing⟩ := hplayed hlast
        rw [hmore, hplayedTexts, hfresh, List.map_append, List.map_append, hsame.opened, hsame.sampleRate]
        exact ⟨rfl, hflowing⟩

theorem triple_play {place : Place} {log : List (String × Wave)} (rounds : ℕ) (playing : Playing) (progress : Progress) :
    Triple ((itemAt place log playing).and (seenBy place.handle playing.chunksSeen progress))
      (playing.play rounds progress) (lookPlayed place log progress) (raisedAt place) := by
  have hfacts : ∀ world, Sound world →
      (itemAt place log playing).and (seenBy place.handle playing.chunksSeen progress) world →
      playing.chunksSeen <+: progress.chunks ∧ playing.chunkTexts = playing.chunksSeen.map Chunk.text ∧
        playing.interrupted = false ∧ playing.deferredError = none :=
    fun world _ hstate ↦ ⟨hstate.2.before, hstate.1.2.2.2⟩
  refine Triple.of_fact hfacts ?_
  rintro ⟨⟨fresh, hfresh⟩, htexts, hgoes, hdeferred⟩
  have hopen := (@triple_openPlayer place log (playing.chunksSeen.map Chunk.output)
    { playing with chunksSeen := progress.chunks, finished := progress.done } hgoes progress.sampleRate).frame
      (seenBy_perform place.handle playing.chunksSeen progress)
  have hplay : ∀ after, Triple ((playerOpened place log (playing.chunksSeen.map Chunk.output)
        { playing with chunksSeen := progress.chunks, finished := progress.done } after).and
          (seenBy place.handle playing.chunksSeen progress))
      (Playing.playChunks rounds (after.chunksSeen.drop after.seen) after) (lookPlayed place log progress)
      (raisedAt place) := by
    intro after
    refine Triple.of_fact (fun world _ hstate ↦ hstate.1.2) ?_
    rintro ⟨hafter, hnone⟩
    have hdrop : after.chunksSeen.drop after.seen = fresh := by
      rw [hafter, Playing.seen, htexts, List.length_map, ← hfresh, List.drop_left]
    rw [hdrop]
    refine (triple_playFresh rounds hfresh.symm htexts hgoes hdeferred hafter fun hclosed ↦ ?_).pre
      fun world _ hstate ↦ ⟨hstate.1.1, hstate.2⟩
    have hlength := hnone hclosed
    rw [Playing.seen, htexts, List.length_map, ← hfresh, List.length_append] at hlength
    exact List.length_eq_zero_iff.mp (by omega)
  refine ((hopen.raises fun _ _ _ hstate ↦ hstate.1).bind hplay).pre fun world _ hstate ↦ ?_
  exact ⟨⟨hstate.1.1, hstate.1.2.1⟩, hstate.2⟩

theorem triple_round {place : Place} {log : List (String × Wave)} (rounds : ℕ) (playing : Playing) :
    Triple (itemAt place log playing) (playing.round rounds place.handle)
      (Sum.elim (itemAt place log) (itemPlayed place log)) (raisedAt place) := by
  refine (triple_quiet (by decide)).bind fun _ ↦ ?_
  have hwatching : Watching (itemAt place log playing) place.handle playing.chunksSeen :=
    fun world hstate ↦ ⟨hstate.1.1.created, hstate.2.2.1⟩
  let found : Except Failure (Option Progress) → Claim := Assertion.either
    (fun answer ↦ (itemAt place log playing).and (waited place.handle playing.chunksSeen answer))
    fun _ ↦ itemAt place log playing
  have hwait : Triple (itemAt place log playing) (waitProgress rounds place.handle playing.seen).attempt found
      (raisedAt place) :=
    (triple_waitProgress hwatching rounds playing.seen).attempt (fun _ _ _ hstate ↦ hstate) fun _ _ _ hstate ↦ hstate
  refine hwait.bind fun outcome ↦ ?_
  rcases outcome with failure | _ | progress
  · have hdeferred : Triple (itemAt place log playing)
        (Process.pure (.inr { playing with deferredError := some failure }) : Steps (Playing × Failure) (Playing ⊕ Playing))
        (Sum.elim (itemAt place log) (itemPlayed place log)) (raisedAt place) := by
      refine Triple.pure fun world _ hstate ↦ ⟨hstate.1, fun hinterrupted ↦ ?_, fun _ hnone ↦ ?_⟩
      · rw [hstate.2.2.2.2.1] at hinterrupted
        cases hinterrupted
      · cases hnone
    cases failure with
    | exhausted => exact Triple.throw fun _ _ _ ↦ raisedAt_exhausted
    | playback message => exact hdeferred
    | other message => exact hdeferred
  · refine Triple.pure fun world _ hstate ↦ ⟨hstate.1.1, fun _ ↦ hstate.2 rfl, fun hgoes ↦ ?_⟩
    cases hgoes
  · refine (triple_play rounds playing progress).bind fun played ↦ Triple.ite (fun hends ↦ ?_) fun hgoes ↦ ?_
    · refine Triple.pure fun world _ hstate ↦ ?_
      obtain ⟨hat, hinterrupted, ⟨hcreated, -, hprefix, hdone⟩, hfinished, hchunks, hdeferred, hplayed⟩ := hstate
      refine ⟨hat, hinterrupted, fun hgoes _ ↦ ?_⟩
      rw [hgoes, hfinished] at hends
      obtain ⟨doneMeta, hresult, hall⟩ := hdone (hends.resolve_left (by decide))
      exact ⟨hcreated, progress.chunks, doneMeta, hresult, hall, hplayed hgoes⟩
    · refine Triple.pure fun world _ hstate ↦ ?_
      obtain ⟨hat, hinterrupted, ⟨hcreated, -, hprefix, hdone⟩, hfinished, hchunks, hdeferred, hplayed⟩ := hstate
      have hgoing : played.interrupted = false := Bool.eq_false_iff.mpr fun h ↦ hgoes (.inl h)
      obtain ⟨htexts, hflowing⟩ := hplayed hgoing
      rw [← hchunks] at htexts hflowing hprefix
      exact ⟨hat, hflowing, hprefix, htexts, hgoing, hdeferred⟩

theorem triple_rounds {place : Place} {log : List (String × Wave)} (rounds : ℕ) (playing : Playing) :
    Triple (itemAt place log playing)
      (Process.loop (playing, .exhausted) (Playing.round rounds place.handle) rounds playing) (itemPlayed place log)
      (raisedAt place) :=
  Triple.loop (itemAt place log) (triple_round rounds) (fun _ _ _ _ ↦ raisedAt_exhausted) rounds playing

end VoiceHarness.Playback
