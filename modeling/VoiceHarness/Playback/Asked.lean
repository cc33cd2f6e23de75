import VoiceHarness.Playback.Kept

/-!
# What a drain asks

The queue as a setting of processes. A quiet request changes no more than the others may, so it leaves every assertion
(`triple_quiet`); the drain plays by the others: it takes a request, opens the player and a chunk file, and writes.
Whatever it asks, what has been played stays (`grows_perform`).
-/

set_option autoImplicit false
set_option relaxedAutoImplicit false

namespace VoiceHarness.Playback

open Library Process

/-- The queue as a setting of processes. -/
def setting : Library.Setting Request Answer Oracle World where
  perform := perform
  Rely := Rely
  Invariant := Sound
  refl := Rely.refl
  trans := Rely.trans

abbrev Claim := Assertion setting

/-- The requests that change no more than the others may, whatever the drain knows. -/
def Request.isQuiet : Request → Bool
  | .begin | .takeHead | .openPlayback _ | .openWave _ | .write _ | .onPlayed _ | .popHead _ => false
  | .startPrefetch limit => limit ≤ prefetchLimit
  | _ => true

variable {world : World}

theorem kept_perform (hsound : Sound world) {asked : Request} (hquiet : asked.isQuiet = true) (oracle : Oracle) :
    Kept world (perform oracle asked world).2 := by
  cases asked with
  | begin | takeHead | openPlayback _ | openWave _ | write _ | onPlayed _ | popHead _ => cases hquiet
  | slot | poll | look _ _ | timedOut | doneMeta _ | playbackFd | readFrames | playerEnded | select | waitPlayer
  | readStderr => exact hsound.refl
  | startPrefetch limit => exact hsound.startPrefetch (of_decide_eq_true hquiet)
  | shouldInterrupt =>
    simp only [perform]
    split
    · exact hsound.interrupted
    · exact hsound.refl
  | cancel handle =>
    refine hsound.sameQueue ⟨rfl, rfl, rfl, rfl⟩ ?_ hsound.toSoundHandles.cancel
    exact queueGrows_update fun _ ↦ (world.handles.get handle).grows_cancel
  | discard handle => exact hsound.discard handle oracle.joins
  | terminate =>
    simp only [perform]
    split_ifs
    · split
      · exact hsound.endPlayer _
      · exact hsound.refl
    · exact hsound.refl
  | cleanup outputs => exact hsound.cleanup outputs
  | closeStdin => exact hsound.closeStdin
  | finish =>
    refine hsound.sameQueue ⟨rfl, rfl, rfl, rfl⟩ (queueGrows_items fun item hitem ↦ hitem) ?_
    exact ⟨hsound.created, hsound.atWork, hsound.files, hsound.stopped, hsound.released⟩

/-! ### Taking a request -/

/-- What taking the first request does: nothing where the queue is empty, else it is taken with its handle. -/
theorem takeHead_cases (world : World) :
    (world.items = [] ∧ world.takeHead = (none, world)) ∨
    ∃ request id items handles, world.takeHead = (some (request, id),
        { world with items, handles, batch := { world.batch with taken := world.batch.taken ++ [(request, id)] } }) ∧
      Filled world.items world.handles items handles ∧ items.head? = some (request, some id) ∧
      items.tail = world.items.tail := by
  rcases hitems : world.items with _ | ⟨⟨request, _ | id⟩, items⟩
  · refine .inl ⟨rfl, ?_⟩
    simp only [World.takeHead, hitems]
  · refine .inr ⟨request, _, _, _, ?_, (Filled.refl items _).create, rfl, rfl⟩
    simp only [World.takeHead, hitems]
  · refine .inr ⟨request, id, (request, some id) :: items, world.handles, ?_, .refl _ _, rfl, rfl⟩
    simp only [World.takeHead, hitems]

/-- The queue, and what has been played, after a change of the batch alone. -/
theorem grows_batch {batch : Batch} (htaken : world.batch.taken <+: batch.taken) (hopened : world.batch.opened <+: batch.opened)
    (hplayer : ∀ player, world.batch.player = some player → ∃ next, batch.player = some next ∧ player.Grows next) :
    Grows world { world with batch } where
  toQueueGrows := queueGrows_items fun _ hitem ↦ hitem
  taken := htaken
  opened := hopened
  player := hplayer
  drains := rfl

theorem Player.Grows.refl (player : Player) : player.Grows player := ⟨rfl, List.prefix_refl _⟩

theorem grows_mapPlayer {f : Player → Player} (hf : ∀ player : Player, player.Grows (f player)) :
    Grows world (world.mapPlayer f) := by
  refine grows_batch (List.prefix_refl _) (List.prefix_refl _) fun player hplayer ↦ ?_
  refine ⟨f player, ?_, hf player⟩
  rw [hplayer]
  rfl

/-- What has been played stays, whatever the drain asks once it has begun. -/
theorem grows_perform {asked : Request} (hbegin : asked ≠ .begin) (oracle : Oracle) :
    Grows world (perform oracle asked world).2 := by
  have hrefl : ∀ player, world.batch.player = some player → ∃ next, world.batch.player = some next ∧ player.Grows next :=
    fun player hplayer ↦ ⟨player, hplayer, .refl player⟩
  cases asked with
  | begin => exact absurd rfl hbegin
  | slot | poll | look _ _ | timedOut | doneMeta _ | playbackFd | readFrames | playerEnded | select | waitPlayer
  | readStderr => exact .refl world
  | startPrefetch limit =>
    exact ⟨(filled_prefetchItems limit _ world.handles world.items).queueGrows, List.prefix_refl _, List.prefix_refl _, hrefl, rfl⟩
  | takeHead =>
    rcases takeHead_cases world with ⟨-, htaken⟩ | ⟨request, id, items, handles, htaken, hfilled, -⟩
    · simp only [perform, htaken]
      exact .refl world
    · simp only [perform, htaken]
      have hgrows := hfilled.queueGrows
      exact ⟨⟨hgrows.issued, hgrows.created, hgrows.handles, hgrows.items⟩, List.prefix_append _ _, List.prefix_refl _, hrefl, rfl⟩
  | shouldInterrupt =>
    simp only [perform]
    split
    · exact grows_batch (List.prefix_refl _) (List.prefix_refl _) hrefl
    · exact .refl world
  | cancel handle =>
    exact ⟨queueGrows_update fun _ ↦ (world.handles.get handle).grows_cancel, List.prefix_refl _, List.prefix_refl _, hrefl, rfl⟩
  | discard handle =>
    exact ((sameQueue_discard oracle.joins).rely (queueGrows_discard oracle.joins)).grows
  | openPlayback sampleRate =>
    simp only [perform]
    split
    · rename_i hplayer
      refine grows_batch (List.prefix_refl _) (List.prefix_refl _) fun player hother ↦ ?_
      rw [hplayer] at hother
      cases hother
    · exact .refl world
  | openWave output =>
    simp only [perform]
    split
    · rw [World.openWave]
      split
      · exact .refl world
      · exact grows_batch (List.prefix_refl _) (List.prefix_append _ _) hrefl
    · exact .refl world
  | write pending =>
    simp only [perform]
    split
    · exact grows_mapPlayer fun player ↦ ⟨rfl, List.prefix_append _ _⟩
    · exact .refl world
  | terminate =>
    simp only [perform]
    split_ifs
    · split
      · exact grows_mapPlayer fun player ↦ ⟨rfl, List.prefix_refl _⟩
      · exact .refl world
    · exact .refl world
  | cleanup outputs => exact ⟨queueGrows_items fun _ hitem ↦ hitem, List.prefix_refl _, List.prefix_refl _, hrefl, rfl⟩
  | popHead request =>
    simp only [perform, World.popHead]
    split
    · exact .refl world
    · rename_i first next items hitems
      split_ifs
      · refine ⟨queueGrows_items fun item hitem ↦ ?_, List.prefix_refl _, List.prefix_refl _, hrefl, rfl⟩
        rw [hitems]
        exact List.mem_cons_of_mem _ hitem
      · exact .refl world
  | closeStdin => exact grows_mapPlayer fun player ↦ ⟨rfl, List.prefix_refl _⟩
  | onPlayed report => exact grows_batch (List.prefix_refl _) (List.prefix_refl _) hrefl
  | finish => exact ⟨queueGrows_items fun _ hitem ↦ hitem, List.prefix_refl _, List.prefix_refl _, hrefl, rfl⟩

/-- The queue grows, whatever the drain asks. -/
theorem queueGrows_perform (asked : Request) (oracle : Oracle) : QueueGrows world (perform oracle asked world).2 := by
  by_cases hbegin : asked = .begin
  · subst hbegin
    exact queueGrows_items fun _ hitem ↦ hitem
  · exact (grows_perform hbegin oracle).toQueueGrows

end VoiceHarness.Playback
