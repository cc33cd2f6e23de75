import VoiceHarness.Playback.Others

/-!
# What keeps the queue sound

Every step of the others keeps the queue sound and does no more than a drain relies on (`others_spec`). Most requests of
a drain are such steps too. `Grows` also allows for those by which it plays, and what has been played as a whole stays
so (`Complete.grows`).
-/

set_option autoImplicit false
set_option relaxedAutoImplicit false

namespace VoiceHarness.Playback

open Library

/-! ### What a drain leaves -/

structure Player.Grows (before after : Player) : Prop where
  rate : after.rate = before.rate
  written : before.written <+: after.written

/-- What the others and the drain do while it plays. -/
structure Grows (before after : World) : Prop extends QueueGrows before after where
  taken : before.batch.taken <+: after.batch.taken
  opened : before.batch.opened <+: after.batch.opened
  player : ∀ player, before.batch.player = some player → ∃ next, after.batch.player = some next ∧ player.Grows next
  drains : after.drains = before.drains

theorem Grows.refl (world : World) : Grows world world where
  toQueueGrows := .refl world
  taken := List.prefix_refl _
  opened := List.prefix_refl _
  player player hplayer := ⟨player, hplayer, rfl, List.prefix_refl _⟩
  drains := rfl

theorem Grows.trans {first second third : World} (h : Grows first second) (hnext : Grows second third) :
    Grows first third where
  toQueueGrows := h.toQueueGrows.trans hnext.toQueueGrows
  taken := h.taken.trans hnext.taken
  opened := h.opened.trans hnext.opened
  player player hplayer := by
    obtain ⟨middle, hmiddle, hgrows⟩ := h.player player hplayer
    obtain ⟨last, hlast, hmore⟩ := hnext.player middle hmiddle
    exact ⟨last, hlast, hmore.rate.trans hgrows.rate, hgrows.written.trans hmore.written⟩
  drains := hnext.drains.trans h.drains

section Growth

variable {world later : World}

theorem Rely.grows (h : Rely world later) : Grows world later where
  toQueueGrows := h.toQueueGrows
  taken := by rw [h.taken]
  opened := by rw [h.opened]
  player player hplayer := by
    obtain ⟨next, hnext, hrely⟩ := h.player player hplayer
    refine ⟨next, hnext, hrely.rate, ?_⟩
    rw [hrely.written]
  drains := h.drains

theorem Streamed.grows {outputs : List String} (h : Streamed world.batch outputs) (hgrows : Grows world later) :
    Streamed later.batch outputs := by
  obtain ⟨before, waves, hopened, houtputs, hwritten⟩ := h
  refine ⟨before, waves, hopened.trans hgrows.opened, houtputs, fun hnonempty ↦ ?_⟩
  obtain ⟨player, hplayer, haudio, hformat⟩ := hwritten hnonempty
  obtain ⟨next, hnext, hmore⟩ := hgrows.player player hplayer
  refine ⟨next, hnext, haudio.trans hmore.written, ?_⟩
  rw [hmore.rate]
  exact hformat

/-- What has been played as a whole stays so. -/
theorem Complete.grows {report : Report} (h : Complete world report) (hgrows : Grows world later) :
    Complete later report := by
  obtain ⟨id, doneMeta, htaken, hid, hresult, hmeta, htext, hstreamed⟩ := h
  obtain ⟨hafter, hchunks⟩ := (hgrows.handles id hid).result _ hresult
  refine ⟨id, doneMeta, hgrows.taken.subset htaken, hid.trans_le hgrows.created, hafter, hmeta, ?_, ?_⟩
  · rw [hchunks]
    exact htext
  · rw [PrefetchHandle.outputs, hchunks]
    exact hstreamed.grows hgrows

theorem Ended.rely (h : Ended world.batch) (hrely : Rely world later) : Ended later.batch := by
  intro next hnext
  cases hplayer : world.batch.player with
  | none =>
    rw [hrely.noPlayer hplayer] at hnext
    cases hnext
  | some player =>
    obtain ⟨other, hother, hmore⟩ := hrely.player player hplayer
    obtain rfl := Option.some.inj (hother.symm.trans hnext)
    obtain ⟨returncode, hreturncode⟩ := Option.isSome_iff_exists.mp (h player hplayer)
    rw [hmore.returncode returncode hreturncode]
    rfl

theorem Closed.rely (h : Closed world.batch) (hrely : Rely world later) : Closed later.batch := by
  refine h.imp hrely.interrupts fun hclosed next hnext ↦ ?_
  cases hplayer : world.batch.player with
  | none =>
    rw [hrely.noPlayer hplayer] at hnext
    cases hnext
  | some player =>
    obtain ⟨other, hother, hmore⟩ := hrely.player player hplayer
    obtain rfl := Option.some.inj (hother.symm.trans hnext)
    obtain ⟨hstdin, hreturncode⟩ := hclosed player hplayer
    exact ⟨hmore.stdinOpen hstdin, hmore.returncode 0 hreturncode⟩

theorem SoundReports.rely (h : SoundReports world) (hrely : Rely world later) : SoundReports later where
  ended hreports := by
    rw [hrely.reports] at hreports
    exact (h.ended hreports).rely hrely
  complete report hreport hinterrupted := by
    rw [hrely.reports] at hreport
    obtain ⟨hcomplete, hclosed⟩ := h.complete report hreport hinterrupted
    exact ⟨hcomplete.grows hrely.grows, hclosed.rely hrely⟩

end Growth

/-! ### The order of the requests -/

section Order

variable {world later : World}

/-- The queue has the same requests, and no more of them are prefetched than before or than the limit. -/
theorem SoundQueue.same (h : SoundQueue world) (hitems : later.items.map Prod.fst = world.items.map Prod.fst)
    (hissued : later.issued = world.issued) (hbatch : later.batch = world.batch)
    (hwindow : active later.items.tail ≤ prefetchLimit) : SoundQueue later := by
  have hmem : ∀ item ∈ later.items, ∃ old ∈ world.items, old.1 = item.1 := by
    intro item hitem
    have hfst : item.1 ∈ world.items.map Prod.fst := by
      rw [← hitems]
      exact List.mem_map_of_mem hitem
    exact List.mem_map.mp hfst
  have htickets : later.items.map (fun item ↦ item.1.ticket) = world.items.map fun item ↦ item.1.ticket := by
    have hmap := congrArg (List.map PlaybackRequest.ticket) hitems
    rw [List.map_map, List.map_map] at hmap
    exact hmap
  refine ⟨hwindow, ?_, ?_, ?_, ?_, ?_, ?_⟩
  · rw [htickets]
    exact h.sorted
  · intro item hitem
    obtain ⟨old, hold, hsame⟩ := hmem item hitem
    rw [← hsame, hissued]
    exact h.issued old hold
  · rw [hbatch]
    exact h.takenSorted
  · rw [hbatch, hissued]
    exact h.takenIssued
  · rw [hbatch]
    intro first hfirst item hitem
    obtain ⟨old, hold, hsame⟩ := hmem item hitem
    rw [← hsame]
    exact h.overtaken first hfirst old hold
  · rw [hbatch]
    exact h.removed

/-- The queue has some of the requests that it had. -/
theorem SoundQueue.sublist (h : SoundQueue world) {items : List Item} (hitems : items.Sublist world.items)
    (hwindow : active items.tail ≤ prefetchLimit) : SoundQueue { world with items } where
  window := hwindow
  sorted := h.sorted.sublist (hitems.map _)
  issued item hitem := h.issued item (hitems.subset hitem)
  takenSorted := h.takenSorted
  takenIssued := h.takenIssued
  overtaken first hfirst item hitem := h.overtaken first hfirst item (hitems.subset hitem)
  removed := h.removed

end Order

/-! ### The steps of the queue -/

section Steps

variable {world : World}

/-- A step that keeps the queue sound and does no more than a drain relies on. -/
structure Kept (world later : World) : Prop where
  sound : Sound later
  rely : Rely world later

theorem Sound.refl (h : Sound world) : Kept world world := ⟨h, .refl world⟩

/-- A step that changes handles and files. -/
theorem Sound.sameQueue {later : World} (h : Sound world) (hsame : SameQueue world later) (hgrows : QueueGrows world later)
    (hhandles : SoundHandles later) : Kept world later where
  sound :=
    { toSoundHandles := hhandles
      toSoundQueue := by
        refine h.toSoundQueue.same ?_ hsame.issued hsame.batch ?_
        · rw [hsame.items]
        · rw [hsame.items]
          exact h.window
      toSoundReports := h.toSoundReports.rely (hsame.rely hgrows) }
  rely := hsame.rely hgrows

theorem Sound.discard (h : Sound world) (id : ℕ) (joins : Bool) : Kept world (world.discard id joins).2 :=
  h.sameQueue (sameQueue_discard joins) (queueGrows_discard joins) (h.toSoundHandles.discard joins)

theorem Sound.cleanup (h : Sound world) (outputs : List String) : Kept world (world.cleanup outputs) := by
  refine h.sameQueue ⟨rfl, rfl, rfl, rfl⟩ ?_ (h.toSoundHandles.cleanup outputs)
  exact ⟨le_rfl, le_rfl, fun _ _ ↦ .refl _, fun _ handle hmem ↦ .inl ⟨handle, hmem, fun _ hid ↦ hid⟩⟩

/-- New handles, within the window. -/
theorem Sound.filled {items : List Item} {handles : Handles} (h : Sound world)
    (hfilled : Filled world.items world.handles items handles) (hwindow : active items.tail ≤ prefetchLimit) :
    Kept world { world with items, handles } := by
  have hrely : Rely world { world with items, handles } :=
    { toQueueGrows := hfilled.queueGrows
      drains := rfl
      taken := rfl
      opened := rfl
      reports := rfl
      interrupts := id
      player := fun player hplayer ↦ ⟨player, hplayer, .refl player⟩
      noPlayer := id }
  refine ⟨⟨h.toSoundHandles.filled hfilled, ?_, h.toSoundReports.rely hrely⟩, hrely⟩
  exact h.toSoundQueue.same hfilled.map_fst rfl rfl hwindow

theorem SoundHandles.withBatch (h : SoundHandles world) (batch : Batch) : SoundHandles { world with batch } :=
  ⟨h.created, h.atWork, h.files, h.stopped, h.released⟩

/-- The queue has some of its items, and its handles as they were. -/
theorem queueGrows_items {later : World} (hitems : ∀ item ∈ later.items, item ∈ world.items)
    (hissued : later.issued = world.issued := by rfl) (hhandles : later.handles = world.handles := by rfl) :
    QueueGrows world later where
  issued := hissued.ge
  created := by rw [hhandles]
  handles id _ := by
    rw [hhandles]
    exact .refl _
  items _ handle hmem := .inl ⟨handle, hitems _ hmem, fun _ hid ↦ hid⟩

theorem active_tail_le (items : List Item) : active items.tail ≤ active items :=
  (List.tail_sublist items).countP_le

theorem Sound.startPrefetch (h : Sound world) {limit : ℕ} (hlimit : limit ≤ prefetchLimit) :
    Kept world (world.startPrefetch limit) := by
  refine h.filled (filled_prefetchItems limit (active world.items) world.handles world.items) ?_
  by_cases hrunning : limit ≤ active world.items
  · -- there are handles enough, so no item gets one
    have hsame : (prefetchItems limit (active world.items) world.handles world.items).1 = world.items := by
      cases hitems : world.items with
      | nil => rfl
      | cons item items =>
        obtain ⟨request, handle⟩ := item
        rw [hitems] at hrunning
        cases handle with
        | none => rw [prefetchItems, if_pos hrunning]
        | some id => rw [prefetchItems, if_pos hrunning]
    rw [hsame]
    exact h.window
  · have hactive := active_prefetchItems limit (active world.items) world.handles world.items
    refine (active_tail_le _).trans ?_
    omega

/-- Requests leave the queue whose workers have been discarded. -/
theorem Sound.dropItems (h : Sound world) {items : List Item} (hitems : items.Sublist world.items)
    (hwindow : active items.tail ≤ prefetchLimit) {removed : List PlaybackRequest}
    (hremoved : ∀ request ∈ removed, request ∈ world.batch.taken.map Prod.fst)
    (hgone : ∀ request id, (request, some id) ∈ world.items → (request, some id) ∉ items →
      (world.handles.get id).discarded = true) :
    Kept world { world with items, batch := { world.batch with removed } } := by
  have hrely : Rely world { world with items, batch := { world.batch with removed } } :=
    { issued := le_rfl
      created := le_rfl
      handles := fun _ _ ↦ .refl _
      items := fun _ handle hmem ↦ .inl ⟨handle, hitems.subset hmem, fun _ hid ↦ hid⟩
      drains := rfl
      taken := rfl
      opened := rfl
      reports := rfl
      interrupts := id
      player := fun player hplayer ↦ ⟨player, hplayer, .refl player⟩
      noPlayer := id }
  have hqueue := h.toSoundQueue.sublist hitems hwindow
  -- a handle that is not queued any more has been discarded, so its worker has ended and has left no file
  have hqueued : ∀ id, Queued world id → (world.handles.get id).discarded = true ∨ ∃ request, (request, some id) ∈ items := by
    rintro id ⟨request, hmem⟩
    by_cases hkept : (request, some id) ∈ items
    · exact .inr ⟨request, hkept⟩
    · exact .inl (hgone request id hmem hkept)
  refine ⟨⟨⟨?_, ?_, ?_, h.stopped, h.released⟩, ?_, h.toSoundReports.rely hrely⟩, hrely⟩
  · rintro id ⟨request, hmem⟩
    exact h.created id ⟨request, hitems.subset hmem⟩
  · intro id hid hresult
    refine (hqueued id (h.atWork id hid hresult)).resolve_left fun hdiscarded ↦ ?_
    have hsome := h.stopped id hid hdiscarded
    change (world.handles.get id).result = none at hresult
    rw [hresult] at hsome
    cases hsome
  · intro path id wave hfile
    obtain ⟨hmem, houtput⟩ := h.files path id wave hfile
    refine ⟨(hqueued id hmem).resolve_left fun hdiscarded ↦ ?_, houtput⟩
    exact h.released id (.inl hdiscarded) path wave hfile
  · exact ⟨hqueue.window, hqueue.sorted, hqueue.issued, hqueue.takenSorted, hqueue.takenIssued, hqueue.overtaken, hremoved⟩

theorem Sound.clear (h : Sound world) (joins : ℕ → Bool) : Kept world (world.clear joins).2 := by
  obtain ⟨hhandles, hsame, hgrows, hdiscarded⟩ := discardItems_spec joins world.items h.toSoundHandles
    fun request id hmem ↦ h.created id ⟨request, hmem⟩
  have hkept := h.sameQueue hsame hgrows hhandles
  rw [World.clear]
  rcases hresult : World.discardItems joins world.items world with ⟨outcome, next⟩
  rw [hresult] at hkept hsame hdiscarded
  cases outcome with
  | error message => exact hkept
  | ok _ =>
    have hempty := hkept.sound.dropItems (List.nil_sublist _) (Nat.zero_le _) hkept.sound.removed
      fun request id hmem _ ↦ hdiscarded rfl request id (by rwa [hsame.items] at hmem)
    exact ⟨hempty.sound, hkept.rely.trans hempty.rely⟩

theorem Sound.popHead (h : Sound world) {request : PlaybackRequest} {handle : ℕ}
    (htaken : request ∈ world.batch.taken.map Prod.fst)
    (howned : ∀ other next, (other, next) ∈ world.items → other.ticket = request.ticket → next = some handle)
    (hdiscarded : (world.handles.get handle).discarded = true) : Kept world (world.popHead request) := by
  rw [World.popHead]
  rcases hitems : world.items with _ | ⟨⟨first, next⟩, items⟩
  · exact h.refl
  dsimp only
  split_ifs with hticket
  · have hsublist : items.Sublist world.items := by
      rw [hitems]
      exact List.sublist_cons_self _ _
    have hwindow := h.window
    rw [hitems, List.tail_cons] at hwindow
    refine h.dropItems hsublist ((active_tail_le items).trans hwindow) ?_ ?_
    · intro other hother
      rcases List.mem_append.mp hother with hother | hother
      · exact h.removed other hother
      · rw [List.mem_singleton.mp hother]
        exact htaken
    · intro other id hmem hnot
      rw [hitems] at hmem
      obtain heq := (List.mem_cons.mp hmem).resolve_right hnot
      obtain ⟨rfl, hnext⟩ := Prod.mk.inj heq
      have hhandle := howned other next (by rw [hitems]; exact List.mem_cons_self) hticket
      obtain rfl : id = handle := Option.some.inj (hnext.trans hhandle)
      exact hdiscarded
  · exact h.refl

/-! ### The workers and the player -/

theorem Sound.noteChunk (h : Sound world) (id : ℕ) (chunk : Chunk) (sampleRate : ℕ) (wave : Wave) :
    Kept world (world.noteChunk id chunk sampleRate wave) := by
  rw [World.noteChunk]
  split_ifs with hwork
  · obtain ⟨hid, hresult⟩ := hwork
    rw [Option.isNone_iff_eq_none] at hresult
    have hgrows := (world.handles.get id).grows_note hresult chunk sampleRate
    refine h.sameQueue ⟨rfl, rfl, rfl, rfl⟩ (queueGrows_update fun _ ↦ hgrows) ?_
    -- without the new file, this is a change of one handle
    have hold : SoundHandles { world with handles := world.handles.update id (PrefetchHandle.note · chunk sampleRate) } := by
      refine h.toSoundHandles.update (fun _ ↦ hgrows) (fun hnone ↦ hnone) ?_ (fun path owner hfile ↦ hfile) ?_
      · exact fun hdiscarded ↦ .inl hdiscarded
      · exact fun hreleased ↦ .inl hreleased
    refine ⟨hold.created, hold.atWork, ?_, hold.stopped, ?_⟩
    · intro path other found hfile
      change Function.update world.files chunk.output (some (id, wave)) path = some (other, found) at hfile
      by_cases hpath : path = chunk.output
      · subst hpath
        rw [Function.update_self] at hfile
        cases hfile
        refine ⟨h.atWork id hid hresult, ?_⟩
        change chunk.output ∈ ((world.handles.update id (PrefetchHandle.note · chunk sampleRate)).get id).outputs
        rw [Handles.get_update_self]
        exact List.mem_map_of_mem (List.mem_append_right _ (List.mem_singleton_self chunk))
      · rw [Function.update_of_ne hpath] at hfile
        exact hold.files path other found hfile
    · intro other hreleased path found hfile
      change Function.update world.files chunk.output (some (id, wave)) path = some (other, found) at hfile
      by_cases hpath : path = chunk.output
      · subst hpath
        rw [Function.update_self] at hfile
        cases hfile
        change ((world.handles.update id (PrefetchHandle.note · chunk sampleRate)).get id).Released at hreleased
        rw [Handles.get_update_self] at hreleased
        rcases hreleased with hdiscarded | ⟨error, herror⟩
        · have hsome := h.stopped id hid hdiscarded
          rw [hresult] at hsome
          cases hsome
        · change (world.handles.get id).result = some (.error error) at herror
          rw [hresult] at herror
          cases herror
      · rw [Function.update_of_ne hpath] at hfile
        exact hold.released other hreleased path found hfile
  · exact h.refl

theorem Sound.endWorker (h : Sound world) (id : ℕ) (result : Except String Dict) :
    Kept world (world.endWorker id result) := by
  rw [World.endWorker]
  split_ifs with hwork
  · obtain ⟨hid, hresult⟩ := hwork
    rw [Option.isNone_iff_eq_none] at hresult
    have hgrows := (world.handles.get id).grows_ended hresult result
    have hstopped : ∀ files : String → Option (ℕ × Wave),
        (∀ path owner, files path = some owner → world.files path = some owner) →
        (∀ error, result = .error error → ∀ path wave, files path ≠ some (id, wave)) →
        Kept world { world with handles := world.handles.update id ({ · with result := some result }), files } := by
      intro files hfiles hgone
      refine h.sameQueue ⟨rfl, rfl, rfl, rfl⟩ (queueGrows_update fun _ ↦ hgrows) ?_
      refine h.toSoundHandles.update (fun _ ↦ hgrows) ?_ (fun _ ↦ .inr rfl) hfiles ?_
      · intro hnone
        cases hnone
      · rintro (hdiscarded | ⟨error, herror⟩)
        · exact .inl (.inl hdiscarded)
        · exact .inr (hgone error (Option.some.inj herror))
    cases result with
    | ok doneMeta =>
      refine hstopped world.files (fun path owner hfile ↦ hfile) fun error herror ↦ ?_
      cases herror
    | error message =>
      refine hstopped _ (fun path owner hfile ↦ (files_cleanup hfile).1) fun _ _ ↦ ?_
      exact h.toSoundHandles.cleaned
  · exact h.refl

/-- The player changes as a drain relies on. -/
theorem Sound.mapPlayer (h : Sound world) {f : Player → Player}
    (hf : ∀ player, world.batch.player = some player → player.Rely (f player)) : Kept world (world.mapPlayer f) := by
  have hrely : Rely world (world.mapPlayer f) :=
    { toQueueGrows := ⟨le_rfl, le_rfl, fun _ _ ↦ .refl _, fun _ handle hmem ↦ .inl ⟨handle, hmem, fun _ hid ↦ hid⟩⟩
      drains := rfl
      taken := rfl
      opened := rfl
      reports := rfl
      interrupts := id
      player := by
        intro player hplayer
        refine ⟨f player, ?_, hf player hplayer⟩
        rw [World.mapPlayer, hplayer]
        rfl
      noPlayer := by
        intro hplayer
        rw [World.mapPlayer, hplayer]
        rfl }
  refine ⟨⟨h.toSoundHandles.withBatch _, ?_, h.toSoundReports.rely hrely⟩, hrely⟩
  exact ⟨h.window, h.sorted, h.issued, h.takenSorted, h.takenIssued, h.overtaken, h.removed⟩

theorem Sound.endPlayer (h : Sound world) (returncode : ℤ) : Kept world (world.endPlayer returncode) := by
  refine h.mapPlayer ?_
  intro player _
  refine ⟨rfl, rfl, fun hstdin ↦ hstdin, fun code hcode ↦ ?_⟩
  rw [hcode, Option.getD_some]

theorem Sound.closeStdin (h : Sound world) : Kept world (world.mapPlayer fun player ↦ { player with stdinOpen := false }) :=
  h.mapPlayer fun _ _ ↦ ⟨rfl, rfl, fun _ ↦ rfl, fun _ hcode ↦ hcode⟩

theorem Sound.interrupted (h : Sound world) : Kept world { world with batch := { world.batch with interrupts := true } } := by
  have hrely : Rely world { world with batch := { world.batch with interrupts := true } } :=
    { toQueueGrows := ⟨le_rfl, le_rfl, fun _ _ ↦ .refl _, fun _ handle hmem ↦ .inl ⟨handle, hmem, fun _ hid ↦ hid⟩⟩
      drains := rfl
      taken := rfl
      opened := rfl
      reports := rfl
      interrupts := fun _ ↦ rfl
      player := fun player hplayer ↦ ⟨player, hplayer, .refl player⟩
      noPlayer := id }
  refine ⟨⟨h.toSoundHandles.withBatch _, ?_, h.toSoundReports.rely hrely⟩, hrely⟩
  exact ⟨h.window, h.sorted, h.issued, h.takenSorted, h.takenIssued, h.overtaken, h.removed⟩

/-! ### Enqueuing -/

theorem filled_last (items : List Item) (handles : Handles) (request : PlaybackRequest) :
    Filled (items ++ [(request, none)]) handles (items ++ [(request, some handles.created)]) (handles.create request) := by
  induction items with
  | nil => exact (Filled.refl [] _).create
  | cons item items ih => exact ih.cons item

theorem active_tail_append (items : List Item) (item : Item) :
    active (items ++ [item]).tail ≤ active items.tail + active [item] := by
  cases items with
  | nil => exact Nat.zero_le _
  | cons first items =>
    rw [List.cons_append, List.tail_cons, List.tail_cons, active, List.countP_append]
    exact le_rfl

/-- A new request at the end of the queue. -/
theorem Sound.append (h : Sound world) (request : PlaybackRequest) (hticket : request.ticket = world.issued) :
    Kept world { world with items := world.items ++ [(request, none)], issued := world.issued + 1 } := by
  have hqueued : ∀ id, Queued { world with items := world.items ++ [(request, none)], issued := world.issued + 1 } id ↔
      Queued world id := by
    refine fun id ↦ ⟨?_, ?_⟩
    · rintro ⟨other, hmem⟩
      rcases List.mem_append.mp hmem with hmem | hmem
      · exact ⟨other, hmem⟩
      · cases List.mem_singleton.mp hmem
    · rintro ⟨other, hmem⟩
      exact ⟨other, List.mem_append_left _ hmem⟩
  have hrely : Rely world { world with items := world.items ++ [(request, none)], issued := world.issued + 1 } :=
    { issued := Nat.le_succ _
      created := le_rfl
      handles := fun _ _ ↦ .refl _
      items := by
        intro other handle hmem
        rcases List.mem_append.mp hmem with hmem | hmem
        · exact .inl ⟨handle, hmem, fun _ hid ↦ hid⟩
        · obtain ⟨rfl, -⟩ := Prod.mk.inj (List.mem_singleton.mp hmem)
          exact .inr hticket.ge
      drains := rfl
      taken := rfl
      opened := rfl
      reports := rfl
      interrupts := id
      player := fun player hplayer ↦ ⟨player, hplayer, .refl player⟩
      noPlayer := id }
  refine ⟨⟨⟨?_, ?_, ?_, h.stopped, h.released⟩, ⟨?_, ?_, ?_, h.takenSorted, ?_, ?_, h.removed⟩,
    h.toSoundReports.rely hrely⟩, hrely⟩
  · intro id hid
    exact h.created id ((hqueued id).mp hid)
  · intro id hid hresult
    exact (hqueued id).mpr (h.atWork id hid hresult)
  · intro path id wave hfile
    obtain ⟨hmem, houtput⟩ := h.files path id wave hfile
    exact ⟨(hqueued id).mpr hmem, houtput⟩
  · exact (active_tail_append world.items (request, none)).trans h.window
  · rw [List.map_append]
    refine List.pairwise_append.mpr ⟨h.sorted, List.pairwise_singleton _ _, ?_⟩
    intro first hfirst last hlast
    obtain ⟨item, hitem, rfl⟩ := List.mem_map.mp hfirst
    rw [List.mem_singleton.mp hlast]
    change item.1.ticket < request.ticket
    rw [hticket]
    exact h.issued item hitem
  · intro item hitem
    rcases List.mem_append.mp hitem with hitem | hitem
    · exact (h.issued item hitem).trans (Nat.lt_succ_self _)
    · rw [List.mem_singleton.mp hitem]
      change request.ticket < world.issued + 1
      rw [hticket]
      exact Nat.lt_succ_self _
  · exact fun item hitem ↦ (h.takenIssued item hitem).trans (Nat.lt_succ_self _)
  · intro first hfirst item hitem
    rcases List.mem_append.mp hitem with hitem | hitem
    · exact h.overtaken first hfirst item hitem
    · rw [List.mem_singleton.mp hitem]
      change first.1.ticket ≤ request.ticket
      rw [hticket]
      exact (h.takenIssued first hfirst).le

theorem Sound.enqueue (h : Sound world) (request : PlaybackRequest) : Kept world (world.enqueue request) := by
  have happend := h.append { request with ticket := world.issued } rfl
  rw [World.enqueue]
  split_ifs with hprefetch
  · have hfilled := happend.sound.filled (filled_last world.items world.handles { request with ticket := world.issued }) ?_
    · exact ⟨hfilled.sound, happend.rely.trans hfilled.rely⟩
    · refine (active_tail_append _ _).trans ?_
      have htail := active_tail_le world.items
      have hlimit := hprefetch.2
      have hone : active [(({ request with ticket := world.issued } : PlaybackRequest), some world.handles.created)] = 1 := rfl
      omega
  · exact happend

/-- Every step of the others keeps the queue sound, and is one that a drain relies on. -/
theorem others_spec (h : Sound world) (action : Action) : Kept world (others world action) := by
  cases action with
  | enqueue request => exact h.enqueue request
  | startPrefetch => exact h.startPrefetch (by decide)
  | clear joins => exact h.clear joins
  | noteChunk handle chunk sampleRate wave => exact h.noteChunk handle chunk sampleRate wave
  | endWorker handle result => exact h.endWorker handle result
  | endPlayer returncode => exact h.endPlayer returncode

end Steps

end VoiceHarness.Playback
