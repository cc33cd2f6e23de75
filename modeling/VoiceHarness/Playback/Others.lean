import VoiceHarness.Playback.Drain
import Mathlib.Data.List.Pairwise
import Mathlib.Data.List.Forall2

/-!
# The queue among its threads

While a drain plays, other threads enqueue, prefetch and clear, the workers of the handles note their chunks and end,
and the player may end by itself. Each of these is one step (`others`). `Sound` is what always holds of the queue, and
`Rely` is what a drain may rely on between two of its requests.
-/

set_option autoImplicit false
set_option relaxedAutoImplicit false

namespace VoiceHarness.Playback

open Library

/-- `DELIVERY_WINDOW` -/
def deliveryWindow : ℕ := 1

inductive Action where
  | enqueue (request : PlaybackRequest)
  | startPrefetch
  | clear (joins : ℕ → Bool)
  | noteChunk (handle : ℕ) (chunk : Chunk) (sampleRate : ℕ) (wave : Wave)
  | endWorker (handle : ℕ) (result : Except String Dict)
  | endPlayer (returncode : ℤ)

def others (world : World) : Action → World
  | .enqueue request => world.enqueue request
  | .startPrefetch => world.startPrefetch deliveryWindow
  | .clear joins => (world.clear joins).2
  | .noteChunk handle chunk sampleRate wave => world.noteChunk handle chunk sampleRate wave
  | .endWorker handle result => world.endWorker handle result
  | .endPlayer returncode => world.endPlayer returncode

/-! ### What others leave -/

/-- A handle only gets more chunks until its worker has ended. -/
structure PrefetchHandle.Grows (before after : PrefetchHandle) : Prop where
  chunks : before.chunks <+: after.chunks
  result : ∀ result, before.result = some result → after.result = some result ∧ after.chunks = before.chunks
  discarded : before.discarded = true → after.discarded = true

/-- The queue only gets new requests at its end, and a request keeps its handle. -/
structure QueueGrows (before after : World) : Prop where
  issued : before.issued ≤ after.issued
  created : before.handles.created ≤ after.handles.created
  handles : ∀ id < before.handles.created, (before.handles.get id).Grows (after.handles.get id)
  items : ∀ request handle, (request, handle) ∈ after.items →
    (∃ old, (request, old) ∈ before.items ∧ ∀ id, old = some id → handle = some id) ∨ before.issued ≤ request.ticket

/-- The player may end. -/
structure Player.Rely (before after : Player) : Prop where
  rate : after.rate = before.rate
  written : after.written = before.written
  stdinOpen : before.stdinOpen = false → after.stdinOpen = false
  returncode : ∀ returncode, before.returncode = some returncode → after.returncode = some returncode

/-- What a drain may rely on; most of its own requests change no more than this. -/
structure Rely (before after : World) : Prop extends QueueGrows before after where
  drains : after.drains = before.drains
  taken : after.batch.taken = before.batch.taken
  opened : after.batch.opened = before.batch.opened
  reports : after.batch.reports = before.batch.reports
  interrupts : before.batch.interrupts = true → after.batch.interrupts = true
  player : ∀ player, before.batch.player = some player → ∃ next, after.batch.player = some next ∧ player.Rely next
  noPlayer : before.batch.player = none → after.batch.player = none

namespace PrefetchHandle

variable {first second third handle : PrefetchHandle}

theorem Grows.refl (handle : PrefetchHandle) : handle.Grows handle :=
  ⟨List.prefix_refl _, fun _ h ↦ ⟨h, rfl⟩, id⟩

theorem Grows.trans (h : first.Grows second) (hnext : second.Grows third) : first.Grows third where
  chunks := h.chunks.trans hnext.chunks
  result result hresult := by
    obtain ⟨hsecond, hchunks⟩ := h.result result hresult
    obtain ⟨hthird, hmore⟩ := hnext.result result hsecond
    exact ⟨hthird, hmore.trans hchunks⟩
  discarded hdiscarded := hnext.discarded (h.discarded hdiscarded)

theorem grows_cancel (handle : PrefetchHandle) : handle.Grows handle.cancel :=
  ⟨List.prefix_refl _, fun _ h ↦ ⟨h, rfl⟩, id⟩

theorem grows_stopped (handle : PrefetchHandle) : handle.Grows handle.stopped where
  chunks := List.prefix_refl _
  result result hresult := by
    refine ⟨?_, rfl⟩
    rw [stopped, hresult, Option.getD_some]
  discarded _ := rfl

theorem grows_note (h : handle.result = none) (chunk : Chunk) (sampleRate : ℕ) :
    handle.Grows (handle.note chunk sampleRate) where
  chunks := List.prefix_append _ _
  result result hresult := by
    rw [h] at hresult
    cases hresult
  discarded := id

theorem grows_ended (h : handle.result = none) (result : Except String Dict) :
    handle.Grows { handle with result := some result } where
  chunks := List.prefix_refl _
  result other hother := by
    rw [h] at hother
    cases hother
  discarded := id

end PrefetchHandle

theorem QueueGrows.refl (world : World) : QueueGrows world world where
  issued := le_rfl
  created := le_rfl
  handles _ _ := .refl _
  items _ handle hmem := .inl ⟨handle, hmem, fun _ h ↦ h⟩

theorem QueueGrows.trans {first second third : World} (h : QueueGrows first second) (hnext : QueueGrows second third) :
    QueueGrows first third where
  issued := h.issued.trans hnext.issued
  created := h.created.trans hnext.created
  handles id hid := (h.handles id hid).trans (hnext.handles id (hid.trans_le h.created))
  items request handle hmem := by
    rcases hnext.items request handle hmem with ⟨middle, hmiddle, hkept⟩ | hnew
    · rcases h.items request middle hmiddle with ⟨old, hold, hkeptOld⟩ | hnew
      · exact .inl ⟨old, hold, fun id hid ↦ hkept id (hkeptOld id hid)⟩
      · exact .inr hnew
    · exact .inr (h.issued.trans hnew)

theorem Player.Rely.refl (player : Player) : player.Rely player :=
  ⟨rfl, rfl, id, fun _ h ↦ h⟩

theorem Player.Rely.trans {first second third : Player} (h : first.Rely second) (hnext : second.Rely third) :
    first.Rely third where
  rate := hnext.rate.trans h.rate
  written := hnext.written.trans h.written
  stdinOpen hopen := hnext.stdinOpen (h.stdinOpen hopen)
  returncode code hcode := hnext.returncode code (h.returncode code hcode)

theorem Rely.refl (world : World) : Rely world world where
  toQueueGrows := .refl world
  drains := rfl
  taken := rfl
  opened := rfl
  reports := rfl
  interrupts := id
  player player hplayer := ⟨player, hplayer, .refl player⟩
  noPlayer := id

theorem Rely.trans {first second third : World} (h : Rely first second) (hnext : Rely second third) :
    Rely first third where
  toQueueGrows := h.toQueueGrows.trans hnext.toQueueGrows
  drains := hnext.drains.trans h.drains
  taken := hnext.taken.trans h.taken
  opened := hnext.opened.trans h.opened
  reports := hnext.reports.trans h.reports
  interrupts hinterrupts := hnext.interrupts (h.interrupts hinterrupts)
  player player hplayer := by
    obtain ⟨middle, hmiddle, hrely⟩ := h.player player hplayer
    obtain ⟨last, hlast, hmore⟩ := hnext.player middle hmiddle
    exact ⟨last, hlast, hrely.trans hmore⟩
  noPlayer hplayer := hnext.noPlayer (h.noPlayer hplayer)

/-! ### What always holds -/

/-- The handle is the handle of a queued request. -/
def Queued (world : World) (id : ℕ) : Prop := ∃ request, (request, some id) ∈ world.items

/-- The worker has been discarded, or has failed and has cleaned up its chunks itself. -/
def PrefetchHandle.Released (handle : PrefetchHandle) : Prop :=
  handle.discarded = true ∨ ∃ error, handle.result = some (.error error)

/-- The audio of chunk files. -/
def audioOf (waves : List (String × Wave)) : List UInt8 := waves.flatMap fun wave ↦ wave.2.audio

/-- The chunk files at the outputs have been opened one after the other, and the player has been given all of their
audio, behind that of the files opened before. -/
def Streamed (batch : Batch) (outputs : List String) : Prop :=
  ∃ before waves, before ++ waves <+: batch.opened ∧ waves.map Prod.fst = outputs ∧ (outputs ≠ [] → ∃ player,
    batch.player = some player ∧ audioOf (before ++ waves) <+: player.written ∧
      ∀ wave ∈ waves, wave.2.channels = 1 ∧ wave.2.sampleWidth = 2 ∧ wave.2.frameRate = player.rate)

/-- The whole of the request has been played: its worker has ended well, and each of its chunks has been written. -/
def Complete (world : World) (report : Report) : Prop :=
  ∃ id doneMeta, (report.request, id) ∈ world.batch.taken ∧ id < world.handles.created ∧
    (world.handles.get id).result = some (.ok doneMeta) ∧ report.doneMeta = doneMeta ∧
    report.playedText = Draining.joinTexts ((world.handles.get id).chunks.map Chunk.text) ∧
    Streamed world.batch (world.handles.get id).outputs

/-- No player is running. -/
def Ended (batch : Batch) : Prop := ∀ player, batch.player = some player → player.returncode.isSome = true

/-- There was no player, or it has read its input to the end and succeeded, or the batch has been interrupted. -/
def Closed (batch : Batch) : Prop :=
  batch.interrupts = true ∨
    ∀ player, batch.player = some player → player.stdinOpen = false ∧ player.returncode = some 0

/-- The handles and the files. -/
structure SoundHandles (world : World) : Prop where
  created : ∀ id, Queued world id → id < world.handles.created
  atWork : ∀ id < world.handles.created, (world.handles.get id).result = none → Queued world id
  files : ∀ path id wave, world.files path = some (id, wave) → Queued world id ∧ path ∈ (world.handles.get id).outputs
  stopped : ∀ id < world.handles.created, (world.handles.get id).discarded = true →
    (world.handles.get id).result.isSome = true
  released : ∀ id, (world.handles.get id).Released → ∀ path wave, world.files path ≠ some (id, wave)

/-- The order of the requests, and how many of them are prefetched. -/
structure SoundQueue (world : World) : Prop where
  window : active world.items.tail ≤ prefetchLimit
  sorted : (world.items.map fun item ↦ item.1.ticket).Pairwise (· < ·)
  issued : ∀ item ∈ world.items, item.1.ticket < world.issued
  takenSorted : (world.batch.taken.map fun item ↦ item.1.ticket).Pairwise (· < ·)
  takenIssued : ∀ item ∈ world.batch.taken, item.1.ticket < world.issued
  overtaken : ∀ first ∈ world.batch.taken, ∀ item ∈ world.items, first.1.ticket ≤ item.1.ticket
  removed : ∀ request ∈ world.batch.removed, request ∈ world.batch.taken.map Prod.fst

/-- The calls of `on_played`. -/
structure SoundReports (world : World) : Prop where
  ended : world.batch.reports ≠ [] → Ended world.batch
  complete : ∀ report ∈ world.batch.reports, report.interrupted = false →
    Complete world report ∧ Closed world.batch

/-- What always holds. -/
structure Sound (world : World) : Prop extends SoundHandles world, SoundQueue world, SoundReports world

/-! ### Prefetching -/

/-- An item that got a new handle, or is as it was. -/
def FilledItem (created later : ℕ) (before after : Item) : Prop :=
  after.1 = before.1 ∧ (after.2 = before.2 ∨ before.2 = none ∧ ∃ id, after.2 = some id ∧ created ≤ id ∧ id < later)

/-- Some items got new handles. -/
structure Filled (items : List Item) (handles : Handles) (items' : List Item) (handles' : Handles) : Prop where
  each : List.Forall₂ (FilledItem handles.created handles'.created) items items'
  created : handles.created ≤ handles'.created
  kept : ∀ id < handles.created, handles'.get id = handles.get id
  fresh : ∀ id, handles.created ≤ id → id < handles'.created →
    (handles'.get id).result = none ∧ (handles'.get id).discarded = false ∧ ∃ request, (request, some id) ∈ items'

theorem FilledItem.mono {created created' later later' : ℕ} {before after : Item} (h : FilledItem created later before after)
    (hcreated : created' ≤ created) (hlater : later ≤ later') : FilledItem created' later' before after := by
  refine ⟨h.1, h.2.imp_right ?_⟩
  rintro ⟨hnone, id, hid, hlow, hhigh⟩
  exact ⟨hnone, id, hid, hcreated.trans hlow, hhigh.trans_le hlater⟩

theorem Filled.refl (items : List Item) (handles : Handles) : Filled items handles items handles where
  each := List.forall₂_same.mpr fun _ _ ↦ ⟨rfl, .inl rfl⟩
  created := le_rfl
  kept _ _ := rfl
  fresh _ hlow hhigh := absurd hlow hhigh.not_ge

/-- An item that stays as it is, before items of which some are filled. -/
theorem Filled.cons {items items' : List Item} {handles handles' : Handles} (h : Filled items handles items' handles')
    (item : Item) : Filled (item :: items) handles (item :: items') handles' where
  each := .cons ⟨rfl, .inl rfl⟩ h.each
  created := h.created
  kept := h.kept
  fresh id hlow hhigh := by
    obtain ⟨hresult, hdiscarded, request, hmem⟩ := h.fresh id hlow hhigh
    exact ⟨hresult, hdiscarded, request, List.mem_cons_of_mem _ hmem⟩

/-- An item that gets the next handle, before items of which some are filled. -/
theorem Filled.create {items items' : List Item} {handles handles' : Handles} {request : PlaybackRequest}
    (h : Filled items (handles.create request) items' handles') :
    Filled ((request, none) :: items) handles ((request, some handles.created) :: items') handles' where
  each := by
    have hcreated : handles.created < handles'.created := h.created
    refine .cons ⟨rfl, .inr ⟨rfl, handles.created, rfl, le_rfl, hcreated⟩⟩ ?_
    exact h.each.imp fun _ _ hitem ↦ hitem.mono (Nat.le_succ _) le_rfl
  created := (Nat.le_succ _).trans h.created
  kept id hid := by
    rw [h.kept id (hid.trans (Nat.lt_succ_self _)), handles.get_create_of_lt request hid]
  fresh id hlow hhigh := by
    rcases hlow.eq_or_lt with rfl | hlow
    · rw [h.kept _ (Nat.lt_succ_self _), handles.get_create_self]
      exact ⟨rfl, rfl, request, List.mem_cons_self⟩
    · obtain ⟨hresult, hdiscarded, other, hmem⟩ := h.fresh id hlow hhigh
      exact ⟨hresult, hdiscarded, other, List.mem_cons_of_mem _ hmem⟩

theorem filled_prefetchItems (limit running : ℕ) (handles : Handles) (items : List Item) :
    Filled items handles (prefetchItems limit running handles items).1 (prefetchItems limit running handles items).2 := by
  fun_induction prefetchItems limit running handles items with
  | case1 running handles => exact .refl [] handles
  | case2 running handles request handle items hlimit => exact .refl _ handles
  | case3 running handles request items hlimit id ih => exact ih.cons _
  | case4 running handles request items hlimit ih => exact ih.create

/-- The items that start out with fewer handles than the limit end with no more than it. -/
theorem active_prefetchItems (limit running : ℕ) (handles : Handles) (items : List Item) :
    active (prefetchItems limit running handles items).1 ≤ active items + (limit - running) := by
  fun_induction prefetchItems limit running handles items with
  | case1 running handles => exact Nat.zero_le _
  | case2 running handles request handle items hlimit => exact Nat.le_add_right _ _
  | case3 running handles request items hlimit id ih =>
    simp only [active, List.countP_cons] at ih ⊢
    omega
  | case4 running handles request items hlimit ih =>
    simp only [active, List.countP_cons] at ih ⊢
    simp only [Option.isSome_some, Option.isSome_none, if_true] at ih ⊢
    simp only [Bool.false_eq_true, if_false]
    omega

/-- Each element on the right has its element on the left. -/
theorem exists_of_mem_right {α β : Type} {R : α → β → Prop} {left : List α} {right : List β}
    (h : List.Forall₂ R left right) {b : β} (hb : b ∈ right) : ∃ a ∈ left, R a b := by
  induction h with
  | nil => cases hb
  | cons hhead _ ih =>
    rcases List.mem_cons.mp hb with rfl | hb
    · exact ⟨_, List.mem_cons_self, hhead⟩
    · obtain ⟨a, ha, hab⟩ := ih hb
      exact ⟨a, List.mem_cons_of_mem _ ha, hab⟩

section Filled

variable {world : World} {items : List Item} {handles : Handles}

/-- What becomes of an item. -/
theorem Filled.origin (h : Filled world.items world.handles items handles) {request : PlaybackRequest}
    {handle : Option ℕ} (hmem : (request, handle) ∈ items) :
    ∃ old, (request, old) ∈ world.items ∧
      (handle = old ∨ old = none ∧ ∃ id, handle = some id ∧ world.handles.created ≤ id ∧ id < handles.created) := by
  obtain ⟨⟨other, old⟩, hold, hsame, hcases⟩ := exists_of_mem_right h.each hmem
  obtain rfl : request = other := hsame
  exact ⟨old, hold, hcases⟩

theorem Filled.remains (h : Filled world.items world.handles items handles) {request : PlaybackRequest} {id : ℕ}
    (hmem : (request, some id) ∈ world.items) : (request, some id) ∈ items := by
  obtain ⟨⟨other, handle⟩, hother, hsame, hkept | ⟨hnone, -⟩⟩ := exists_of_mem_right h.each.flip hmem
  · obtain rfl : other = request := hsame
    obtain rfl : handle = some id := hkept
    exact hother
  · cases hnone

theorem Filled.map_fst (h : Filled world.items world.handles items handles) :
    items.map Prod.fst = world.items.map Prod.fst := by
  have heach := h.each
  clear h
  generalize world.items = before at heach
  induction heach with
  | nil => rfl
  | cons hhead _ ih => rw [List.map_cons, List.map_cons, ih, hhead.1]

theorem Filled.queueGrows (h : Filled world.items world.handles items handles) :
    QueueGrows world { world with items, handles } where
  issued := le_rfl
  created := h.created
  handles id hid := by
    change (world.handles.get id).Grows (handles.get id)
    rw [h.kept id hid]
    exact .refl _
  items request handle hmem := by
    obtain ⟨old, hold, hcases⟩ := h.origin hmem
    refine .inl ⟨old, hold, fun id hid ↦ ?_⟩
    rcases hcases with rfl | ⟨hnone, -⟩
    · exact hid
    · rw [hnone] at hid
      cases hid

theorem SoundHandles.filled (hsound : SoundHandles world) (h : Filled world.items world.handles items handles) :
    SoundHandles { world with items, handles } := by
  -- a handle below the old bound is as it was, one above is fresh or does not exist
  have hqueued : ∀ id, Queued world id → Queued { world with items, handles } id := by
    rintro id ⟨request, hmem⟩
    exact ⟨request, h.remains hmem⟩
  constructor
  · rintro id ⟨request, hmem⟩
    obtain ⟨old, hold, hsame | ⟨-, other, hother, -, hbound⟩⟩ := h.origin hmem
    · rw [← hsame] at hold
      exact (hsound.created id ⟨request, hold⟩).trans_le h.created
    · cases hother
      exact hbound
  · intro id hid hresult
    by_cases hold : id < world.handles.created
    · refine hqueued id (hsound.atWork id hold ?_)
      rw [← h.kept id hold]
      exact hresult
    · exact (h.fresh id (not_lt.mp hold) hid).2.2
  · intro path id wave hfile
    obtain ⟨hmem, houtput⟩ := hsound.files path id wave hfile
    refine ⟨hqueued id hmem, ?_⟩
    change path ∈ (handles.get id).outputs
    rw [h.kept id (hsound.created id hmem)]
    exact houtput
  · intro id hid hdiscarded
    change (handles.get id).discarded = true at hdiscarded
    change (handles.get id).result.isSome = true
    by_cases hold : id < world.handles.created
    · rw [h.kept id hold] at hdiscarded ⊢
      exact hsound.stopped id hold hdiscarded
    · rw [(h.fresh id (not_lt.mp hold) hid).2.1] at hdiscarded
      cases hdiscarded
  · intro id hreleased path wave hfile
    obtain ⟨hmem, -⟩ := hsound.files path id wave hfile
    refine hsound.released id ?_ path wave hfile
    rw [← h.kept id (hsound.created id hmem)]
    exact hreleased

end Filled

/-! ### Handles and files -/

section Handles

variable {world : World} {id : ℕ} {f : PrefetchHandle → PrefetchHandle} {files : String → Option (ℕ × Wave)}

theorem queueGrows_update (h : id < world.handles.created → (world.handles.get id).Grows (f (world.handles.get id))) :
    QueueGrows world { world with handles := world.handles.update id f, files } where
  issued := le_rfl
  created := le_rfl
  handles other hother := by
    change (world.handles.get other).Grows ((world.handles.update id f).get other)
    by_cases hsame : other = id
    · subst hsame
      rw [Handles.get_update_self]
      exact h hother
    · rw [Handles.get_update_of_ne _ _ hsame]
      exact .refl _
  items request handle hmem := .inl ⟨handle, hmem, fun _ hid ↦ hid⟩

/-- A handle whose worker does not start again, while files are only removed. -/
theorem SoundHandles.update (hsound : SoundHandles world)
    (hgrows : id < world.handles.created → (world.handles.get id).Grows (f (world.handles.get id)))
    (hwork : (f (world.handles.get id)).result = none → (world.handles.get id).result = none)
    (hstopped : (f (world.handles.get id)).discarded = true →
      (world.handles.get id).discarded = true ∨ (f (world.handles.get id)).result.isSome = true)
    (hfiles : ∀ path owner, files path = some owner → world.files path = some owner)
    (hreleased : (f (world.handles.get id)).Released → (world.handles.get id).Released ∨
      ∀ path wave, files path ≠ some (id, wave)) :
    SoundHandles { world with handles := world.handles.update id f, files } where
  created := hsound.created
  atWork other hother hresult := by
    refine hsound.atWork other hother ?_
    change ((world.handles.update id f).get other).result = none at hresult
    by_cases hsame : other = id
    · subst hsame
      rw [Handles.get_update_self] at hresult
      exact hwork hresult
    · rwa [Handles.get_update_of_ne _ _ hsame] at hresult
  files path other wave hfile := by
    obtain ⟨hqueued, houtput⟩ := hsound.files path other wave (hfiles path _ hfile)
    refine ⟨hqueued, ?_⟩
    obtain ⟨chunk, hchunk, rfl⟩ := List.mem_map.mp houtput
    have hother : other < world.handles.created := hsound.created other hqueued
    have hqueue : QueueGrows world { world with handles := world.handles.update id f, files } := queueGrows_update hgrows
    exact List.mem_map_of_mem ((hqueue.handles other hother).chunks.subset hchunk)
  stopped other hother hdiscarded := by
    change ((world.handles.update id f).get other).discarded = true at hdiscarded
    change ((world.handles.update id f).get other).result.isSome = true
    by_cases hsame : other = id
    · subst hsame
      rw [Handles.get_update_self] at hdiscarded ⊢
      rcases hstopped hdiscarded with hold | hnew
      · obtain ⟨result, hresult⟩ := Option.isSome_iff_exists.mp (hsound.stopped other hother hold)
        rw [((hgrows hother).result result hresult).1]
        rfl
      · exact hnew
    · rw [Handles.get_update_of_ne _ _ hsame] at hdiscarded ⊢
      exact hsound.stopped other hother hdiscarded
  released other hother path wave hfile := by
    change ((world.handles.update id f).get other).Released at hother
    by_cases hsame : other = id
    · subst hsame
      rw [Handles.get_update_self] at hother
      rcases hreleased hother with hold | hgone
      · exact hsound.released other hold path wave (hfiles path _ hfile)
      · exact hgone path wave hfile
    · rw [Handles.get_update_of_ne _ _ hsame] at hother
      exact hsound.released other hother path wave (hfiles path _ hfile)

theorem files_cleanup {outputs : List String} {path : String} {owner : ℕ × Wave}
    (h : (world.cleanup outputs).files path = some owner) : world.files path = some owner ∧ path ∉ outputs := by
  simp only [World.cleanup] at h
  split_ifs at h with hmem
  exact ⟨h, hmem⟩

theorem SoundHandles.cleanup (hsound : SoundHandles world) (outputs : List String) :
    SoundHandles (world.cleanup outputs) where
  created := hsound.created
  atWork := hsound.atWork
  files path id wave hfile := hsound.files path id wave (files_cleanup hfile).1
  stopped := hsound.stopped
  released id hreleased path wave hfile := hsound.released id hreleased path wave (files_cleanup hfile).1

/-- A cleanup of a handle's chunks leaves it no file. -/
theorem SoundHandles.cleaned (hsound : SoundHandles world) (path : String) (wave : Wave) :
    (world.cleanup (world.handles.get id).outputs).files path ≠ some (id, wave) := by
  intro hfile
  obtain ⟨hold, hmem⟩ := files_cleanup hfile
  exact hmem (hsound.files path id wave hold).2

/-- What a request of the queue leaves as it was. -/
structure SameQueue (before after : World) : Prop where
  items : after.items = before.items
  issued : after.issued = before.issued
  drains : after.drains = before.drains
  batch : after.batch = before.batch

theorem SameQueue.rely {later : World} (h : SameQueue world later) (hgrows : QueueGrows world later) :
    Rely world later where
  toQueueGrows := hgrows
  drains := h.drains
  taken := by rw [h.batch]
  opened := by rw [h.batch]
  reports := by rw [h.batch]
  interrupts hinterrupts := by rwa [h.batch]
  player player hplayer := by
    rw [h.batch]
    exact ⟨player, hplayer, .refl player⟩
  noPlayer hplayer := by rwa [h.batch]

/-- What a discard does: nothing where it has been done, else the worker is stopped and its files are gone, or it does
not stop. -/
theorem discard_cases (world : World) (id : ℕ) (joins : Bool) :
    ((world.handles.get id).discarded = true ∧ world.discard id joins = (.ok (), world)) ∨
    (∃ files, world.discard id joins =
        (.ok (), { world with handles := world.handles.update id PrefetchHandle.stopped, files }) ∧
      (∀ path owner, files path = some owner → world.files path = some owner) ∧
      (SoundHandles world → ∀ path wave, files path ≠ some (id, wave))) ∨
    ∃ message, world.discard id joins =
      (.error message, { world with handles := world.handles.update id PrefetchHandle.cancel }) := by
  have hcleanup : ∀ path owner, (world.cleanup (world.handles.get id).outputs).files path = some owner →
      world.files path = some owner := fun path owner hfile ↦ (files_cleanup hfile).1
  by_cases hdiscarded : (world.handles.get id).discarded = true
  · refine .inl ⟨hdiscarded, ?_⟩
    rw [World.discard, if_pos hdiscarded]
  refine .inr ?_
  rw [World.discard, if_neg hdiscarded]
  rcases hresult : (world.handles.get id).result with _ | error | doneMeta
  · cases joins with
    | true => exact .inl ⟨_, rfl, hcleanup, SoundHandles.cleaned⟩
    | false => exact .inr ⟨_, rfl⟩
  · refine .inl ⟨world.files, rfl, fun path owner hfile ↦ hfile, fun hsound ↦ ?_⟩
    exact hsound.released id (.inr ⟨error, hresult⟩)
  · exact .inl ⟨_, rfl, hcleanup, SoundHandles.cleaned⟩

theorem sameQueue_discard (joins : Bool) : SameQueue world (world.discard id joins).2 := by
  rcases discard_cases world id joins with ⟨-, h⟩ | ⟨files, h, -⟩ | ⟨message, h⟩
  · rw [h]
    exact ⟨rfl, rfl, rfl, rfl⟩
  · rw [h]
    exact ⟨rfl, rfl, rfl, rfl⟩
  · rw [h]
    exact ⟨rfl, rfl, rfl, rfl⟩

theorem created_discard (joins : Bool) : (world.discard id joins).2.handles.created = world.handles.created := by
  rcases discard_cases world id joins with ⟨-, h⟩ | ⟨files, h, -⟩ | ⟨message, h⟩
  · rw [h]
  · rw [h]
    rfl
  · rw [h]
    rfl

theorem queueGrows_discard (joins : Bool) : QueueGrows world (world.discard id joins).2 := by
  rcases discard_cases world id joins with ⟨-, h⟩ | ⟨files, h, -⟩ | ⟨message, h⟩
  · rw [h]
    exact .refl world
  · rw [h]
    exact queueGrows_update fun _ ↦ (world.handles.get id).grows_stopped
  · rw [h]
    exact queueGrows_update fun _ ↦ (world.handles.get id).grows_cancel

theorem SoundHandles.cancel (hsound : SoundHandles world) :
    SoundHandles { world with handles := world.handles.update id PrefetchHandle.cancel } := by
  refine hsound.update (fun _ ↦ (world.handles.get id).grows_cancel) (fun hresult ↦ hresult) ?_
    (fun path owner hfile ↦ hfile) fun hreleased ↦ .inl hreleased
  exact fun hdiscarded ↦ .inl hdiscarded

theorem SoundHandles.discard (hsound : SoundHandles world) (joins : Bool) :
    SoundHandles (world.discard id joins).2 := by
  rcases discard_cases world id joins with ⟨-, h⟩ | ⟨files, h, hfiles, hgone⟩ | ⟨message, h⟩
  · rw [h]
    exact hsound
  · rw [h]
    refine hsound.update (fun _ ↦ (world.handles.get id).grows_stopped) ?_ ?_ hfiles fun _ ↦ .inr (hgone hsound)
    · intro hresult
      cases hresult
    · intro _
      exact .inr rfl
  · rw [h]
    exact hsound.cancel

theorem discarded_of_discard {joins : Bool} (hok : (world.discard id joins).1 = .ok ()) :
    ((world.discard id joins).2.handles.get id).discarded = true := by
  rcases discard_cases world id joins with ⟨hdiscarded, h⟩ | ⟨files, h, -⟩ | ⟨message, h⟩
  · rw [h]
    exact hdiscarded
  · rw [h, Handles.get_update_self]
    rfl
  · rw [h] at hok
    cases hok

/-! ### Clearing -/

theorem SameQueue.trans {first second third : World} (h : SameQueue first second) (hnext : SameQueue second third) :
    SameQueue first third :=
  ⟨hnext.items.trans h.items, hnext.issued.trans h.issued, hnext.drains.trans h.drains, hnext.batch.trans h.batch⟩

/-- The handles of a queue are discarded up to one whose worker does not stop. -/
theorem discardItems_spec (joins : ℕ → Bool) (items : List Item) (hsound : SoundHandles world)
    (hitems : ∀ request id, (request, some id) ∈ items → id < world.handles.created) :
    SoundHandles (World.discardItems joins items world).2 ∧ SameQueue world (World.discardItems joins items world).2 ∧
      QueueGrows world (World.discardItems joins items world).2 ∧
      ((World.discardItems joins items world).1 = .ok () → ∀ request id, (request, some id) ∈ items →
        ((World.discardItems joins items world).2.handles.get id).discarded = true) := by
  induction items generalizing world with
  | nil =>
    refine ⟨hsound, ⟨rfl, rfl, rfl, rfl⟩, .refl world, ?_⟩
    intro _ request id hmem
    cases hmem
  | cons item items ih =>
    obtain ⟨request, handle⟩ := item
    cases handle with
    | none =>
      obtain ⟨hafter, hsame, hgrows, hdiscarded⟩ :=
        ih hsound fun other id hmem ↦ hitems other id (List.mem_cons_of_mem _ hmem)
      refine ⟨hafter, hsame, hgrows, fun hok other id hmem ↦ ?_⟩
      rcases List.mem_cons.mp hmem with heq | hmem
      · cases heq
      · exact hdiscarded hok other id hmem
    | some id =>
      have hid : id < world.handles.created := hitems request id List.mem_cons_self
      have hstep : SoundHandles (world.discard id (joins id)).2 := hsound.discard (joins id)
      have hcreated : (world.discard id (joins id)).2.handles.created = world.handles.created :=
        created_discard (joins id)
      rw [World.discardItems]
      cases hdiscard : (world.discard id (joins id)).1 with
      | error error =>
        have hpair : world.discard id (joins id) = (.error error, (world.discard id (joins id)).2) := Prod.ext hdiscard rfl
        rw [hpair]
        refine ⟨hstep, sameQueue_discard _, queueGrows_discard _, fun hok ↦ ?_⟩
        cases hok
      | ok _ =>
        have hpair : world.discard id (joins id) = (.ok (), (world.discard id (joins id)).2) := Prod.ext hdiscard rfl
        obtain ⟨hafter, hsame, hgrows, hdiscarded⟩ :=
          @ih (world.discard id (joins id)).2 hstep fun other next hmem ↦ by
            rw [hcreated]
            exact hitems other next (List.mem_cons_of_mem _ hmem)
        rw [hpair]
        refine ⟨hafter, (sameQueue_discard _).trans hsame, (queueGrows_discard _).trans hgrows, ?_⟩
        intro hok other next hmem
        rcases List.mem_cons.mp hmem with heq | hmem
        · obtain ⟨rfl, hsome⟩ := Prod.mk.inj heq
          obtain rfl := Option.some.inj hsome
          refine (hgrows.handles next ?_).discarded (discarded_of_discard hdiscard)
          rw [hcreated]
          exact hid
        · exact hdiscarded hok other next hmem

end Handles

end VoiceHarness.Playback
