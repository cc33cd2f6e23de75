import VoiceHarness.Json
import Mathlib.Data.List.Basic
import Mathlib.Logic.Function.Basic

/-!
# The playback queue

`PlaybackQueue` with the prefetch handles of its requests, the chunk files that their workers have noted, and the
player of a drain. A handle is named by the order of its creation, and a request by the order in which it was enqueued:
two requests are the same object where they have the same ticket.

`Batch` is what has happened since a drain began; no function of the source reads it apart from the player.
-/

set_option autoImplicit false
set_option relaxedAutoImplicit false

namespace VoiceHarness.Playback

/-- `PREFETCH_LIMIT` -/
def prefetchLimit : ℕ := 2

structure PlaybackRequest where
  ticket : ℕ
  text : String
  skipFirstSpeed : Bool := false
  preflightSpeed : Bool := false
  jobId : Option String := none
  deriving DecidableEq

/-- A chunk that a worker has noted. -/
structure Chunk where
  output : String
  text : String
  deriving DecidableEq

/-- A chunk file. -/
structure Wave where
  channels : ℕ
  sampleWidth : ℕ
  frameRate : ℕ
  audio : List UInt8
  deriving DecidableEq

structure PrefetchHandle where
  text : String
  skipFirstSpeed : Bool := false
  preflightSpeed : Bool := false
  chunks : List Chunk := []
  sampleRate : ℕ := 0
  /-- What the worker has come to: its `done_meta` or its error. -/
  result : Option (Except String Dict) := none
  cancelled : Bool := false
  discarded : Bool := false

/-- The process of `pw-play`. -/
structure Player where
  rate : ℕ
  written : List UInt8 := []
  stdinOpen : Bool := true
  returncode : Option ℤ := none
  deriving DecidableEq

/-- What `drain` reports of a request. -/
structure Report where
  request : PlaybackRequest
  interrupted : Bool
  playedText : String
  doneMeta : Dict

/-- What has happened since a drain began. -/
structure Batch where
  /-- The requests that the drain has begun to play, each with its handle. -/
  taken : List (PlaybackRequest × ℕ) := []
  /-- The requests that the drain has removed from the queue. -/
  removed : List PlaybackRequest := []
  /-- The chunk files that have been opened for playing. -/
  opened : List (String × Wave) := []
  player : Option Player := none
  /-- Whether `should_interrupt` has answered that it should. -/
  interrupts : Bool := false
  /-- The calls of `on_played`. -/
  reports : List Report := []

/-- The handles that were ever created. -/
structure Handles where
  created : ℕ := 0
  get : ℕ → PrefetchHandle := fun _ ↦ { text := "" }

abbrev Item := PlaybackRequest × Option ℕ

structure World where
  items : List Item := []
  draining : Bool := false
  issued : ℕ := 0
  handles : Handles := {}
  /-- The chunk files, each with the handle whose worker noted it last. -/
  files : String → Option (ℕ × Wave) := fun _ ↦ none
  drains : ℕ := 0
  batch : Batch := {}

/-! ### Handles -/

namespace Handles

def create (handles : Handles) (request : PlaybackRequest) : Handles where
  created := handles.created + 1
  get := Function.update handles.get handles.created
    { text := request.text, skipFirstSpeed := request.skipFirstSpeed, preflightSpeed := request.preflightSpeed }

def update (handles : Handles) (id : ℕ) (f : PrefetchHandle → PrefetchHandle) : Handles :=
  { handles with get := Function.update handles.get id (f (handles.get id)) }

@[simp] theorem created_create (handles : Handles) (request : PlaybackRequest) :
    (handles.create request).created = handles.created + 1 := rfl

@[simp] theorem created_update (handles : Handles) (id : ℕ) (f : PrefetchHandle → PrefetchHandle) :
    (handles.update id f).created = handles.created := rfl

theorem get_create_self (handles : Handles) (request : PlaybackRequest) :
    (handles.create request).get handles.created =
      { text := request.text, skipFirstSpeed := request.skipFirstSpeed, preflightSpeed := request.preflightSpeed } :=
  Function.update_self _ _ _

theorem get_create_of_lt (handles : Handles) (request : PlaybackRequest) {id : ℕ} (h : id < handles.created) :
    (handles.create request).get id = handles.get id :=
  Function.update_of_ne h.ne _ _

@[simp] theorem get_update_self (handles : Handles) (id : ℕ) (f : PrefetchHandle → PrefetchHandle) :
    (handles.update id f).get id = f (handles.get id) :=
  Function.update_self _ _ _

theorem get_update_of_ne (handles : Handles) {id other : ℕ} (f : PrefetchHandle → PrefetchHandle) (h : other ≠ id) :
    (handles.update id f).get other = handles.get other :=
  Function.update_of_ne h _ _

end Handles

namespace PrefetchHandle

/-- A look at `_progress` while its lock is held. -/
inductive Look where
  | failed (error : String)
  | progress (sampleRate : ℕ) (chunks : List Chunk) (done : Bool)
  | nothing

def look (handle : PrefetchHandle) (seen : ℕ) : Look :=
  match handle.result with
  | some (.error error) => .failed error
  | result => if seen < handle.chunks.length ∨ result.isSome = true then
      .progress handle.sampleRate handle.chunks result.isSome
    else .nothing

def outputs (handle : PrefetchHandle) : List String := handle.chunks.map Chunk.output

/-- The handle after `cancel`. -/
def cancel (handle : PrefetchHandle) : PrefetchHandle := { handle with cancelled := true }

/-- The handle after `discard`: its worker has ended, by its cancellation if it was still at work. -/
def stopped (handle : PrefetchHandle) : PrefetchHandle :=
  { handle with
    result := some (handle.result.getD (.error "TTS prefetch was cancelled"))
    cancelled := handle.cancelled || handle.result.isNone
    discarded := true }

/-- The handle with one more chunk. -/
def note (handle : PrefetchHandle) (chunk : Chunk) (sampleRate : ℕ) : PrefetchHandle :=
  { handle with chunks := handle.chunks ++ [chunk], sampleRate }

/-- The handle's own copy of `done_meta`. -/
def doneMeta (handle : PrefetchHandle) : Dict :=
  match handle.result with
  | some (.ok doneMeta) => doneMeta
  | _ => []

end PrefetchHandle

/-! ### Operations of the queue -/

/-- How many of the items have a handle. -/
def active (items : List Item) : ℕ := items.countP fun item ↦ item.2.isSome

/-- The loop of `start_prefetch`. -/
def prefetchItems (limit : ℕ) : ℕ → Handles → List Item → List Item × Handles
  | _, handles, [] => ([], handles)
  | running, handles, (request, handle) :: items =>
    if limit ≤ running then ((request, handle) :: items, handles)
    else match handle with
      | some id =>
        ((request, some id) :: (prefetchItems limit running handles items).1,
          (prefetchItems limit running handles items).2)
      | none =>
        ((request, some handles.created) :: (prefetchItems limit (running + 1) (handles.create request) items).1,
          (prefetchItems limit (running + 1) (handles.create request) items).2)

namespace World

def startPrefetch (world : World) (limit : ℕ) : World :=
  { world with
    items := (prefetchItems limit (active world.items) world.handles world.items).1
    handles := (prefetchItems limit (active world.items) world.handles world.items).2 }

/-- `enqueue`; the caller's object is given its ticket here. -/
def enqueue (world : World) (request : PlaybackRequest) : World :=
  let queued := { request with ticket := world.issued }
  if world.draining = true ∧ active world.items < prefetchLimit then
    { world with
      items := world.items ++ [(queued, some world.handles.created)]
      handles := world.handles.create queued
      issued := world.issued + 1 }
  else { world with items := world.items ++ [(queued, none)], issued := world.issued + 1 }

/-- The part of `drain` that takes the first item, with a handle made for it where it has none. -/
def takeHead (world : World) : Option (PlaybackRequest × ℕ) × World :=
  match world.items with
  | [] => (none, world)
  | (request, some id) :: _ =>
    (some (request, id), { world with batch := { world.batch with taken := world.batch.taken ++ [(request, id)] } })
  | (request, none) :: items =>
    (some (request, world.handles.created),
      { world with
        items := (request, some world.handles.created) :: items
        handles := world.handles.create request
        batch := { world.batch with taken := world.batch.taken ++ [(request, world.handles.created)] } })

/-- `if self._items and self._items[0][0] is request: self._items.popleft()` -/
def popHead (world : World) (request : PlaybackRequest) : World :=
  match world.items with
  | [] => world
  | (first, _) :: items =>
    if first.ticket = request.ticket then
      { world with items, batch := { world.batch with removed := world.batch.removed ++ [request] } }
    else world

/-- `_cleanup_chunks` -/
def cleanup (world : World) (outputs : List String) : World :=
  { world with files := fun path ↦ if path ∈ outputs then none else world.files path }

/-- `discard`; `joins` says whether the worker stops in time. A worker that is stopped cleans up its own chunks, and
what it has come to is the error of its cancellation; one that had failed before has done so then. -/
def discard (world : World) (id : ℕ) (joins : Bool) : Except String Unit × World :=
  if (world.handles.get id).discarded = true then (.ok (), world)
  else match (world.handles.get id).result with
    | some (.error _) => (.ok (), { world with handles := world.handles.update id PrefetchHandle.stopped })
    | some (.ok _) =>
      (.ok (), { world with handles := world.handles.update id PrefetchHandle.stopped }.cleanup
        (world.handles.get id).outputs)
    | none =>
      if joins = true then
        (.ok (), { world with handles := world.handles.update id PrefetchHandle.stopped }.cleanup
          (world.handles.get id).outputs)
      else
        (.error "TTS prefetch worker did not stop after cancellation",
          { world with handles := world.handles.update id PrefetchHandle.cancel })

/-- The handles of a cleared queue, discarded one after the other up to one whose worker does not stop. -/
def discardItems (joins : ℕ → Bool) : List Item → World → Except String Unit × World
  | [], world => (.ok (), world)
  | (_, none) :: items, world => discardItems joins items world
  | (_, some id) :: items, world =>
    match world.discard id (joins id) with
    | (.ok (), next) => discardItems joins items next
    | (.error error, next) => (.error error, next)

def clear (world : World) (joins : ℕ → Bool) : Except String Unit × World :=
  match discardItems joins world.items world with
  | (.ok (), next) => (.ok (), { next with items := [] })
  | (.error error, next) => (.error error, next)

/-! ### The workers -/

/-- `_note_chunk`, after the server has written the chunk's file. -/
def noteChunk (world : World) (id : ℕ) (chunk : Chunk) (sampleRate : ℕ) (wave : Wave) : World :=
  if id < world.handles.created ∧ (world.handles.get id).result.isNone = true then
    { world with
      handles := world.handles.update id (PrefetchHandle.note · chunk sampleRate)
      files := Function.update world.files chunk.output (some (id, wave)) }
  else world

/-- The worker ends; one that fails has cleaned up its chunks. -/
def endWorker (world : World) (id : ℕ) (result : Except String Dict) : World :=
  if id < world.handles.created ∧ (world.handles.get id).result.isNone = true then
    let ended := { world with handles := world.handles.update id ({ · with result := some result }) }
    match result with
    | .ok _ => ended
    | .error _ => ended.cleanup (world.handles.get id).outputs
  else world

/-- The player ends. -/
def endPlayer (world : World) (returncode : ℤ) : World :=
  { world with batch := { world.batch with
      player := world.batch.player.map fun player ↦
        { player with returncode := some (player.returncode.getD returncode) } } }

end World

end VoiceHarness.Playback
