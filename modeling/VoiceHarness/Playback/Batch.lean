import VoiceHarness.Playback.Played

/-!
# Playing the batch

The triples of the loop over the queue. Between two requests all requests that were taken are reported in order, none
of them is queued any more, and every report of a request that was not interrupted is complete.
-/

set_option autoImplicit false
set_option relaxedAutoImplicit false

namespace VoiceHarness.Playback

open Library Process

/-! ### Releasing a request -/

/-- The request has left the queue, and those before it. -/
def passed (place : Place) : Claim where
  Holds world := place.request.ticket < world.issued ∧ ∀ item ∈ world.items, place.request.ticket < item.1.ticket
  stable := by
    rintro world later hrely ⟨hissued, hitems⟩
    refine ⟨hissued.trans_le hrely.issued, fun item hitem ↦ ?_⟩
    rcases hrely.items item.1 item.2 hitem with ⟨old, hold, -⟩ | hnew
    · exact hitems (item.1, old) hold
    · exact hissued.trans_le hnew

def isDiscarded (handle : ℕ) : Claim where
  Holds world := handle < world.handles.created ∧ (world.handles.get handle).discarded = true
  stable hrely h := ⟨h.1.trans_le hrely.created, (hrely.handles handle h.1).discarded h.2⟩

variable {P : Claim} {place : Place}

theorem triple_discard {handle : ℕ} (hhandle : ∀ world, P world → handle < world.handles.created) :
    Triple P (discardHandle handle) (fun _ ↦ P.and (isDiscarded handle)) fun _ ↦ P := by
  have hasked : Triple P (ask (.discard handle) : Steps Failure (Attempt Unit))
      (fun answer ↦ P.and ⟨fun world ↦ answer = .ok () → isDiscarded handle world,
        fun hrely h hanswer ↦ (isDiscarded handle).stable hrely (h hanswer)⟩) fun _ ↦ P := by
    refine Triple.request fun world hsound hstate oracle ↦ ?_
    have hkept := hsound.discard handle oracle.joins
    refine ⟨hkept.sound, P.stable hkept.rely hstate, fun hanswer ↦ ⟨?_, discarded_of_discard ?_⟩⟩
    · exact (hhandle world hstate).trans_le hkept.rely.created
    · change (world.discard handle oracle.joins).1.mapError Failure.other = .ok () at hanswer
      cases hdiscard : (world.discard handle oracle.joins).1 with
      | error error =>
        rw [hdiscard] at hanswer
        cases hanswer
      | ok _ => rfl
  refine hasked.bind fun answer ↦ Triple.ofExcept ?_ fun _ _ _ _ hstate ↦ hstate.1
  rintro ⟨⟩ rfl world - ⟨hstate, hdiscarded⟩
  exact ⟨hstate, hdiscarded rfl⟩

/-- No queued request is older than the first one. -/
theorem head_lt_tail {world : World} (h : Sound world) {first : Item} {items : List Item}
    (hitems : world.items = first :: items) : ∀ item ∈ items, first.1.ticket < item.1.ticket := by
  have hsorted := h.sorted
  rw [hitems, List.map_cons, List.pairwise_cons] at hsorted
  exact fun item hitem ↦ hsorted.1 _ (List.mem_map_of_mem hitem)

theorem triple_popHead {ε : Type} {Raised : ε → Claim} (hP : ∀ world, P world → AtRequest place world) :
    Triple (P.and (isDiscarded place.handle)) (ask (.popHead place.request) : Steps ε Unit)
      (fun _ ↦ P.and (passed place)) Raised := by
  refine Triple.request fun world hsound hstate oracle ↦ ?_
  have hat := hP world hstate.1
  have hmem : (place.request, place.handle) ∈ world.batch.taken := by
    rw [hat.taken]
    exact List.mem_append_right _ (List.mem_singleton_self _)
  have hkept : Kept world (world.popHead place.request) :=
    hsound.popHead (List.mem_map_of_mem hmem) hat.owned hstate.2.2
  refine ⟨hkept.sound, P.stable hkept.rely hstate.1, hat.issued.trans_le hkept.rely.issued, ?_⟩
  intro item hitem
  have hovertaken := hsound.overtaken _ hmem
  change item ∈ (world.popHead place.request).items at hitem
  rw [World.popHead] at hitem
  rcases hitems : world.items with _ | ⟨⟨first, next⟩, items⟩
  · rw [hitems] at hitem
    simp only [hitems] at hitem
    cases hitem
  · have htail := head_lt_tail hsound hitems
    have hhead := hovertaken (first, next) (by rw [hitems]; exact List.mem_cons_self)
    simp only [hitems] at hitem
    split_ifs at hitem with hticket
    · rw [← hticket]
      exact htail item hitem
    · rw [hitems] at hitem
      rcases List.mem_cons.mp hitem with rfl | hitem
      · exact lt_of_le_of_ne hhead fun heq ↦ hticket heq.symm
      · exact hhead.trans_lt (htail item hitem)

theorem triple_releaseItem (hP : ∀ world, P world → AtRequest place world) (playing : Playing) :
    Triple P (releaseItem place.request place.handle playing) (fun _ ↦ P.and (passed place)) fun _ ↦ P := by
  refine (triple_terminateRunning _).bind fun _ ↦ ?_
  refine (triple_discard fun world hstate ↦ (hP world hstate).created).bind fun _ ↦ ?_
  exact (triple_quiet rfl).bind fun _ ↦ triple_popHead hP

/-! ### Taking a request -/

/-- What has been played as a whole in this drain. -/
def keeps (n : ℕ) (reports : List Report) : Claim where
  Holds world := n ≤ world.drains ∧
    (world.drains = n → ∀ report ∈ reports, report.interrupted = false → Complete world report)
  stable := by
    rintro world later hrely ⟨hdrains, hcomplete⟩
    rw [← hrely.drains] at hdrains hcomplete
    exact ⟨hdrains, fun hsame report hreport hgoes ↦ (hcomplete hsame report hreport hgoes).grows hrely.grows⟩

/-- It stays so, whatever the drain asks. -/
theorem keeps_perform (n : ℕ) (reports : List Report) (oracle : Oracle) (asked : Request) (world : World)
    (_ : Sound world) (h : keeps n reports world) : keeps n reports (perform oracle asked world).2 := by
  obtain ⟨hdrains, hcomplete⟩ := h
  by_cases hbegin : asked = .begin
  · subst hbegin
    refine ⟨hdrains.trans (Nat.le_succ _), fun hsame ↦ ?_⟩
    change world.drains + 1 = n at hsame
    omega
  · have hgrows : Grows world (perform oracle asked world).2 := grows_perform hbegin oracle
    refine ⟨?_, fun hsame report hreport hgoes ↦ ?_⟩
    · rw [hgrows.drains]
      exact hdrains
    · rw [hgrows.drains] at hsame
      exact (hcomplete hsame report hreport hgoes).grows hgrows

/-- Between two requests: all that were taken are reported, and none of them is queued. -/
structure Between (n : ℕ) (draining : Draining) (world : World) : Prop where
  drains : world.drains = n
  reports : world.batch.reports = []
  player : hasPlayer draining.opened draining.sampleRate world
  flows : ∃ log, flowing draining.opened log [] draining.sampleRate world
  released : ∀ taken ∈ world.batch.taken,
    taken.1.ticket < world.issued ∧ ∀ item ∈ world.items, taken.1.ticket < item.1.ticket
  played : world.batch.taken.map Prod.fst = draining.played.map Report.request
  complete : keeps n draining.played world
  goes : draining.interrupted = false ∧ draining.deferredError = none ∧ draining.playbackFailed = false

def between (n : ℕ) (draining : Draining) : Claim where
  Holds := Between n draining
  stable hrely h :=
    { drains := hrely.drains.trans h.drains
      reports := hrely.reports.trans h.reports
      player := (hasPlayer _ _).stable hrely h.player
      flows := h.flows.imp fun log hlog ↦ (flowing _ log [] _).stable hrely hlog
      released := by
        rw [hrely.taken]
        intro taken htaken
        obtain ⟨hissued, hitems⟩ := h.released taken htaken
        refine ⟨hissued.trans_le hrely.issued, fun item hitem ↦ ?_⟩
        rcases hrely.items item.1 item.2 hitem with ⟨old, hold, -⟩ | hnew
        · exact hitems (item.1, old) hold
        · exact hissued.trans_le hnew
      played := by
        rw [hrely.taken]
        exact h.played
      complete := (keeps _ _).stable hrely h.complete
      goes := h.goes }

/-- The requests that were taken before are the reported ones. -/
def taking (n : ℕ) (draining : Draining) (place : Place) (log : List (String × Wave)) : Claim :=
  (itemAt place log { opened := draining.opened, sampleRate := draining.sampleRate }).and
    ((Assertion.fact (place.drains = n ∧ place.before.map Prod.fst = draining.played.map Report.request)).and
      (keeps n draining.played))

theorem Sound.takeHead {world : World} (h : Sound world) (hreports : world.batch.reports = [])
    (hreleased : ∀ taken ∈ world.batch.taken, ∀ item ∈ world.items, taken.1.ticket < item.1.ticket)
    {request : PlaybackRequest} {id : ℕ} {items : List Item} {handles : Handles}
    (hfilled : Filled world.items world.handles items handles) (hhead : items.head? = some (request, some id))
    (htail : items.tail = world.items.tail) :
    Sound { world with items, handles, batch := { world.batch with taken := world.batch.taken ++ [(request, id)] } } := by
  have hwindow : active items.tail ≤ prefetchLimit := by
    rw [htail]
    exact h.window
  have hsound : Sound { world with items, handles } := (h.filled hfilled hwindow).sound
  obtain ⟨rest, rfl⟩ := List.head?_eq_some_iff.mp hhead
  have hmem : request ∈ world.items.map Prod.fst := by
    rw [← hfilled.map_fst]
    exact List.mem_cons_self
  obtain ⟨⟨other, old⟩, hold, rfl⟩ := List.mem_map.mp hmem
  refine ⟨hsound.toSoundHandles.withBatch _, ⟨hwindow, hsound.sorted, hsound.issued, ?_, ?_, ?_, ?_⟩, ?_⟩
  · rw [List.map_append]
    refine List.pairwise_append.mpr ⟨h.takenSorted, List.pairwise_singleton _ _, ?_⟩
    intro first hfirst last hlast
    obtain ⟨taken, htaken, rfl⟩ := List.mem_map.mp hfirst
    rw [List.mem_singleton.mp hlast]
    exact hreleased taken htaken _ hold
  · intro taken htaken
    rcases List.mem_append.mp htaken with htaken | htaken
    · exact h.takenIssued taken htaken
    · rw [List.mem_singleton.mp htaken]
      exact h.issued _ hold
  · intro taken htaken item hitem
    rcases List.mem_append.mp htaken with htaken | htaken
    · exact hsound.overtaken taken htaken item hitem
    · rw [List.mem_singleton.mp htaken]
      rcases List.mem_cons.mp hitem with rfl | hitem
      · exact le_rfl
      · exact (head_lt_tail hsound rfl item hitem).le
  · intro removed hremoved
    change removed ∈ (world.batch.taken ++ [(other, id)]).map Prod.fst
    rw [List.map_append]
    exact List.mem_append_left _ (h.removed removed hremoved)
  · refine ⟨fun hsome ↦ absurd hreports hsome, fun report hreport ↦ ?_⟩
    change report ∈ world.batch.reports at hreport
    rw [hreports] at hreport
    cases hreport

/-- The request has been taken behind those that are reported. -/
def takenAt (n : ℕ) (draining : Draining) (request : PlaybackRequest) (handle : ℕ) : Claim where
  Holds world := ∃ before log, taking n draining ⟨n, before, request, handle⟩ log world
  stable := by
    rintro world later hrely ⟨before, log, h⟩
    exact ⟨before, log, (taking _ _ _ _).stable hrely h⟩

/-- What taking the first request comes to. -/
def headTaken (n : ℕ) (draining : Draining) : Option (PlaybackRequest × ℕ) → Claim
  | none => between n draining
  | some (request, handle) => takenAt n draining request handle

theorem triple_takeHead {n : ℕ} {draining : Draining} {ε : Type} {Raised : ε → Claim} :
    Triple (between n draining) (ask .takeHead : Steps ε (Option (PlaybackRequest × ℕ))) (headTaken n draining) Raised := by
  refine Triple.request fun world hsound hstate oracle ↦ ?_
  have hbetween : Between n draining world := hstate
  change Sound world.takeHead.2 ∧ headTaken n draining world.takeHead.1 world.takeHead.2
  rcases takeHead_cases world with ⟨-, htaken⟩ | ⟨request, id, items, handles, htaken, hfilled, hhead, htail⟩
  · rw [htaken]
    exact ⟨hsound, hbetween⟩
  have hafter := hsound.takeHead hbetween.reports (fun taken hmem ↦ (hbetween.released taken hmem).2) hfilled hhead htail
  have hkeeps := keeps_perform n draining.played {} .takeHead world hsound hbetween.complete
  change keeps n draining.played world.takeHead.2 at hkeeps
  rw [htaken] at hkeeps ⊢
  obtain ⟨log, hflows⟩ := hbetween.flows
  obtain ⟨rest, hitems⟩ := List.head?_eq_some_iff.mp hhead
  refine ⟨hafter, world.batch.taken, log, ⟨⟨?_, hbetween.player⟩, ?_, List.nil_prefix, rfl, rfl, rfl⟩,
    ⟨rfl, hbetween.played⟩, hkeeps⟩
  · refine ⟨hbetween.drains, hbetween.reports, rfl, ?_, ?_, ?_⟩
    · refine hafter.created id ⟨request, ?_⟩
      change (request, some id) ∈ items
      rw [hitems]
      exact List.mem_cons_self
    · refine hafter.issued (request, some id) ?_
      change (request, some id) ∈ items
      rw [hitems]
      exact List.mem_cons_self
    · intro other handle hmem hticket
      change (other, handle) ∈ items at hmem
      rw [hitems] at hmem
      rcases List.mem_cons.mp hmem with heq | hmem
      · cases heq
        rfl
      · have hlt := head_lt_tail hafter hitems _ hmem
        change other.ticket = request.ticket at hticket
        change request.ticket < other.ticket at hlt
        omega
  · exact flowing_congr hflows rfl rfl

/-! ### After a request -/

/-- What is known of a request after its `except` clauses, with the variables of the drain. -/
def itemCaught (n : ℕ) (place : Place) (log : List (String × Wave)) (draining : Draining) (playing : Playing) : Claim where
  Holds world := playingAt place playing world ∧ interruptedIf draining.interrupted world ∧
    keeps n draining.played world ∧
    (draining.interrupted = false → draining.deferredError = none → Whole place log playing world) ∧
    place.drains = n ∧ place.before.map Prod.fst = draining.played.map Report.request ∧
    draining.opened = playing.opened ∧ draining.sampleRate = playing.sampleRate ∧
    (draining.deferredError = none → draining.playbackFailed = false)
  stable hrely h := ⟨(playingAt _ _).stable hrely h.1, (interruptedIf _).stable hrely h.2.1,
    (keeps _ _).stable hrely h.2.2.1, fun hgoes hnone ↦ (h.2.2.2.1 hgoes hnone).rely hrely, h.2.2.2.2⟩

/-- What the batch comes to: all that were taken are reported, or the drain has failed at the last of them. -/
structure BatchPlayed (n : ℕ) (draining : Draining) (world : World) : Prop where
  drains : world.drains = n
  reports : world.batch.reports = []
  player : hasPlayer draining.opened draining.sampleRate world
  accounted : world.batch.taken.map Prod.fst = draining.played.map Report.request ∨
    draining.deferredError ≠ none ∧
      ∃ last, world.batch.taken.map Prod.fst = draining.played.map Report.request ++ [last]
  complete : keeps n draining.played world
  interrupted : interruptedIf draining.interrupted world

def batchPlayed (n : ℕ) (draining : Draining) : Claim where
  Holds := BatchPlayed n draining
  stable hrely h :=
    { drains := hrely.drains.trans h.drains
      reports := hrely.reports.trans h.reports
      player := (hasPlayer _ _).stable hrely h.player
      accounted := by
        rw [hrely.taken]
        exact h.accounted
      complete := (keeps _ _).stable hrely h.complete
      interrupted := (interruptedIf _).stable hrely h.interrupted }

/-- The drain has begun, and has called no `on_played`. -/
def begun (n : ℕ) : Claim where
  Holds world := world.drains = n ∧ world.batch.reports = []
  stable hrely h := ⟨hrely.drains.trans h.1, hrely.reports.trans h.2⟩

/-- What is known where a drain raises. -/
def raisedIn {α : Type} (n : ℕ) (raised : α × Failure) : Claim :=
  if raised.2 = .exhausted then .any else begun n

theorem raisedIn_of_begun {α : Type} {n : ℕ} {raised : α × Failure} {world : World} (h : begun n world) :
    raisedIn n raised world := by
  rw [raisedIn]
  split_ifs
  · exact trivial
  · exact h

theorem raisedIn_exhausted {α : Type} {n : ℕ} {value : α} {world : World} : raisedIn n (value, .exhausted) world :=
  trivial

/-- A report that is interrupted is no claim. -/
theorem keeps_append {n : ℕ} {reports : List Report} {report : Report} {world : World} (h : keeps n reports world)
    (hreport : world.drains = n → report.interrupted = false → Complete world report) :
    keeps n (reports ++ [report]) world := by
  refine ⟨h.1, fun hsame other hother hgoes ↦ ?_⟩
  rcases List.mem_append.mp hother with hother | hother
  · exact h.2 hsame other hother hgoes
  · obtain rfl := List.mem_singleton.mp hother
    exact hreport hsame hgoes

/-- The files that have been played are streamed. -/
theorem streamed_of_flowing {log : List (String × Wave)} {playing : Playing} {world : World}
    {outputs : List String} (hplayer : hasPlayer playing.opened playing.sampleRate world)
    (h : flowing playing.opened log outputs playing.sampleRate world) : Streamed world.batch outputs := by
  rw [flowing] at h
  split_ifs at h with hopened
  · obtain ⟨waves, houtputs, hformat, hlog, player, hsome, haudio⟩ := h
    refine ⟨log, waves, ?_, houtputs, fun _ ↦ ⟨player, hsome, ?_, ?_⟩⟩
    · rw [hlog]
    · rw [← haudio, List.append_nil]
    · rw [hplayer.2 player hsome]
      exact hformat
  · obtain ⟨-, -, rfl⟩ := h
    exact ⟨[], [], List.nil_prefix, rfl, fun hnonempty ↦ absurd rfl hnonempty⟩

/-- A request that has been played as a whole is reported so. -/
theorem Whole.complete {place : Place} {log : List (String × Wave)} {playing : Playing} {world : World}
    (h : Whole place log playing world) (hat : playingAt place playing world) {report : Report}
    (hrequest : report.request = place.request) (htext : report.playedText = Draining.joinTexts playing.chunkTexts)
    (hmeta : report.doneMeta = (world.handles.get place.handle).doneMeta) : Complete world report := by
  obtain ⟨hcreated, chunks, doneMeta, hresult, hchunks, htexts, hflowing⟩ := h
  refine ⟨place.handle, doneMeta, ?_, hcreated, hresult, ?_, ?_, ?_⟩
  · rw [hat.1.taken, hrequest]
    exact List.mem_append_right _ (List.mem_singleton_self _)
  · rw [hmeta, PrefetchHandle.doneMeta, hresult]
  · rw [htext, htexts, hchunks]
  · rw [PrefetchHandle.outputs, hchunks]
    exact streamed_of_flowing hat.2 hflowing

/-- All requests that were taken have left the queue. -/
theorem released_of_passed {place : Place} {world : World} (hsound : Sound world) (hat : AtRequest place world)
    (hpassed : passed place world) : ∀ taken ∈ world.batch.taken,
      taken.1.ticket < world.issued ∧ ∀ item ∈ world.items, taken.1.ticket < item.1.ticket := by
  intro taken htaken
  refine ⟨hsound.takenIssued taken htaken, fun item hitem ↦ ?_⟩
  have hlt := hpassed.2 item hitem
  have hsorted := hsound.takenSorted
  rw [hat.taken] at htaken hsorted
  rcases List.mem_append.mp htaken with hbefore | hlast
  · rw [List.map_append, List.pairwise_append] at hsorted
    have hle := hsorted.2.2 _ (List.mem_map_of_mem hbefore) _ (List.mem_map_of_mem (List.mem_singleton_self _))
    exact hle.trans hlt
  · rw [List.mem_singleton.mp hlast]
    exact hlt

section AfterItem

variable {n : ℕ} {log : List (String × Wave)} {draining : Draining} {playing : Playing} {world : World}

/-- The requests that were taken, once this one is reported too. -/
theorem taken_of_itemCaught (h : itemCaught n place log draining playing world) :
    world.batch.taken.map Prod.fst = draining.played.map Report.request ++ [place.request] := by
  obtain ⟨hat, -, -, -, -, hbefore, -⟩ := h
  rw [hat.1.taken, List.map_append, hbefore]
  rfl

/-- A report ends the batch where it is interrupted. -/
theorem batchPlayed_append (h : itemCaught n place log draining playing world) {report : Report}
    (hrequest : report.request = place.request) (hinterrupted : report.interrupted = true) :
    BatchPlayed n { draining with played := draining.played ++ [report] } world := by
  have htaken := taken_of_itemCaught h
  obtain ⟨hat, hasked, hkeeps, -, hdrains, -, hopened, hrate, -⟩ := h
  refine ⟨hat.1.drains.trans hdrains, hat.1.reports, ?_, .inl ?_, keeps_append hkeeps fun _ hgoes ↦ ?_, hasked⟩
  · rw [hopened, hrate]
    exact hat.2
  · rw [htaken, List.map_append, ← hrequest]
    rfl
  · rw [hinterrupted] at hgoes
    cases hgoes

theorem triple_afterItem : Triple ((itemCaught n place log draining playing).and (passed place))
    (draining.afterItem place.request place.handle playing) (Sum.elim (between n) (batchPlayed n)) (raisedIn n) := by
  refine Triple.ite (fun _ ↦ Triple.pure fun world _ hstate ↦ batchPlayed_append hstate.1 rfl rfl) fun _ ↦ ?_
  refine Triple.ite (fun hfailed ↦ Triple.pure fun world _ hstate ↦ ?_) fun _ ↦ ?_
  · have htaken := taken_of_itemCaught hstate.1
    obtain ⟨⟨hat, hasked, hkeeps, -, hdrains, -, hopened, hrate, -⟩, -⟩ := hstate
    refine ⟨hat.1.drains.trans hdrains, hat.1.reports, ?_, .inr ⟨hfailed.1, place.request, htaken⟩, hkeeps, hasked⟩
    rw [hopened, hrate]
    exact hat.2
  -- the request is reported, with what its worker has ended with
  have hmeta : Triple ((itemCaught n place log draining playing).and (passed place))
      (ask (.doneMeta place.handle) : Steps (Draining × Failure) Dict)
      (fun doneMeta ↦ ((itemCaught n place log draining playing).and (passed place)).and
        ⟨fun world ↦ draining.interrupted = false → draining.deferredError = none →
          Complete world (draining.report place.request playing doneMeta),
        fun hrely h hgoes hnone ↦ (h hgoes hnone).grows hrely.grows⟩) (raisedIn n) := by
    refine Triple.request fun world hsound hstate oracle ↦ ⟨hsound, hstate, fun hgoes hnone ↦ ?_⟩
    exact (hstate.1.2.2.2.1 hgoes hnone).complete hstate.1.1 rfl rfl rfl
  refine hmeta.bind fun doneMeta ↦ Triple.ite (fun hends ↦ Triple.pure fun world _ hstate ↦ ?_) fun hgoes ↦
    Triple.pure fun world hsound hstate ↦ ?_
  · refine batchPlayed_append hstate.1.1 rfl ?_
    change (draining.interrupted || draining.deferredError.isSome) = true
    rcases hends with hfailed | hinterrupted
    · rw [Option.isSome_iff_ne_none.mpr hfailed, Bool.or_true]
    · rw [hinterrupted, Bool.true_or]
  · obtain ⟨hnone, hgoing⟩ := not_or.mp hgoes
    have hgoing := Bool.eq_false_iff.mpr hgoing
    have hnone := not_not.mp hnone
    have htaken := taken_of_itemCaught hstate.1.1
    obtain ⟨⟨⟨hat, -, hkeeps, hwhole, hdrains, -, hopened, hrate, hfailed⟩, hpassed⟩, hcomplete⟩ := hstate
    obtain ⟨-, chunks, -, -, -, -, hflowing⟩ := hwhole hgoing hnone
    refine ⟨hat.1.drains.trans hdrains, hat.1.reports, ?_, ?_, released_of_passed hsound hat.1 hpassed, ?_,
      keeps_append hkeeps fun _ _ ↦ hcomplete hgoing hnone, hgoing, hnone, hfailed hnone⟩
    · change hasPlayer draining.opened draining.sampleRate world
      rw [hopened, hrate]
      exact hat.2
    · change ∃ log, flowing draining.opened log [] draining.sampleRate world
      rw [hopened, hrate]
      rw [flowing] at hflowing
      split_ifs at hflowing with hplaying
      · obtain ⟨waves, -, -, haudio⟩ := hflowing
        refine ⟨log ++ waves, ?_⟩
        rw [flowing, if_pos hplaying]
        refine ⟨[], rfl, ?_, ?_⟩
        · intro wave hwave
          cases hwave
        · rw [List.append_nil]
          exact haudio
      · refine ⟨[], ?_⟩
        rw [flowing, if_neg hplaying]
        exact ⟨hflowing.1, rfl, rfl⟩
    · rw [htaken, List.map_append]
      rfl

end AfterItem

/-! ### The loop over the queue -/

section Loop

variable {n : ℕ} {draining : Draining}

/-- What the loop over a request's chunks comes to, caught. -/
def outcomeAt (n : ℕ) (place : Place) (log : List (String × Wave)) (draining : Draining) :
    Except (Playing × Failure) Playing → Claim
  | .error (_, .exhausted) => .any
  | outcome => itemCaught n place log (draining.caught outcome).1 (draining.caught outcome).2

theorem outcomeAt_of_ne {log : List (String × Wave)} {raised : Playing × Failure} (hraised : raised.2 ≠ .exhausted) :
    outcomeAt n place log draining (.error raised) =
      itemCaught n place log (draining.caught (.error raised)).1 (draining.caught (.error raised)).2 := by
  obtain ⟨playing, _ | _ | _⟩ := raised
  · rfl
  · rfl
  · exact absurd rfl hraised

theorem triple_rounds_attempt {log : List (String × Wave)} (rounds : ℕ) (hfailed : draining.playbackFailed = false) :
    Triple (taking n draining place log)
      ((Process.loop ({ opened := draining.opened, sampleRate := draining.sampleRate }, .exhausted)
        (Playing.round rounds place.handle) rounds
          { opened := draining.opened, sampleRate := draining.sampleRate }).attempt :
        Steps (Draining × Failure) (Except (Playing × Failure) Playing))
      (outcomeAt n place log draining) (raisedIn n) := by
  refine Triple.of_fact (fun world _ hstate ↦ hstate.2.1) ?_
  rintro ⟨hdrains, hbefore⟩
  have hrounds := (@triple_rounds place log rounds { opened := draining.opened, sampleRate := draining.sampleRate }).frame
    (keeps_perform n draining.played)
  have htaking : ∀ world, Sound world → taking n draining place log world →
      (itemAt place log { opened := draining.opened, sampleRate := draining.sampleRate }).and
        (keeps n draining.played) world := fun world _ hstate ↦ ⟨hstate.1, hstate.2.2⟩
  refine (hrounds.pre htaking).attempt ?_ ?_
  · rintro playing world - ⟨⟨hat, hasked, hwhole⟩, hkeeps⟩
    exact ⟨hat, hasked, hkeeps, hwhole, hdrains, hbefore, rfl, rfl, fun _ ↦ hfailed⟩
  · rintro raised world - ⟨hat, hkeeps⟩
    by_cases hexhausted : raised.2 = .exhausted
    · obtain ⟨playing, failure⟩ := raised
      obtain rfl : failure = .exhausted := hexhausted
      exact trivial
    · rw [raisedAt, if_neg hexhausted] at hat
      rw [outcomeAt_of_ne hexhausted]
      refine ⟨hat.1, fun hinterrupted ↦ ?_, hkeeps, fun _ hnone ↦ ?_, hdrains, hbefore, rfl, rfl, fun hnone ↦ ?_⟩
      · change raised.1.interrupted = true at hinterrupted
        rw [hat.2] at hinterrupted
        cases hinterrupted
      · cases hnone
      · cases hnone

theorem triple_playItem (rounds : ℕ) (request : PlaybackRequest) (handle : ℕ) (hfailed : draining.playbackFailed = false) :
    Triple (takenAt n draining request handle) (draining.playItem rounds request handle)
      (Sum.elim (between n) (batchPlayed n)) (raisedIn n) := by
  refine Triple.of_exists (fun named : List (PlaybackRequest × ℕ) × List (String × Wave) ↦
    taking n draining ⟨n, named.1, request, handle⟩ named.2) ?_ ?_
  · rintro ⟨before, log⟩
    refine (@triple_rounds_attempt ⟨n, before, request, handle⟩ n draining log rounds hfailed).bind fun outcome ↦ ?_
    have hrest : ∀ (next : Draining) (playing : Playing),
        Triple (itemCaught n ⟨n, before, request, handle⟩ log next playing) (do
          (releaseItem request handle playing).mapError (next, ·)
          next.afterItem request handle playing : Steps (Draining × Failure) (Draining ⊕ Draining))
          (Sum.elim (between n) (batchPlayed n)) (raisedIn n) := by
      intro next playing
      have hrelease := @triple_releaseItem (itemCaught n ⟨n, before, request, handle⟩ log next playing)
        ⟨n, before, request, handle⟩ (fun world hstate ↦ hstate.1.1) playing
      refine (hrelease.mapError fun failure world _ hstate ↦ raisedIn_of_begun ?_).bind fun _ ↦ triple_afterItem
      exact ⟨hstate.1.1.drains, hstate.1.1.reports⟩
    rcases outcome with ⟨playing, _ | _ | _⟩ | playing
    · exact hrest _ _
    · exact hrest _ _
    · exact Triple.throw fun _ _ _ ↦ raisedIn_exhausted
    · exact hrest _ _
  · rintro world - ⟨before, log, hstate⟩
    exact ⟨(before, log), hstate⟩

theorem triple_draining_round (rounds : ℕ) (draining : Draining) :
    Triple (between n draining) (draining.round rounds) (Sum.elim (between n) (batchPlayed n)) (raisedIn n) := by
  refine Triple.of_fact (fun world _ hstate ↦ (hstate : Between n draining world).goes) ?_
  rintro ⟨hgoes, hnone, hfailed⟩
  refine (triple_quiet (by decide)).bind fun _ ↦ triple_takeHead.bind fun head ↦ ?_
  rcases head with _ | ⟨request, handle⟩
  · refine Triple.pure fun world _ hstate ↦ ?_
    have hbetween : Between n draining world := hstate
    refine ⟨hbetween.drains, hbetween.reports, hbetween.player, .inl hbetween.played, hbetween.complete, fun hasked ↦ ?_⟩
    rw [hgoes] at hasked
    cases hasked
  · exact triple_playItem rounds request handle hfailed

theorem triple_batch (rounds : ℕ) :
    Triple (between n {}) (Process.loop (({} : Draining), Failure.exhausted) (Draining.round rounds) rounds {})
      (batchPlayed n) (raisedIn n) :=
  Triple.loop (between n) (triple_draining_round rounds) (fun _ _ _ _ ↦ raisedIn_exhausted) rounds {}

end Loop

/-! ### The end of the player -/

def ended : Claim where
  Holds world := Ended world.batch
  stable hrely h := h.rely hrely

/-- The player has no input any more. -/
def stdinClosed : Claim where
  Holds world := ∀ player, world.batch.player = some player → player.stdinOpen = false
  stable := by
    intro world later hrely h next hnext
    cases hplayer : world.batch.player with
    | none =>
      rw [hrely.noPlayer hplayer] at hnext
      cases hnext
    | some player =>
      obtain ⟨other, hother, hmore⟩ := hrely.player player hplayer
      obtain rfl := Option.some.inj (hother.symm.trans hnext)
      exact hmore.stdinOpen (h player hplayer)

/-- The player has ended with this code. -/
def returned (returncode : ℤ) : Claim where
  Holds world := ∃ player, world.batch.player = some player ∧ player.returncode = some returncode
  stable := by
    rintro world later hrely ⟨player, hplayer, hreturncode⟩
    obtain ⟨next, hnext, hmore⟩ := hrely.player player hplayer
    exact ⟨next, hnext, hmore.returncode returncode hreturncode⟩

theorem triple_terminate : Triple P terminateProcess (fun _ ↦ P.and ended) fun _ ↦ P := by
  have hasked : Triple P (ask .terminate : Steps Failure (Attempt Unit))
      (fun answer ↦ P.and ⟨fun world ↦ answer = .ok () → ended world,
        fun hrely h hanswer ↦ ended.stable hrely (h hanswer)⟩) fun _ ↦ P := by
    refine Triple.request fun world hsound hstate oracle ↦ ?_
    have hkept : Kept world (perform oracle .terminate world).2 := kept_perform hsound rfl oracle
    refine ⟨hkept.sound, P.stable hkept.rely hstate, fun hanswer next hnext ↦ ?_⟩
    change (perform oracle .terminate world).2.batch.player = some next at hnext
    change (perform oracle .terminate world).1 = .ok () at hanswer
    simp only [perform] at hanswer hnext
    split_ifs at hanswer hnext with hrunning
    · cases hterminated : oracle.terminated with
      | none =>
        rw [hterminated] at hanswer
        cases hanswer
      | some returncode =>
        rw [hterminated] at hnext
        obtain ⟨player, -, rfl⟩ := Option.map_eq_some_iff.mp hnext
        rfl
    · rw [hnext, Option.any_some, Bool.not_eq_true, Option.isNone_eq_false_iff] at hrunning
      exact hrunning
  refine hasked.bind fun answer ↦ Triple.ofExcept ?_ fun _ _ _ _ hstate ↦ hstate.1
  rintro ⟨⟩ rfl world - ⟨hstate, hended⟩
  exact ⟨hstate, hended rfl⟩

theorem triple_closeStdin {ε : Type} {Raised : ε → Claim} :
    Triple P (ask .closeStdin : Steps ε (Attempt Unit)) (fun _ ↦ P.and stdinClosed) Raised := by
  refine Triple.request fun world hsound hstate oracle ↦ ?_
  have hkept : Kept world (perform oracle .closeStdin world).2 := kept_perform hsound rfl oracle
  refine ⟨hkept.sound, P.stable hkept.rely hstate, fun next hnext ↦ ?_⟩
  obtain ⟨player, -, rfl⟩ := Option.map_eq_some_iff.mp hnext
  rfl

/-- What waiting for the player comes to. -/
def waitedFor : Option ℤ → Claim
  | none => interruptedIf true
  | some returncode => returned returncode

theorem triple_waitForProcess (rounds : ℕ) :
    Triple P (waitForProcess rounds) (fun outcome ↦ P.and (waitedFor outcome)) fun _ ↦ P := by
  refine Triple.loop (fun _ ↦ P) (fun _ ↦ ?_) (fun _ _ _ hstate ↦ hstate) rounds ()
  refine triple_poll.bind fun _ ↦ triple_shouldInterrupt.bind fun answer ↦ Triple.ite (fun hanswer ↦ ?_) fun _ ↦ ?_
  · exact Triple.pure fun _ _ hstate ↦ ⟨hstate.1, fun _ ↦ hstate.2 hanswer⟩
  have hwait : Triple (P.and (interruptedIf answer)) (ask .waitPlayer : Steps Failure (Option ℤ))
      (fun outcome ↦ P.and ⟨fun world ↦ ∀ returncode, outcome = some returncode → returned returncode world,
        fun hrely h returncode houtcome ↦ (returned _).stable hrely (h returncode houtcome)⟩) fun _ ↦ P := by
    refine Triple.request fun world hsound hstate oracle ↦ ⟨hsound, hstate.1, fun returncode houtcome ↦ ?_⟩
    exact Option.bind_eq_some_iff.mp houtcome
  refine hwait.bind fun outcome ↦ ?_
  cases outcome with
  | some returncode => exact Triple.pure fun _ _ hstate ↦ ⟨hstate.1, hstate.2 returncode rfl⟩
  | none =>
    refine (triple_drop (triple_quiet rfl)).bind fun timedOut ↦ Triple.ite (fun _ ↦ ?_) fun _ ↦ ?_
    · exact Triple.throw fun _ _ hstate ↦ hstate.1
    · exact Triple.pure fun _ _ hstate ↦ hstate.1

/-- The batch has been settled: the player has ended, and every report of a request that was not interrupted holds. -/
structure Settled (n : ℕ) (draining : Draining) (reports : List Report) (world : World) : Prop where
  begun : begun n world
  accounted : world.batch.taken.map Prod.fst = draining.played.map Report.request ∨
    draining.deferredError ≠ none ∧
      ∃ last, world.batch.taken.map Prod.fst = draining.played.map Report.request ++ [last]
  complete : keeps n reports world
  ended : Ended world.batch
  closed : ∀ report ∈ reports, report.interrupted = false → Closed world.batch

def settled (n : ℕ) (draining : Draining) (invalidate : Bool) : Claim where
  Holds := Settled n draining (draining.reports invalidate)
  stable hrely h :=
    { begun := (begun n).stable hrely h.begun
      accounted := by
        rw [hrely.taken]
        exact h.accounted
      complete := (keeps _ _).stable hrely h.complete
      ended := h.ended.rely hrely
      closed := fun report hreport hgoes ↦ (h.closed report hreport hgoes).rely hrely }

section Close

variable {n : ℕ} {draining : Draining} {world : World}

/-- A batch that is invalidated claims nothing. -/
theorem BatchPlayed.invalidated (h : BatchPlayed n draining world) (hended : Ended world.batch) :
    Settled n draining (draining.reports true) world := by
  have hinterrupted : ∀ report ∈ draining.reports true, report.interrupted = true := by
    intro report hreport
    rw [Draining.reports, if_pos rfl] at hreport
    obtain ⟨old, -, rfl⟩ := List.mem_map.mp hreport
    rfl
  refine ⟨⟨h.drains, h.reports⟩, h.accounted, ⟨h.complete.1, fun _ report hreport hgoes ↦ ?_⟩, hended,
    fun report hreport hgoes ↦ ?_⟩
  · rw [hinterrupted report hreport] at hgoes
    cases hgoes
  · rw [hinterrupted report hreport] at hgoes
    cases hgoes

theorem BatchPlayed.settled (h : BatchPlayed n draining world) (hended : Ended world.batch) (hclosed : Closed world.batch) :
    Settled n draining (draining.reports false) world :=
  ⟨⟨h.drains, h.reports⟩, h.accounted, h.complete, hended, fun _ _ _ ↦ hclosed⟩

theorem triple_closePlayer (rounds : ℕ) :
    Triple (batchPlayed n draining) (draining.closePlayer rounds) (settled n draining) fun _ ↦ begun n := by
  have hbegun : ∀ world, batchPlayed n draining world → begun n world := fun world h ↦ ⟨h.drains, h.reports⟩
  refine Triple.ite (fun hopened ↦ Triple.pure fun world _ hstate ↦ ?_) fun _ ↦ ?_
  · have hnone : ∀ player, world.batch.player ≠ some player := by
      intro player hplayer
      have hsome := hstate.player.1
      rw [hopened, hplayer] at hsome
      cases hsome
    exact hstate.settled (fun player hplayer ↦ absurd hplayer (hnone player))
      (.inr fun player hplayer ↦ absurd hplayer (hnone player))
  refine Triple.ite (fun hstops ↦ ?_) fun _ ↦ ?_
  · have hterminate := triple_terminate (P := batchPlayed n draining)
    refine (hterminate.raises fun _ world _ hstate ↦ hbegun world hstate).bind fun _ ↦ Triple.pure fun world _ hstate ↦ ?_
    obtain ⟨hplayed, hended⟩ := hstate
    cases hfailed : draining.playbackFailed with
    | true => exact hplayed.invalidated hended
    | false =>
      refine hplayed.settled hended (.inl (hplayed.interrupted (hstops.resolve_right ?_)))
      rw [hfailed]
      exact Bool.false_ne_true
  · have hdrop : ∀ {α : Type} {program : Steps Failure α} {Post : α → Claim},
        Triple ((batchPlayed n draining).and stdinClosed) program Post
          (fun _ ↦ (batchPlayed n draining).and stdinClosed) →
        Triple ((batchPlayed n draining).and stdinClosed) program Post fun _ ↦ begun n :=
      fun h ↦ h.raises fun _ world _ hstate ↦ hbegun world hstate.1
    refine triple_closeStdin.bind fun answer ↦ (hdrop triple_answer).bind fun _ ↦
      (hdrop (triple_waitForProcess rounds)).bind fun outcome ↦ ?_
    cases outcome with
    | none =>
      have hterminate := triple_terminate (P := ((batchPlayed n draining).and stdinClosed).and (waitedFor none))
      refine (hterminate.raises fun _ world _ hstate ↦ hbegun world hstate.1.1).bind fun _ ↦
        Triple.pure fun world _ hstate ↦ ?_
      exact hstate.1.1.1.invalidated hstate.2
    | some returncode =>
      refine Triple.ite (fun hzero ↦ Triple.pure fun world _ hstate ↦ ?_) fun _ ↦ ?_
      · obtain ⟨⟨hplayed, hstdin⟩, player, hplayer, hreturncode⟩ := hstate
        refine hplayed.settled (fun next hnext ↦ ?_) (.inr fun next hnext ↦ ⟨hstdin next hnext, ?_⟩)
        · obtain rfl := Option.some.inj (hplayer.symm.trans hnext)
          rw [hreturncode]
          rfl
        · obtain rfl := Option.some.inj (hplayer.symm.trans hnext)
          rw [hreturncode, hzero]
      · have hplayed : ∀ world, ((batchPlayed n draining).and stdinClosed).and (waitedFor (some returncode)) world →
            begun n world := fun world hstate ↦ hbegun world hstate.1.1
        refine (triple_quiet rfl).bind fun detail ↦ (triple_answer.raises fun _ world _ hstate ↦ hplayed world hstate).bind
          fun _ ↦ Triple.throw fun world _ hstate ↦ hplayed world hstate

end Close

end VoiceHarness.Playback
