import VoiceHarness.Playback.Batch

/-!
# Drains among the threads

The whole of `drain` keeps the queue sound (`triple_drain`), so every run of drains among the other threads does,
whatever the workers, the player, the callbacks and the chunk files do. Of every such run: a drain reports what it has
taken, in order and once, or it raises; no report comes before the player has ended; a report that was not interrupted
was played as a whole; and the chunk files and the workers at work belong to queued requests.
-/

set_option autoImplicit false
set_option relaxedAutoImplicit false

namespace VoiceHarness.Playback

open Library Process

/-! ### The whole drain -/

section Whole

variable {n : ℕ} {draining : Draining} {world : World}

theorem Sound.begin (h : Sound world) :
    Sound { world with draining := true, drains := world.drains + 1, batch := {} } := by
  refine ⟨⟨h.created, h.atWork, h.files, h.stopped, h.released⟩, ⟨h.window, h.sorted, h.issued, ?_, ?_, ?_, ?_⟩, ?_, ?_⟩
  · exact List.Pairwise.nil
  · exact fun _ hmem ↦ absurd hmem List.not_mem_nil
  · exact fun _ hmem ↦ absurd hmem List.not_mem_nil
  · exact fun _ hmem ↦ absurd hmem List.not_mem_nil
  · exact fun hsome ↦ absurd rfl hsome
  · exact fun _ hmem ↦ absurd hmem List.not_mem_nil

/-- A drain that has begun has taken nothing. -/
def fresh : Claim where
  Holds world := ∃ n, between n {} world
  stable := by
    rintro world later hrely ⟨n, h⟩
    exact ⟨n, (between n {}).stable hrely h⟩

theorem triple_begin {ε : Type} {Raised : ε → Claim} :
    Triple .any (ask .begin : Steps ε Unit) (fun _ ↦ fresh) Raised := by
  refine Triple.request fun world hsound _ oracle ↦ ⟨hsound.begin, world.drains + 1, ?_⟩
  have hnone : ∀ player, (none : Option Player) ≠ some player := fun player ↦ Option.some_ne_none player |>.symm
  refine ⟨rfl, rfl, ⟨rfl, fun player hplayer ↦ absurd hplayer (hnone player)⟩, ⟨[], rfl, rfl, rfl⟩, ?_, rfl, ⟨le_rfl, ?_⟩,
    rfl, rfl, rfl⟩
  · exact fun _ hmem ↦ absurd hmem List.not_mem_nil
  · exact fun _ _ hmem ↦ absurd hmem List.not_mem_nil

/-- What the `try` of a drain comes to. -/
theorem triple_drainBatch (rounds : ℕ) :
    Triple (between n {}) (drainBatch rounds) (fun outcome ↦ settled n outcome.1 outcome.2) (raisedIn n) := by
  have hbatch := (triple_batch rounds).mapError (f := fun raised : Draining × Failure ↦ (raised.1.opened, raised.2))
    fun raised world _ (hstate : raisedIn n raised world) ↦ (show raisedIn n (raised.1.opened, raised.2) world from hstate)
  refine hbatch.bind fun played ↦ ?_
  refine ((triple_closePlayer rounds).mapError fun failure world _ hstate ↦ raisedIn_of_begun hstate).bind fun invalidate ↦ ?_
  exact Triple.pure fun _ _ hstate ↦ hstate

theorem triple_finishDrain {P : Claim} (opened : Bool) : Triple P (finishDrain opened) (fun _ ↦ P) fun _ ↦ P :=
  (triple_terminateRunning opened).bind fun _ ↦ triple_quiet rfl

/-! ### The reports -/

/-- A batch that has been settled, some of whose reports have been delivered. -/
structure Delivering (n : ℕ) (draining : Draining) (reports done : List Report) (world : World) : Prop where
  drains : world.drains = n
  delivered : world.batch.reports = done
  accounted : world.batch.taken.map Prod.fst = draining.played.map Report.request ∨
    draining.deferredError ≠ none ∧
      ∃ last, world.batch.taken.map Prod.fst = draining.played.map Report.request ++ [last]
  complete : keeps n reports world
  ended : Ended world.batch
  closed : ∀ report ∈ reports, report.interrupted = false → Closed world.batch

def delivering (n : ℕ) (draining : Draining) (reports done : List Report) : Claim where
  Holds := Delivering n draining reports done
  stable hrely h :=
    { drains := hrely.drains.trans h.drains
      delivered := hrely.reports.trans h.delivered
      accounted := by
        rw [hrely.taken]
        exact h.accounted
      complete := (keeps _ _).stable hrely h.complete
      ended := h.ended.rely hrely
      closed := fun report hreport hgoes ↦ (h.closed report hreport hgoes).rely hrely }

/-- Some of the reports have been delivered, from the first one on. -/
def deliveredSome (n : ℕ) (draining : Draining) (reports : List Report) : Claim where
  Holds world := ∃ done, done <+: reports ∧ delivering n draining reports done world
  stable := by
    rintro world later hrely ⟨done, hprefix, h⟩
    exact ⟨done, hprefix, (delivering _ _ _ _).stable hrely h⟩

theorem triple_onPlayed {ε : Type} {Raised : ε → Claim} {reports done : List Report} {report : Report}
    (hreport : report ∈ reports) :
    Triple (delivering n draining reports done) (ask (.onPlayed report) : Steps ε (Attempt Unit))
      (fun _ ↦ delivering n draining reports (done ++ [report])) Raised := by
  refine Triple.request fun world hsound hstate oracle ↦ ?_
  have h : Delivering n draining reports done world := hstate
  have hgrows : Grows world (perform oracle (.onPlayed report) world).2 := grows_perform (by simp) oracle
  refine ⟨⟨hsound.toSoundHandles.withBatch _, ?_, fun _ ↦ h.ended, fun other hother hgoes ↦ ?_⟩, ?_⟩
  · exact ⟨hsound.window, hsound.sorted, hsound.issued, hsound.takenSorted, hsound.takenIssued, hsound.overtaken,
      hsound.removed⟩
  · rcases List.mem_append.mp hother with hold | hnew
    · obtain ⟨hcomplete, hclosed⟩ := hsound.complete other hold hgoes
      exact ⟨hcomplete.grows hgrows, hclosed⟩
    · obtain rfl := List.mem_singleton.mp hnew
      exact ⟨(h.complete.2 h.drains other hreport hgoes).grows hgrows, h.closed other hreport hgoes⟩
  · refine ⟨h.drains, ?_, h.accounted, keeps_perform n reports oracle (.onPlayed report) world hsound h.complete, h.ended,
      h.closed⟩
    rw [← h.delivered]
    rfl

theorem triple_deliver {reports : List Report} (rest done : List Report) (hreports : done ++ rest = reports) :
    Triple (delivering n draining reports done) (deliver rest) (fun _ ↦ delivering n draining reports reports)
      fun _ ↦ deliveredSome n draining reports := by
  induction rest generalizing done with
  | nil =>
    rw [List.append_nil] at hreports
    subst hreports
    exact Triple.pure fun _ _ hstate ↦ hstate
  | cons report rest ih =>
    have hmem : report ∈ reports := by
      rw [← hreports]
      exact List.mem_append_right _ List.mem_cons_self
    have hmore : done ++ [report] ++ rest = reports := by rw [List.append_assoc, List.singleton_append, hreports]
    refine (triple_onPlayed hmem).bind fun answer ↦ ?_
    refine (triple_answer.raises fun _ world _ hstate ↦ ?_).bind fun _ ↦ ih (done ++ [report]) hmore
    exact ⟨done ++ [report], ⟨rest, hmore⟩, hstate⟩

/-! ### What a drain comes to -/

/-- What a drain returns is what it has reported, one report for each request that it has taken. Where it raises, it has
reported the first of them. -/
structure Accounted (outcome : Except Failure (List Report)) (world : World) : Prop where
  returned : ∀ played, outcome = .ok played →
    world.batch.reports = played ∧ played.map Report.request = world.batch.taken.map Prod.fst
  raised : ∀ failure, outcome = .error failure → failure ≠ .exhausted →
    world.batch.reports.map Report.request <+: world.batch.taken.map Prod.fst

def accounted (outcome : Except Failure (List Report)) : Claim where
  Holds := Accounted outcome
  stable hrely h :=
    { returned := by
        rw [hrely.reports, hrely.taken]
        exact h.returned
      raised := by
        rw [hrely.reports, hrely.taken]
        exact h.raised }

theorem accounted_exhausted : Accounted (.error .exhausted) world where
  returned played hplayed := by cases hplayed
  raised failure hfailure hne := absurd (Except.error.inj hfailure).symm hne

theorem accounted_of_prefix {failure : Failure}
    (h : world.batch.reports.map Report.request <+: world.batch.taken.map Prod.fst) : Accounted (.error failure) world where
  returned played hplayed := by cases hplayed
  raised _ _ _ := h

theorem accounted_of_begun {failure : Failure} (h : begun n world) : Accounted (.error failure) world := by
  refine accounted_of_prefix ?_
  rw [h.2]
  exact List.nil_prefix

/-- The requests of the reports, whether they are invalidated or not. -/
theorem map_request_reports (draining : Draining) (invalidate : Bool) :
    (draining.reports invalidate).map Report.request = draining.played.map Report.request := by
  rw [Draining.reports]
  split_ifs
  · rw [List.map_map]
    rfl
  · rfl

theorem Delivering.requests {invalidate : Bool} {done : List Report}
    (h : Delivering n draining (draining.reports invalidate) done world) (hdone : done <+: draining.reports invalidate) :
    world.batch.reports.map Report.request <+: world.batch.taken.map Prod.fst := by
  have hplayed : done.map Report.request <+: draining.played.map Report.request := by
    rw [← map_request_reports draining invalidate]
    exact hdone.map _
  rw [h.delivered]
  rcases h.accounted with htaken | ⟨-, last, htaken⟩
  · rw [htaken]
    exact hplayed
  · rw [htaken]
    exact hplayed.trans (List.prefix_append _ _)

theorem triple_reportBatch (invalidate : Bool) :
    Triple (settled n draining invalidate) (reportBatch draining invalidate)
      (fun played ↦ accounted (.ok played)) (fun failure ↦ accounted (.error failure)) := by
  have hdeliver := @triple_deliver n draining _ (draining.reports invalidate) [] rfl
  refine ((hdeliver.pre fun world _ hstate ↦ ?_).raises fun failure world _ hstate ↦ ?_).bind fun _ ↦ ?_
  · have h : Settled n draining (draining.reports invalidate) world := hstate
    exact ⟨h.begun.1, h.begun.2, h.accounted, h.complete, h.ended, h.closed⟩
  · obtain ⟨done, hprefix, h⟩ := hstate
    exact accounted_of_prefix (Delivering.requests h hprefix)
  · cases hdeferred : draining.deferredError with
    | some failure =>
      refine Triple.throw fun world _ hstate ↦ accounted_of_prefix ?_
      exact Delivering.requests hstate (List.prefix_refl _)
    | none =>
      refine Triple.pure fun world _ hstate ↦ ⟨fun played hplayed ↦ ?_, fun failure hfailure ↦ ?_⟩
      · obtain rfl := Except.ok.inj hplayed
        have h : Delivering n draining (draining.reports invalidate) (draining.reports invalidate) world := hstate
        refine ⟨h.delivered, ?_⟩
        rw [map_request_reports]
        rcases h.accounted with htaken | ⟨hfailed, -⟩
        · exact htaken.symm
        · exact absurd hdeferred hfailed
      · cases hfailure

theorem triple_drain (rounds : ℕ) :
    Triple .any (drain rounds) (fun played ↦ accounted (.ok played)) (fun failure ↦ accounted (.error failure)) := by
  refine triple_begin.bind fun _ ↦ ?_
  refine Triple.of_exists (fun n ↦ between n {}) (fun n ↦ ?_) fun world _ hstate ↦ hstate
  have hbegun : ∀ world, between n {} world → begun n world := by
    intro world hstate
    have h : Between n {} world := hstate
    exact ⟨h.drains, h.reports⟩
  refine (triple_quiet rfl).bind fun slot ↦
    (triple_answer.raises fun _ world _ hstate ↦ accounted_of_begun (hbegun world hstate)).bind fun _ ↦ ?_
  let outcomes : Except (Bool × Failure) (Draining × Bool) → Claim :=
    Assertion.either (fun outcome ↦ settled n outcome.1 outcome.2) (raisedIn n)
  have hbatch : Triple (between n {}) (drainBatch rounds).attempt outcomes fun failure ↦ accounted (.error failure) :=
    (triple_drainBatch rounds).attempt (fun _ _ _ hstate ↦ hstate) fun _ _ _ hstate ↦ hstate
  refine hbatch.bind fun outcome ↦ ?_
  have hraised : ∀ (opened : Bool) (failure : Failure), Triple (begun n) (do
      finishDrain opened
      .throw failure : Steps Failure (List Report))
      (fun played ↦ accounted (.ok played)) (fun failure ↦ accounted (.error failure)) := by
    intro opened failure
    refine ((triple_finishDrain opened).raises fun _ world _ hstate ↦ accounted_of_begun hstate).bind fun _ ↦ ?_
    exact Triple.throw fun world _ hstate ↦ accounted_of_begun hstate
  rcases outcome with ⟨opened, message | message | _⟩ | ⟨draining, invalidate⟩
  · exact hraised opened _
  · exact hraised opened _
  · exact Triple.throw fun _ _ _ ↦ accounted_exhausted
  · refine ((triple_finishDrain draining.opened).raises fun failure world _ hstate ↦ ?_).bind fun _ ↦
      triple_reportBatch invalidate
    exact accounted_of_begun (Settled.begun hstate)

end Whole

/-! ### Runs -/

/-- Drains, one at a time in the playback slot, among the other threads. The task of a drain is the number of its
rounds. -/
def playback : Machine (Hosted ℕ Request Answer Empty (Except Failure (List Report)) World) (Turn Action ℕ Oracle)
    (Option (ℕ × Except Empty (Except Failure (List Report)))) :=
  host setting others fun rounds ↦ (drain rounds).attempt

/-- An empty queue, and no drain. -/
def idle : Hosted ℕ Request Answer Empty (Except Failure (List Report)) World := ⟨{}, none⟩

theorem sound_empty : Sound {} where
  created _ hid := by
    obtain ⟨request, hmem⟩ := hid
    cases hmem
  atWork _ hid _ := absurd hid (Nat.not_lt_zero _)
  files _ _ _ hfile := by cases hfile
  stopped _ hid _ := absurd hid (Nat.not_lt_zero _)
  released _ _ _ _ hfile := by cases hfile
  window := Nat.zero_le _
  sorted := List.Pairwise.nil
  issued _ hmem := absurd hmem List.not_mem_nil
  takenSorted := List.Pairwise.nil
  takenIssued _ hmem := absurd hmem List.not_mem_nil
  overtaken _ hmem := absurd hmem List.not_mem_nil
  removed _ hmem := absurd hmem List.not_mem_nil
  ended hsome := absurd rfl hsome
  complete _ hmem := absurd hmem List.not_mem_nil

theorem safe_drain (rounds : ℕ) (world : World) (hsound : Sound world) :
    Safe setting Accounted ((drain rounds).attempt : Steps Empty (Except Failure (List Report))) world := by
  have hdrain : Triple .any ((drain rounds).attempt : Steps Empty (Except Failure (List Report))) accounted
      fun _ ↦ .any :=
    (triple_drain rounds).attempt (fun _ _ _ hstate ↦ hstate) fun _ _ _ hstate ↦ hstate
  exact hdrain.safe hsound trivial

theorem safe_run (turns : List (Turn Action ℕ Oracle)) :
    (playback.exec idle turns).Safe setting fun _ ↦ Accounted := by
  have hidle : idle.Safe setting fun _ ↦ Accounted := by
    refine ⟨sound_empty, fun task program hrunning ↦ ?_⟩
    cases hrunning
  refine hidle.exec (fun world action hsound ↦ ?_) (fun rounds world hsound ↦ safe_drain rounds world hsound) turns
  have hkept := others_spec hsound action
  exact ⟨hkept.sound, hkept.rely⟩

/-- What a drain has reported of the requests, where it has returned. -/
def spokenOf : Option (ℕ × Except Empty (Except Failure (List Report))) → Option (List (PlaybackRequest × Bool × String))
  | some (_, .ok (.ok played)) => some (played.map fun report ↦ (report.request, report.interrupted, report.playedText))
  | _ => none

theorem spokenOf_eq_some {answer : Option (ℕ × Except Empty (Except Failure (List Report)))}
    {spoken : List (PlaybackRequest × Bool × String)} (h : spokenOf answer = some spoken) :
    ∃ rounds played, answer = some (rounds, .ok (.ok played)) ∧
      (played.map fun report ↦ (report.request, report.interrupted, report.playedText)) = spoken := by
  rcases answer with _ | ⟨rounds, raised | failure | played⟩
  · cases h
  · cases h
  · cases h
  · exact ⟨rounds, played, rfl, Option.some.inj h⟩

def greeting : PlaybackRequest := { ticket := 0, text := "Done.", jobId := some "job-1" }

/-- A request is enqueued, prefetched while the drain waits for its chunk, and played as a whole. -/
def greetingTurns : List (Turn Action ℕ Oracle) :=
  [.act (.enqueue greeting), .start 4] ++ List.replicate 4 (.proceed {}) ++
    [.act (.noteChunk 0 ⟨"0000.wav", "Done."⟩ 24000 ⟨1, 2, 24000, [1, 2]⟩), .act (.endWorker 0 (.ok []))] ++
    List.replicate 28 (.proceed {}) ++ [.act (.endPlayer 0)] ++ List.replicate 6 (.proceed {})

section Runs

variable {turns : List (Turn Action ℕ Oracle)}

/-- The queue stays in the order in which its requests were enqueued, no drain takes a request before one that was
enqueued earlier, and of the requests behind the first one at most `PREFETCH_LIMIT` have a worker. -/
theorem queue_in_order :
    ((playback.exec idle turns).world.items.map fun item ↦ item.1.ticket).Pairwise (· < ·) ∧
      (∀ first ∈ (playback.exec idle turns).world.batch.taken, ∀ item ∈ (playback.exec idle turns).world.items,
        first.1.ticket ≤ item.1.ticket) ∧
      active (playback.exec idle turns).world.items.tail ≤ prefetchLimit := by
  have hsound := (safe_run turns).invariant
  exact ⟨hsound.sorted, hsound.overtaken, hsound.window⟩

/-- Whatever the threads, the workers and the player do: a drain that returns has called `on_played` once for each
request that it has taken, in the order of the queue, and has removed no other; one that raises has called it for the
first of them. -/
theorem drained_accounted {turn : Turn Action ℕ Oracle} {rounds : ℕ} {outcome : Except Failure (List Report)}
    (h : (playback.step (playback.exec idle turns) turn).2 = some (rounds, .ok outcome)) :
    Accounted outcome (playback.exec idle turns).world ∧
      (∀ request ∈ (playback.exec idle turns).world.batch.removed,
        request ∈ (playback.exec idle turns).world.batch.taken.map Prod.fst) ∧
      ((playback.exec idle turns).world.batch.taken.map fun taken ↦ taken.1.ticket).Pairwise (· < ·) := by
  have hstep := (safe_run turns).step
    (fun world action hsound ↦ ⟨(others_spec hsound action).sound, (others_spec hsound action).rely⟩)
    (fun rounds world hsound ↦ safe_drain rounds world hsound) turn
  have hsound := (safe_run turns).invariant
  exact ⟨hstep.2 rounds outcome h, hsound.removed, hsound.takenSorted⟩

theorem drained_accounted_greeting :
    ∃ played, (played.map fun report ↦ (report.request, report.interrupted, report.playedText)) =
        [(greeting, false, "Done.")] ∧
      Accounted (.ok played) (playback.exec idle greetingTurns).world ∧
      (∀ request ∈ (playback.exec idle greetingTurns).world.batch.removed,
        request ∈ (playback.exec idle greetingTurns).world.batch.taken.map Prod.fst) ∧
      ((playback.exec idle greetingTurns).world.batch.taken.map fun taken ↦ taken.1.ticket).Pairwise (· < ·) := by
  have hreturned : spokenOf (playback.step (playback.exec idle greetingTurns) (.proceed {})).2 =
      some [(greeting, false, "Done.")] := by decide +kernel
  obtain ⟨rounds, played, hanswer, hspoken⟩ := spokenOf_eq_some hreturned
  exact ⟨played, hspoken, drained_accounted hanswer⟩

end Runs

end VoiceHarness.Playback
