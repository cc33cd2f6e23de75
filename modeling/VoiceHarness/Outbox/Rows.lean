import VoiceHarness.Outbox.Store

/-!
# What one outbox call does to one row

`RowStep` lists the ways a statement may rewrite a row, each with the guard of its `WHERE` clause
and, for a completed observation, what the store's fence check leaves possible: a row whose submit
fence is recorded is never completed as `failed-retryable`. `evolves_step` says that a call of the
outbox machine moves every row along such steps and appends freshly admitted rows, and is the one
place where the calls are unfolded. A property of rows kept by `RowStep` is then kept by every call
(`Holds.step`).
-/

set_option autoImplicit false
set_option relaxedAutoImplicit false

namespace VoiceHarness

open Relation

/-- One rewriting of a row by a statement. -/
inductive RowStep : OutboxRow → OutboxRow → Prop
  | abandon (row : OutboxRow) (outcome : Dict) (now : Time) (hrow : row.unleased) :
    RowStep row { row with
      status := .failed, outcome := some outcome, completedAt := some now, nextAt := none }
  | lease (row : OutboxRow) (hold : OutboxHold) (hrow : row.unleased) :
    RowStep row { row with status := .running, hold := some hold, attempts := row.attempts + 1 }
  | fence (row : OutboxRow) (leaseToken : String) (hrow : row.heldBy row.effectId leaseToken) :
    RowStep row { row with outcome := some OutboxRow.submitFence }
  | renew (row : OutboxRow) (leaseToken : String) (now : Time)
      (hrow : row.heldBy row.effectId leaseToken) :
    RowStep row { row with hold := some ⟨leaseToken, now⟩ }
  | complete (row : OutboxRow) (leaseToken : String) (completion : OutboxTable.Completion)
      (hrow : row.heldBy row.effectId leaseToken)
      (hstatus : completion.status = .failedRetryable ∨ completion.status.isTerminal)
      (hfence : row.dispatched → completion.status ≠ .failedRetryable) :
    RowStep row (completion.write row)

/-- A statement leaves the cells written at admission alone. -/
theorem RowStep.toOutboxEffect_eq {row row' : OutboxRow} (h : RowStep row row') :
    row'.toOutboxEffect = row.toOutboxEffect := by
  cases h <;> rfl

/-- A row as `INSERT INTO outbox` leaves it. -/
def OutboxRow.Admitted (row : OutboxRow) : Prop := row = { toOutboxEffect := row.toOutboxEffect }

/-- The rows after a call: the old rows in their places, each moved along row steps, and then the
admitted rows. -/
def Evolves (before after : List OutboxRow) : Prop :=
  ∃ kept fresh, after = kept ++ fresh ∧ List.Forall₂ (ReflTransGen RowStep) before kept ∧
    ∀ row ∈ fresh, row.Admitted

section

variable {R : OutboxRow → OutboxRow → Prop}

theorem forall₂_rowRuns_refl (rows : List OutboxRow) :
    List.Forall₂ (ReflTransGen R) rows rows :=
  List.forall₂_same.mpr fun _ _ ↦ .refl

theorem forall₂_rowRuns_trans {first middle last : List OutboxRow}
    (hfirst : List.Forall₂ (ReflTransGen R) first middle)
    (hlast : List.Forall₂ (ReflTransGen R) middle last) :
    List.Forall₂ (ReflTransGen R) first last := by
  induction hfirst generalizing last with
  | nil =>
    cases hlast
    exact .nil
  | cons hrow _ ih =>
    cases hlast with
    | cons hrow' hrows' => exact .cons (hrow.trans hrow') (ih hrows')

end

theorem Evolves.refl (rows : List OutboxRow) : Evolves rows rows :=
  ⟨rows, [], (List.append_nil rows).symm, forall₂_rowRuns_refl rows, by simp⟩

theorem Evolves.of_rowRuns {before after : List OutboxRow}
    (h : List.Forall₂ (ReflTransGen RowStep) before after) : Evolves before after :=
  ⟨after, [], (List.append_nil after).symm, h, by simp⟩

namespace OutboxTable

section

variable {R : OutboxRow → OutboxRow → Prop}

/-- An update whose write is a step on every matching row moves the rows along steps. -/
theorem update_rowRuns (table : OutboxTable) (matching : OutboxRow → Bool)
    (write : OutboxRow → OutboxRow)
    (hstep : ∀ row ∈ table.rows, matching row → R row (write row))
    (hwrite : ∀ row, (write row).toOutboxEffect = row.toOutboxEffect := by intro _; rfl) :
    List.Forall₂ (ReflTransGen R) table.rows (table.update matching write hwrite).rows := by
  refine List.forall₂_map_right_iff.mpr (List.forall₂_same.mpr fun row hrow ↦ ?_)
  split_ifs with hmatching
  · exact .single (hstep row hrow hmatching)
  · exact .refl

theorem completeOutboxObservation_rowRuns (table : OutboxTable)
    (effectId idempotencyKey leaseToken : String) (completion : Completion)
    (hstep : ∀ row ∈ table.rows, row.heldBy effectId leaseToken → R row (completion.write row)) :
    List.Forall₂ (ReflTransGen R) table.rows
      (table.completeOutboxObservation effectId idempotencyKey leaseToken completion).1.rows := by
  unfold completeOutboxObservation
  split
  · exact forall₂_rowRuns_refl _
  · split_ifs
    · exact forall₂_rowRuns_refl _
    · exact forall₂_rowRuns_refl _
    · exact forall₂_rowRuns_refl _
    · exact table.update_rowRuns _ _ hstep

end

theorem heldBy_iff {row : OutboxRow} {effectId leaseToken : String} :
    row.heldBy effectId leaseToken = true ↔
      row.effectId = effectId ∧ row.leaseToken = some leaseToken ∧ row.status = .running := by
  simp only [OutboxRow.heldBy, Bool.and_eq_true, decide_eq_true_eq, and_assoc]

theorem heldBy_effectId {row : OutboxRow} {effectId leaseToken : String}
    (h : row.heldBy effectId leaseToken) : row.heldBy row.effectId leaseToken :=
  heldBy_iff.mpr ⟨rfl, (heldBy_iff.mp h).2⟩

/-- The primary key finds the row of an effect. -/
theorem eq_of_effectId_eq {table : OutboxTable} {row row' : OutboxRow} (hrow : row ∈ table.rows)
    (hrow' : row' ∈ table.rows) (h : row.effectId = row'.effectId) : row = row' :=
  List.inj_on_of_nodup_map table.effectId_unique hrow hrow' h

theorem mem_of_load {table : OutboxTable} {effectId : String} {row : OutboxRow}
    (h : table.load effectId = some row) : row ∈ table.rows ∧ row.effectId = effectId :=
  ⟨List.mem_of_find?_eq_some h, by simpa using List.find?_some h⟩

/-- A completed observation of one effect leaves the rows of the others in the table. -/
theorem mem_completeOutboxObservation {table : OutboxTable} {row : OutboxRow}
    (hrow : row ∈ table.rows) {effectId : String} (hne : row.effectId ≠ effectId)
    (idempotencyKey leaseToken : String) (completion : Completion) :
    row ∈ (table.completeOutboxObservation effectId idempotencyKey leaseToken
      completion).1.rows := by
  have hcomplete : row ∈ (table.complete effectId leaseToken completion).rows := by
    refine List.mem_map.mpr ⟨row, hrow, if_neg ?_⟩
    simp [OutboxRow.heldBy, hne]
  unfold completeOutboxObservation
  split
  · exact hrow
  · split_ifs <;> assumption

theorem load_of_mem {table : OutboxTable} {row : OutboxRow} (hrow : row ∈ table.rows) :
    table.load row.effectId = some row := by
  cases hload : table.load row.effectId with
  | none =>
    have hnone := List.find?_eq_none.mp hload row hrow
    simp at hnone
  | some found =>
    obtain ⟨hfound, hid⟩ := mem_of_load hload
    rw [eq_of_effectId_eq hfound hrow hid]

/-- Admission keeps the old rows in place and appends admitted ones. -/
theorem insertOutboxEffects_rows (effects : List OutboxEffect) {table table' : OutboxTable}
    (h : table.insertOutboxEffects effects = some table') :
    ∃ fresh, table'.rows = table.rows ++ fresh ∧ ∀ row ∈ fresh, row.Admitted := by
  induction effects generalizing table with
  | nil =>
    cases h
    exact ⟨[], (List.append_nil _).symm, by simp⟩
  | cons effect effects ih =>
    obtain ⟨inserted, hinsert, hrest⟩ := Option.bind_eq_some_iff.mp h
    obtain ⟨fresh, hrows, hfresh⟩ := ih hrest
    unfold insert at hinsert
    split_ifs at hinsert with hkeys
    cases hinsert
    refine ⟨{ toOutboxEffect := effect } :: fresh, by rw [hrows, List.append_assoc]; rfl, ?_⟩
    intro row hrow
    rcases List.mem_cons.mp hrow with rfl | hrow
    · rfl
    · exact hfresh row hrow

end OutboxTable

namespace OutboxDb

open OutboxTable

/-- The rows `abandon_stale_outbox_effects` writes are waiting and unleased. -/
theorem unleased_of_staleAdmission {revision : String → Option ℕ} {kinds : List String}
    {row : OutboxRow} (h : staleAdmission revision kinds row) : row.unleased := by
  simp only [staleAdmission, Bool.and_eq_true] at h
  exact h.1.2

/-- The status an observation is completed with. -/
theorem completionOf_status (effective : EffectObservation) (now : Time) :
    (completionOf effective now).status = .failedRetryable ∨
      (completionOf effective now).status.isTerminal := by
  unfold completionOf
  dsimp only
  split_ifs <;> simp [OutboxStatus.isTerminal]

/-- Past the submit fence no observation schedules a retry. -/
theorem completionOf_effective_of_dispatched {row : OutboxRow} (hrow : row.dispatched)
    (lease : OutboxLease) (observation : EffectObservation) (now : Time) :
    (completionOf (effectiveObservation row lease observation) now).status ≠
      .failedRetryable := by
  by_cases hretry : observation.retryable = true
  · simp [effectiveObservation, completionOf, hretry, hrow]
  · have heffective : effectiveObservation row lease observation = observation := by
      simp [effectiveObservation, hretry]
    rw [heffective]
    unfold completionOf
    simp only [hretry]
    split_ifs <;> simp_all

theorem reapCompletion_status (row : OutboxRow) (now : Time) :
    (reapCompletion row now).status = .failedRetryable ∨
      (reapCompletion row now).status.isTerminal := by
  unfold reapCompletion
  split_ifs <;> simp [OutboxStatus.isTerminal]

theorem reapCompletion_of_dispatched {row : OutboxRow} (hrow : row.dispatched) (now : Time) :
    (reapCompletion row now).status ≠ .failedRetryable := by
  simp [reapCompletion, hrow]

theorem releaseCompletion_status (lease : OutboxLease) (error : Option String) (now : Time) :
    (releaseCompletion lease error now).status = .failedRetryable ∨
      (releaseCompletion lease error now).status.isTerminal := by
  unfold releaseCompletion
  dsimp only
  split_ifs <;> simp [OutboxStatus.isTerminal]

/-! ### The calls, over any relation that holds of what they write -/

section

variable {R : OutboxRow → OutboxRow → Prop}

theorem abandon_rowRuns (db : OutboxDb) (kinds : List String) (now : Time)
    (hstep : ∀ row outcome, row.unleased → R row { row with
      status := .failed, outcome := some outcome, completedAt := some now, nextAt := none }) :
    List.Forall₂ (ReflTransGen R) db.outbox.rows
      (db.abandonStaleOutboxEffects kinds now).outbox.rows :=
  update_rowRuns _ _ _ fun row _ hrow ↦ hstep row _ (unleased_of_staleAdmission hrow)

theorem claimDue_rowRuns (table : OutboxTable) (kinds : List String) (now : Time)
    (leaseToken : String) (exclude : List String)
    (hstep : ∀ row, row.unleased → R row { row with
      status := .running, hold := some ⟨leaseToken, now⟩, attempts := row.attempts + 1 }) :
    List.Forall₂ (ReflTransGen R) table.rows
      (table.claimDueOutbox kinds now leaseToken exclude).1.rows := by
  unfold claimDueOutbox
  split
  · exact forall₂_rowRuns_refl _
  · have hlease (effectId : String) : List.Forall₂ (ReflTransGen R) table.rows
        (table.lease effectId leaseToken now).rows := by
      refine update_rowRuns _ _ _ fun row _ hrow ↦ hstep row ?_
      rw [Bool.and_eq_true] at hrow
      exact hrow.2
    dsimp only
    split_ifs
    · exact hlease _
    · exact hlease _

theorem mark_rowRuns (db : OutboxDb) (lease : OutboxLease)
    (hstep : ∀ row, row.heldBy row.effectId lease.leaseToken →
      R row { row with outcome := some OutboxRow.submitFence }) :
    List.Forall₂ (ReflTransGen R) db.outbox.rows
      (db.markOutboxDispatched lease).1.outbox.rows := by
  refine update_rowRuns _ _ _ fun row _ hrow ↦ hstep row ?_
  rw [Bool.and_eq_true] at hrow
  exact heldBy_effectId hrow.1

theorem renew_rowRuns (db : OutboxDb) (lease : OutboxLease) (now : Time)
    (hstep : ∀ row, row.heldBy row.effectId lease.leaseToken →
      R row { row with hold := some ⟨lease.leaseToken, now⟩ }) :
    List.Forall₂ (ReflTransGen R) db.outbox.rows
      (db.renewOutboxLease lease now).1.outbox.rows :=
  update_rowRuns _ _ _ fun row _ hrow ↦ hstep row (heldBy_effectId hrow)

theorem observe_rowRuns (db : OutboxDb) (lease : OutboxLease) (observation : EffectObservation)
    (now : Time)
    (hstep : ∀ row ∈ db.outbox.rows, row.heldBy lease.effectId lease.leaseToken →
      R row ((completionOf (effectiveObservation row lease observation) now).write row)) :
    List.Forall₂ (ReflTransGen R) db.outbox.rows
      (db.observeOutbox lease observation now).1.outbox.rows := by
  unfold observeOutbox
  split
  · exact forall₂_rowRuns_refl _
  · next found hload =>
    refine completeOutboxObservation_rowRuns _ _ _ _ _ fun row hrow hheld ↦ ?_
    obtain ⟨hfound, hid⟩ := mem_of_load hload
    obtain rfl := eq_of_effectId_eq hrow hfound ((heldBy_iff.mp hheld).1.trans hid.symm)
    exact hstep row hrow hheld

theorem release_rowRuns (db : OutboxDb) (lease : OutboxLease) (error : Option String)
    (now : Time)
    (hstep : ∀ row ∈ db.outbox.rows, row.heldBy lease.effectId lease.leaseToken →
      ¬ row.dispatched → R row ((releaseCompletion lease error now).write row)) :
    List.Forall₂ (ReflTransGen R) db.outbox.rows
      (db.releaseOutboxLease lease error now).1.outbox.rows := by
  unfold releaseOutboxLease
  split
  · exact forall₂_rowRuns_refl _
  · next found hload =>
    split_ifs with htoken hdispatched
    · exact forall₂_rowRuns_refl _
    · exact forall₂_rowRuns_refl _
    · refine completeOutboxObservation_rowRuns _ _ _ _ _ fun row hrow hheld ↦ ?_
      obtain ⟨hfound, hid⟩ := mem_of_load hload
      obtain rfl := eq_of_effectId_eq hrow hfound ((heldBy_iff.mp hheld).1.trans hid.symm)
      exact hstep row hrow hheld hdispatched

/-- The reaper's loop. The rows still to be reaped are still in the table, since each pass writes
the row of one effect and the expired rows have distinct effects. -/
theorem reapLoop_rowRuns (now : Time) (expired : List OutboxRow) (state : OutboxTable × ℕ)
    (hmem : ∀ row ∈ expired, row ∈ state.1.rows)
    (hdistinct : (expired.map (·.effectId)).Nodup)
    (hstep : ∀ row leaseToken, row.heldBy row.effectId leaseToken →
      R row ((reapCompletion row now).write row)) :
    List.Forall₂ (ReflTransGen R) state.1.rows
      (expired.foldl (reapRow now) state).1.rows := by
  induction expired generalizing state with
  | nil => exact forall₂_rowRuns_refl _
  | cons row expired ih =>
    rw [List.map_cons, List.nodup_cons] at hdistinct
    have hrow : row ∈ state.1.rows := hmem row List.mem_cons_self
    have hfirst : List.Forall₂ (ReflTransGen R) state.1.rows (reapRow now state row).1.rows := by
      refine state.1.completeOutboxObservation_rowRuns _ _ _ _ fun other hother hheld ↦ ?_
      obtain rfl := eq_of_effectId_eq hother hrow (heldBy_iff.mp hheld).1
      exact hstep other _ hheld
    refine forall₂_rowRuns_trans hfirst (ih (reapRow now state row) ?_ hdistinct.2)
    intro other hother
    have hne : other.effectId ≠ row.effectId := fun h ↦
      hdistinct.1 (h ▸ List.mem_map_of_mem hother)
    exact mem_completeOutboxObservation (hmem other (List.mem_cons_of_mem row hother)) hne _ _ _

theorem reap_rowRuns (db : OutboxDb) (now leaseSeconds : Time)
    (hstep : ∀ row leaseToken, row.heldBy row.effectId leaseToken →
      R row ((reapCompletion row now).write row)) :
    List.Forall₂ (ReflTransGen R) db.outbox.rows
      (db.reapExpiredOutboxLeases now leaseSeconds).1.outbox.rows := by
  refine reapLoop_rowRuns now _ (db.outbox, 0) (fun row hrow ↦ (List.mem_filter.mp hrow).1) ?_ hstep
  exact (List.filter_sublist.map _).nodup db.outbox.effectId_unique

end

/-- A call of the outbox machine moves every row along row steps and appends admitted rows. -/
theorem evolves_step (db : OutboxDb) (call : OutboxCall) :
    Evolves db.outbox.rows (outboxMachine.step db call).1.outbox.rows := by
  cases call with
  | admitEffects jobId revision effects =>
    change Evolves _ (db.admitEffects jobId revision effects).outbox.rows
    unfold admitEffects
    split
    · exact .refl _
    · next outbox hinsert =>
      obtain ⟨fresh, hrows, hfresh⟩ := insertOutboxEffects_rows effects hinsert
      exact ⟨db.outbox.rows, fresh, hrows, forall₂_rowRuns_refl _, hfresh⟩
  | abandonStale kinds now =>
    exact .of_rowRuns (db.abandon_rowRuns kinds now fun row outcome hrow ↦ .abandon row outcome now
      hrow)
  | claim kinds now leaseToken exclude =>
    exact .of_rowRuns (forall₂_rowRuns_trans
      (db.abandon_rowRuns kinds now fun row outcome hrow ↦ .abandon row outcome now hrow)
      (claimDue_rowRuns _ kinds now leaseToken exclude fun row hrow ↦ .lease row _ hrow))
  | markDispatched lease => exact .of_rowRuns (db.mark_rowRuns lease fun row hrow ↦ .fence row _ hrow)
  | renew lease now => exact .of_rowRuns (db.renew_rowRuns lease now fun row hrow ↦ .renew row _ _ hrow)
  | observe lease observation now =>
    exact .of_rowRuns (db.observe_rowRuns lease observation now fun row _ hheld ↦
      .complete row _ _ (heldBy_effectId hheld) (completionOf_status _ now)
        fun hfence ↦ completionOf_effective_of_dispatched hfence lease observation now)
  | release lease error now =>
    exact .of_rowRuns (db.release_rowRuns lease error now fun row _ hheld hfence ↦
      .complete row _ _ (heldBy_effectId hheld) (releaseCompletion_status lease error now)
        fun hdispatched ↦ absurd hdispatched hfence)
  | reapExpired now leaseSeconds =>
    exact .of_rowRuns (db.reap_rowRuns now leaseSeconds fun row _ hheld ↦
      .complete row _ _ hheld (reapCompletion_status row now)
        fun hfence ↦ reapCompletion_of_dispatched hfence now)

end OutboxDb

end VoiceHarness
