import VoiceHarness.Outbox.Rows

/-!
# The leases of the outbox

Three properties of the table depend on each other. A claim leaves at most one effect of a
concurrency key running because a running effect has a lease token; a row is retried at most
`OUTBOX_MAX_ATTEMPTS` times because a lease that still matches its row counts the attempts of the
row. The runs here are those of executors that pass on the leases their claims returned, with a
fresh token in each claim (`uuid4`).
-/

set_option autoImplicit false
set_option relaxedAutoImplicit false

namespace VoiceHarness

open Relation

/-! ### Terminal rows -/

namespace OutboxStatus

theorem not_isTerminal_of_isWaiting {status : OutboxStatus} (h : status.isWaiting) :
    ¬ status.isTerminal := by
  cases status <;> simp_all [isWaiting, isTerminal]

end OutboxStatus

/-- No statement writes a terminal row. -/
theorem RowStep.not_isTerminal {row row' : OutboxRow} (h : RowStep row row') :
    ¬ row.status.isTerminal := by
  have hunleased (hrow : row.unleased) : ¬ row.status.isTerminal := by
    simp only [OutboxRow.unleased, Bool.and_eq_true] at hrow
    exact OutboxStatus.not_isTerminal_of_isWaiting hrow.2
  have hheld (leaseToken : String) (hrow : row.heldBy row.effectId leaseToken) :
      ¬ row.status.isTerminal := by
    rw [(OutboxTable.heldBy_iff.mp hrow).2.2]
    decide
  cases h with
  | abandon _ _ hrow => exact hunleased hrow
  | lease _ hrow => exact hunleased hrow
  | fence leaseToken hrow => exact hheld leaseToken hrow
  | renew leaseToken _ hrow => exact hheld leaseToken hrow
  | complete leaseToken _ hrow _ _ => exact hheld leaseToken hrow

theorem eq_of_rowRun_of_isTerminal {row row' : OutboxRow} (hrow : row.status.isTerminal)
    (hrun : ReflTransGen RowStep row row') : row' = row := by
  rcases hrun.cases_head with heq | ⟨middle, hstep, -⟩
  · exact heq.symm
  · exact absurd hrow hstep.not_isTerminal

theorem exists_of_forall₂ {R : OutboxRow → OutboxRow → Prop} {rows rows' : List OutboxRow}
    (h : List.Forall₂ R rows rows') :
    (∀ row ∈ rows, ∃ row' ∈ rows', R row row') ∧ ∀ row' ∈ rows', ∃ row ∈ rows, R row row' := by
  induction h with
  | nil => simp
  | cons hrow _ ih =>
    simp only [List.forall_mem_cons, List.exists_mem_cons_iff]
    exact ⟨⟨.inl hrow, fun row hmem ↦ .inr (ih.1 row hmem)⟩, .inl hrow,
      fun row hmem ↦ .inr (ih.2 row hmem)⟩

/-- A terminal row stays in the table as it is. -/
theorem OutboxDb.mem_exec_of_isTerminal {db : OutboxDb} {row : OutboxRow}
    (hmem : row ∈ db.outbox.rows) (hrow : row.status.isTerminal) (calls : List OutboxCall) :
    row ∈ (outboxMachine.exec db calls).outbox.rows := by
  refine outboxMachine.invariant_exec (P := fun state ↦ row ∈ state.outbox.rows) ?_ hmem calls
  intro state call hstate
  obtain ⟨kept, fresh, hafter, hkept, -⟩ := state.evolves_step call
  obtain ⟨row', hrow', hrun⟩ := (exists_of_forall₂ hkept).1 row hstate
  rw [eq_of_rowRun_of_isTerminal hrow hrun] at hrow'
  rw [hafter]
  exact List.mem_append_left fresh hrow'

/-! ### The runs of the executors -/

/-- The call uses only leases that were issued, and claims under a fresh token. -/
def OutboxCall.Honours (issued : List OutboxLease) : OutboxCall → Prop
  | .markDispatched lease | .renew lease _ | .observe lease _ _ | .release lease _ _ =>
    lease ∈ issued
  | .claim _ _ leaseToken _ => ∀ lease ∈ issued, lease.leaseToken ≠ leaseToken
  | .admitEffects .. | .abandonStale .. | .reapExpired .. => True

/-- The lease an answer issues. -/
def OutboxReply.issued : OutboxReply → List OutboxLease
  | .leased lease => lease.toList
  | _ => []

/-- The states of the runs from an empty outbox, each with the leases issued so far. -/
inductive OutboxDb.Reached : OutboxDb → List OutboxLease → Prop
  | empty : Reached .empty []
  | step {db : OutboxDb} {issued : List OutboxLease} (h : Reached db issued) (call : OutboxCall)
      (hcall : call.Honours issued) :
      Reached (outboxMachine.step db call).1 (issued ++ (outboxMachine.step db call).2.issued)

/-! ### Rows that are not leased -/

/-- What every statement but the lease of a claim leaves of a row. -/
structure OutboxRow.Settles (row row' : OutboxRow) : Prop where
  effect : row'.toOutboxEffect = row.toOutboxEffect
  attempts : row'.attempts = row.attempts
  leased : (row.leaseToken.isSome ↔ row.status = .running) →
    (row'.leaseToken.isSome ↔ row'.status = .running)
  running : row'.status = .running → row.status = .running
  token : ∀ leaseToken, row'.leaseToken = some leaseToken → row.leaseToken = some leaseToken
  waiting : row'.status.isWaiting → row.status.isWaiting ∨ row.attempts < OUTBOX_MAX_ATTEMPTS

namespace OutboxRow.Settles

variable {row row' row'' : OutboxRow} {leaseToken : String}

theorem refl (row : OutboxRow) : row.Settles row :=
  ⟨rfl, rfl, fun h ↦ h, fun h ↦ h, fun _ h ↦ h, .inl⟩

theorem trans (h : row.Settles row') (h' : row'.Settles row'') : row.Settles row'' where
  effect := h'.effect.trans h.effect
  attempts := h'.attempts.trans h.attempts
  leased hrow := h'.leased (h.leased hrow)
  running hrow := h.running (h'.running hrow)
  token leaseToken hrow := h.token leaseToken (h'.token leaseToken hrow)
  waiting hrow := by
    rcases h'.waiting hrow with hwaiting | hattempts
    · exact h.waiting hwaiting
    · exact .inr (h.attempts ▸ hattempts)

theorem of_run (h : ReflTransGen Settles row row') : row.Settles row' := by
  induction h with
  | refl => exact .refl row
  | tail _ hstep ih => exact ih.trans hstep

theorem abandon (row : OutboxRow) (outcome : Dict) (now : Time) (hrow : row.unleased) :
    row.Settles { row with
      status := .failed, outcome := some outcome, completedAt := some now, nextAt := none } := by
  simp only [unleased, Bool.and_eq_true, Option.isNone_iff_eq_none] at hrow
  have hnone : row.leaseToken = none := by rw [OutboxRow.leaseToken, hrow.1, Option.map_none]
  refine ⟨rfl, rfl, fun _ ↦ ?_, fun h ↦ ?_, fun _ h ↦ h, fun h ↦ ?_⟩
  · change row.leaseToken.isSome ↔ OutboxStatus.failed = .running
    rw [hnone]
    simp
  · cases h
  · cases h

theorem fence (row : OutboxRow) : row.Settles { row with outcome := some OutboxRow.submitFence } :=
  ⟨rfl, rfl, fun h ↦ h, fun h ↦ h, fun _ h ↦ h, .inl⟩

theorem renew (row : OutboxRow) (now : Time) (hrow : row.heldBy row.effectId leaseToken) :
    row.Settles { row with hold := some ⟨leaseToken, now⟩ } := by
  obtain ⟨-, htoken, hrunning⟩ := OutboxTable.heldBy_iff.mp hrow
  refine ⟨rfl, rfl, fun _ ↦ ?_, fun h ↦ h, fun other h ↦ ?_, .inl⟩
  · exact iff_of_true rfl hrunning
  · rw [htoken]
    exact h

/-- A completion settles a held row, when its retry is within the attempts of the row. -/
theorem complete (row : OutboxRow) (completion : OutboxTable.Completion)
    (hstatus : completion.status = .failedRetryable ∨ completion.status.isTerminal)
    (hretry : completion.status = .failedRetryable → row.attempts < OUTBOX_MAX_ATTEMPTS) :
    row.Settles (completion.write row) := by
  have hrunning : completion.status ≠ .running := by
    rintro heq
    rw [heq] at hstatus
    rcases hstatus with h | h <;> cases h
  refine ⟨rfl, rfl, fun _ ↦ ?_, fun h ↦ absurd h hrunning, fun _ h ↦ ?_, fun hwaiting ↦ ?_⟩
  · exact iff_of_false (by simp [OutboxTable.Completion.write, OutboxRow.leaseToken]) hrunning
  · cases h
  · rcases hstatus with hstatus | hstatus
    · exact .inr (hretry hstatus)
    · exact absurd hstatus (OutboxStatus.not_isTerminal_of_isWaiting hwaiting)

end OutboxRow.Settles

/-! ### The invariant -/

/-- The leases, the running effects and the attempts of an outbox whose claims issued some leases. -/
structure OutboxDb.Fenced (db : OutboxDb) (issued : List OutboxLease) : Prop where
  leased : ∀ row ∈ db.outbox.rows, row.leaseToken.isSome ↔ row.status = .running
  exclusive : ∀ row ∈ db.outbox.rows, ∀ other ∈ db.outbox.rows, row.status = .running →
    other.status = .running → row.concurrencyKey = other.concurrencyKey → row = other
  bounded : ∀ row ∈ db.outbox.rows, row.attempts ≤ OUTBOX_MAX_ATTEMPTS ∧
    (row.status.isWaiting → row.attempts < OUTBOX_MAX_ATTEMPTS)
  counted : ∀ lease ∈ issued, ∀ row ∈ db.outbox.rows, row.effectId = lease.effectId →
    row.leaseToken = some lease.leaseToken → row.attempts = lease.attempts

namespace OutboxDb

open OutboxTable

variable {db next : OutboxDb} {issued : List OutboxLease}

theorem fenced_empty : Fenced .empty [] := by
  constructor <;> simp [empty, OutboxTable.empty]

/-- The invariant is kept when every row is admitted or settles a row from before. -/
theorem Fenced.of_settles (h : db.Fenced issued)
    (hrows : ∀ row' ∈ next.outbox.rows,
      row'.Admitted ∨ ∃ row ∈ db.outbox.rows, row.Settles row') : next.Fenced issued := by
  have hadmitted : ∀ row : OutboxRow, row.Admitted →
      row.leaseToken = none ∧ row.status = .pending ∧ row.attempts = 0 := by
    intro row hrow
    rw [hrow]
    exact ⟨rfl, rfl, rfl⟩
  have hrunning : ∀ row' ∈ next.outbox.rows, row'.status = .running →
      ∃ row ∈ db.outbox.rows, row.Settles row' ∧ row.status = .running := by
    intro row' hrow' hstatus
    rcases hrows row' hrow' with hfresh | ⟨row, hrow, hsettles⟩
    · rw [(hadmitted row' hfresh).2.1] at hstatus
      cases hstatus
    · exact ⟨row, hrow, hsettles, hsettles.running hstatus⟩
  constructor
  · intro row' hrow'
    rcases hrows row' hrow' with hfresh | ⟨row, hrow, hsettles⟩
    · obtain ⟨htoken, hstatus, -⟩ := hadmitted row' hfresh
      simp [htoken, hstatus]
    · exact hsettles.leased (h.leased row hrow)
  · intro row' hrow' other' hother' hstatus hstatus' hkey
    obtain ⟨row, hrow, hsettles, hrow⟩ := hrunning row' hrow' hstatus
    obtain ⟨other, hother, hothers, hrunning⟩ := hrunning other' hother' hstatus'
    have heq : row = other := by
      refine h.exclusive row (by assumption) other hother (by assumption) hrunning ?_
      rw [← hsettles.effect, ← hothers.effect]
      exact hkey
    refine eq_of_effectId_eq hrow' hother' ?_
    rw [hsettles.effect, hothers.effect, heq]
  · intro row' hrow'
    rcases hrows row' hrow' with hfresh | ⟨row, hrow, hsettles⟩
    · obtain ⟨-, -, hattempts⟩ := hadmitted row' hfresh
      rw [hattempts]
      exact ⟨by decide, fun _ ↦ by decide⟩
    · obtain ⟨hattempts, hwaiting⟩ := h.bounded row hrow
      rw [hsettles.attempts]
      refine ⟨hattempts, fun h ↦ ?_⟩
      rcases hsettles.waiting h with hrowWaiting | hless
      · exact hwaiting hrowWaiting
      · exact hless
  · intro lease hlease row' hrow' hid htoken
    rcases hrows row' hrow' with hfresh | ⟨row, hrow, hsettles⟩
    · rw [(hadmitted row' hfresh).1] at htoken
      cases htoken
    · rw [hsettles.attempts]
      refine h.counted lease hlease row hrow ?_ (hsettles.token _ htoken)
      rw [← hid, hsettles.effect]

/-- The invariant is kept along runs of settling updates. -/
theorem Fenced.of_rowRuns (h : db.Fenced issued)
    (hrows : List.Forall₂ (ReflTransGen OutboxRow.Settles) db.outbox.rows next.outbox.rows) :
    next.Fenced issued := by
  refine h.of_settles fun row' hrow' ↦ .inr ?_
  obtain ⟨row, hrow, hrun⟩ := (exists_of_forall₂ hrows).2 row' hrow'
  exact ⟨row, hrow, .of_run hrun⟩

/-! ### A claim -/

/-- The row a lease of a claim leaves. -/
def leasedRow (row : OutboxRow) (leaseToken : String) (now : Time) : OutboxRow :=
  { row with status := .running, hold := some ⟨leaseToken, now⟩, attempts := row.attempts + 1 }

theorem mem_lease {table : OutboxTable} {row other : OutboxRow} {leaseToken : String} {now : Time}
    (hrow : row ∈ table.rows) (hunleased : row.unleased)
    (h : other ∈ (table.lease row.effectId leaseToken now).rows) :
    other = leasedRow row leaseToken now ∨ other ∈ table.rows ∧ other.effectId ≠ row.effectId := by
  obtain ⟨found, hfound, rfl⟩ := List.mem_map.mp h
  by_cases hid : found.effectId = row.effectId
  · obtain rfl := eq_of_effectId_eq hfound hrow hid
    rw [if_pos (by simp [hunleased])]
    exact .inl rfl
  · rw [if_neg (by simp [hid])]
    exact .inr ⟨hfound, hid⟩

/-- A claim that finds a due row leases it. -/
theorem claimDueOutbox_cases (table : OutboxTable) (kinds : List String) (now : Time)
    (leaseToken : String) (exclude : List String) :
    table.claimDueOutbox kinds now leaseToken exclude = (table, none) ∨
      ∃ row ∈ table.rows, table.due kinds now exclude row = true ∧
        table.claimDueOutbox kinds now leaseToken exclude =
          (table.lease row.effectId leaseToken now, some (leasedRow row leaseToken now)) := by
  unfold claimDueOutbox
  split
  · exact .inl rfl
  · next row hfind =>
    have hrow := List.mem_of_find?_eq_some hfind
    have hdue := List.find?_some hfind
    have hunleased : row.unleased = true := by
      simp only [due, Bool.and_eq_true] at hdue
      exact hdue.1.1.2
    have hclaimed : table.changes (fun other ↦ other.effectId = row.effectId && other.unleased) =
        1 := by
      have hnodup : table.rows.Nodup := table.effectId_unique.of_map _
      have hperm : (table.rows.filter fun other ↦
          other.effectId = row.effectId && other.unleased).Perm [row] := by
        refine (List.perm_ext_iff_of_nodup (hnodup.filter _) (List.nodup_singleton row)).mpr
          fun other ↦ ?_
        simp only [List.mem_filter, Bool.and_eq_true, decide_eq_true_eq, List.mem_singleton]
        constructor
        · rintro ⟨hother, hid, -⟩
          exact eq_of_effectId_eq hother hrow hid
        · rintro rfl
          exact ⟨hrow, rfl, hunleased⟩
      exact hperm.length_eq
    have hload : (table.lease row.effectId leaseToken now).load row.effectId =
        some (leasedRow row leaseToken now) := by
      have hmem : leasedRow row leaseToken now ∈ (table.lease row.effectId leaseToken now).rows := by
        refine List.mem_map.mpr ⟨row, hrow, if_pos ?_⟩
        simp [hunleased]
      exact load_of_mem hmem
    refine .inr ⟨row, hrow, hdue, ?_⟩
    simp only [hclaimed, if_true, hload]

/-- The lease of a due row under a fresh token keeps the invariant, with the lease issued. -/
theorem Fenced.lease (h : db.Fenced issued) {row : OutboxRow} {kinds exclude : List String}
    {now : Time} {leaseToken : String} (hrow : row ∈ db.outbox.rows)
    (hdue : db.outbox.due kinds now exclude row = true)
    (hfresh : ∀ lease ∈ issued, lease.leaseToken ≠ leaseToken) :
    Fenced { db with outbox := db.outbox.lease row.effectId leaseToken now }
      (issued ++ [leaseOf (leasedRow row leaseToken now) leaseToken]) := by
  simp only [due, Bool.and_eq_true, Bool.not_eq_true', List.any_eq_false, decide_eq_true_eq,
    not_and, OutboxRow.unleased] at hdue
  obtain ⟨⟨⟨-, hunleased⟩, hfree⟩, -⟩ := hdue
  have hmem : ∀ other ∈ (db.outbox.lease row.effectId leaseToken now).rows,
      other = leasedRow row leaseToken now ∨
        other ∈ db.outbox.rows ∧ other.effectId ≠ row.effectId := fun other hother ↦
    mem_lease hrow (by simp [OutboxRow.unleased, hunleased]) hother
  have hkey : ∀ other ∈ db.outbox.rows, other.status = .running →
      other.concurrencyKey ≠ row.concurrencyKey := by
    intro other hother hrunning hequal
    refine hfree other hother ⟨hequal, hrunning⟩ ?_
    have hsome := (h.leased other hother).mpr hrunning
    rwa [OutboxRow.leaseToken, Option.isSome_map] at hsome
  constructor
  · intro other hother
    rcases hmem other hother with rfl | ⟨hother, -⟩
    · exact iff_of_true rfl rfl
    · exact h.leased other hother
  · intro first hfirst second hsecond hrunning hrunning' hequal
    rcases hmem first hfirst with rfl | ⟨hfirst, -⟩ <;>
      rcases hmem second hsecond with rfl | ⟨hsecond, -⟩
    · rfl
    · exact absurd hequal.symm (hkey second hsecond hrunning')
    · exact absurd hequal (hkey first hfirst hrunning)
    · exact h.exclusive first hfirst second hsecond hrunning hrunning' hequal
  · intro other hother
    rcases hmem other hother with rfl | ⟨hother, -⟩
    · have hless := (h.bounded row hrow).2 hunleased.2
      exact ⟨hless, fun hwaiting ↦ by cases hwaiting⟩
    · exact h.bounded other hother
  · intro lease hlease other hother hid htoken
    rcases hmem other hother with rfl | ⟨hother, hne⟩
    · rcases List.mem_append.mp hlease with hold | hnew
      · exact absurd (Option.some.inj htoken).symm (hfresh lease hold)
      · rw [List.mem_singleton.mp hnew]
        rfl
    · rcases List.mem_append.mp hlease with hold | hnew
      · exact h.counted lease hold other hother hid htoken
      · rw [List.mem_singleton.mp hnew] at hid
        exact absurd hid hne

/-! ### Every call -/

/-- A retry that an observation schedules is within the attempts of its lease. -/
theorem attempts_lt_of_completionOf {row : OutboxRow} {lease : OutboxLease}
    {observation : EffectObservation} {now : Time}
    (h : (completionOf (effectiveObservation row lease observation) now).status =
      .failedRetryable) : lease.attempts < OUTBOX_MAX_ATTEMPTS := by
  by_contra hattempts
  have hless : OUTBOX_MAX_ATTEMPTS ≤ lease.attempts := Nat.not_lt.mp hattempts
  by_cases hretry : observation.retryable = true
  · by_cases hfence : row.dispatched = true <;>
      simp [effectiveObservation, completionOf, hretry, hfence, hless] at h
  · have heffective : effectiveObservation row lease observation = observation := by
      simp [effectiveObservation, hretry]
    rw [heffective] at h
    unfold completionOf at h
    simp only [hretry] at h
    split_ifs at h
    all_goals simp_all

/-- A call that honours the issued leases keeps the invariant. -/
theorem Fenced.step (h : db.Fenced issued) {call : OutboxCall} (hcall : call.Honours issued) :
    (outboxMachine.step db call).1.Fenced (issued ++ (outboxMachine.step db call).2.issued) := by
  have hattempts : ∀ lease ∈ issued, ∀ row ∈ db.outbox.rows,
      row.heldBy lease.effectId lease.leaseToken → row.attempts = lease.attempts := by
    intro lease hlease row hrow hheld
    obtain ⟨hid, htoken, -⟩ := heldBy_iff.mp hheld
    exact h.counted lease hlease row hrow hid htoken
  have hkept : ∀ next : OutboxDb, next.Fenced issued → next.Fenced (issued ++ []) := by
    intro next hnext
    rwa [List.append_nil]
  cases call with
  | admitEffects jobId revision effects =>
    refine hkept (db.admitEffects jobId revision effects) ?_
    unfold admitEffects
    split
    · exact h
    · next outbox hinsert =>
      obtain ⟨fresh, hrows, hfresh⟩ := insertOutboxEffects_rows effects hinsert
      refine h.of_settles fun row hrow ↦ ?_
      rw [hrows] at hrow
      rcases List.mem_append.mp hrow with hold | hnew
      · exact .inr ⟨row, hold, .refl row⟩
      · exact .inl (hfresh row hnew)
  | abandonStale kinds now =>
    exact hkept _ (h.of_rowRuns (db.abandon_rowRuns kinds now fun row outcome hrow ↦
      .abandon row outcome now hrow))
  | claim kinds now leaseToken exclude =>
    have habandoned : (db.abandonStaleOutboxEffects kinds now).Fenced issued :=
      h.of_rowRuns (db.abandon_rowRuns kinds now fun row outcome hrow ↦
        .abandon row outcome now hrow)
    change Fenced (db.claimOutbox kinds now leaseToken exclude).1
      (issued ++ (db.claimOutbox kinds now leaseToken exclude).2.toList)
    unfold claimOutbox
    rcases claimDueOutbox_cases (db.abandonStaleOutboxEffects kinds now).outbox kinds now leaseToken
      exclude with hnone | ⟨row, hrow, hdue, hclaim⟩
    · simp only [hnone]
      exact hkept _ habandoned
    · simp only [hclaim]
      exact habandoned.lease hrow hdue hcall
  | markDispatched lease =>
    exact hkept _ (h.of_rowRuns (db.mark_rowRuns lease fun row _ ↦ .fence row))
  | renew lease now =>
    exact hkept _ (h.of_rowRuns (db.renew_rowRuns lease now fun row hrow ↦ .renew row now hrow))
  | observe lease observation now =>
    refine hkept _ (h.of_rowRuns (db.observe_rowRuns lease observation now fun row hrow hheld ↦ ?_))
    refine .complete row _ (completionOf_status _ now) fun hretry ↦ ?_
    rw [hattempts lease hcall row hrow hheld]
    exact attempts_lt_of_completionOf hretry
  | release lease error now =>
    refine hkept _ (h.of_rowRuns (db.release_rowRuns lease error now fun row hrow hheld _ ↦ ?_))
    refine .complete row _ (releaseCompletion_status lease error now) fun hretry ↦ ?_
    rw [hattempts lease hcall row hrow hheld]
    by_contra hless
    simp [releaseCompletion, hless] at hretry
  | reapExpired now leaseSeconds =>
    refine hkept _ (h.of_rowRuns (db.reap_rowRuns now leaseSeconds fun row _ _ ↦ ?_))
    refine .complete row _ (reapCompletion_status row now) fun hretry ↦ ?_
    by_contra hless
    unfold reapCompletion at hretry
    split_ifs at hretry

theorem Reached.fenced (h : Reached db issued) : db.Fenced issued := by
  induction h with
  | empty => exact fenced_empty
  | step _ call hcall ih => exact ih.step hcall

end OutboxDb

/-- In every state the executors reach, an effect has a lease token exactly while it is running, at
most one effect of a concurrency key is running, no effect is attempted more often than the bound,
and the row of a terminal effect stays as it is under any later calls. -/
theorem outbox_reached {db : OutboxDb} {issued : List OutboxLease} (h : db.Reached issued) :
    (∀ row ∈ db.outbox.rows, row.leaseToken.isSome ↔ row.status = .running) ∧
    (∀ row ∈ db.outbox.rows, ∀ other ∈ db.outbox.rows, row.status = .running →
      other.status = .running → row.concurrencyKey = other.concurrencyKey → row = other) ∧
    (∀ row ∈ db.outbox.rows, row.attempts ≤ OUTBOX_MAX_ATTEMPTS) ∧
    ∀ row ∈ db.outbox.rows, row.status.isTerminal → ∀ calls,
      row ∈ (outboxMachine.exec db calls).outbox.rows ∧
        ∀ later ∈ (outboxMachine.exec db calls).outbox.rows, later.effectId = row.effectId →
          later = row := by
  have hfenced := h.fenced
  refine ⟨hfenced.leased, hfenced.exclusive, fun row hrow ↦ (hfenced.bounded row hrow).1,
    fun row hrow hterminal calls ↦ ?_⟩
  have hkept := OutboxDb.mem_exec_of_isTerminal hrow hterminal calls
  exact ⟨hkept, fun later hlater hid ↦ OutboxTable.eq_of_effectId_eq hlater hkept hid⟩

/-- An effect admitted, claimed and running is the only one of its key. -/
theorem outbox_reached_running :
    let effect : OutboxEffect := ⟨"e1", "0123456789ab", "task.submit", "key", "agent", []⟩
    let db := outboxMachine.exec .empty
      [.admitEffects "0123456789ab" 1 [effect], .claim ["task.submit"] 10 "t1" []]
    ∀ row ∈ db.outbox.rows, row.leaseToken.isSome ↔ row.status = .running :=
  (outbox_reached (.step (.step .empty (.admitEffects "0123456789ab" 1
    [⟨"e1", "0123456789ab", "task.submit", "key", "agent", []⟩]) trivial)
      (.claim ["task.submit"] 10 "t1" []) (by simp [OutboxCall.Honours, OutboxReply.issued,
        outboxMachine, OutboxDb.step]))).1

end VoiceHarness
