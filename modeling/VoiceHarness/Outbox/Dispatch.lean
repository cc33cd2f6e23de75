import VoiceHarness.Outbox.Rows

/-!
# At most one dispatch of an effect

Once `mark_outbox_dispatched` has answered true for an effect, its row is either still running under
the same lease token with the submit fence recorded, or terminal (`OutboxRow.DispatchedUnder`). Every
row step keeps this: an abandonment or a claim needs a waiting row, and a completion of a fenced row
is terminal. So no later claim returns the effect and every true answer to `mark_outbox_dispatched`
carries the same token, along every run of the outbox machine (`markOutboxDispatched_once`). The
tokens of the claims need not even be fresh.
-/

set_option autoImplicit false
set_option relaxedAutoImplicit false

namespace VoiceHarness

open Relation

/-- What the row of an effect is after its dispatch was recorded under a lease token. -/
def OutboxRow.DispatchedUnder (leaseToken : String) (row : OutboxRow) : Prop :=
  (row.status = .running ∧ row.leaseToken = some leaseToken ∧ row.dispatched) ∨
    row.status.isTerminal

namespace OutboxRow

theorem unleased_not_dispatchedUnder {row : OutboxRow} (hrow : row.unleased)
    (leaseToken : String) : ¬ row.DispatchedUnder leaseToken := by
  simp only [unleased, Bool.and_eq_true] at hrow
  rintro (⟨hstatus, -, -⟩ | hterminal)
  · rw [hstatus] at hrow
    exact absurd hrow.2 (by decide)
  · cases hstatus : row.status <;> simp [hstatus, OutboxStatus.isWaiting,
      OutboxStatus.isTerminal] at hrow hterminal

/-- A row held under a lease token that is dispatched under another token is dispatched under the
held one. -/
theorem DispatchedUnder.of_heldBy {row : OutboxRow} {leaseToken held effectId : String}
    (hrow : row.DispatchedUnder leaseToken) (hheld : row.heldBy effectId held) :
    held = leaseToken ∧ row.status = .running ∧ row.dispatched := by
  simp only [heldBy, Bool.and_eq_true, decide_eq_true_eq] at hheld
  rcases hrow with ⟨hstatus, htoken, hdispatched⟩ | hterminal
  · exact ⟨Option.some.inj (hheld.1.2.symm.trans htoken), hstatus, hdispatched⟩
  · rw [hheld.2] at hterminal
    exact absurd hterminal (by decide)

theorem DispatchedUnder.rowStep {leaseToken : String} {row row' : OutboxRow}
    (hrow : row.DispatchedUnder leaseToken) (hstep : RowStep row row') :
    row'.DispatchedUnder leaseToken := by
  cases hstep with
  | abandon _ _ hunleased => exact absurd hrow (unleased_not_dispatchedUnder hunleased _)
  | lease _ hunleased => exact absurd hrow (unleased_not_dispatchedUnder hunleased _)
  | fence held hheld =>
    obtain ⟨rfl, hstatus, -⟩ := hrow.of_heldBy hheld
    simp only [heldBy, Bool.and_eq_true, decide_eq_true_eq] at hheld
    exact Or.inl ⟨hstatus, hheld.1.2, rfl⟩
  | renew held now hheld =>
    obtain ⟨rfl, hstatus, hdispatched⟩ := hrow.of_heldBy hheld
    exact Or.inl ⟨hstatus, rfl, hdispatched⟩
  | complete held completion hheld hstatus hfence =>
    obtain ⟨-, -, hdispatched⟩ := hrow.of_heldBy hheld
    exact Or.inr (hstatus.resolve_left (hfence hdispatched))

theorem DispatchedUnder.rowRun {leaseToken : String} {row row' : OutboxRow}
    (hrow : row.DispatchedUnder leaseToken) (hrun : ReflTransGen RowStep row row') :
    row'.DispatchedUnder leaseToken := by
  induction hrun with
  | refl => exact hrow
  | tail _ hstep ih => exact ih.rowStep hstep

end OutboxRow

theorem effectId_of_rowRun {row row' : OutboxRow} (hrun : ReflTransGen RowStep row row') :
    row'.effectId = row.effectId := by
  induction hrun with
  | refl => rfl
  | tail _ hstep ih => rw [← ih, hstep.toOutboxEffect_eq]

/-- The effect was dispatched under the lease token. -/
def Dispatched (effectId leaseToken : String) (db : OutboxDb) : Prop :=
  ∃ row ∈ db.outbox.rows, row.effectId = effectId ∧ row.DispatchedUnder leaseToken

/-- A row moved along row steps keeps its effect, and its dispatch. -/
theorem Dispatched.of_rowRuns {effectId leaseToken : String} {rows rows' : List OutboxRow}
    (hrows : List.Forall₂ (ReflTransGen RowStep) rows rows')
    (h : ∃ row ∈ rows, row.effectId = effectId ∧ row.DispatchedUnder leaseToken) :
    ∃ row ∈ rows', row.effectId = effectId ∧ row.DispatchedUnder leaseToken := by
  obtain ⟨row, hmem, hid, hdispatched⟩ := h
  induction hrows with
  | nil => exact absurd hmem List.not_mem_nil
  | cons hrun _ ih =>
    rcases List.mem_cons.mp hmem with rfl | hmem
    · exact ⟨_, List.mem_cons_self, (effectId_of_rowRun hrun).trans hid, hdispatched.rowRun hrun⟩
    · obtain ⟨row', hmem', hrow'⟩ := ih hmem
      exact ⟨row', List.mem_cons_of_mem _ hmem', hrow'⟩

/-- A dispatched effect stays dispatched under the same token after every call. -/
theorem Dispatched.step {effectId leaseToken : String} {db : OutboxDb}
    (h : Dispatched effectId leaseToken db) (call : OutboxCall) :
    Dispatched effectId leaseToken (outboxMachine.step db call).1 := by
  obtain ⟨kept, fresh, hafter, hkept, -⟩ := db.evolves_step call
  obtain ⟨row, hmem, hrow⟩ := Dispatched.of_rowRuns hkept h
  exact ⟨row, hafter ▸ List.mem_append_left fresh hmem, hrow⟩

/-- A true answer to `mark_outbox_dispatched` found the effect running under the lease's token. -/
theorem heldBy_of_markOutboxDispatched {db : OutboxDb} {lease : OutboxLease}
    (h : (db.markOutboxDispatched lease).2 = true) :
    ∃ row ∈ db.outbox.rows, row.heldBy lease.effectId lease.leaseToken ∧
      OutboxTable.revisionGuard db.revision (OutboxTable.expectedRevision lease.payload) row := by
  obtain ⟨row, hrow⟩ := List.length_eq_one_iff.mp (of_decide_eq_true h)
  have hmem := List.mem_filter.mp (hrow ▸ List.mem_singleton_self row)
  rw [Bool.and_eq_true] at hmem
  exact ⟨row, hmem.1, hmem.2⟩

/-- A true answer to `mark_outbox_dispatched` leaves the effect dispatched under its token. -/
theorem dispatched_of_markOutboxDispatched {db : OutboxDb} {lease : OutboxLease}
    (h : (db.markOutboxDispatched lease).2 = true) :
    Dispatched lease.effectId lease.leaseToken (db.markOutboxDispatched lease).1 := by
  obtain ⟨row, hmem, hheld, hguard⟩ := heldBy_of_markOutboxDispatched h
  refine ⟨{ row with outcome := some OutboxRow.submitFence }, ?_, ?_, Or.inl ⟨?_, ?_, rfl⟩⟩
  · refine List.mem_map.mpr ⟨row, hmem, if_pos ?_⟩
    simp only [hheld, hguard, Bool.and_self]
  all_goals
    simp only [OutboxRow.heldBy, Bool.and_eq_true, decide_eq_true_eq] at hheld
  · exact hheld.1.1
  · exact hheld.2
  · exact hheld.1.2

/-- A claimed effect was waiting and unleased once the stale effects were abandoned. -/
theorem unleased_of_claimOutbox {db : OutboxDb} {kinds exclude : List String} {now : Time}
    {leaseToken : String} {lease : OutboxLease}
    (h : (db.claimOutbox kinds now leaseToken exclude).2 = some lease) :
    ∃ row ∈ (db.abandonStaleOutboxEffects kinds now).outbox.rows,
      row.effectId = lease.effectId ∧ row.unleased := by
  simp only [OutboxDb.claimOutbox, OutboxTable.claimDueOutbox] at h
  split at h
  · cases h
  · next row hfind =>
    split_ifs at h with hclaimed
    · obtain ⟨found, hload, rfl⟩ := Option.map_eq_some_iff.mp h
      have hdue := List.find?_some hfind
      simp only [OutboxTable.due, Bool.and_eq_true] at hdue
      exact ⟨row, List.mem_of_find?_eq_some hfind, (OutboxTable.mem_of_load hload).2.symm,
        hdue.1.1.2⟩
    · cases h

/-- No claim returns a dispatched effect. -/
theorem Dispatched.not_claimed {effectId leaseToken : String} {db : OutboxDb}
    (h : Dispatched effectId leaseToken db) {kinds exclude : List String} {now : Time}
    {token : String} {lease : OutboxLease}
    (hclaim : (db.claimOutbox kinds now token exclude).2 = some lease) :
    lease.effectId ≠ effectId := by
  rintro rfl
  obtain ⟨row, hmem, hid, hunleased⟩ := unleased_of_claimOutbox hclaim
  obtain ⟨row', hmem', hid', hdispatched⟩ :=
    Dispatched.of_rowRuns (db.abandon_rowRuns kinds now fun row outcome hrow ↦
      RowStep.abandon row outcome now hrow) h
  rw [OutboxTable.eq_of_effectId_eq hmem' hmem (hid'.trans hid.symm)] at hdispatched
  exact OutboxRow.unleased_not_dispatchedUnder hunleased _ hdispatched

/-- Only the token of the dispatch is answered true again. -/
theorem Dispatched.leaseToken_eq {effectId leaseToken : String} {db : OutboxDb}
    (h : Dispatched effectId leaseToken db) {lease : OutboxLease}
    (hmark : (db.markOutboxDispatched lease).2 = true) (hid : lease.effectId = effectId) :
    lease.leaseToken = leaseToken := by
  obtain ⟨row, hmem, hheld, -⟩ := heldBy_of_markOutboxDispatched hmark
  obtain ⟨row', hmem', hid', hdispatched⟩ := h
  have hrowid : row.effectId = lease.effectId := by
    simp only [OutboxRow.heldBy, Bool.and_eq_true, decide_eq_true_eq] at hheld
    exact hheld.1.1
  rw [OutboxTable.eq_of_effectId_eq hmem' hmem (by rw [hid', hrowid, hid])] at hdispatched
  exact (hdispatched.of_heldBy hheld).1

/-- The answers a dispatched effect allows: no claim returns it, and a true answer to
`mark_outbox_dispatched` carries the token of its dispatch. -/
def DispatchAnswer (effectId leaseToken : String) (entry : OutboxCall × OutboxReply) : Prop :=
  (∀ lease, entry.2 = .leased (some lease) → lease.effectId ≠ effectId) ∧
    ∀ lease, entry = (.markDispatched lease, .confirmed true) → lease.effectId = effectId →
      lease.leaseToken = leaseToken

theorem Dispatched.answer {effectId leaseToken : String} {db : OutboxDb}
    (h : Dispatched effectId leaseToken db) (call : OutboxCall) :
    DispatchAnswer effectId leaseToken (call, (outboxMachine.step db call).2) := by
  constructor
  · intro lease hanswer
    cases call with
    | claim kinds now token exclude => exact h.not_claimed (OutboxReply.leased.inj hanswer)
    | _ => cases hanswer
  · intro lease hanswer hid
    obtain ⟨rfl, htrue⟩ := Prod.mk.inj hanswer
    exact h.leaseToken_eq (OutboxReply.confirmed.inj htrue) hid

/-- After a true answer to `mark_outbox_dispatched`, every later answer respects the dispatch. -/
theorem dispatchAnswer_after {db : OutboxDb} {calls : List OutboxCall}
    {before after : List (OutboxCall × OutboxReply)} {lease : OutboxLease}
    (htrace : outboxMachine.trace db calls =
      before ++ (.markDispatched lease, .confirmed true) :: after) :
    ∀ entry ∈ after, DispatchAnswer lease.effectId lease.leaseToken entry :=
  outboxMachine.forall_trace_after (I := fun _ ↦ True)
    (P := Dispatched lease.effectId lease.leaseToken)
    (fun _ _ _ ↦ trivial) (fun _ call _ h ↦ h.step call) (fun _ call _ h ↦ h.answer call)
    trivial htrace
    (fun _ _ h ↦ dispatched_of_markOutboxDispatched (OutboxReply.confirmed.inj h))

/-- At most one dispatch. In every run of the outbox, once `mark_outbox_dispatched` has answered
true for an effect, no later claim returns the effect, and every true answer of the run for that
effect carries the same lease token. -/
theorem markOutboxDispatched_once (db : OutboxDb) (calls : List OutboxCall)
    (before after : List (OutboxCall × OutboxReply)) (lease : OutboxLease)
    (htrace : outboxMachine.trace db calls =
      before ++ (.markDispatched lease, .confirmed true) :: after) :
    (∀ call claimed, (call, .leased (some claimed)) ∈ after →
      claimed.effectId ≠ lease.effectId) ∧
    ∀ other, (.markDispatched other, .confirmed true) ∈ outboxMachine.trace db calls →
      other.effectId = lease.effectId → other.leaseToken = lease.leaseToken := by
  have hafter := dispatchAnswer_after htrace
  refine ⟨fun call claimed hclaim ↦ (hafter _ hclaim).1 claimed rfl, fun other hother hid ↦ ?_⟩
  rw [htrace] at hother
  rcases List.mem_append.mp hother with hbefore | hrest
  · -- The other answer came first, so it is the one whose token later answers carry.
    obtain ⟨first, second, rfl⟩ := List.append_of_mem hbefore
    rw [List.append_assoc, List.cons_append] at htrace
    have hlater := dispatchAnswer_after htrace (.markDispatched lease, .confirmed true)
      (List.mem_append_right second List.mem_cons_self)
    exact (hlater.2 lease rfl hid.symm).symm
  · rcases List.mem_cons.mp hrest with heq | hrest
    · simp only [Prod.mk.injEq, OutboxCall.markDispatched.injEq, and_true] at heq
      rw [heq]
    · exact (hafter _ hrest).2 other rfl hid

/-- An effect admitted, claimed and dispatched. Its claim is refused afterwards, and its fence can
only be recorded again under the same token. -/
theorem markOutboxDispatched_once_submitted :
    let effect : OutboxEffect := ⟨"e1", "0123456789ab", "task.submit", "key", "agent", []⟩
    let lease := OutboxDb.leaseOf { toOutboxEffect := effect, attempts := 1 } "t1"
    let calls : List OutboxCall := [.admitEffects "0123456789ab" 1 [effect],
      .claim ["task.submit"] 10 "t1" [], .markDispatched lease,
      .claim ["task.submit"] 11 "t2" []]
    (∀ call claimed, (call, .leased (some claimed)) ∈
        [((.claim ["task.submit"] 11 "t2" [] : OutboxCall), OutboxReply.leased none)] →
      claimed.effectId ≠ lease.effectId) ∧
    ∀ other, (.markDispatched other, .confirmed true) ∈ outboxMachine.trace .empty calls →
      other.effectId = lease.effectId → other.leaseToken = lease.leaseToken :=
  markOutboxDispatched_once .empty _
    [(.admitEffects "0123456789ab" 1
        [⟨"e1", "0123456789ab", "task.submit", "key", "agent", []⟩], .done),
      (.claim ["task.submit"] 10 "t1" [], .leased (some (OutboxDb.leaseOf
        { toOutboxEffect := ⟨"e1", "0123456789ab", "task.submit", "key", "agent", []⟩
          attempts := 1 } "t1")))]
    _ _ rfl

end VoiceHarness
