import VoiceHarness.Activation.Law

/-!
# The journal among its callers

The voice assistant makes offers, records what the user says to them and gives up workers, while a worker runs. Each
of its calls is one step (`others`), and an offer gets an id that no other offer has. `Sound` is what always holds of
the journal, and `Rely` is what the worker may rely on between two of its requests.
-/

set_option autoImplicit false
set_option relaxedAutoImplicit false

namespace VoiceHarness.Activation

open Library

section Others

variable [JournalLibrary]

/-- The file holds the record. -/
structure Journal.Has (journal : Journal) (record : ActivationRecord) : Prop where
  file : journal.file = some record.toDict
  wellFormed : record.WellFormed

/-- What always holds: the log is lawful, the file is read back, its record is right, and what it no longer holds has
been acknowledged. -/
structure Sound (journal : Journal) : Prop where
  lawful : Lawful journal.log
  readable : journal.file = none ∨ ∃ record, journal.Has record
  right : ∀ record, journal.Has record → Right journal.log record
  kept : ∀ id, Known journal.log id →
    (∃ record, journal.Has record ∧ record.id = id) ∨ .changed id .acknowledge ∈ journal.log

variable {journal later : Journal} {record next other : ActivationRecord}

theorem Journal.Has.read (h : journal.Has record) : journal.read = .ok (some record) := by
  rw [Journal.read, h.file]
  exact congrArg (Except.map some) (recordFromDict_toDict h.wellFormed)

theorem Journal.Has.unique (h : journal.Has record) (hother : journal.Has other) : record = other :=
  Option.some.inj (Except.ok.inj (h.read.symm.trans hother.read))

theorem read_of_file {journal : Journal} (h : journal.file = none) : journal.read = .ok none := by
  rw [Journal.read, h]

/-- What is read of a sound journal is what it holds. -/
theorem Sound.read_cases (h : Sound journal) :
    journal.read = .ok none ∧ journal.file = none ∨ ∃ record, journal.read = .ok (some record) ∧ journal.Has record := by
  rcases h.readable with hfile | ⟨record, hrecord⟩
  · exact .inl ⟨read_of_file hfile, hfile⟩
  · exact .inr ⟨record, hrecord.read, hrecord⟩

omit [JournalLibrary] in
theorem has_write {event : ActivationEvent} (h : record.WellFormed) : (journal.write record event).Has record :=
  ⟨rfl, h⟩

/-- The file after a write holds what was written. -/
theorem eq_of_has_write {event : ActivationEvent} (h : record.WellFormed)
    (hother : (journal.write record event).Has other) : other = record :=
  hother.unique (has_write h)

/-- A write of a right record that its event allows, over a record of the same activation or an acknowledged one. -/
theorem Sound.write {event : ActivationEvent} (h : Sound journal) (hallowed : Allowed journal.log event)
    (hright : Right (event :: journal.log) record)
    (hknown : ∀ id, Known (event :: journal.log) id → Known journal.log id ∨ id = record.id)
    (hover : ∀ other, journal.Has other → other.id = record.id ∨ .changed other.id .acknowledge ∈ journal.log) :
    Sound (journal.write record event) where
  lawful := ⟨hallowed, h.lawful⟩
  readable := .inr ⟨record, has_write hright.identified.wellFormed⟩
  right other hother := by
    rw [eq_of_has_write hright.identified.wellFormed hother]
    exact hright
  kept id hid := by
    by_cases hsame : id = record.id
    · exact .inl ⟨record, has_write hright.identified.wellFormed, hsame.symm⟩
    rcases h.kept id ((hknown id hid).resolve_right hsame) with ⟨other, hother, rfl⟩ | hacknowledged
    · exact .inr (List.mem_cons_of_mem _ ((hover other hother).resolve_left hsame))
    · exact .inr (List.mem_cons_of_mem _ hacknowledged)

/-! ### Operations -/

variable {recordId : String} {change : Change} {now : Time}

/-- An operation raises and leaves the journal, or applies to the record that the file holds. -/
theorem Sound.update_cases (h : Sound journal) (recordId : String) (change : Change) (now : Time) :
    (∃ error, journal.update recordId change now = (.error error, journal)) ∨
      ∃ record next, journal.Has record ∧ record.id = recordId ∧ change.precheck = .ok () ∧
        Applies record change next ∧
        journal.update recordId change now = (.ok { next with updatedAt := now },
          journal.write { next with updatedAt := now } (.changed recordId change)) := by
  rcases hprecheck : change.precheck with error | ⟨⟩
  · refine .inl ⟨error, ?_⟩
    simp only [Journal.update, hprecheck, bind, Except.bind]
  · rcases h.read_cases with ⟨hread, -⟩ | ⟨record, hread, hrecord⟩
    · refine .inl ⟨stateError "activation request no longer exists", ?_⟩
      simp only [Journal.update, hprecheck, hread, bind, Except.bind]
    · by_cases hid : record.id = recordId
      · cases htransition : change.transition record with
        | error error =>
          refine .inl ⟨error, ?_⟩
          simp only [Journal.update, hprecheck, hread, if_pos hid, htransition, bind, Except.bind]
        | ok next =>
          refine .inr ⟨record, next, hrecord, hid, rfl, applies_of_transition htransition, ?_⟩
          simp only [Journal.update, hprecheck, hread, if_pos hid, htransition, bind, Except.bind]
          rfl
      · refine .inl ⟨stateError "activation request no longer exists", ?_⟩
        simp only [Journal.update, hprecheck, hread, if_neg hid, bind, Except.bind]

omit [JournalLibrary] in
/-- The user declines before anything is restarted. -/
theorem Right.allowed (h : Right journal.log record) (happlies : Applies record change next) :
    Allowed journal.log (.changed record.id change) := by
  obtain ⟨offer, hoffer, hsame⟩ := h.identified.offered
  refine ⟨⟨offer, hoffer, hsame.id⟩, ?_, ?_⟩
  swap
  · rintro rfl
    refine h.closed.ended (rank_eq_five_iff.mpr ?_)
    cases happlies with
    | acknowledge hstatus => exact hstatus
  rintro rfl rollback service hmem
  have hrank : record.status.rank = 0 := by
    cases happlies with
    | decline hstatus => rw [hstatus, ActivationStatus.rank]
  cases rollback with
  | false =>
    have hlate := (h.attempted.restarts service hmem).1
    omega
  | true =>
    have hlate := (h.attempted.rollbacks service hmem).1
    omega

/-- A justified operation keeps the journal sound. -/
theorem Sound.applies (h : Sound journal) (hrecord : journal.Has record) (happlies : Applies record change next)
    (hchange : Justified journal.log record change) (hprecheck : change.precheck = .ok ()) :
    Sound (journal.write { next with updatedAt := now } (.changed record.id change)) := by
  have hright := h.right record hrecord
  refine h.write (hright.allowed happlies) ((hright.applies happlies hchange hprecheck).touch now) ?_ ?_
  · rintro id ⟨offer, hoffer, hid⟩
    exact .inl ⟨offer, (List.mem_cons.mp hoffer).resolve_left (by simp), hid⟩
  · intro other hother
    rw [hother.unique hrecord]
    exact .inl happlies.sameOffer.id

/-! ### Offers -/

omit [JournalLibrary] in
theorem nodup_distinctValues (values : List String) : (distinctValues values).Nodup := by
  have hempty : (([] : List String).map id).Nodup := List.nodup_nil
  have hnodup := nodup_storeAll hempty values
  rwa [List.map_id] at hnodup

/-- The offer leaves the journal, or is written over an acknowledged record. -/
theorem Sound.createOffer_cases (h : Sound journal) (pending : PendingConfigChange) (recordId : String) (now : Time) :
    (journal.createOffer pending recordId now).2 = journal ∨
      (offerRecord pending recordId now).targets ≠ [] ∧
        (∀ service ∈ (offerRecord pending recordId now).targets, service ∈ serviceFiles) ∧
        (∀ record, journal.Has record → record.acknowledged = true) ∧
        journal.createOffer pending recordId now =
          (.ok (some (offerRecord pending recordId now)),
            journal.write (offerRecord pending recordId now) (.offered (offerRecord pending recordId now))) := by
  by_cases htargets : (offerRecord pending recordId now).targets = []
  · left
    simp only [Journal.createOffer, if_pos htargets]
  by_cases hreported : ((offerRecord pending recordId now).targets.any fun service ↦
      decide (service ∉ serviceFiles) || decide (service ∉ pending.affectedServices)) = true
  · left
    simp only [Journal.createOffer, if_neg htargets, if_pos hreported]
  have hservices : ∀ service ∈ (offerRecord pending recordId now).targets, service ∈ serviceFiles := by
    intro service hservice
    by_contra hforeign
    exact hreported (List.any_eq_true.mpr ⟨service, hservice, by simp [hforeign]⟩)
  rcases h.read_cases with ⟨hread, hfile⟩ | ⟨record, hread, hrecord⟩
  · right
    refine ⟨htargets, hservices, ?_, ?_⟩
    · intro record hrecord
      have hsome := hrecord.file
      rw [hfile] at hsome
      cases hsome
    · simp only [Journal.createOffer, if_neg htargets, if_neg hreported, hread]
  · by_cases hacknowledged : record.acknowledged = true
    · right
      refine ⟨htargets, hservices, ?_, ?_⟩
      · intro other hother
        rw [hother.unique hrecord]
        exact hacknowledged
      · simp only [Journal.createOffer, if_neg htargets, if_neg hreported, hread, if_pos hacknowledged]
    · left
      simp only [Journal.createOffer, if_neg htargets, if_neg hreported, hread, if_neg hacknowledged]

omit [JournalLibrary] in
/-- An offer with a new id is right. -/
theorem right_offerRecord {pending : PendingConfigChange} (hlawful : Lawful journal.log) (hid : IsHex 32 recordId)
    (hfresh : ¬ Known journal.log recordId) (htargets : (offerRecord pending recordId now).targets ≠ [])
    (hservices : ∀ service ∈ (offerRecord pending recordId now).targets, service ∈ serviceFiles) :
    Right (.offered (offerRecord pending recordId now) :: journal.log) (offerRecord pending recordId now) := by
  have hchanged : ∀ change, .changed recordId change ∉ journal.log := fun change hmem ↦
    hfresh (hlawful.known hmem (.inl ⟨change, rfl⟩))
  have hrestarted : ∀ rollback service, .restarted recordId rollback service ∉ journal.log :=
    fun rollback service hmem ↦ hfresh (hlawful.known hmem (.inr (.inl ⟨rollback, service, rfl⟩)))
  have hvalidated : ∀ usable, .validated recordId usable ∉ journal.log := fun usable hmem ↦
    hfresh (hlawful.known hmem (.inr (.inr ⟨usable, rfl⟩)))
  refine ⟨?_, ?_, ?_, ?_, ?_, ?_⟩
  · refine ⟨⟨hid, .inl rfl, htargets, hservices, ?_, .inl rfl⟩, nodup_distinctValues _, _, List.mem_cons_self,
      rfl, rfl, rfl, rfl, rfl⟩
    simp [offerRecord, Function.comp_def]
  · refine ⟨fun hdelivered ↦ ?_, fun hstatus ↦ ?_, fun hrank ↦ ?_, fun hmem ↦ ?_⟩
    · cases hdelivered
    · cases hstatus
    · simp [offerRecord, ActivationStatus.rank] at hrank
    · exact absurd ((List.mem_cons.mp hmem).resolve_left (by simp)) (hchanged .decline)
  · refine ⟨fun _ ↦ rfl, fun service hmem ↦ ?_, fun service hmem ↦ ?_, fun hstatus ↦ ?_⟩
    · exact absurd ((List.mem_cons.mp hmem).resolve_left (by simp)) (hrestarted false service)
    · exact absurd ((List.mem_cons.mp hmem).resolve_left (by simp)) (hrestarted true service)
    · cases hstatus
  · refine ⟨fun usable hmem ↦ ?_, fun hvalidatedVoice ↦ ?_, fun hstatus ↦ ?_⟩
    · exact absurd ((List.mem_cons.mp hmem).resolve_left (by simp)) (hvalidated usable)
    · cases hvalidatedVoice
    · cases hstatus
  · refine ⟨fun hstatus ↦ ?_, fun hstatus ↦ ?_, fun outcome houtcome hsucceeded ↦ ?_, fun hstatus ↦ ?_⟩
    · cases hstatus
    · cases hstatus
    · obtain ⟨service, -, rfl⟩ := List.mem_map.mp houtcome
      cases hsucceeded
    · cases hstatus
  · refine ⟨fun hrank ↦ ?_, fun hacknowledged ↦ ?_⟩
    · simp [offerRecord, ActivationStatus.rank] at hrank
    · cases hacknowledged

/-! ### What the others do -/

/-- A call of the voice assistant, with what `uuid` and the clock give it. -/
inductive Call where
  | createOffer (pending : PendingConfigChange) (recordId : String) (now : Time)
  | operate (recordId : String) (change : Change) (now : Time)

def isKnown (log : List ActivationEvent) (id : String) : Bool :=
  log.any fun event ↦
    match event with
    | .offered offer => offer.id = id
    | _ => false

omit [JournalLibrary] in
theorem isKnown_iff {log : List ActivationEvent} {id : String} : isKnown log id = true ↔ Known log id := by
  rw [isKnown, List.any_eq_true]
  constructor
  · rintro ⟨event, hmem, hevent⟩
    cases event with
    | offered offer => exact ⟨offer, hmem, of_decide_eq_true hevent⟩
    | _ => cases hevent
  · rintro ⟨offer, hmem, hid⟩
    exact ⟨.offered offer, hmem, decide_eq_true hid⟩

instance (log : List ActivationEvent) (id : String) : Decidable (Known log id) := decidable_of_iff _ isKnown_iff

/-- The journal after a call. `uuid4().hex` gives 32 digits, and never an id that it has given before. -/
def others (journal : Journal) : Call → Journal
  | .createOffer pending recordId now =>
    if IsHex 32 recordId ∧ ¬ Known journal.log recordId then (journal.createOffer pending recordId now).2 else journal
  | .operate recordId change now => if change.isOthers then (journal.update recordId change now).2 else journal

/-- What the others leave of a record. -/
structure Follows (old new : ActivationRecord) : Prop where
  same : SameOffer old new
  outcomes : new.outcomes = old.outcomes
  digest : new.expectedConfigDigest = old.expectedConfigDigest
  validated : new.voiceValidated = old.voiceValidated
  attempted : new.voiceValidationAttempted = old.voiceValidationAttempted
  rank : old.status.rank ≤ new.status.rank
  rollback : 4 ≤ old.status.rank → new.rollbackOutcomes = old.rollbackOutcomes

omit [JournalLibrary] in
theorem Follows.refl (record : ActivationRecord) : Follows record record :=
  ⟨SameOffer.refl record, rfl, rfl, rfl, rfl, le_rfl, fun _ ↦ rfl⟩

omit [JournalLibrary] in
theorem Follows.trans {first second third : ActivationRecord} (h : Follows first second)
    (hnext : Follows second third) : Follows first third where
  same := h.same.trans hnext.same
  outcomes := hnext.outcomes.trans h.outcomes
  digest := hnext.digest.trans h.digest
  validated := hnext.validated.trans h.validated
  attempted := hnext.attempted.trans h.attempted
  rank := h.rank.trans hnext.rank
  rollback hrank := (hnext.rollback (hrank.trans h.rank)).trans (h.rollback hrank)

/-- A longer log with no further restart and no further validation. -/
structure Grows (before after : List ActivationEvent) : Prop where
  subset : before ⊆ after
  restarts : ∀ id rollback service, .restarted id rollback service ∈ after → .restarted id rollback service ∈ before
  validated : ∀ id usable, .validated id usable ∈ after → .validated id usable ∈ before

omit [JournalLibrary] in
theorem Grows.refl (log : List ActivationEvent) : Grows log log :=
  ⟨fun _ hmem ↦ hmem, fun _ _ _ hmem ↦ hmem, fun _ _ hmem ↦ hmem⟩

omit [JournalLibrary] in
theorem Grows.trans {first second third : List ActivationEvent} (h : Grows first second)
    (hnext : Grows second third) : Grows first third where
  subset _ hmem := hnext.subset (h.subset hmem)
  restarts id rollback service hmem := h.restarts id rollback service (hnext.restarts id rollback service hmem)
  validated id usable hmem := h.validated id usable (hnext.validated id usable hmem)

omit [JournalLibrary] in
theorem Known.mono {before after : List ActivationEvent} {id : String} (h : Known before id) (hlog : before ⊆ after) :
    Known after id := by
  obtain ⟨offer, hoffer, hid⟩ := h
  exact ⟨offer, hlog hoffer, hid⟩

/-- What the worker may rely on: the others ask for no restart and for no validation, they decline nothing that is
ready, and of an activation that has been offered they only bring the record further. -/
structure Rely (before after : Journal) : Prop where
  grows : Grows before.log after.log
  undeclined : ∀ id, Known before.log id →
    (∀ record, before.Has record → record.id = id → 2 ≤ record.status.rank) →
    .changed id .decline ∈ after.log → .changed id .decline ∈ before.log
  follows : ∀ id, Known before.log id → ∀ record, after.Has record → record.id = id →
    ∃ old, before.Has old ∧ old.id = id ∧ Follows old record

omit [JournalLibrary] in
theorem Rely.refl (journal : Journal) : Rely journal journal where
  grows := Grows.refl journal.log
  undeclined _ _ _ hmem := hmem
  follows _ _ record hrecord hid := ⟨record, hrecord, hid, Follows.refl record⟩

omit [JournalLibrary] in
theorem Rely.trans {first second third : Journal} (h : Rely first second) (hnext : Rely second third) :
    Rely first third where
  grows := h.grows.trans hnext.grows
  undeclined id hknown hready hmem := by
    refine h.undeclined id hknown hready (hnext.undeclined id (hknown.mono h.grows.subset) ?_ hmem)
    intro record hrecord hid
    obtain ⟨old, hold, holdId, hfollows⟩ := h.follows id hknown record hrecord hid
    exact (hready old hold holdId).trans hfollows.rank
  follows id hknown record hrecord hid := by
    obtain ⟨middle, hmiddle, hmiddleId, hlast⟩ := hnext.follows id (hknown.mono h.grows.subset) record hrecord hid
    obtain ⟨old, hold, holdId, hfirst⟩ := h.follows id hknown middle hmiddle hmiddleId
    exact ⟨old, hold, holdId, hfirst.trans hlast⟩

omit [JournalLibrary] in
/-- An event that is no restart and no validation. -/
theorem grows_cons {log : List ActivationEvent} {event : ActivationEvent}
    (hrestart : ∀ id rollback service, event ≠ .restarted id rollback service)
    (hvalidated : ∀ id usable, event ≠ .validated id usable) : Grows log (event :: log) where
  subset := List.subset_cons_self _ _
  restarts id rollback service hmem := (List.mem_cons.mp hmem).resolve_left (hrestart id rollback service).symm
  validated id usable hmem := (List.mem_cons.mp hmem).resolve_left (hvalidated id usable).symm

omit [JournalLibrary] in
theorem grows_changed (log : List ActivationEvent) (id : String) (change : Change) :
    Grows log (.changed id change :: log) :=
  grows_cons (by simp) (by simp)

omit [JournalLibrary] in
/-- The others' operations bring a record further. -/
theorem Applies.follows (happlies : Applies record change next) (hothers : change.isOthers = true)
    (hprecheck : change.precheck = .ok ()) : Follows record { next with updatedAt := now } := by
  have hsame : SameOffer record { next with updatedAt := now } := happlies.sameOffer.touch now
  cases happlies with
  | markOfferDelivered | acknowledge => exact ⟨hsame, rfl, rfl, rfl, rfl, le_rfl, fun _ ↦ rfl⟩
  | accept hstatus | decline hstatus | markPreRestartDelivered hstatus =>
    exact ⟨hsame, rfl, rfl, rfl, rfl, by rw [hstatus]; simp [ActivationStatus.rank], fun _ ↦ rfl⟩
  | beginRollback detail hkey hstatus =>
    have hrank : record.status.rank ≤ 3 := by
      rcases hstatus with hstatus | hstatus | hstatus <;> rw [hstatus] <;> decide
    exact ⟨hsame, rfl, rfl, rfl, rfl, hrank.trans (by simp [ActivationStatus.rank]), fun hlate ↦ by omega⟩
  | failWorker detail hstatus =>
    have hrank : record.status.rank ≤ 4 := by
      rcases hstatus with hstatus | hstatus | hstatus | hstatus <;> rw [hstatus] <;> decide
    exact ⟨hsame, rfl, rfl, rfl, rfl, hrank.trans (by simp [ActivationStatus.rank]), fun _ ↦ rfl⟩
  | _ => simp [Change.isOthers] at hothers

/-- A call keeps the journal sound, and is what the worker relies on. -/
theorem others_spec (h : Sound journal) (call : Call) :
    Sound (others journal call) ∧ Rely journal (others journal call) := by
  cases call with
  | createOffer pending recordId now =>
    rw [others]
    split_ifs with hid
    · rcases h.createOffer_cases pending recordId now with hsame | ⟨htargets, hservices, hover, hwritten⟩
      · rw [hsame]
        exact ⟨h, Rely.refl journal⟩
      · have hright := right_offerRecord h.lawful hid.1 hid.2 htargets hservices
        rw [hwritten]
        refine ⟨h.write ?_ hright ?_ ?_, grows_cons (by simp) (by simp), fun _ _ _ hmem ↦ ?_,
          fun id hknown record hrecord hsame ↦ ?_⟩
        · intro other hother hsame
          exact hid.2 ⟨other, hother, hsame⟩
        · rintro id ⟨offer, hoffer, hofferId⟩
          rcases List.mem_cons.mp hoffer with heq | hoffer
          · obtain rfl := ActivationEvent.offered.inj heq
            exact .inr hofferId.symm
          · exact .inl ⟨offer, hoffer, hofferId⟩
        · intro other hother
          exact .inr ((h.right other hother).closed.acknowledged (hover other hother))
        · exact (List.mem_cons.mp hmem).resolve_left (by simp)
        · rw [eq_of_has_write hright.identified.wellFormed hrecord] at hsame
          change recordId = id at hsame
          rw [← hsame] at hknown
          exact absurd hknown hid.2
    · exact ⟨h, Rely.refl journal⟩
  | operate recordId change now =>
    rw [others]
    split_ifs with hothers
    · rcases h.update_cases recordId change now with ⟨error, herror⟩ |
        ⟨record, next, hrecord, rfl, hprecheck, happlies, hwritten⟩
      · rw [herror]
        exact ⟨h, Rely.refl journal⟩
      · have hjustified : Justified journal.log record change := justified_of_isOthers hothers
        rw [hwritten]
        refine ⟨h.applies hrecord happlies hjustified hprecheck, grows_changed _ _ _, ?_, ?_⟩
        · intro id hknown hready hmem
          refine (List.mem_cons.mp hmem).resolve_left ?_
          intro hdeclined
          obtain ⟨rfl, rfl⟩ := ActivationEvent.changed.inj hdeclined
          have hrank := hready record hrecord rfl
          cases happlies with
          | decline hstatus =>
            rw [hstatus] at hrank
            exact absurd hrank (by decide)
        · intro id hknown other hother hid
          have hright := ((h.right record hrecord).applies happlies hjustified hprecheck).touch now
          have hfollows : Follows record { next with updatedAt := now } := happlies.follows hothers hprecheck
          obtain rfl := eq_of_has_write hright.identified.wellFormed hother
          exact ⟨record, hrecord, hfollows.same.id.trans hid, hfollows⟩
    · exact ⟨h, Rely.refl journal⟩

end Others

end VoiceHarness.Activation
