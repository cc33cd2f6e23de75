import VoiceHarness.Stt.Directory
import Mathlib.Algebra.Order.Ring.Rat

/-!
# The scan of the retained deliveries

`_recover_retained_deliveries` lists each root once and then works through the names, while other
connections release deliveries, so what the listing shows may be gone when the scan comes to it. The scan is
modelled call by call: its phase says which system call comes next.
-/

set_option autoImplicit false
set_option relaxedAutoImplicit false

namespace VoiceHarness.Stt

open Library

/-- What the scan does next. `names` are the listed names that are left in the root. -/
inductive ScanPhase
  | root
  | entry (names : List String)
  | listReleased (name : String) (names : List String)
  | removeChildren (name : String) (children : List String) (names : List String)
  | unlinkChild (name child : String) (children : List String) (names : List String)
  | findDestination (name deliveryId : String) (names : List String)
  | renameHidden (name deliveryId : String) (names : List String)
  | loadRenamed (deliveryId : String) (names : List String)
  | returned (deliveries : List Retained)
  | raised (error : LoadError)
  deriving DecidableEq, Repr

/-- The roots, the root that the scan is in, and what it has recovered. -/
structure Scan where
  roots : Roots
  index : ℕ
  phase : ScanPhase
  recovered : List Retained
  deriving DecidableEq, Repr

/-- The order of `recovered.sort`. -/
def Retained.le (first second : Retained) : Bool :=
  decide (first.createdAt < second.createdAt ∨
    first.createdAt = second.createdAt ∧ first.deliveryId ≤ second.deliveryId)

namespace Scan

/-- The root that the scan is in. -/
def current (scan : Scan) : Option Root := scan.roots[scan.index]?.join

/-- The entry of that name in the current root. -/
def find (scan : Scan) (name : String) : Option Node := scan.roots.find scan.index name

/-- The scan after a load: an `OSError` or a `JSONDecodeError` is logged, another exception ends it. -/
def afterLoad (scan : Scan) (names : List String) (loaded : Except LoadError Retained)
    (next : Retained → Scan) : Scan :=
  match loaded with
  | .ok delivery => next delivery
  | .error .confined => { scan with phase := .entry names }
  | .error error => { scan with phase := .raised error }

/-- The scan with one more delivery. -/
def recover (scan : Scan) (names : List String) (delivery : Retained) : Scan :=
  { scan with phase := .entry names, recovered := scan.recovered ++ [delivery] }

/-- An `OSError` that nothing confines. -/
def raise (scan : Scan) : Scan := { scan with phase := .raised .confined }

/-- The next system call of the scan. -/
def step (scan : Scan) : Scan :=
  match scan.phase with
  | .root =>
    match scan.roots[scan.index]? with
    | none => { scan with phase := .returned (scan.recovered.mergeSort Retained.le) }
    | some none => { scan with index := scan.index + 1 }
    | some (some root) =>
      if root.isPrivate then { scan with phase := .entry root.listing } else scan.raise
  | .entry [] => { scan with index := scan.index + 1, phase := .root }
  | .entry (name :: names) =>
    if startsWith name releasedRetainedPrefix then
      match scan.find name with
      | some (.directory stat _) =>
        if stat.isPrivate then { scan with phase := .listReleased name names } else scan.raise
      | _ => scan.raise
    else if startsWith name "." then
      scan.afterLoad names (loadRetainedDelivery name (scan.find name)) fun delivery ↦
        { scan with phase := .findDestination name delivery.deliveryId names }
    else
      scan.afterLoad names (loadRetainedDelivery name (scan.find name)) (scan.recover names)
  | .listReleased name names =>
    match scan.find name with
    | some (.directory stat children) =>
      if stat.canList then
        { scan with phase := .removeChildren name (children.map Prod.fst) names }
      else scan.raise
    | _ => scan.raise
  | .removeChildren name [] names =>
    match scan.find name with
    | some (.directory _ []) =>
      { scan with
        roots := scan.roots.update scan.index (·.remove name)
        phase := .entry names }
    | _ => scan.raise
  | .removeChildren name (child :: children) names =>
    if child = retainedAudio ∨ child = retainedMetadata then
      match scan.find name with
      | some (.directory stat files) =>
        match findFile files child with
        | some file =>
          if stat.canSearch && file.isRegular && file.stat.isPrivate then
            { scan with phase := .unlinkChild name child children names }
          else scan.raise
        | none => scan.raise
      | _ => scan.raise
    else scan.raise
  | .unlinkChild name child children names =>
    match scan.find name with
    | some (.directory stat files) =>
      if stat.canRemove && (findFile files child).isSome then
        { scan with
          roots := scan.roots.update scan.index (·.unlink name child)
          phase := .removeChildren name children names }
      else scan.raise
    | _ => scan.raise
  | .findDestination name deliveryId names =>
    match scan.find deliveryId with
    | some _ => { scan with phase := .entry names }
    | none => { scan with phase := .renameHidden name deliveryId names }
  | .renameHidden name deliveryId names =>
    match scan.find name with
    | some _ =>
      { scan with
        roots := scan.roots.update scan.index (·.rename name deliveryId)
        phase := .loadRenamed deliveryId names }
    | none => { scan with phase := .entry names }
  | .loadRenamed deliveryId names =>
    scan.afterLoad names (loadRetainedDelivery deliveryId (scan.find deliveryId))
      (scan.recover names)
  | .returned deliveries => { scan with phase := .returned deliveries }
  | .raised error => { scan with phase := .raised error }

/-- A load of the entry raises no exception but those that the scan expects. -/
def Loads (scan : Scan) (name : String) : Prop :=
  ∀ error, loadRetainedDelivery name (scan.find name) = .error error → error = .confined

/-- The next system call of the scan finds what it needs: a private root, a `.released-` entry that is
still there and holds nothing but the files of a delivery, and metadata that Python can decode, parse and
compare. -/
def Unharmed (scan : Scan) : Prop :=
  match scan.phase with
  | .root => ∀ root, scan.current = some root → root.isPrivate = true
  | .entry [] => True
  | .entry (name :: _) =>
    if startsWith name releasedRetainedPrefix then
      ∃ stat children, scan.find name = some (.directory stat children) ∧ stat.isPrivate = true
    else scan.Loads name
  | .listReleased name _ =>
    ∃ stat children, scan.find name = some (.directory stat children) ∧ stat.canList = true
  | .removeChildren name [] _ => ∃ stat, scan.find name = some (.directory stat [])
  | .removeChildren name (child :: _) _ =>
    (child = retainedAudio ∨ child = retainedMetadata) ∧
      ∃ stat children file, scan.find name = some (.directory stat children) ∧
        findFile children child = some file ∧
        stat.canSearch = true ∧ file.isRegular = true ∧ file.stat.isPrivate = true
  | .unlinkChild name child _ _ =>
    ∃ stat children, scan.find name = some (.directory stat children) ∧ stat.canRemove = true ∧
      (findFile children child).isSome = true
  | .loadRenamed deliveryId _ => scan.Loads deliveryId
  | .findDestination _ _ _ | .renameHidden _ _ _ | .returned _ | .raised _ => True

/-- The scan has ended. -/
def Finished (scan : Scan) : Prop :=
  (∃ deliveries, scan.phase = .returned deliveries) ∨ ∃ error, scan.phase = .raised error

/-- The scan has raised. -/
def Raised (scan : Scan) : Prop := ∃ error, scan.phase = .raised error

end Scan

/-! ### Runs -/

/-- What happens next: the scan takes a step or a release makes a call. -/
inductive ScanEvent
  | scan
  | release (call : ReleaseCall)
  deriving DecidableEq, Repr

/-- The scan among the releases. -/
def scanMachine : Machine Scan ScanEvent Unit where
  step scan event :=
    match event with
    | .scan => (scan.step, ())
    | .release call => ({ scan with roots := call.apply scan.roots }, ())

/-- An order of the events in which the scan keeps getting its turn. -/
structure ScanSchedule where
  event : ℕ → ScanEvent
  live : ∀ time, ∃ later ≥ time, event later = .scan

/-- A delivery of the root is released at some time. -/
def ScanSchedule.Releases (schedule : ScanSchedule) (index : ℕ) (deliveryId : String) : Prop :=
  ∃ time token, schedule.event time = .release (.rename index deliveryId token)

/-- The call of `_recover_retained_deliveries` on some roots. -/
def Scan.start (roots : Roots) : Scan := { roots, index := 0, phase := .root, recovered := [] }

/-- The call returns the deliveries in order, with every well-formed one that nothing releases. -/
def Recovers (roots : Roots) (schedule : ScanSchedule) : Prop :=
  ∃ time deliveries,
    (scanMachine.stateAt (.start roots) schedule.event time).phase = .returned deliveries ∧
    deliveries.Pairwise (fun first second ↦ first.le second = true) ∧
    ∀ index root name delivery, roots[index]? = some (some root) → startsWith name "." = false →
      loadRetainedDelivery name (root.find name) = .ok delivery →
      ¬ schedule.Releases index name → delivery ∈ deliveries

namespace Scan

variable {scan : Scan}

theorem raised_raise : scan.raise.Raised := ⟨_, rfl⟩

theorem not_raised_of_phase {next : Scan} {phase : ScanPhase} (hphase : next.phase = phase)
    (hne : ∀ error, phase ≠ .raised error) : ¬ next.Raised := by
  rintro ⟨error, herror⟩
  exact hne error (hphase.symm.trans herror)

/-- A load ends the scan when it raises what the scan does not expect. -/
theorem raised_afterLoad_iff {names : List String} {loaded : Except LoadError Retained}
    {next : Retained → Scan} (hnext : ∀ delivery, ¬ (next delivery).Raised) :
    (scan.afterLoad names loaded next).Raised ↔
      ¬ ∀ error, loaded = .error error → error = .confined := by
  cases loaded with
  | ok delivery =>
    have hnone : ∀ error, (Except.ok delivery : Except LoadError Retained) = .error error →
        error = .confined := fun error h ↦ nomatch h
    exact iff_of_false (hnext delivery) (not_not_intro hnone)
  | error error =>
    by_cases herror : error = .confined
    · subst herror
      have hall : ∀ error, (Except.error .confined : Except LoadError Retained) = .error error →
          error = .confined := by
        intro error h
        cases h
        rfl
      refine iff_of_false ?_ (not_not_intro hall)
      exact not_raised_of_phase rfl fun error h ↦ nomatch h
    · refine iff_of_true ⟨error, ?_⟩ fun hall ↦ herror (hall error rfl)
      cases error with
      | confined => exact absurd rfl herror
      | _ => rfl

/-- A step raises exactly when it does not find what it needs. -/
theorem raised_step_iff (hrunning : ¬ scan.Finished) : scan.step.Raised ↔ ¬ scan.Unharmed := by
  unfold step Unharmed
  cases hphase : scan.phase with
  | root =>
    simp only
    cases hroot : scan.roots[scan.index]? with
    | none =>
      have hcurrent : scan.current = none := by rw [current, hroot]; rfl
      simp [Raised, hcurrent]
    | some found =>
      cases found with
      | none =>
        have hcurrent : scan.current = none := by rw [current, hroot]; rfl
        simp [Raised, hcurrent]
      | some root =>
        have hcurrent : scan.current = some root := by rw [current, hroot]; rfl
        by_cases hprivate : root.isPrivate = true
        · simp [Raised, hcurrent, hprivate]
        · simp [Raised, hcurrent, hprivate, raise]
  | entry names =>
    cases names with
    | nil => simp [Raised]
    | cons name names =>
      by_cases hreleased : startsWith name releasedRetainedPrefix = true
      · simp only [if_pos hreleased]
        split
        · rename_i stat children hfind
          by_cases hprivate : stat.isPrivate = true
          · simp [Raised, hfind, hprivate]
          · simp [Raised, hfind, hprivate, raise]
        · rename_i hfind
          refine iff_of_true raised_raise ?_
          rintro ⟨stat, children, hdirectory, -⟩
          exact hfind stat children hdirectory
      · simp only [if_neg hreleased]
        split
        · exact raised_afterLoad_iff fun delivery ↦
            not_raised_of_phase rfl fun error h ↦ nomatch h
        · exact raised_afterLoad_iff fun delivery ↦
            not_raised_of_phase rfl fun error h ↦ nomatch h
  | listReleased name names =>
    simp only
    split
    · rename_i stat children hfind
      by_cases hlist : stat.canList = true
      · simp [Raised, hfind, hlist]
      · simp [Raised, hfind, hlist, raise]
    · rename_i hfind
      refine iff_of_true raised_raise ?_
      rintro ⟨stat, children, hdirectory, -⟩
      exact hfind stat children hdirectory
  | removeChildren name children names =>
    cases children with
    | nil =>
      simp only
      split
      · rename_i stat hfind
        simp [Raised, hfind]
      · rename_i hfind
        refine iff_of_true raised_raise ?_
        rintro ⟨stat, hdirectory⟩
        exact hfind stat hdirectory
    | cons child children =>
      by_cases hallowed : child = retainedAudio ∨ child = retainedMetadata
      · simp only [if_pos hallowed]
        split
        · rename_i stat files hfind
          cases hfile : findFile files child with
          | none => simp [hfind, hfile, raised_raise]
          | some file =>
            by_cases hok : (stat.canSearch && file.isRegular && file.stat.isPrivate) = true
            · have hparts := hok
              rw [Bool.and_eq_true, Bool.and_eq_true] at hparts
              simp [Raised, hfind, hfile, hallowed, hparts]
            · simp only [hok]
              refine iff_of_true raised_raise ?_
              rintro ⟨-, other, others, found, hdirectory, hfound, hsearch, hregular, hprivate⟩
              rw [hfind] at hdirectory
              cases hdirectory
              rw [hfile] at hfound
              cases hfound
              exact hok (by simp [hsearch, hregular, hprivate])
        · rename_i hfind
          refine iff_of_true raised_raise ?_
          rintro ⟨-, stat, files, file, hdirectory, -⟩
          exact hfind stat files hdirectory
      · simp only [if_neg hallowed]
        exact iff_of_true raised_raise fun h ↦ hallowed h.1
  | unlinkChild name child children names =>
    simp only
    split
    · rename_i stat files hfind
      by_cases hok : (stat.canRemove && (findFile files child).isSome) = true
      · have hparts := hok
        rw [Bool.and_eq_true] at hparts
        simp [Raised, hfind, hparts]
      · simp only [hok]
        refine iff_of_true raised_raise ?_
        rintro ⟨other, others, hdirectory, hremove, hsome⟩
        rw [hfind] at hdirectory
        cases hdirectory
        exact hok (by simp [hremove, hsome])
    · rename_i hfind
      refine iff_of_true raised_raise ?_
      rintro ⟨stat, files, hdirectory, -⟩
      exact hfind stat files hdirectory
  | findDestination name deliveryId names =>
    simp only
    split
    · simp [Raised]
    · simp [Raised]
  | renameHidden name deliveryId names =>
    simp only
    split
    · simp [Raised]
    · simp [Raised]
  | loadRenamed deliveryId names =>
    exact raised_afterLoad_iff fun delivery ↦ not_raised_of_phase rfl fun error h ↦ nomatch h
  | returned deliveries => exact absurd (.inl ⟨deliveries, hphase⟩) hrunning
  | raised error => exact absurd (.inr ⟨error, hphase⟩) hrunning

/-! ### The scan ends -/

/-- The scan is in a root that is there whenever it works through names. -/
def Inside (scan : Scan) : Prop :=
  scan.phase = .root ∨ scan.Finished ∨ scan.index < scan.roots.length

/-- What is left of the scan: the roots, the names of the current one, whether its children are still to be
listed, and the calls for the current name. -/
def remaining (scan : Scan) : ℕ × ℕ × ℕ × ℕ :=
  let roots := 2 * (scan.roots.length - scan.index)
  match scan.phase with
  | .root => (roots + 1, 0, 0, 0)
  | .entry names => (roots, names.length, 0, 0)
  | .listReleased _ names => (roots, names.length, 1, 0)
  | .removeChildren _ children names => (roots, names.length, 0, 2 * children.length + 1)
  | .unlinkChild _ _ children names => (roots, names.length, 0, 2 * children.length + 2)
  | .findDestination _ _ names => (roots, names.length, 0, 3)
  | .renameHidden _ _ names => (roots, names.length, 0, 2)
  | .loadRenamed _ names => (roots, names.length, 0, 1)
  | .returned _ | .raised _ => (0, 0, 0, 0)

/-- The order of `remaining`. -/
def Less : ℕ × ℕ × ℕ × ℕ → ℕ × ℕ × ℕ × ℕ → Prop :=
  Prod.Lex (· < ·) (Prod.Lex (· < ·) (Prod.Lex (· < ·) (· < ·)))

theorem wellFounded_less : WellFounded Less :=
  WellFounded.prod_lex Nat.lt_wfRel.wf (WellFounded.prod_lex Nat.lt_wfRel.wf
    (WellFounded.prod_lex Nat.lt_wfRel.wf Nat.lt_wfRel.wf))

@[simp] theorem length_update (roots : Roots) (index : ℕ) (change : Root → Root) :
    (roots.update index change).length = roots.length :=
  List.length_modify ..

theorem length_apply (roots : Roots) (call : ReleaseCall) : (call.apply roots).length = roots.length := by
  unfold ReleaseCall.apply
  split
  · split_ifs <;> simp
  · split_ifs <;> simp
  · split_ifs <;> simp

theorem less_of_first {first first' : ℕ} {rest rest' : ℕ × ℕ × ℕ} (h : first < first') :
    Less (first, rest) (first', rest') := Prod.Lex.left _ _ h

theorem less_of_second {first second second' : ℕ} {rest rest' : ℕ × ℕ} (h : second < second') :
    Less (first, second, rest) (first, second', rest') :=
  Prod.Lex.right _ (Prod.Lex.left _ _ h)

theorem less_of_third {first second third third' fourth fourth' : ℕ} (h : third < third') :
    Less (first, second, third, fourth) (first, second, third', fourth') :=
  Prod.Lex.right _ (Prod.Lex.right _ (Prod.Lex.left _ _ h))

theorem less_of_fourth {first second third fourth fourth' : ℕ} (h : fourth < fourth') :
    Less (first, second, third, fourth) (first, second, third, fourth') :=
  Prod.Lex.right _ (Prod.Lex.right _ (Prod.Lex.right _ h))

/-- A running scan has something left. -/
theorem remaining_pos (hinside : scan.Inside) (hrunning : ¬ scan.Finished) :
    0 < scan.remaining.1 := by
  have hindex : scan.phase ≠ .root → scan.index < scan.roots.length := by
    intro hroot
    rcases hinside with h | h | h
    · exact absurd h hroot
    · exact absurd h hrunning
    · exact h
  unfold remaining
  cases hphase : scan.phase with
  | root => exact Nat.succ_pos _
  | returned deliveries => exact absurd (.inl ⟨deliveries, hphase⟩) hrunning
  | raised error => exact absurd (.inr ⟨error, hphase⟩) hrunning
  | _ =>
    have hlt := hindex (by rw [hphase]; exact fun h ↦ nomatch h)
    simp only
    omega

theorem remaining_of_finished {next : Scan} (h : next.Finished) : next.remaining = (0, 0, 0, 0) := by
  unfold remaining
  obtain ⟨deliveries, hphase⟩ | ⟨error, hphase⟩ := h
  · rw [hphase]
  · rw [hphase]

/-- A load moves on to the next name, or to what it is for. -/
theorem remaining_afterLoad {names : List String} {loaded : Except LoadError Retained}
    {next : Retained → Scan} {bound : ℕ × ℕ × ℕ × ℕ} (hpos : 0 < bound.1)
    (hentry : Less { scan with phase := .entry names }.remaining bound)
    (hnext : ∀ delivery, Less (next delivery).remaining bound) :
    Less (scan.afterLoad names loaded next).remaining bound := by
  cases loaded with
  | ok delivery => exact hnext delivery
  | error error =>
    cases error with
    | confined => exact hentry
    | _ =>
      rw [remaining_of_finished (.inr ⟨_, rfl⟩)]
      exact less_of_first hpos

/-- Each step of the scan leaves less to do. -/
theorem remaining_step (hinside : scan.Inside) (hrunning : ¬ scan.Finished) :
    Less scan.step.remaining scan.remaining := by
  have hpos := remaining_pos hinside hrunning
  have hend : ∀ next : Scan, next.Finished → Less next.remaining scan.remaining := by
    intro next hnext
    rw [remaining_of_finished hnext]
    exact less_of_first hpos
  have hraise : Less scan.raise.remaining scan.remaining := hend _ (.inr ⟨_, rfl⟩)
  have hindex : scan.phase ≠ .root → scan.index < scan.roots.length := by
    intro hroot
    rcases hinside with h | h | h
    · exact absurd h hroot
    · exact absurd h hrunning
    · exact h
  unfold step
  cases hphase : scan.phase with
  | root =>
    have hbound : scan.remaining = (2 * (scan.roots.length - scan.index) + 1, 0, 0, 0) := by
      simp only [remaining, hphase]
    simp only
    cases hroot : scan.roots[scan.index]? with
    | none => exact hend _ (.inl ⟨_, rfl⟩)
    | some found =>
      have hlt : scan.index < scan.roots.length := (List.getElem?_eq_some_iff.mp hroot).1
      cases found with
      | none =>
        rw [hbound]
        simp only [remaining]
        exact less_of_first (by omega)
      | some root =>
        simp only
        split_ifs
        · rw [hbound]
          simp only [remaining]
          exact less_of_first (by omega)
        · exact hraise
  | entry names =>
    have hlt := hindex (by rw [hphase]; exact fun h ↦ nomatch h)
    have hbound : scan.remaining = (2 * (scan.roots.length - scan.index), names.length, 0, 0) := by
      simp only [remaining, hphase]
    cases names with
    | nil =>
      rw [hbound]
      simp only [remaining]
      exact less_of_first (by omega)
    | cons name names =>
      have hnames : names.length < (name :: names).length := Nat.lt_succ_self _
      simp only
      split
      · split
        · split_ifs
          · rw [hbound]
            exact less_of_second hnames
          · exact hraise
        · exact hraise
      · split
        · refine remaining_afterLoad hpos ?_ fun delivery ↦ ?_
          · rw [hbound]
            exact less_of_second hnames
          · rw [hbound]
            exact less_of_second hnames
        · refine remaining_afterLoad hpos ?_ fun delivery ↦ ?_
          · rw [hbound]
            exact less_of_second hnames
          · rw [hbound]
            exact less_of_second hnames
  | listReleased name names =>
    have hbound : scan.remaining = (2 * (scan.roots.length - scan.index), names.length, 1, 0) := by
      simp only [remaining, hphase]
    simp only
    split
    · split_ifs
      · rw [hbound]
        exact less_of_third Nat.zero_lt_one
      · exact hraise
    · exact hraise
  | removeChildren name children names =>
    have hbound : scan.remaining =
        (2 * (scan.roots.length - scan.index), names.length, 0, 2 * children.length + 1) := by
      simp only [remaining, hphase]
    cases children with
    | nil =>
      simp only
      split
      · rw [hbound]
        simp only [remaining, length_update]
        exact less_of_fourth (by simp)
      · exact hraise
    | cons child children =>
      simp only
      split_ifs
      · split
        · split
          · split_ifs
            · rw [hbound]
              refine less_of_fourth ?_
              simp only [List.length_cons]
              omega
            · exact hraise
          · exact hraise
        · exact hraise
      · exact hraise
  | unlinkChild name child children names =>
    have hbound : scan.remaining =
        (2 * (scan.roots.length - scan.index), names.length, 0, 2 * children.length + 2) := by
      simp only [remaining, hphase]
    simp only
    split
    · split_ifs
      · rw [hbound]
        simp only [remaining, length_update]
        exact less_of_fourth (by omega)
      · exact hraise
    · exact hraise
  | findDestination name deliveryId names =>
    have hbound : scan.remaining = (2 * (scan.roots.length - scan.index), names.length, 0, 3) := by
      simp only [remaining, hphase]
    simp only
    split
    · rw [hbound]
      exact less_of_fourth (by omega)
    · rw [hbound]
      exact less_of_fourth (by omega)
  | renameHidden name deliveryId names =>
    have hbound : scan.remaining = (2 * (scan.roots.length - scan.index), names.length, 0, 2) := by
      simp only [remaining, hphase]
    simp only
    split
    · rw [hbound]
      simp only [remaining, length_update]
      exact less_of_fourth (by omega)
    · rw [hbound]
      exact less_of_fourth (by omega)
  | loadRenamed deliveryId names =>
    have hbound : scan.remaining = (2 * (scan.roots.length - scan.index), names.length, 0, 1) := by
      simp only [remaining, hphase]
    refine remaining_afterLoad hpos ?_ fun delivery ↦ ?_
    · rw [hbound]
      exact less_of_fourth Nat.zero_lt_one
    · rw [hbound]
      exact less_of_fourth Nat.zero_lt_one
  | returned deliveries => exact absurd (.inl ⟨deliveries, hphase⟩) hrunning
  | raised error => exact absurd (.inr ⟨error, hphase⟩) hrunning

theorem inside_afterLoad {names : List String} {loaded : Except LoadError Retained}
    {next : Retained → Scan} (hindex : scan.index < scan.roots.length)
    (hnext : ∀ delivery, (next delivery).Inside) : (scan.afterLoad names loaded next).Inside := by
  cases loaded with
  | ok delivery => exact hnext delivery
  | error error =>
    cases error with
    | confined => exact .inr (.inr hindex)
    | _ => exact .inr (.inl (.inr ⟨_, rfl⟩))

theorem inside_step (hinside : scan.Inside) (hrunning : ¬ scan.Finished) : scan.step.Inside := by
  have hraise : scan.raise.Inside := .inr (.inl (.inr ⟨_, rfl⟩))
  have hindex : scan.phase ≠ .root → scan.index < scan.roots.length := by
    intro hroot
    rcases hinside with h | h | h
    · exact absurd h hroot
    · exact absurd h hrunning
    · exact h
  unfold step
  cases hphase : scan.phase with
  | root =>
    simp only
    split
    · exact .inr (.inl (.inl ⟨_, rfl⟩))
    · exact .inl rfl
    · rename_i root hroot
      split_ifs
      · exact .inr (.inr (List.getElem?_eq_some_iff.mp hroot).1)
      · exact hraise
  | entry names =>
    have hlt := hindex (by rw [hphase]; exact fun h ↦ nomatch h)
    cases names with
    | nil => exact .inl rfl
    | cons name names =>
      simp only
      split_ifs
      · split
        · split_ifs
          · exact .inr (.inr hlt)
          · exact hraise
        · exact hraise
      · exact inside_afterLoad hlt fun delivery ↦ .inr (.inr hlt)
      · exact inside_afterLoad hlt fun delivery ↦ .inr (.inr hlt)
  | listReleased name names =>
    have hlt := hindex (by rw [hphase]; exact fun h ↦ nomatch h)
    simp only
    split
    · split_ifs
      · exact .inr (.inr hlt)
      · exact hraise
    · exact hraise
  | removeChildren name children names =>
    have hlt := hindex (by rw [hphase]; exact fun h ↦ nomatch h)
    cases children with
    | nil =>
      simp only
      split
      · exact .inr (.inr (by simpa using hlt))
      · exact hraise
    | cons child children =>
      simp only
      split_ifs
      · split
        · split
          · split_ifs
            · exact .inr (.inr hlt)
            · exact hraise
          · exact hraise
        · exact hraise
      · exact hraise
  | unlinkChild name child children names =>
    have hlt := hindex (by rw [hphase]; exact fun h ↦ nomatch h)
    simp only
    split
    · split_ifs
      · exact .inr (.inr (by simpa using hlt))
      · exact hraise
    · exact hraise
  | findDestination name deliveryId names =>
    have hlt := hindex (by rw [hphase]; exact fun h ↦ nomatch h)
    simp only
    split
    · exact .inr (.inr hlt)
    · exact .inr (.inr hlt)
  | renameHidden name deliveryId names =>
    have hlt := hindex (by rw [hphase]; exact fun h ↦ nomatch h)
    simp only
    split
    · exact .inr (.inr (by simpa using hlt))
    · exact .inr (.inr hlt)
  | loadRenamed deliveryId names =>
    have hlt := hindex (by rw [hphase]; exact fun h ↦ nomatch h)
    exact inside_afterLoad hlt fun delivery ↦ .inr (.inr hlt)
  | returned deliveries => exact absurd (.inl ⟨deliveries, hphase⟩) hrunning
  | raised error => exact absurd (.inr ⟨error, hphase⟩) hrunning

/-! ### What the scan does not lose -/

end Scan

/-- The names that the scan has still to come to in its root. -/
def ScanPhase.names : ScanPhase → List String
  | .entry names | .listReleased _ names | .removeChildren _ _ names | .unlinkChild _ _ _ names
  | .findDestination _ _ names | .renameHidden _ _ names | .loadRenamed _ names => names
  | .root | .returned _ | .raised _ => []

/-- The names that the scan is about to change. -/
def ScanPhase.working : ScanPhase → List String
  | .listReleased name _ | .removeChildren name _ _ | .unlinkChild name _ _ _
  | .findDestination name _ _ => [name]
  | .renameHidden name deliveryId _ => [name, deliveryId]
  | .root | .entry _ | .loadRenamed _ _ | .returned _ | .raised _ => []

namespace Scan

/-- The scan has not lost a delivery: its entry is untouched, and the scan has still to come to it or has
recovered it. -/
structure Tracks (index : ℕ) (name : String) (node : Node) (delivery : Retained) (scan : Scan) :
    Prop where
  kept : scan.roots.find index name = some node
  apart : scan.index = index → name ∉ scan.phase.working
  ahead : ¬ scan.Finished →
    scan.index < index ∨ scan.index = index ∧ (scan.phase = .root ∨ name ∈ scan.phase.names) ∨
      delivery ∈ scan.recovered
  found : ∀ deliveries, scan.phase = .returned deliveries → delivery ∈ deliveries

variable {scan : Scan} {index : ℕ} {name : String} {node : Node} {delivery : Retained}

theorem Tracks.raised (h : Tracks index name node delivery scan) (error : LoadError) :
    Tracks index name node delivery { scan with phase := .raised error } where
  kept := h.kept
  apart := fun _ hmem ↦ nomatch hmem
  ahead := fun hrunning ↦ absurd (.inr ⟨_, rfl⟩) hrunning
  found := fun _ hphase ↦ nomatch hphase

/-- A step inside a root that leaves the entry alone and drops no other name. -/
theorem Tracks.moves (h : Tracks index name node delivery scan) {next : Scan}
    (hrunning : ¬ scan.Finished) (hroot : scan.phase ≠ .root) (hindex : next.index = scan.index)
    (hkept : next.roots.find index name = some node)
    (hrecovered : scan.recovered ⊆ next.recovered)
    (hreturned : ∀ deliveries, next.phase ≠ .returned deliveries)
    (hworking : scan.index = index → name ∉ next.phase.working)
    (hnames : scan.index = index → name ∈ scan.phase.names →
      name ∈ next.phase.names ∨ delivery ∈ next.recovered) :
    Tracks index name node delivery next where
  kept := hkept
  apart := fun heq ↦ hworking (hindex ▸ heq)
  ahead := by
    intro _
    rw [hindex]
    obtain hlt | ⟨heq, hphase | hmem⟩ | hfound := h.ahead hrunning
    · exact .inl hlt
    · exact absurd hphase hroot
    · rcases hnames heq hmem with hlater | hfound
      · exact .inr (.inl ⟨heq, .inr hlater⟩)
      · exact .inr (.inr hfound)
    · exact .inr (.inr (hrecovered hfound))
  found := fun deliveries hphase ↦ absurd hphase (hreturned deliveries)

/-- A load of another entry, or of this one, loses nothing. -/
theorem Tracks.afterLoad (h : Tracks index name node delivery scan) (hrunning : ¬ scan.Finished)
    (hroot : scan.phase ≠ .root) {names : List String} {loaded : Except LoadError Retained}
    {next : Retained → Scan}
    (hconfined : loaded = .error .confined → scan.index = index → name ∈ scan.phase.names →
      name ∈ names)
    (hnext : ∀ other, loaded = .ok other → Tracks index name node delivery (next other)) :
    Tracks index name node delivery (scan.afterLoad names loaded next) := by
  cases loaded with
  | ok other => exact hnext other rfl
  | error error =>
    cases error with
    | confined =>
      refine h.moves hrunning hroot rfl h.kept (List.Subset.refl _) (fun _ hphase ↦ nomatch hphase)
        (fun _ hmem ↦ nomatch hmem) fun heq hmem ↦ .inl (hconfined rfl heq hmem)
    | _ => exact h.raised _

/-- A step of the scan loses no delivery. -/
theorem Tracks.step (hvisible : startsWith name "." = false)
    (hload : loadRetainedDelivery name (some node) = .ok delivery)
    (h : Tracks index name node delivery scan) (hrunning : ¬ scan.Finished) :
    Tracks index name node delivery scan.step := by
  have hroots : ∃ root, scan.roots[index]? = some (some root) ∧ root.find name = some node := by
    have hkept := h.kept
    unfold Roots.find at hkept
    cases hfound : scan.roots[index]? with
    | none => rw [hfound] at hkept; cases hkept
    | some found =>
      cases found with
      | none => rw [hfound] at hkept; cases hkept
      | some root =>
        rw [hfound] at hkept
        exact ⟨root, rfl, hkept⟩
  obtain ⟨root, hroot, hentry⟩ := hroots
  have hsub : scan.recovered ⊆ scan.recovered := List.Subset.refl _
  unfold Scan.step
  cases hphase : scan.phase with
  | root =>
    have hahead := h.ahead hrunning
    simp only
    cases hcurrent : scan.roots[scan.index]? with
    | none =>
      have hfound : delivery ∈ scan.recovered := by
        obtain hlt | ⟨heq, -⟩ | hfound := hahead
        · have hbound := (List.getElem?_eq_some_iff.mp hroot).1
          have hover := List.getElem?_eq_none_iff.mp hcurrent
          omega
        · rw [heq, hroot] at hcurrent
          cases hcurrent
        · exact hfound
      refine ⟨h.kept, fun _ hmem ↦ (nomatch hmem), fun hnot ↦ absurd (.inl ⟨_, rfl⟩) hnot, ?_⟩
      intro deliveries hreturned
      cases hreturned
      exact List.mem_mergeSort.mpr hfound
    | some found =>
      cases found with
      | none =>
        refine ⟨h.kept, fun _ hmem ↦ ?_, fun _ ↦ ?_, fun deliveries hreturned ↦ ?_⟩
        · simp [ScanPhase.working] at hmem
        · obtain hlt | ⟨heq, -⟩ | hfound := hahead
          · rcases Nat.eq_or_lt_of_le (Nat.succ_le_of_lt hlt) with heq | hless
            · exact .inr (.inl ⟨heq, .inl rfl⟩)
            · exact .inl hless
          · rw [heq, hroot] at hcurrent
            cases hcurrent
          · exact .inr (.inr hfound)
        · simp at hreturned
      | some other =>
        simp only
        split_ifs
        · refine ⟨h.kept, fun _ hmem ↦ (nomatch hmem), fun _ ↦ ?_, fun _ hreturned ↦ nomatch hreturned⟩
          obtain hlt | ⟨heq, -⟩ | hfound := hahead
          · exact .inl hlt
          · rw [heq, hroot] at hcurrent
            cases hcurrent
            exact .inr (.inl ⟨heq, .inr (Root.mem_listing hentry)⟩)
          · exact .inr (.inr hfound)
        · exact h.raised _
  | entry names =>
    have hnot : scan.phase ≠ .root := by rw [hphase]; exact fun heq ↦ nomatch heq
    cases names with
    | nil =>
      refine ⟨h.kept, fun _ hmem ↦ (nomatch hmem), fun _ ↦ ?_, fun _ hreturned ↦ nomatch hreturned⟩
      obtain hlt | ⟨-, hroot | hmem⟩ | hfound := h.ahead hrunning
      · rcases Nat.eq_or_lt_of_le (Nat.succ_le_of_lt hlt) with heq | hless
        · exact .inr (.inl ⟨heq, .inl rfl⟩)
        · exact .inl hless
      · exact absurd hroot hnot
      · rw [hphase] at hmem
        cases hmem
      · exact .inr (.inr hfound)
    | cons first names =>
      have htail : name ≠ first → name ∈ scan.phase.names → name ∈ names := by
        intro hne hmem
        rw [hphase] at hmem
        exact (List.mem_cons.mp hmem).resolve_left hne
      simp only
      split_ifs with hreleased hhidden
      · have hne := ne_of_startsWith hvisible (hidden_of_released hreleased)
        split
        · split_ifs
          · exact h.moves hrunning hnot rfl h.kept hsub (fun _ heq ↦ nomatch heq)
              (fun _ hmem ↦ hne (List.mem_singleton.mp hmem)) fun _ hmem ↦ .inl (htail hne hmem)
          · exact h.raised _
        · exact h.raised _
      · have hne := ne_of_startsWith hvisible hhidden
        refine h.afterLoad hrunning hnot (fun _ _ hmem ↦ htail hne hmem) fun other _ ↦ ?_
        exact h.moves hrunning hnot rfl h.kept hsub (fun _ heq ↦ nomatch heq)
          (fun _ hmem ↦ hne (List.mem_singleton.mp hmem)) fun _ hmem ↦ .inl (htail hne hmem)
      · have hown : scan.index = index → name = first →
            loadRetainedDelivery first (scan.find first) = .ok delivery := by
          rintro heq rfl
          unfold find
          rw [heq, h.kept, hload]
        refine h.afterLoad hrunning hnot (fun herror heq hmem ↦ htail (fun hname ↦ ?_) hmem)
          fun other hother ↦ ?_
        · rw [hown heq hname] at herror
          cases herror
        · refine h.moves hrunning hnot rfl h.kept (List.subset_append_left _ _)
            (fun _ heq ↦ nomatch heq) (fun _ hmem ↦ nomatch hmem) fun heq hmem ↦ ?_
          by_cases hname : name = first
          · rw [hown heq hname] at hother
            cases hother
            exact .inr (List.mem_append_right _ (List.mem_singleton.mpr rfl))
          · exact .inl (htail hname hmem)
  | listReleased working names =>
    have hnot : scan.phase ≠ .root := by rw [hphase]; exact fun heq ↦ nomatch heq
    have hapart := h.apart
    rw [hphase] at hapart
    simp only
    split
    · split_ifs
      · exact h.moves hrunning hnot rfl h.kept hsub (fun _ heq ↦ nomatch heq) hapart
          fun _ hmem ↦ .inl (by rwa [hphase] at hmem)
      · exact h.raised _
    · exact h.raised _
  | removeChildren working children names =>
    have hnot : scan.phase ≠ .root := by rw [hphase]; exact fun heq ↦ nomatch heq
    have hapart := h.apart
    rw [hphase] at hapart
    cases children with
    | nil =>
      simp only
      split
      · refine h.moves hrunning hnot rfl ?_ hsub (fun _ heq ↦ nomatch heq)
          (fun _ hmem ↦ nomatch hmem) fun _ hmem ↦ .inl (by rwa [hphase] at hmem)
        rw [← h.kept]
        refine Roots.find_update fun heq other ↦ other.find_remove_of_ne ?_
        exact fun hname ↦ hapart heq (List.mem_singleton.mpr hname)
      · exact h.raised _
    | cons child children =>
      simp only
      split_ifs
      · split
        · split
          · split_ifs
            · exact h.moves hrunning hnot rfl h.kept hsub (fun _ heq ↦ nomatch heq) hapart
                fun _ hmem ↦ .inl (by rwa [hphase] at hmem)
            · exact h.raised _
          · exact h.raised _
        · exact h.raised _
      · exact h.raised _
  | unlinkChild working child children names =>
    have hnot : scan.phase ≠ .root := by rw [hphase]; exact fun heq ↦ nomatch heq
    have hapart := h.apart
    rw [hphase] at hapart
    simp only
    split
    · split_ifs
      · refine h.moves hrunning hnot rfl ?_ hsub (fun _ heq ↦ nomatch heq) hapart
          fun _ hmem ↦ .inl (by rwa [hphase] at hmem)
        rw [← h.kept]
        refine Roots.find_update fun heq other ↦ other.find_unlink_of_ne child ?_
        exact fun hname ↦ hapart heq (List.mem_singleton.mpr hname)
      · exact h.raised _
    · exact h.raised _
  | findDestination working deliveryId names =>
    have hnot : scan.phase ≠ .root := by rw [hphase]; exact fun heq ↦ nomatch heq
    have hapart := h.apart
    rw [hphase] at hapart
    simp only
    split
    · exact h.moves hrunning hnot rfl h.kept hsub (fun _ heq ↦ nomatch heq)
        (fun _ hmem ↦ nomatch hmem) fun _ hmem ↦ .inl (by rwa [hphase] at hmem)
    · rename_i hfree
      refine h.moves hrunning hnot rfl h.kept hsub (fun _ heq ↦ nomatch heq) (fun heq hmem ↦ ?_)
        fun _ hmem ↦ .inl (by rwa [hphase] at hmem)
      rcases List.mem_cons.mp hmem with hname | hlast
      · exact hapart heq (List.mem_singleton.mpr hname)
      · unfold find at hfree
        rw [heq, ← List.mem_singleton.mp hlast, h.kept] at hfree
        cases hfree
  | renameHidden working deliveryId names =>
    have hnot : scan.phase ≠ .root := by rw [hphase]; exact fun heq ↦ nomatch heq
    have hapart := h.apart
    rw [hphase] at hapart
    simp only
    split
    · refine h.moves hrunning hnot rfl ?_ hsub (fun _ heq ↦ nomatch heq)
        (fun _ hmem ↦ nomatch hmem) fun _ hmem ↦ .inl (by rwa [hphase] at hmem)
      rw [← h.kept]
      refine Roots.find_update fun heq other ↦ other.find_rename_of_ne ?_ ?_
      · exact fun hname ↦ hapart heq (List.mem_cons.mpr (.inl hname))
      · exact fun hname ↦ hapart heq (List.mem_cons_of_mem _ (List.mem_singleton.mpr hname))
    · exact h.moves hrunning hnot rfl h.kept hsub (fun _ heq ↦ nomatch heq)
        (fun _ hmem ↦ nomatch hmem) fun _ hmem ↦ .inl (by rwa [hphase] at hmem)
  | loadRenamed deliveryId names =>
    have hnot : scan.phase ≠ .root := by rw [hphase]; exact fun heq ↦ nomatch heq
    refine h.afterLoad hrunning hnot (fun _ _ hmem ↦ by rwa [hphase] at hmem) fun other _ ↦ ?_
    exact h.moves hrunning hnot rfl h.kept (List.subset_append_left _ _)
      (fun _ heq ↦ nomatch heq) (fun _ hmem ↦ nomatch hmem)
      fun _ hmem ↦ .inl (by rwa [hphase] at hmem)
  | returned deliveries => exact absurd (.inl ⟨deliveries, hphase⟩) hrunning
  | raised error => exact absurd (.inr ⟨error, hphase⟩) hrunning

/-! ### The whole call -/

theorem step_of_finished (h : scan.Finished) : scan.step = scan := by
  obtain ⟨roots, index, phase, recovered⟩ := scan
  obtain ⟨deliveries, rfl⟩ | ⟨error, rfl⟩ := h
  · rfl
  · rfl

/-- A load does not end the scan with an answer. -/
theorem afterLoad_ne_returned {names : List String} {loaded : Except LoadError Retained}
    {next : Retained → Scan} {deliveries : List Retained}
    (hnext : ∀ other, (next other).phase ≠ .returned deliveries) :
    (scan.afterLoad names loaded next).phase ≠ .returned deliveries := by
  cases loaded with
  | ok other => exact hnext other
  | error error =>
    intro h
    cases error <;> cases h

/-- The scan answers with what it has recovered, sorted. -/
theorem returned_step {deliveries : List Retained} (h : scan.step.phase = .returned deliveries) :
    scan.phase = .returned deliveries ∨ deliveries = scan.recovered.mergeSort Retained.le := by
  have hraise : scan.raise.phase ≠ .returned deliveries := fun heq ↦ nomatch heq
  unfold step at h
  cases hphase : scan.phase with
  | root =>
    rw [hphase] at h
    simp only at h
    split at h
    · exact .inr (ScanPhase.returned.inj h).symm
    · cases h
    · split_ifs at h
      cases h
  | entry names =>
    rw [hphase] at h
    cases names with
    | nil => cases h
    | cons first names =>
      simp only at h
      split_ifs at h
      · split at h
        · split_ifs at h
          cases h
        · cases h
      · exact absurd h (afterLoad_ne_returned fun other heq ↦ nomatch heq)
      · exact absurd h (afterLoad_ne_returned fun other heq ↦ nomatch heq)
  | listReleased working names =>
    rw [hphase] at h
    simp only at h
    split at h
    · split_ifs at h
      cases h
    · cases h
  | removeChildren working children names =>
    rw [hphase] at h
    cases children with
    | nil =>
      simp only at h
      split at h
      · cases h
      · cases h
    | cons child children =>
      simp only at h
      split_ifs at h
      · split at h
        · split at h
          · split_ifs at h
            cases h
          · cases h
        · cases h
      · cases h
  | unlinkChild working child children names =>
    rw [hphase] at h
    simp only at h
    split at h
    · split_ifs at h
      cases h
    · cases h
  | findDestination working deliveryId names =>
    rw [hphase] at h
    simp only at h
    split at h
    · cases h
    · cases h
  | renameHidden working deliveryId names =>
    rw [hphase] at h
    simp only at h
    split at h
    · cases h
    · cases h
  | loadRenamed deliveryId names =>
    rw [hphase] at h
    exact absurd h (afterLoad_ne_returned fun other heq ↦ nomatch heq)
  | returned other =>
    rw [hphase] at h
    exact .inl h
  | raised error =>
    rw [hphase] at h
    cases h

end Scan

theorem Retained.le_trans (first second third : Retained) (h : first.le second = true)
    (h' : second.le third = true) : first.le third = true := by
  unfold Retained.le at *
  rw [decide_eq_true_eq] at *
  rcases h with hless | ⟨heq, hid⟩
  · rcases h' with hless' | ⟨heq', -⟩
    · exact .inl (lt_trans hless hless')
    · exact .inl (heq' ▸ hless)
  · rcases h' with hless' | ⟨heq', hid'⟩
    · exact .inl (heq ▸ hless')
    · exact .inr ⟨heq.trans heq', String.le_trans hid hid'⟩

theorem Retained.le_total (first second : Retained) : (first.le second || second.le first) = true := by
  unfold Retained.le
  rw [Bool.or_eq_true, decide_eq_true_eq, decide_eq_true_eq]
  rcases lt_trichotomy first.createdAt second.createdAt with hless | heq | hgreater
  · exact .inl (.inl hless)
  · rcases String.le_total first.deliveryId second.deliveryId with hid | hid
    · exact .inl (.inr ⟨heq, hid⟩)
    · exact .inr (.inr ⟨heq.symm, hid⟩)
  · exact .inr (.inl hgreater)

namespace Scan

variable {roots : Roots} {schedule : ScanSchedule}

/-- The scan at a time of the schedule. -/
def afterTime (roots : Roots) (schedule : ScanSchedule) (time : ℕ) : Scan :=
  scanMachine.stateAt (.start roots) schedule.event time

/-- What holds of the scan at one time holds at the next, if no event ends it. -/
theorem forall_afterTime {P : Scan → Prop} (hstart : P (.start roots))
    (hscan : ∀ time, schedule.event time = .scan → P (afterTime roots schedule time) →
      P (afterTime roots schedule time).step)
    (hrelease : ∀ time call, schedule.event time = .release call →
      P (afterTime roots schedule time) →
      P { afterTime roots schedule time with
        roots := call.apply (afterTime roots schedule time).roots })
    (time : ℕ) : P (afterTime roots schedule time) := by
  refine Machine.forall_stateAt hstart (fun time hP ↦ ?_) time
  cases hevent : schedule.event time with
  | scan => exact hscan time hevent hP
  | release call => exact hrelease time call hevent hP

theorem inside_afterTime (time : ℕ) : (afterTime roots schedule time).Inside := by
  refine forall_afterTime (.inl rfl) (fun time _ hinside ↦ ?_) (fun time call _ hinside ↦ ?_) time
  · by_cases hfinished : (afterTime roots schedule time).Finished
    · rw [step_of_finished hfinished]
      exact hinside
    · exact inside_step hinside hfinished
  · refine hinside.imp id (Or.imp id fun hlt ↦ ?_)
    simp only [length_apply]
    exact hlt

/-- The scan ends. -/
theorem exists_finished : ∃ time, (afterTime roots schedule time).Finished := by
  refine Machine.exists_done wellFounded_less remaining (fun event ↦ event = .scan)
    inside_afterTime schedule.live ?_ ?_
  · rintro scan event hinside rfl hrunning
    exact remaining_step hinside hrunning
  · intro scan event hother
    cases event with
    | scan => exact absurd rfl hother
    | release call =>
      have hlength := length_apply scan.roots call
      simp only [scanMachine, remaining, hlength]

/-- What has ended stays as it is. -/
theorem phase_of_le {first later : ℕ} (hle : first ≤ later)
    (hfinished : (afterTime roots schedule first).Finished) :
    (afterTime roots schedule later).phase = (afterTime roots schedule first).phase := by
  refine Machine.stateAt_of_le
    (P := fun scan : Scan ↦ scan.phase = (afterTime roots schedule first).phase) ?_ hle rfl
  intro scan event hphase
  cases event with
  | release call => exact hphase
  | scan =>
    have hended : scan.Finished := by
      unfold Finished
      rw [hphase]
      exact hfinished
    show scan.step.phase = _
    rw [step_of_finished hended]
    exact hphase

theorem sorted_afterTime (time : ℕ) :
    ∀ deliveries, (afterTime roots schedule time).phase = .returned deliveries →
      deliveries.Pairwise fun first second ↦ first.le second = true := by
  refine forall_afterTime
    (P := fun scan ↦ ∀ deliveries, scan.phase = .returned deliveries →
      deliveries.Pairwise fun first second ↦ first.le second = true)
    (fun _ hphase ↦ nomatch hphase) (fun time _ hsorted deliveries hphase ↦ ?_)
    (fun time call _ hsorted ↦ hsorted) time
  rcases returned_step hphase with hbefore | rfl
  · exact hsorted deliveries hbefore
  · exact List.pairwise_mergeSort Retained.le_trans Retained.le_total _

/-- A delivery that nothing releases is never lost. -/
theorem tracks_afterTime {index : ℕ} {root : Root} {name : String} {delivery : Retained}
    (hroot : roots[index]? = some (some root)) (hvisible : startsWith name "." = false)
    (hload : loadRetainedDelivery name (root.find name) = .ok delivery)
    (hkept : ¬ schedule.Releases index name) (time : ℕ) :
    ∃ node, Tracks index name node delivery (afterTime roots schedule time) := by
  obtain ⟨node, hnode⟩ : ∃ node, root.find name = some node := by
    cases hfind : root.find name with
    | none =>
      rw [hfind] at hload
      cases hload
    | some node => exact ⟨node, rfl⟩
  rw [hnode] at hload
  refine ⟨node, forall_afterTime (P := Tracks index name node delivery) ?_
    (fun time _ htracks ↦ ?_) (fun time call hevent htracks ↦ ?_) time⟩
  · refine ⟨?_, fun _ hmem ↦ (nomatch hmem), fun _ ↦ ?_, fun _ hphase ↦ nomatch hphase⟩
    · show (roots[index]?.join.bind _) = _
      rw [hroot]
      exact hnode
    · rcases Nat.eq_zero_or_pos index with hzero | hpos
      · exact .inr (.inl ⟨hzero.symm, .inl rfl⟩)
      · exact .inl hpos
  · by_cases hfinished : (afterTime roots schedule time).Finished
    · rw [step_of_finished hfinished]
      exact htracks
    · exact htracks.step hvisible hload hfinished
  · have hother : ∀ token, call ≠ .rename index name token := by
      rintro token rfl
      exact hkept ⟨time, token, hevent⟩
    exact ⟨(ReleaseCall.find_apply hvisible hother).trans htracks.kept, htracks.apart,
      htracks.ahead, htracks.found⟩

/-- A scan that always finds what it needs never raises. -/
theorem not_raised_afterTime
    (hunharmed : ∀ time, schedule.event time = .scan → (afterTime roots schedule time).Unharmed)
    (time : ℕ) : ¬ (afterTime roots schedule time).Raised := by
  refine forall_afterTime (P := fun scan ↦ ¬ scan.Raised) ?_ (fun time hevent hquiet ↦ ?_)
    (fun time call _ hquiet ↦ hquiet) time
  · rintro ⟨error, hphase⟩
    cases hphase
  · by_cases hfinished : (afterTime roots schedule time).Finished
    · rw [step_of_finished hfinished]
      exact hquiet
    · rw [raised_step_iff hfinished]
      exact not_not_intro (hunharmed time hevent)

end Scan

/-- Only the scan runs. -/
def scanAlone : ScanSchedule where
  event _ := .scan
  live time := ⟨time, Nat.le_refl time, rfl⟩

/-- A private file. -/
def privateFile (text : MetadataText) : DeliveryFile where
  isRegular := true
  stat := { owned := true, mode := 0o600 }
  text

/-- A released delivery with the replacement that a crash left in it, beside one that is well formed. -/
def leftoverRoot : Root :=
  let metadata : MetadataText := .value (.obj [
    ("version", .int 2), ("delivery_id", .str "0123456789abcdef0123456789abcdef"),
    ("text", .str "hello"), ("woke", .bool true), ("state", .str "pending"),
    ("created_at", .float 1)])
  { isPrivate := true
    entries := [
      (releasedName "ffffffffffffffffffffffffffffffff" "00000000000000000000000000000000",
        .directory { owned := true, mode := 0o700 }
          [(".delivery.json-11111111111111111111111111111111", privateFile metadata)]),
      ("0123456789abcdef0123456789abcdef",
        .directory { owned := true, mode := 0o700 }
          [(retainedMetadata, privateFile metadata),
            (retainedAudio, privateFile (.unreadable .unicodeDecode))])] }

/-- The scan of that root comes to the leftover first. -/
theorem afterTime_one : Scan.afterTime [some leftoverRoot] scanAlone 1 = {
    roots := [some leftoverRoot]
    index := 0
    phase := .entry (leftoverRoot.entries.map Prod.fst)
    recovered := [] } := by
  have hsorted : (leftoverRoot.entries.map Prod.fst).Pairwise fun first second ↦
      decide (first ≤ second) = true := by
    decide +kernel
  have hlisting : leftoverRoot.listing = leftoverRoot.entries.map Prod.fst :=
    List.mergeSort_of_pairwise hsorted
  rw [← hlisting]
  rfl

end VoiceHarness.Stt
