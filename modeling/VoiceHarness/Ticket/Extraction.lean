import VoiceHarness.Ticket.References

/-!
# The extracted references

No two references of an extraction have one identity, and they stand in the order of their places. Each candidate
adds to the count of what was asked for.
-/

set_option autoImplicit false
set_option relaxedAutoImplicit false

namespace VoiceHarness

open Library

/-- A place before or at another. -/
def TicketReference.NotAfter (first second : TicketReference) : Prop := first.position ≤ second.position

instance : DecidableRel TicketReference.NotAfter := fun first second ↦
  inferInstanceAs (Decidable (first.position ≤ second.position))

instance : Std.Refl TicketReference.NotAfter := ⟨fun reference ↦ Nat.le_refl reference.position⟩

instance : Std.Total TicketReference.NotAfter :=
  ⟨fun first second ↦ Nat.le_total first.position second.position⟩

instance : IsTrans TicketReference TicketReference.NotAfter := ⟨fun _ _ _ ↦ Nat.le_trans⟩

/-! ### Keys apart -/

theorem overlaps_iff {span : ℕ × ℕ} {spans : List (ℕ × ℕ)} :
    overlaps span spans = true ↔ ∃ existing ∈ spans, span.1 < existing.2 ∧ existing.1 < span.2 := by
  simp only [overlaps, List.any_eq_true, Bool.and_eq_true, decide_eq_true_eq]

section

variable {size : ℕ} {founds : List TicketFound} {spans : List (ℕ × ℕ)}

theorem keysApart_of_forall (h : ∀ found ∈ founds, overlaps (found.span size) spans = true) :
    keysApart size founds spans = ([], spans) := by
  induction founds with
  | nil => rfl
  | cons found founds ih =>
    obtain ⟨hfound, hrest⟩ := List.forall_mem_cons.mp h
    rw [keysApart, if_pos hfound]
    exact ih hrest

/-- No key counts exactly when every one overlaps a span. -/
theorem keysApart_eq_nil_iff :
    (keysApart size founds spans).1 = [] ↔ ∀ found ∈ founds, overlaps (found.span size) spans = true := by
  constructor
  · intro h
    induction founds with
    | nil => exact fun found hfound ↦ nomatch hfound
    | cons found founds ih =>
      rw [keysApart] at h
      split_ifs at h with hoverlaps
      exact List.forall_mem_cons.mpr ⟨hoverlaps, ih h⟩
  · intro h
    rw [keysApart_of_forall h]

end

/-! ### Counts -/

theorem requestedCount_pos_of_mem_rangeItems {size value final : ℕ} {ahead rest : List Char} {item : ScopedItem}
    (h : item ∈ rangeItems size ahead value final rest) : 0 < item.requestedCount := by
  unfold rangeItems at h
  simp only at h
  split_ifs at h
  · obtain rfl := List.mem_singleton.mp h
    exact Nat.succ_pos _
  · obtain rfl := List.mem_singleton.mp h
    exact Nat.succ_pos _
  · obtain rfl := List.mem_singleton.mp h
    exact Nat.succ_pos _
  · obtain ⟨number, -, rfl⟩ := List.mem_map.mp h
    exact Nat.one_pos

theorem eq_nil_of_sum_requestedCount {items : List ScopedItem} (hpos : ∀ item ∈ items, 0 < item.requestedCount)
    (hsum : (items.map (·.requestedCount)).sum = 0) : items = [] := by
  cases items with
  | nil => rfl
  | cons item items =>
    have hitem := hpos item List.mem_cons_self
    rw [List.map_cons, List.sum_cons] at hsum
    omega

section

variable [DigitLibrary] {text : List Char} {scopeSource scope : Option String}

theorem sortedCandidates_sorted (text : List Char) (scopeSource scope : Option String) :
    (sortedCandidates text scopeSource scope).Pairwise TicketReference.NotAfter :=
  List.pairwise_insertionSort TicketReference.NotAfter _

theorem mem_sortedCandidates {candidate : TicketReference} :
    candidate ∈ sortedCandidates text scopeSource scope ↔ candidate ∈ ticketCandidates text scopeSource scope :=
  List.mem_insertionSort _

/-- The references have different identities and stand in the order of their places, each at the first place of its
identity. -/
structure ExtractsInOrder (text : List Char) (scopeSource scope : Option String) : Prop where
  distinct : ((extractTicketTargets text scopeSource scope).references.map TicketReference.key).Nodup
  ordered : (extractTicketTargets text scopeSource scope).references.Pairwise TicketReference.NotAfter
  first : ∀ candidate ∈ ticketCandidates text scopeSource scope,
    ∃ reference ∈ (extractTicketTargets text scopeSource scope).references,
      reference.key = candidate.key ∧ reference.NotAfter candidate

theorem extractsInOrder (text : List Char) (scopeSource scope : Option String) :
    ExtractsInOrder text scopeSource scope where
  distinct := nodup_map_uniqueBy ..
  ordered := (sortedCandidates_sorted text scopeSource scope).sublist (uniqueBy_sublist ..)
  first _ hcandidate := exists_mem_uniqueBy (sortedCandidates_sorted text scopeSource scope)
    (mem_sortedCandidates.mpr hcandidate) List.not_mem_nil

/-! ### The count -/

theorem requestedCount_pos_of_mem_itemsAt {size value : ℕ} {singular : Bool} {ahead rest : List Char}
    {item : ScopedItem} (h : item ∈ (itemsAt size singular ahead value rest).1) : 0 < item.requestedCount := by
  unfold itemsAt at h
  split at h
  · exact requestedCount_pos_of_mem_rangeItems h
  · obtain rfl := List.mem_singleton.mp h
    exact Nat.one_pos

theorem requestedCount_pos_of_mem_scopedLoop {size fuel : ℕ} {singular firstItem : Bool} {ahead : List Char}
    {item : ScopedItem} (h : item ∈ scopedLoop size singular fuel firstItem ahead) :
    0 < item.requestedCount := by
  induction fuel generalizing firstItem ahead with
  | zero => cases h
  | succ fuel ih =>
    rw [scopedLoop] at h
    split at h
    · cases h
    · simp only at h
      split at h
      · exact requestedCount_pos_of_mem_itemsAt h
      · rcases List.mem_append.mp h with h | h
        · exact requestedCount_pos_of_mem_itemsAt h
        · exact ih h

theorem requestedCount_pos {item : ScopedItem} (h : item ∈ scopedItems text) : 0 < item.requestedCount := by
  obtain ⟨_, -, hitem⟩ := List.mem_flatMap.mp h
  exact requestedCount_pos_of_mem_scopedLoop hitem

/-- Where a GitHub pattern has a match, the count is one exactly when this is the only candidate. -/
theorem requestedCount_eq_one_iff (hne : githubMatches text ≠ []) :
    (extractTicketTargets text scopeSource scope).requestedCount = 1 ↔
      (githubMatches text).length = 1 ∧ (linearMatches text).1 = [] ∧ itemsApart text = [] := by
  have hpos := List.length_pos_iff.mpr hne
  have hitems : ∀ item ∈ itemsApart text, 0 < item.requestedCount := fun item hitem ↦
    requestedCount_pos (List.mem_filter.mp hitem).1
  change (githubMatches text).length + (linearMatches text).1.length + _ = 1 ↔ _
  constructor
  · intro hcount
    exact ⟨by omega, List.eq_nil_of_length_eq_zero (by omega), eq_nil_of_sum_requestedCount hitems (by omega)⟩
  · rintro ⟨hlength, hkeys, hapart⟩
    rw [hlength, hkeys, hapart]
    rfl

end

end VoiceHarness
