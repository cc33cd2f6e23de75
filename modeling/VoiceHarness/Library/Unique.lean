import Mathlib.Data.List.Nodup

/-!
The first item of each key. A pass over a list keeps an item where its key was not seen before.
-/

set_option autoImplicit false
set_option relaxedAutoImplicit false

namespace VoiceHarness.Library

variable {α κ : Type*} [DecidableEq κ]

/-- The items whose keys are neither seen nor those of an item before. -/
def uniqueBy (key : α → κ) : List κ → List α → List α
  | _, [] => []
  | seen, item :: items =>
    if key item ∈ seen then uniqueBy key seen items
    else item :: uniqueBy key (key item :: seen) items

variable {key : α → κ} {seen : List κ} {items : List α} {item : α}

theorem uniqueBy_sublist (key : α → κ) (seen : List κ) (items : List α) :
    (uniqueBy key seen items).Sublist items := by
  induction items generalizing seen with
  | nil => exact List.Sublist.refl _
  | cons item items ih =>
    rw [uniqueBy]
    split_ifs
    · exact (ih seen).cons item
    · exact (ih _).cons_cons item

theorem key_notMem_of_mem_uniqueBy (h : item ∈ uniqueBy key seen items) : key item ∉ seen := by
  induction items generalizing seen with
  | nil => cases h
  | cons first items ih =>
    rw [uniqueBy] at h
    split_ifs at h with hseen
    · exact ih h
    · rcases List.mem_cons.mp h with rfl | h
      · exact hseen
      · exact fun hmem ↦ ih h (List.mem_cons_of_mem _ hmem)

/-- No two of the items have one key. -/
theorem nodup_map_uniqueBy (key : α → κ) (seen : List κ) (items : List α) :
    ((uniqueBy key seen items).map key).Nodup := by
  induction items generalizing seen with
  | nil => exact List.nodup_nil
  | cons item items ih =>
    rw [uniqueBy]
    split_ifs
    · exact ih seen
    · refine List.nodup_cons.mpr ⟨fun hmem ↦ ?_, ih _⟩
      obtain ⟨other, hother, hkey⟩ := List.mem_map.mp hmem
      exact key_notMem_of_mem_uniqueBy hother (hkey ▸ List.mem_cons_self)

/-- The keys are those of the list that are not seen. -/
theorem mem_map_uniqueBy {k : κ} : k ∈ (uniqueBy key seen items).map key ↔ k ∈ items.map key ∧ k ∉ seen := by
  induction items generalizing seen with
  | nil => simp [uniqueBy]
  | cons item items ih =>
    rw [uniqueBy]
    by_cases hkey : k = key item
    · subst hkey
      split_ifs with hseen
      · simp [ih, hseen]
      · simp [hseen]
    · split_ifs
      · simp [ih, hkey]
      · simp [ih, hkey]

/-- An item is represented by the first one of its key, which a relation along the list puts before it. -/
theorem exists_mem_uniqueBy {before : α → α → Prop} [Std.Refl before] (hitems : items.Pairwise before)
    (hmem : item ∈ items) (hseen : key item ∉ seen) :
    ∃ first ∈ uniqueBy key seen items, key first = key item ∧ before first item := by
  induction items generalizing seen with
  | nil => cases hmem
  | cons head items ih =>
    obtain ⟨hhead, hlater⟩ := List.pairwise_cons.mp hitems
    rw [uniqueBy]
    by_cases hkey : key item = key head
    · rw [if_neg (hkey ▸ hseen)]
      refine ⟨head, List.mem_cons_self, hkey.symm, ?_⟩
      rcases List.mem_cons.mp hmem with rfl | hmem
      · exact Std.Refl.refl item
      · exact hhead item hmem
    · have hrest : item ∈ items := by
        rcases List.mem_cons.mp hmem with rfl | hmem
        · exact absurd rfl hkey
        · exact hmem
      split_ifs with hheadSeen
      · exact ih hlater hrest hseen
      · have hnot : key item ∉ key head :: seen := List.not_mem_cons_of_ne_of_not_mem hkey hseen
        obtain ⟨first, hfirst, hfound⟩ := ih hlater hrest hnot
        exact ⟨first, List.mem_cons_of_mem _ hfirst, hfound⟩

/-- Nothing is left out of a list of different keys. -/
theorem uniqueBy_eq_self (hnodup : (items.map key).Nodup) (hseen : ∀ item ∈ items, key item ∉ seen) :
    uniqueBy key seen items = items := by
  induction items generalizing seen with
  | nil => rfl
  | cons item items ih =>
    obtain ⟨hitem, hitems⟩ := List.nodup_cons.mp hnodup
    rw [uniqueBy, if_neg (hseen item List.mem_cons_self)]
    congr 1
    refine ih hitems fun other hother hmem ↦ ?_
    rcases List.mem_cons.mp hmem with hkey | hmem
    · exact hitem (hkey ▸ List.mem_map_of_mem hother)
    · exact hseen other (List.mem_cons_of_mem _ hother) hmem

end VoiceHarness.Library
