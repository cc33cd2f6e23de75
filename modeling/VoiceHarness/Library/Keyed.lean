import VoiceHarness.Library.Rows
import Mathlib.Data.List.Nodup

/-!
Lists of items with keys whose order is kept. An item takes the place of the one of its key, at the end or where that
one was, and `Overrides` says which items a list holds in which others took their places. A list is read from records,
one item each, where a later item of a key may only repeat the first.
-/

set_option autoImplicit false
set_option relaxedAutoImplicit false

namespace VoiceHarness.Library

variable {α κ : Type} [DecidableEq κ]

/-- The items of other keys, and then this one. -/
def assign (key : α → κ) (items : List α) (item : α) : List α := discard key items (key item) ++ [item]

/-- The items with this one where the one of its key was, or at the end. -/
def store (key : α → κ) (items : List α) (item : α) : List α :=
  if key item ∈ items.map key then items.map fun other ↦ if key other = key item then item else other
  else items ++ [item]

/-- The items with each of the others stored. -/
def storeAll (key : α → κ) (items others : List α) : List α := others.foldl (store key) items

/-- The items that a list holds when entries took the place of those of their keys. -/
def Overrides (key : α → κ) (items entries result : List α) : Prop :=
  ∀ item, item ∈ result ↔ item ∈ entries ∨ item ∈ items ∧ key item ∉ entries.map key

variable {key : α → κ} {items entries : List α} {item other : α}

theorem overrides_assign (key : α → κ) (items : List α) (item : α) :
    Overrides key items [item] (assign key items item) := by
  intro other
  rw [assign, List.mem_append, mem_discard, List.mem_singleton, List.map_singleton, List.mem_singleton]
  exact Or.comm

omit [DecidableEq κ] in
/-- Fresh items at the end keep the keys apart. -/
theorem nodup_map_append_singleton (h : (items.map key).Nodup) (hfresh : key item ∉ items.map key) :
    ((items ++ [item]).map key).Nodup := by
  rw [List.map_append, List.map_singleton, List.nodup_append]
  refine ⟨h, List.nodup_singleton _, ?_⟩
  intro first hfirst second hsecond hsame
  rw [List.mem_singleton.mp hsecond] at hsame
  exact hfresh (hsame ▸ hfirst)

theorem nodup_assign (h : (items.map key).Nodup) (item : α) : ((assign key items item).map key).Nodup := by
  refine nodup_map_append_singleton (nodup_discard h _) ?_
  intro hmem
  obtain ⟨other, hother, hsame⟩ := List.mem_map.mp hmem
  exact (mem_discard.mp hother).2 hsame

omit [DecidableEq κ] in
/-- Items with one key are the same. -/
theorem eq_of_key_eq (h : (items.map key).Nodup) (hitem : item ∈ items) (hother : other ∈ items)
    (hsame : key item = key other) : item = other :=
  List.inj_on_of_nodup_map h hitem hother hsame

/-! ### Storing -/

theorem map_key_store (key : α → κ) (items : List α) (item : α) :
    (store key items item).map key =
      if key item ∈ items.map key then items.map key else items.map key ++ [key item] := by
  rw [store]
  split_ifs with hmem
  · rw [List.map_map]
    refine List.map_congr_left ?_
    intro other _
    by_cases hsame : key other = key item
    · simp [hsame]
    · simp [hsame]
  · rw [List.map_append, List.map_singleton]

theorem nodup_store (h : (items.map key).Nodup) (item : α) : ((store key items item).map key).Nodup := by
  rw [map_key_store]
  split_ifs with hmem
  · exact h
  · have hfresh := nodup_map_append_singleton h hmem
    rwa [List.map_append, List.map_singleton] at hfresh

theorem nodup_storeAll (h : (items.map key).Nodup) (others : List α) :
    ((storeAll key items others).map key).Nodup := by
  induction others generalizing items with
  | nil => exact h
  | cons item others ih => exact ih (nodup_store h item)

theorem overrides_store (key : α → κ) (items : List α) (item : α) :
    Overrides key items [item] (store key items item) := by
  intro other
  rw [List.map_singleton, List.mem_singleton, List.mem_singleton, store]
  split_ifs with hmem
  · rw [List.mem_map]
    constructor
    · rintro ⟨earlier, hearlier, rfl⟩
      by_cases hsame : key earlier = key item
      · rw [if_pos hsame]
        exact .inl rfl
      · rw [if_neg hsame]
        exact .inr ⟨hearlier, hsame⟩
    · rintro (rfl | ⟨hother, hkey⟩)
      · obtain ⟨earlier, hearlier, hsame⟩ := List.mem_map.mp hmem
        exact ⟨earlier, hearlier, if_pos hsame⟩
      · exact ⟨other, hother, if_neg hkey⟩
  · rw [List.mem_append, List.mem_singleton, or_comm]
    refine or_congr_right ⟨fun hother ↦ ⟨hother, ?_⟩, And.left⟩
    intro hsame
    exact hmem (hsame ▸ List.mem_map_of_mem hother)

/-- Entries with keys apart override the items they are stored in. -/
theorem overrides_storeAll (h : (entries.map key).Nodup) (items : List α) :
    Overrides key items entries (storeAll key items entries) := by
  induction entries generalizing items with
  | nil =>
    intro item
    simp [storeAll]
  | cons entry entries ih =>
    rw [List.map_cons, List.nodup_cons] at h
    intro item
    rw [storeAll, List.foldl_cons, ← storeAll, ih h.2 (store key items entry) item,
      overrides_store key items entry item]
    simp only [List.map_cons, List.mem_cons, List.map_nil, List.not_mem_nil, or_false, not_or]
    constructor
    · rintro (hitem | ⟨rfl | ⟨hitem, hkey⟩, hlater⟩)
      · exact .inl (.inr hitem)
      · exact .inl (.inl rfl)
      · exact .inr ⟨hitem, hkey, hlater⟩
    · rintro ((rfl | hitem) | ⟨hitem, hkey, hlater⟩)
      · exact .inr ⟨.inl rfl, h.1⟩
      · exact .inl hitem
      · exact .inr ⟨.inr ⟨hitem, hkey⟩, hlater⟩

/-- Items with keys apart are stored one after the other. -/
theorem storeAll_eq_append (h : ((items ++ entries).map key).Nodup) :
    storeAll key items entries = items ++ entries := by
  induction entries generalizing items with
  | nil => rw [storeAll, List.foldl_nil, List.append_nil]
  | cons entry entries ih =>
    have hfresh : key entry ∉ items.map key := by
      rw [List.map_append, List.map_cons, List.nodup_append] at h
      exact fun hmem ↦ h.2.2 _ hmem _ List.mem_cons_self rfl
    rw [storeAll, List.foldl_cons, ← storeAll, store, if_neg hfresh]
    rw [List.append_cons] at h
    rw [ih h, ← List.append_cons]

/-! ### Reading -/

section Collect

variable {ρ β ε : Type} [DecidableEq β]

/-- The items of the records: an item of the key of an earlier one must have its value, and is left out. -/
def collect (read : ρ → Except ε α) (key : α → κ) (value : α → β) (ambiguous : α → α → ε) :
    List α → List ρ → Except ε (List α)
  | kept, [] => .ok kept
  | kept, record :: records =>
    match read record with
    | .error error => .error error
    | .ok item =>
      match findRow key kept (key item) with
      | some earlier =>
        if value earlier ≠ value item then .error (ambiguous earlier item)
        else collect read key value ambiguous kept records
      | none => collect read key value ambiguous (kept ++ [item]) records

variable {read : ρ → Except ε α} {value : α → β} {ambiguous : α → α → ε} {kept : List α} {records : List ρ}

/-- What is collected has keys apart, and each item was kept already or is read from a record. -/
theorem collect_spec (hkept : (kept.map key).Nodup)
    (h : collect read key value ambiguous kept records = .ok items) :
    (items.map key).Nodup ∧
      ∀ item ∈ items, item ∈ kept ∨ ∃ record ∈ records, read record = .ok item := by
  induction records generalizing kept with
  | nil =>
    cases h
    exact ⟨hkept, fun item hitem ↦ .inl hitem⟩
  | cons record records ih =>
    rw [collect] at h
    cases hread : read record with
    | error error =>
      rw [hread] at h
      cases h
    | ok item =>
      simp only [hread] at h
      cases hfind : findRow key kept (key item) with
      | some earlier =>
        simp only [hfind] at h
        split_ifs at h
        obtain ⟨hnodup, hitems⟩ := ih hkept h
        refine ⟨hnodup, fun other hother ↦ (hitems other hother).imp_right ?_⟩
        rintro ⟨later, hlater, hreads⟩
        exact ⟨later, List.mem_cons_of_mem _ hlater, hreads⟩
      | none =>
        simp only [hfind] at h
        have hfresh : key item ∉ kept.map key := by
          intro hmem
          obtain ⟨earlier, hearlier, hsame⟩ := List.mem_map.mp hmem
          exact findRow_eq_none_iff.mp hfind earlier hearlier hsame
        obtain ⟨hnodup, hitems⟩ := ih (nodup_map_append_singleton hkept hfresh) h
        refine ⟨hnodup, fun other hother ↦ ?_⟩
        rcases hitems other hother with hmem | ⟨later, hlater, hreads⟩
        · rcases List.mem_append.mp hmem with hmem | hmem
          · exact .inl hmem
          · rw [List.mem_singleton.mp hmem]
            exact .inr ⟨record, List.mem_cons_self, hread⟩
        · exact .inr ⟨later, List.mem_cons_of_mem _ hlater, hreads⟩

/-- Records of items with keys apart are read back as these items. -/
theorem collect_eq_ok (hreads : List.Forall₂ (fun record item ↦ read record = .ok item) records items)
    (hkeys : ((kept ++ items).map key).Nodup) :
    collect read key value ambiguous kept records = .ok (kept ++ items) := by
  induction hreads generalizing kept with
  | nil => rw [collect, List.append_nil]
  | @cons record item records items hread _ ih =>
    have hfind : findRow key kept (key item) = none := by
      rw [findRow_eq_none_iff]
      intro earlier hearlier hsame
      rw [List.map_append, List.map_cons, List.nodup_append] at hkeys
      exact hkeys.2.2 _ (List.mem_map_of_mem hearlier) _ List.mem_cons_self hsame
    rw [collect]
    simp only [hread, hfind]
    rw [List.append_cons] at hkeys
    rw [ih hkeys, ← List.append_cons]

end Collect

end VoiceHarness.Library
