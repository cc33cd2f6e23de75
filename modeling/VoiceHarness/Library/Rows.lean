import Mathlib.Data.List.Basic

/-!
Tables as lists of rows with a key. `upsert` is an insert that replaces the row of the same key,
`discard` deletes a key, and `findRow` reads it. Each changes what is read for its own key only.
-/

set_option autoImplicit false
set_option relaxedAutoImplicit false

namespace VoiceHarness.Library

variable {κ α : Type} [DecidableEq κ] (key : α → κ)

/-- The row of a key. -/
def findRow (rows : List α) (k : κ) : Option α := rows.find? fun row ↦ key row = k

/-- The rows without those of a key. -/
def discard (rows : List α) (k : κ) : List α := rows.filter fun row ↦ key row ≠ k

/-- The row replaces the one of its key, or is added. -/
def upsert (rows : List α) (row : α) : List α := row :: discard key rows (key row)

variable {key}

@[simp] theorem mem_discard {rows : List α} {k : κ} {row : α} :
    row ∈ discard key rows k ↔ row ∈ rows ∧ key row ≠ k := by
  simp [discard]

@[simp] theorem mem_upsert {rows : List α} {row other : α} :
    other ∈ upsert key rows row ↔ other = row ∨ other ∈ rows ∧ key other ≠ key row := by
  simp [upsert]

@[simp] theorem findRow_upsert_self (rows : List α) (row : α) :
    findRow key (upsert key rows row) (key row) = some row := by
  simp [findRow, upsert]

@[simp] theorem findRow_discard_self (rows : List α) (k : κ) :
    findRow key (discard key rows k) k = none := by
  simp [findRow, discard]

theorem findRow_discard_of_ne {rows : List α} {k other : κ} (h : other ≠ k) :
    findRow key (discard key rows k) other = findRow key rows other := by
  unfold findRow discard
  rw [List.find?_filter]
  congr 1
  funext row
  by_cases hrow : key row = other
  · simp [hrow, h]
  · simp [hrow]

/-- The rows of another key are kept. -/
theorem filter_discard_of_ne (rows : List α) {k other : κ} (h : other ≠ k) :
    (discard key rows k).filter (key · = other) = rows.filter (key · = other) := by
  rw [discard, List.filter_filter]
  refine List.filter_congr fun row _ ↦ ?_
  by_cases hrow : key row = other
  · simp [hrow, h]
  · simp [hrow]

theorem filter_upsert_of_ne (rows : List α) {row : α} {other : κ} (h : other ≠ key row) :
    (upsert key rows row).filter (key · = other) = rows.filter (key · = other) := by
  have hne : ¬ key row = other := fun heq ↦ h heq.symm
  rw [upsert, List.filter_cons_of_neg (by simpa using hne)]
  exact filter_discard_of_ne rows h

/-- What is found for a key is the first of its rows. -/
theorem findRow_eq_head? (rows : List α) (k : κ) :
    findRow key rows k = (rows.filter (key · = k)).head? := by
  rw [List.head?_filter]
  rfl

theorem findRow_upsert_of_ne {rows : List α} {row : α} {other : κ} (h : other ≠ key row) :
    findRow key (upsert key rows row) other = findRow key rows other := by
  have hne : ¬ key row = other := fun heq ↦ h heq.symm
  unfold upsert
  rw [findRow, List.find?_cons_of_neg (by simpa using hne)]
  exact findRow_discard_of_ne h

/-- The second of two rows with one key is the one that stays. -/
theorem upsert_upsert {rows : List α} {first second : α} (h : key first = key second) :
    upsert key (upsert key rows first) second = upsert key rows second := by
  simp [upsert, discard, h, List.filter_filter]

theorem mem_of_findRow {rows : List α} {k : κ} {row : α} (h : findRow key rows k = some row) :
    row ∈ rows ∧ key row = k :=
  ⟨List.mem_of_find?_eq_some h, by simpa using List.find?_some h⟩

theorem findRow_eq_none_iff {rows : List α} {k : κ} :
    findRow key rows k = none ↔ ∀ row ∈ rows, key row ≠ k := by
  simp [findRow]

/-- Where the keys are distinct, a row is the one found for its key. -/
theorem findRow_eq_some_of_mem {rows : List α} (hkeys : (rows.map key).Nodup) {row : α}
    (h : row ∈ rows) : findRow key rows (key row) = some row := by
  induction rows with
  | nil => exact absurd h List.not_mem_nil
  | cons first rows ih =>
    rw [List.map_cons, List.nodup_cons] at hkeys
    rcases List.mem_cons.mp h with rfl | htail
    · simp [findRow]
    · have hne : ¬ key first = key row := fun heq ↦
        hkeys.1 (List.mem_map.mpr ⟨row, htail, heq.symm⟩)
      rw [findRow, List.find?_cons_of_neg (by simpa using hne)]
      exact ih hkeys.2 htail

theorem nodup_discard {rows : List α} (hkeys : (rows.map key).Nodup) (k : κ) :
    ((discard key rows k).map key).Nodup :=
  hkeys.sublist ((List.filter_sublist).map key)

theorem nodup_upsert {rows : List α} (hkeys : (rows.map key).Nodup) (row : α) :
    ((upsert key rows row).map key).Nodup := by
  rw [upsert, List.map_cons, List.nodup_cons]
  refine ⟨fun h ↦ ?_, nodup_discard hkeys _⟩
  obtain ⟨other, hother, hkey⟩ := List.mem_map.mp h
  exact (mem_discard.mp hother).2 hkey

end VoiceHarness.Library
