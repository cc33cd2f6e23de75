import Mathlib.Data.List.Basic

/-!
Tables of keys with one owner each. `claim` is the `dict.setdefault` idiom: the first owner of a key
keeps it, and a claim by another owner is refused. A sequence of claims is accepted exactly when it
gives no key two owners (`claimAll_isOk_iff`), whatever the order of the claims.
-/

set_option autoImplicit false
set_option relaxedAutoImplicit false

namespace VoiceHarness.Library

variable {κ ω ε : Type}

/-- No key has two owners. -/
def Exclusive (entries : List (κ × ω)) : Prop :=
  ∀ first ∈ entries, ∀ second ∈ entries, first.1 = second.1 → first.2 = second.2

theorem exclusive_nil : Exclusive ([] : List (κ × ω)) := by
  intro first hfirst
  exact absurd hfirst List.not_mem_nil

theorem Exclusive.of_subset {entries others : List (κ × ω)} (h : Exclusive entries)
    (hsubset : ∀ entry ∈ others, entry ∈ entries) : Exclusive others :=
  fun first hfirst second hsecond ↦ h first (hsubset first hfirst) second (hsubset second hsecond)

/-- A key nobody owns can be given an owner. -/
theorem Exclusive.cons_of_free {table : List (κ × ω)} {entry : κ × ω} (h : Exclusive table)
    (hfree : ∀ owned ∈ table, owned.1 ≠ entry.1) : Exclusive (entry :: table) := by
  intro first hfirst second hsecond hkey
  rcases List.mem_cons.mp hfirst with rfl | hold
  · rcases List.mem_cons.mp hsecond with rfl | hother
    · rfl
    · exact absurd hkey.symm (hfree second hother)
  · rcases List.mem_cons.mp hsecond with rfl | hother
    · exact absurd hkey (hfree first hold)
    · exact h first hold second hother hkey

section Claims

variable [DecidableEq κ] [DecidableEq ω]

/-- A claim of a key by an owner; `conflict` says what is raised for a key that is taken. -/
def claim (conflict : κ → ω → ω → ε) (table : List (κ × ω)) (entry : κ × ω) :
    Except ε (List (κ × ω)) :=
  match table.lookup entry.1 with
  | none => .ok (entry :: table)
  | some owner => if owner = entry.2 then .ok table else .error (conflict entry.1 owner entry.2)

/-- The claims in order. -/
def claimAll (conflict : κ → ω → ω → ε) :
    List (κ × ω) → List (κ × ω) → Except ε (List (κ × ω))
  | table, [] => .ok table
  | table, entry :: entries =>
    match claim conflict table entry with
    | .ok next => claimAll conflict next entries
    | .error message => .error message

omit [DecidableEq ω] in
theorem ne_of_lookup_eq_none {table : List (κ × ω)} {key : κ} (h : table.lookup key = none) :
    ∀ entry ∈ table, entry.1 ≠ key := by
  intro entry hentry hkey
  have hne := List.lookup_eq_none_iff.mp h entry hentry
  simp [hkey] at hne

omit [DecidableEq ω] in
theorem mem_of_lookup {table : List (κ × ω)} {key : κ} {owner : ω}
    (h : table.lookup key = some owner) : (key, owner) ∈ table := by
  obtain ⟨before, after, rfl, -⟩ := List.lookup_eq_some_iff.mp h
  exact List.mem_append_right _ List.mem_cons_self

/-- Claims are accepted exactly when no key gets a second owner. -/
theorem claimAll_isOk_iff {conflict : κ → ω → ω → ε} {table entries : List (κ × ω)}
    (htable : Exclusive table) :
    (∃ owned, claimAll conflict table entries = .ok owned) ↔ Exclusive (table ++ entries) := by
  induction entries generalizing table with
  | nil =>
    rw [List.append_nil]
    exact ⟨fun _ ↦ htable, fun _ ↦ ⟨table, rfl⟩⟩
  | cons entry entries ih =>
    rw [claimAll]
    rcases hlookup : table.lookup entry.1 with _ | owner
    · have hclaim : claim conflict table entry = .ok (entry :: table) := by
        simp only [claim, hlookup]
      have hnext := htable.cons_of_free (ne_of_lookup_eq_none hlookup)
      rw [hclaim]
      -- the same entries, the claimed one moved to the front
      have hsame : ∀ other, other ∈ entry :: table ++ entries ↔ other ∈ table ++ entry :: entries :=
        fun other ↦ by simp only [List.mem_append, List.mem_cons, List.cons_append]; tauto
      exact (ih hnext).trans ⟨fun h ↦ h.of_subset fun other hother ↦ (hsame other).mpr hother,
        fun h ↦ h.of_subset fun other hother ↦ (hsame other).mp hother⟩
    · have howned := mem_of_lookup hlookup
      by_cases howner : owner = entry.2
      · have hclaim : claim conflict table entry = .ok table := by
          simp only [claim, hlookup, howner, if_true]
        have hentry : entry ∈ table := by rwa [howner] at howned
        rw [hclaim]
        have hsame : ∀ other, other ∈ table ++ entries ↔ other ∈ table ++ entry :: entries := by
          intro other
          simp only [List.mem_append, List.mem_cons]
          constructor
          · tauto
          · rintro (hother | rfl | hother)
            · exact .inl hother
            · exact .inl hentry
            · exact .inr hother
        exact (ih htable).trans ⟨fun h ↦ h.of_subset fun other hother ↦ (hsame other).mpr hother,
          fun h ↦ h.of_subset fun other hother ↦ (hsame other).mp hother⟩
      · have hclaim : claim conflict table entry =
            .error (conflict entry.1 owner entry.2) := by
          simp only [claim, hlookup, howner, if_false]
        rw [hclaim]
        refine ⟨?_, fun h ↦ absurd ?_ howner⟩
        · rintro ⟨owned, howned⟩
          cases howned
        · exact h (entry.1, owner) (List.mem_append_left _ howned) entry
            (List.mem_append_right _ List.mem_cons_self) rfl

end Claims

end VoiceHarness.Library
