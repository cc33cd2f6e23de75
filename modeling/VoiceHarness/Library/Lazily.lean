import Mathlib.Data.List.Basic

/-!
The shortest match of a pattern. A lazy repetition takes one item or more, as few as what follows it allows;
what it takes depends on no more of the text than what follows needs to see.
-/

set_option autoImplicit false
set_option relaxedAutoImplicit false

namespace VoiceHarness.Library

variable {α : Type*} {close : List α → Option (List α × List α)}

/-- `.+?` before a pattern that answers what it matches and the text behind. -/
def lazily (close : List α → Option (List α × List α)) : List α → Option (List α × List α)
  | [] => none
  | item :: text =>
    match close text with
    | some (last, rest) => some (item :: last, rest)
    | none => (lazily close text).map fun found ↦ (item :: found.1, found.2)

theorem lazily_cons_of_close {text last rest : List α} (h : close text = some (last, rest)) (item : α) :
    lazily close (item :: text) = some (item :: last, rest) := by
  rw [lazily, h]

theorem lazily_cons_of_none {text : List α} (h : close text = none) (item : α) :
    lazily close (item :: text) =
      (lazily close text).map fun found ↦ (item :: found.1, found.2) := by
  rw [lazily, h]

/-- Where the pattern matches behind no earlier item, the match ends with it. -/
theorem lazily_append {before text last rest : List α} (hne : before ≠ [])
    (hclose : close text = some (last, rest))
    (hnone : ∀ first second, before = first ++ second → first ≠ [] → second ≠ [] →
      close (second ++ text) = none) :
    lazily close (before ++ text) = some (before ++ last, rest) := by
  induction before with
  | nil => exact absurd rfl hne
  | cons item before ih =>
    cases before with
    | nil => exact lazily_cons_of_close hclose item
    | cons next before =>
      have hskip : close (next :: before ++ text) = none :=
        hnone [item] (next :: before) rfl (List.cons_ne_nil _ _) (List.cons_ne_nil _ _)
      have hlater := ih (List.cons_ne_nil _ _) fun first second hsplit hfirst hsecond ↦
        hnone (item :: first) second (by rw [hsplit, List.cons_append]) (List.cons_ne_nil _ _) hsecond
      rw [List.cons_append, lazily_cons_of_none hskip, hlater]
      rfl

theorem lazily_eq_none_iff {text : List α} :
    lazily close text = none ↔
      ∀ first second, text = first ++ second → first ≠ [] → close second = none := by
  induction text with
  | nil =>
    refine ⟨fun _ first second hsplit hfirst ↦ ?_, fun _ ↦ rfl⟩
    exact absurd (List.append_eq_nil_iff.mp hsplit.symm).1 hfirst
  | cons item text ih =>
    constructor
    · intro h first second hsplit hfirst
      rcases hclose : close text with _ | ⟨last, rest⟩
      · rw [lazily_cons_of_none hclose, Option.map_eq_none_iff] at h
        cases first with
        | nil => exact absurd rfl hfirst
        | cons other first =>
          obtain ⟨rfl, rfl⟩ := List.cons.inj hsplit
          by_cases hnil : first = []
          · rw [hnil] at hclose
            exact hclose
          · exact ih.mp h first second rfl hnil
      · rw [lazily_cons_of_close hclose] at h
        cases h
    · intro h
      have hclose : close text = none := h [item] text rfl (List.cons_ne_nil _ _)
      rw [lazily_cons_of_none hclose, Option.map_eq_none_iff, ih]
      intro first second hsplit _
      exact h (item :: first) second (by rw [hsplit, List.cons_append]) (List.cons_ne_nil _ _)

/-- A match is some items and then the first match of the pattern. -/
theorem exists_of_lazily {text taken rest : List α} (h : lazily close text = some (taken, rest)) :
    ∃ before tail last, text = before ++ tail ∧ before ≠ [] ∧ close tail = some (last, rest) ∧
      taken = before ++ last ∧
      ∀ first second, before = first ++ second → first ≠ [] → second ≠ [] →
        close (second ++ tail) = none := by
  induction text generalizing taken with
  | nil => cases h
  | cons item text ih =>
    rcases hclose : close text with _ | ⟨last, after⟩
    · rw [lazily_cons_of_none hclose, Option.map_eq_some_iff] at h
      obtain ⟨⟨found, after⟩, hfound, heq⟩ := h
      obtain ⟨rfl, rfl⟩ := Prod.mk.inj heq
      obtain ⟨before, tail, last, rfl, hne, hlast, rfl, hnone⟩ := ih hfound
      refine ⟨item :: before, tail, last, rfl, List.cons_ne_nil _ _, hlast, rfl, ?_⟩
      intro first second hsplit hfirst hsecond
      cases first with
      | nil => exact absurd rfl hfirst
      | cons other first =>
        obtain ⟨rfl, rfl⟩ := List.cons.inj hsplit
        by_cases hnil : first = []
        · rw [hnil] at hclose
          exact hclose
        · exact hnone first second rfl hnil hsecond
    · rw [lazily_cons_of_close hclose] at h
      obtain ⟨rfl, rfl⟩ := Prod.mk.inj (Option.some.inj h)
      refine ⟨[item], text, last, rfl, List.cons_ne_nil _ _, hclose, rfl, ?_⟩
      intro first second hsplit hfirst hsecond
      have hlength := congrArg List.length hsplit
      rw [List.length_append, List.length_singleton] at hlength
      have hone := List.length_pos_iff.mpr hfirst
      have htwo := List.length_pos_iff.mpr hsecond
      omega

end VoiceHarness.Library
