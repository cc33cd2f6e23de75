import Mathlib.Data.List.Flatten
import Mathlib.Data.List.Forall2
import Mathlib.Data.List.TakeWhile

/-!
Patterns over a text, as a backtracking engine matches them: at a place it tries the ways to match in a fixed
order and takes the first. A pattern is a sequence of characters, greedy repetitions of characters, options,
alternatives and assertions about the characters on either side. `Pattern.Reads` says what a pattern matches
between two characters without the order.
-/

set_option autoImplicit false
set_option relaxedAutoImplicit false

namespace VoiceHarness.Library

/-- A pattern over the characters `α` with groups named by `γ`. -/
inductive Pattern (α γ : Type*)
  | empty
  | one (accepts : α → Bool)
  | many (accepts : α → Bool) (low : ℕ) (high : Option ℕ)
  | opt (body : Pattern α γ)
  | alt (first second : Pattern α γ)
  | seq (first second : Pattern α γ)
  | group (name : γ) (body : Pattern α γ)
  | notBehind (rejects : α → Bool)
  | notAhead (rejects : α → Bool)
  | boundary (isWord : α → Bool)

/-- A place in a text: the character behind it, the text ahead, and the groups matched so far. -/
structure Cursor (α γ : Type*) where
  previous : Option α
  ahead : List α
  groups : List (γ × List α)

/-- A match: the text from its start, the text from its end, and its groups. -/
structure Found (α γ : Type*) where
  ahead : List α
  rest : List α
  groups : List (γ × List α)

variable {α γ : Type*}

namespace Cursor

def advance (cursor : Cursor α γ) (count : ℕ) : Cursor α γ where
  previous := (cursor.ahead.take count).getLast?.or cursor.previous
  ahead := cursor.ahead.drop count
  groups := cursor.groups

/-- The text between two places. -/
def since (cursor later : Cursor α γ) : List α := cursor.ahead.take (cursor.ahead.length - later.ahead.length)

/-- The same place where more text follows. -/
def extend (cursor : Cursor α γ) (tail : List α) : Cursor α γ :=
  { cursor with ahead := cursor.ahead ++ tail }

end Cursor

namespace Pattern

/-! ### The engine -/

/-- The places after a match, in the order in which they are tried. -/
def run : Pattern α γ → Cursor α γ → List (Cursor α γ)
  | empty, cursor => [cursor]
  | one accepts, cursor => if cursor.ahead.head?.any accepts then [cursor.advance 1] else []
  | many accepts low high, cursor =>
    let count := (cursor.ahead.takeWhile accepts).length
    let most := high.elim count (min count)
    (List.range' low (most + 1 - low)).reverse.map cursor.advance
  | opt body, cursor => run body cursor ++ [cursor]
  | alt first second, cursor => run first cursor ++ run second cursor
  | seq first second, cursor => (run first cursor).flatMap fun later ↦ run second later
  | group name body, cursor =>
    (run body cursor).map fun later ↦ { later with groups := (name, cursor.since later) :: later.groups }
  | notBehind rejects, cursor => if !cursor.previous.any rejects then [cursor] else []
  | notAhead rejects, cursor => if !cursor.ahead.head?.any rejects then [cursor] else []
  | boundary isWord, cursor =>
    if cursor.previous.any isWord != cursor.ahead.head?.any isWord then [cursor] else []

/-- A sequence of characters. -/
def literal : List (α → Bool) → Pattern α γ
  | [] => empty
  | accepts :: others => seq (one accepts) (literal others)

/-- The first of the ways to match a text to its end. -/
def fullMatch (pattern : Pattern α γ) (text : List α) : Option (Cursor α γ) :=
  (pattern.run ⟨none, text, []⟩).find? (·.ahead.isEmpty)

/-- The matches from a place on that do not overlap, for a pattern that matches no empty text. Characters of the
last match are skipped. -/
def findAll (pattern : Pattern α γ) : ℕ → Option α → List α → List (Found α γ)
  | _, _, [] => []
  | skip + 1, _, c :: text => findAll pattern skip (some c) text
  | 0, previous, c :: text =>
    match (pattern.run ⟨previous, c :: text, []⟩).head? with
    | some later =>
      ⟨c :: text, later.ahead, later.groups⟩ ::
        findAll pattern (text.length - later.ahead.length) (some c) text
    | none => findAll pattern 0 (some c) text

/-- The matches of a text. -/
def finditer (pattern : Pattern α γ) (text : List α) : List (Found α γ) := pattern.findAll 0 none text

/-- The first match of a text. -/
def search (pattern : Pattern α γ) (text : List α) : Option (Found α γ) := (pattern.finditer text).head?

/-- The text with each of these matches replaced. Characters of the last match are left out. -/
def substitute (pattern : Pattern α γ) (replacement : Found α γ → List α) :
    ℕ → Option α → List α → List α
  | _, _, [] => []
  | skip + 1, _, c :: text => substitute pattern replacement skip (some c) text
  | 0, previous, c :: text =>
    match (pattern.run ⟨previous, c :: text, []⟩).head? with
    | some later =>
      replacement ⟨c :: text, later.ahead, later.groups⟩ ++
        substitute pattern replacement (text.length - later.ahead.length) (some c) text
    | none => c :: substitute pattern replacement 0 (some c) text

end Pattern

namespace Found

variable (found : Found α γ)

/-- The place of the match in a text of this size. -/
def start (size : ℕ) : ℕ := size - found.ahead.length

def stop (size : ℕ) : ℕ := size - found.rest.length

/-- The same match where more text follows. -/
def extend (tail : List α) : Found α γ :=
  { found with ahead := found.ahead ++ tail, rest := found.rest ++ tail }

def span (size : ℕ) : ℕ × ℕ := (found.start size, found.stop size)

/-- The text of the match. -/
def text : List α := found.ahead.take (found.ahead.length - found.rest.length)

/-- The text of a group, if it took part. -/
def group? [DecidableEq γ] (name : γ) : Option (List α) := found.groups.lookup name

end Found

namespace Pattern

/-! ### What a pattern matches -/

/-- The pattern matches a text between a character and what follows, and sets these groups. -/
def Reads : Pattern α γ → Option α → List α → List α → List (γ × List α) → Prop
  | empty, _, taken, _, groups => taken = [] ∧ groups = []
  | one accepts, _, taken, _, groups => (∃ c, taken = [c] ∧ accepts c = true) ∧ groups = []
  | many accepts low high, _, taken, _, groups =>
    (∀ c ∈ taken, accepts c = true) ∧ low ≤ taken.length ∧ (∀ most ∈ high, taken.length ≤ most) ∧ groups = []
  | opt body, previous, taken, rest, groups =>
    Reads body previous taken rest groups ∨ (taken = [] ∧ groups = [])
  | alt first second, previous, taken, rest, groups =>
    Reads first previous taken rest groups ∨ Reads second previous taken rest groups
  | seq first second, previous, taken, rest, groups =>
    ∃ left right leftGroups rightGroups, taken = left ++ right ∧ groups = rightGroups ++ leftGroups ∧
      Reads first previous left (right ++ rest) leftGroups ∧
      Reads second (left.getLast?.or previous) right rest rightGroups
  | group name body, previous, taken, rest, groups =>
    ∃ inner, groups = (name, taken) :: inner ∧ Reads body previous taken rest inner
  | notBehind rejects, previous, taken, _, groups =>
    previous.any rejects = false ∧ taken = [] ∧ groups = []
  | notAhead rejects, _, taken, rest, groups => rest.head?.any rejects = false ∧ taken = [] ∧ groups = []
  | boundary isWord, previous, taken, rest, groups =>
    (previous.any isWord != rest.head?.any isWord) = true ∧ taken = [] ∧ groups = []

variable {pattern first second body : Pattern α γ} {cursor later : Cursor α γ} {previous : Option α}
  {ahead rest taken : List α} {groups : List (γ × List α)}

theorem le_length_takeWhile_iff {accepts : α → Bool} {count : ℕ} {text : List α} :
    count ≤ (text.takeWhile accepts).length ↔
      count ≤ text.length ∧ ∀ c ∈ text.take count, accepts c = true := by
  induction text generalizing count with
  | nil => simp
  | cons c text ih =>
    cases count with
    | zero => simp
    | succ count =>
      by_cases hc : accepts c = true
      · simp [hc, ih]
      · simp [hc]

theorem mem_run_many {accepts : α → Bool} {low : ℕ} {high : Option ℕ} :
    later ∈ (many accepts low high : Pattern α γ).run cursor ↔
      ∃ taken rest, cursor.ahead = taken ++ rest ∧ (many accepts low high).Reads cursor.previous taken rest
        ([] : List (γ × List α)) ∧ later = ⟨taken.getLast?.or cursor.previous, rest, cursor.groups⟩ := by
  have hmost : ∀ count, count ≤ high.elim (cursor.ahead.takeWhile accepts).length
      (min (cursor.ahead.takeWhile accepts).length) ↔
      count ≤ (cursor.ahead.takeWhile accepts).length ∧ ∀ most ∈ high, count ≤ most := by
    intro count
    cases high with
    | none => simp
    | some most =>
      rw [Option.elim_some, Nat.le_min]
      simp
  simp only [run, Reads, List.mem_map, List.mem_reverse, List.mem_range'_1, and_true]
  constructor
  · rintro ⟨count, ⟨hlow, hcount⟩, rfl⟩
    obtain ⟨hlength, hhigh⟩ := (hmost count).mp (by omega)
    obtain ⟨hle, haccepts⟩ := le_length_takeWhile_iff.mp hlength
    refine ⟨cursor.ahead.take count, cursor.ahead.drop count, (List.take_append_drop ..).symm, ⟨haccepts, ?_⟩,
      rfl⟩
    rw [List.length_take_of_le hle]
    exact ⟨hlow, hhigh⟩
  · rintro ⟨taken, rest, hahead, ⟨haccepts, hlow, hhigh⟩, rfl⟩
    have htake : cursor.ahead.take taken.length = taken := by
      rw [hahead, List.take_left]
    have hlength : taken.length ≤ (cursor.ahead.takeWhile accepts).length := by
      refine le_length_takeWhile_iff.mpr ⟨?_, htake.symm ▸ haccepts⟩
      rw [hahead, List.length_append]
      exact Nat.le_add_right _ _
    have hcount := (hmost taken.length).mpr ⟨hlength, hhigh⟩
    refine ⟨taken.length, ⟨hlow, by omega⟩, ?_⟩
    rw [Cursor.advance, htake, hahead, List.drop_left]

theorem mem_run_one {accepts : α → Bool} :
    later ∈ (one accepts : Pattern α γ).run cursor ↔
      ∃ c rest, cursor.ahead = c :: rest ∧ accepts c = true ∧ later = ⟨some c, rest, cursor.groups⟩ := by
  obtain ⟨previous, ahead, groups⟩ := cursor
  cases ahead with
  | nil => simp [run]
  | cons c rest =>
    by_cases hc : accepts c = true
    · simp only [run, List.head?_cons, Option.any_some, hc, if_true, List.mem_singleton, List.cons.injEq]
      constructor
      · rintro rfl
        exact ⟨c, rest, ⟨rfl, rfl⟩, hc, rfl⟩
      · rintro ⟨_, _, ⟨rfl, rfl⟩, -, rfl⟩
        rfl
    · simp only [run, List.head?_cons, Option.any_some, hc, Bool.false_eq_true, if_false, List.not_mem_nil,
        List.cons.injEq, false_iff]
      rintro ⟨_, _, ⟨rfl, rfl⟩, hother, -⟩
      exact hc hother

/-- An assertion about what follows reads no text. -/
theorem mem_run_assertion (cursor later : Cursor α γ) (holds : List α → Bool) :
    later ∈ (if holds cursor.ahead then [cursor] else []) ↔
      ∃ taken rest found, cursor.ahead = taken ++ rest ∧
        (holds rest = true ∧ taken = [] ∧ found = ([] : List (γ × List α))) ∧
        later = ⟨taken.getLast?.or cursor.previous, rest, found ++ cursor.groups⟩ := by
  constructor
  · intro hlater
    split_ifs at hlater with hholds
    · rw [List.mem_singleton] at hlater
      exact ⟨[], cursor.ahead, [], rfl, ⟨hholds, rfl, rfl⟩, hlater⟩
    · cases hlater
  · rintro ⟨taken, rest, found, hahead, ⟨hholds, rfl, rfl⟩, rfl⟩
    rw [List.nil_append] at hahead
    rw [if_pos (hahead ▸ hholds), ← hahead]
    exact List.mem_singleton_self _

/-- The engine finds what the pattern reads. -/
theorem mem_run_iff (pattern : Pattern α γ) {cursor later : Cursor α γ} :
    later ∈ pattern.run cursor ↔
      ∃ taken rest found, cursor.ahead = taken ++ rest ∧ pattern.Reads cursor.previous taken rest found ∧
        later = ⟨taken.getLast?.or cursor.previous, rest, found ++ cursor.groups⟩ := by
  induction pattern generalizing cursor later with
  | empty =>
    have h : later ∈ [cursor] ↔ _ := mem_run_assertion cursor later fun _ ↦ true
    simp [run, Reads, h]
  | one accepts =>
    rw [mem_run_one]
    constructor
    · rintro ⟨c, rest, hahead, hc, rfl⟩
      exact ⟨[c], rest, [], hahead, ⟨⟨c, rfl, hc⟩, rfl⟩, rfl⟩
    · rintro ⟨taken, rest, found, hahead, ⟨⟨c, rfl, hc⟩, rfl⟩, rfl⟩
      exact ⟨c, rest, hahead, hc, rfl⟩
  | many accepts low high =>
    rw [mem_run_many]
    constructor
    · rintro ⟨taken, rest, hahead, hreads, rfl⟩
      exact ⟨taken, rest, [], hahead, hreads, rfl⟩
    · rintro ⟨taken, rest, found, hahead, hreads, rfl⟩
      obtain rfl := hreads.2.2.2
      exact ⟨taken, rest, hahead, hreads, rfl⟩
  | opt body ih =>
    rw [run, List.mem_append, ih, List.mem_singleton]
    constructor
    · rintro (⟨taken, rest, found, hahead, hreads, rfl⟩ | rfl)
      · exact ⟨taken, rest, found, hahead, .inl hreads, rfl⟩
      · exact ⟨[], later.ahead, [], rfl, .inr ⟨rfl, rfl⟩, rfl⟩
    · rintro ⟨taken, rest, found, hahead, hreads | ⟨rfl, rfl⟩, rfl⟩
      · exact .inl ⟨taken, rest, found, hahead, hreads, rfl⟩
      · rw [List.nil_append] at hahead
        exact .inr (by rw [← hahead]; rfl)
  | alt first second ihFirst ihSecond =>
    rw [run, List.mem_append, ihFirst, ihSecond]
    constructor
    · rintro (⟨taken, rest, found, hahead, hreads, rfl⟩ | ⟨taken, rest, found, hahead, hreads, rfl⟩)
      · exact ⟨taken, rest, found, hahead, .inl hreads, rfl⟩
      · exact ⟨taken, rest, found, hahead, .inr hreads, rfl⟩
    · rintro ⟨taken, rest, found, hahead, hreads | hreads, rfl⟩
      · exact .inl ⟨taken, rest, found, hahead, hreads, rfl⟩
      · exact .inr ⟨taken, rest, found, hahead, hreads, rfl⟩
  | seq first second ihFirst ihSecond =>
    simp only [run, List.mem_flatMap, ihFirst, ihSecond]
    constructor
    · rintro ⟨_, ⟨left, middle, leftGroups, hahead, hleft, rfl⟩, right, rest, rightGroups, rfl, hright, rfl⟩
      refine ⟨left ++ right, rest, rightGroups ++ leftGroups, ?_, ⟨left, right, leftGroups, rightGroups, rfl, rfl,
        hleft, hright⟩, ?_⟩
      · rw [hahead, List.append_assoc]
      · rw [List.getLast?_append, Option.or_assoc, List.append_assoc]
    · rintro ⟨_, rest, _, hahead, ⟨left, right, leftGroups, rightGroups, rfl, rfl, hleft, hright⟩, rfl⟩
      rw [List.append_assoc] at hahead
      refine ⟨_, ⟨left, right ++ rest, leftGroups, hahead, hleft, rfl⟩, right, rest, rightGroups, rfl, hright, ?_⟩
      rw [List.getLast?_append, Option.or_assoc, List.append_assoc]
  | group name body ih =>
    simp only [run, List.mem_map, ih]
    constructor
    · rintro ⟨_, ⟨taken, rest, inner, hahead, hreads, rfl⟩, rfl⟩
      refine ⟨taken, rest, (name, taken) :: inner, hahead, ⟨inner, rfl, hreads⟩, ?_⟩
      simp [Cursor.since, hahead]
    · rintro ⟨taken, rest, _, hahead, ⟨inner, rfl, hreads⟩, rfl⟩
      refine ⟨_, ⟨taken, rest, inner, hahead, hreads, rfl⟩, ?_⟩
      simp [Cursor.since, hahead]
  | notBehind rejects =>
    have h := mem_run_assertion cursor later fun _ ↦ !cursor.previous.any rejects
    simpa only [run, Reads, Bool.not_eq_true'] using h
  | notAhead rejects =>
    have h := mem_run_assertion cursor later fun rest ↦ !rest.head?.any rejects
    simpa only [run, Reads, Bool.not_eq_true'] using h
  | boundary isWord =>
    exact mem_run_assertion cursor later fun rest ↦ cursor.previous.any isWord != rest.head?.any isWord

theorem reads_literal {classes : List (α → Bool)} :
    (literal classes : Pattern α γ).Reads previous taken rest groups ↔
      List.Forall₂ (fun accepts c ↦ accepts c = true) classes taken ∧ groups = [] := by
  induction classes generalizing previous taken groups with
  | nil =>
    rw [List.forall₂_nil_left_iff]
    exact Iff.rfl
  | cons accepts classes ih =>
    constructor
    · rintro ⟨_, right, _, rightGroups, rfl, rfl, ⟨⟨c, rfl, hc⟩, rfl⟩, hright⟩
      obtain ⟨hclasses, rfl⟩ := ih.mp hright
      exact ⟨.cons hc hclasses, rfl⟩
    · rintro ⟨hclasses, rfl⟩
      obtain ⟨c, right, hc, hright, rfl⟩ := List.forall₂_cons_left_iff.mp hclasses
      exact ⟨[c], right, [], [], rfl, rfl, ⟨⟨c, rfl, hc⟩, rfl⟩, ih.mpr ⟨hright, rfl⟩⟩

theorem Reads.append {left right : List α} {leftGroups rightGroups : List (γ × List α)}
    (hfirst : first.Reads previous left (right ++ rest) leftGroups)
    (hsecond : second.Reads (left.getLast?.or previous) right rest rightGroups) :
    (seq first second).Reads previous (left ++ right) rest (rightGroups ++ leftGroups) :=
  ⟨left, right, leftGroups, rightGroups, rfl, rfl, hfirst, hsecond⟩

/-- The only place after a match is the first one. -/
theorem run_head?_eq (hmem : later ∈ pattern.run cursor) (hunique : ∀ other ∈ pattern.run cursor, other = later) :
    (pattern.run cursor).head? = some later := by
  cases hrun : pattern.run cursor with
  | nil =>
    rw [hrun] at hmem
    cases hmem
  | cons first others =>
    rw [List.head?_cons, hunique first (hrun ▸ List.mem_cons_self)]

/-! ### Kinds of characters -/

/-- The pattern takes and looks ahead at characters of a kind only. -/
def Within (kind : α → Bool) : Pattern α γ → Prop
  | empty => True
  | one accepts => ∀ c, accepts c = true → kind c = true
  | many accepts _ _ => ∀ c, accepts c = true → kind c = true
  | opt body => Within kind body
  | alt first second => Within kind first ∧ Within kind second
  | seq first second => Within kind first ∧ Within kind second
  | group _ body => Within kind body
  | notBehind _ => True
  | notAhead rejects => ∀ c, rejects c = true → kind c = true
  | boundary isWord => ∀ c, isWord c = true → kind c = true

variable {kind : α → Bool} {tail : List α}

/-- The text of a group is part of the match. -/
theorem Reads.subset_of_group (h : pattern.Reads previous taken rest groups) {found : γ × List α}
    (hfound : found ∈ groups) : found.2 ⊆ taken := by
  induction pattern generalizing previous taken rest groups with
  | one | many =>
    simp only [Reads] at h
    simp [h] at hfound
  | opt body ih =>
    rcases h with h | ⟨-, rfl⟩
    · exact ih h hfound
    · cases hfound
  | alt first second ihFirst ihSecond =>
    rcases h with h | h
    · exact ihFirst h hfound
    · exact ihSecond h hfound
  | seq first second ihFirst ihSecond =>
    obtain ⟨left, right, leftGroups, rightGroups, rfl, rfl, hleft, hright⟩ := h
    rcases List.mem_append.mp hfound with hfound | hfound
    · exact List.subset_append_of_subset_right _ (ihSecond hright hfound)
    · exact List.subset_append_of_subset_left _ (ihFirst hleft hfound)
  | group name body ih =>
    obtain ⟨inner, rfl, hinner⟩ := h
    rcases List.mem_cons.mp hfound with rfl | hfound
    · exact List.Subset.refl _
    · exact ih hinner hfound
  | empty | notBehind | notAhead | boundary =>
    simp only [Reads] at h
    simp [h] at hfound

theorem Reads.kind_of_mem (h : pattern.Reads previous taken rest groups) (hwithin : pattern.Within kind) :
    ∀ c ∈ taken, kind c = true := by
  induction pattern generalizing previous taken rest groups with
  | empty =>
    obtain ⟨rfl, -⟩ := h
    exact fun c hc ↦ nomatch hc
  | one accepts =>
    obtain ⟨⟨c, rfl, hc⟩, -⟩ := h
    exact List.forall_mem_singleton.mpr (hwithin c hc)
  | many accepts low high => exact fun c hc ↦ hwithin c (h.1 c hc)
  | opt body ih =>
    rcases h with h | ⟨rfl, -⟩
    · exact ih h hwithin
    · exact fun c hc ↦ nomatch hc
  | alt first second ihFirst ihSecond => exact h.elim (ihFirst · hwithin.1) (ihSecond · hwithin.2)
  | seq first second ihFirst ihSecond =>
    obtain ⟨left, right, _, _, rfl, -, hleft, hright⟩ := h
    exact List.forall_mem_append.mpr ⟨ihFirst hleft hwithin.1, ihSecond hright hwithin.2⟩
  | group name body ih =>
    obtain ⟨inner, -, hinner⟩ := h
    exact ih hinner hwithin
  | notBehind rejects =>
    obtain ⟨-, rfl, -⟩ := h
    exact fun c hc ↦ nomatch hc
  | notAhead rejects =>
    obtain ⟨-, rfl, -⟩ := h
    exact fun c hc ↦ nomatch hc
  | boundary isWord =>
    obtain ⟨-, rfl, -⟩ := h
    exact fun c hc ↦ nomatch hc

/-- A class of the kind does not see what follows. -/
theorem any_head?_append {accepts : α → Bool} (haccepts : ∀ c, accepts c = true → kind c = true)
    (htail : tail.head?.any kind = false) (text : List α) :
    (text ++ tail).head?.any accepts = text.head?.any accepts := by
  cases text with
  | cons c text => rfl
  | nil =>
    cases tail with
    | nil => rfl
    | cons c tail =>
      have hc : accepts c = false := by
        by_contra hc
        rw [Bool.not_eq_false] at hc
        rw [List.head?_cons, Option.any_some, haccepts c hc] at htail
        cases htail
      simpa using hc

theorem takeWhile_append_of_kind {accepts : α → Bool} (haccepts : ∀ c, accepts c = true → kind c = true)
    (htail : tail.head?.any kind = false) (text : List α) :
    (text ++ tail).takeWhile accepts = text.takeWhile accepts := by
  induction text with
  | nil =>
    have hhead := any_head?_append haccepts htail []
    cases tail with
    | nil => rfl
    | cons c tail => simpa using hhead
  | cons c text ih => rw [List.cons_append, List.takeWhile_cons, List.takeWhile_cons, ih]

theorem cursor_advance_extend {count : ℕ} (hcount : count ≤ cursor.ahead.length) :
    (cursor.extend tail).advance count = (cursor.advance count).extend tail := by
  simp only [Cursor.advance, Cursor.extend, List.take_append_of_le_length hcount,
    List.drop_append_of_le_length hcount]

/-- An assertion that does not see what follows. -/
theorem run_assertion_extend (holds : List α → Bool) (h : holds (cursor.ahead ++ tail) = holds cursor.ahead) :
    (if holds (cursor.ahead ++ tail) then [cursor.extend tail] else []) =
      (if holds cursor.ahead then [cursor] else []).map (·.extend tail) := by
  rw [h]
  split_ifs
  · rfl
  · rfl

/-- Text that starts with a character of another kind changes no match before it. -/
theorem run_extend (hwithin : pattern.Within kind) (htail : tail.head?.any kind = false)
    (cursor : Cursor α γ) :
    pattern.run (cursor.extend tail) = (pattern.run cursor).map (·.extend tail) := by
  induction pattern generalizing cursor with
  | empty => rfl
  | one accepts =>
    have hhead := any_head?_append hwithin htail cursor.ahead
    rw [run, run]
    change (if (cursor.ahead ++ tail).head?.any accepts then _ else _) = _
    rw [hhead]
    split_ifs with hany
    · have hlength : 1 ≤ cursor.ahead.length := by
        cases hahead : cursor.ahead with
        | nil =>
          rw [hahead] at hany
          cases hany
        | cons c rest => exact Nat.succ_le_succ (Nat.zero_le _)
      rw [cursor_advance_extend hlength, List.map_singleton]
    · rfl
  | many accepts low high =>
    have hahead : (cursor.extend tail).ahead.takeWhile accepts = cursor.ahead.takeWhile accepts :=
      takeWhile_append_of_kind hwithin htail cursor.ahead
    simp only [run, hahead, List.map_map]
    refine List.map_congr_left fun count hcount ↦ cursor_advance_extend ?_
    rw [List.mem_reverse, List.mem_range'_1] at hcount
    have hmost : high.elim (cursor.ahead.takeWhile accepts).length
        (min (cursor.ahead.takeWhile accepts).length) ≤ (cursor.ahead.takeWhile accepts).length := by
      cases high with
      | none => exact le_rfl
      | some most => exact Nat.min_le_left ..
    have hlength := (cursor.ahead.takeWhile_prefix accepts).length_le
    omega
  | opt body ih => rw [run, run, ih hwithin, List.map_append, List.map_singleton]
  | alt first second ihFirst ihSecond =>
    rw [run, run, ihFirst hwithin.1, ihSecond hwithin.2, List.map_append]
  | seq first second ihFirst ihSecond =>
    rw [run, run, ihFirst hwithin.1, List.flatMap_map, List.map_flatMap]
    exact List.flatMap_congr fun later _ ↦ ihSecond hwithin.2 later
  | group name body ih =>
    rw [run, run, ih hwithin, List.map_map, List.map_map]
    refine List.map_congr_left fun later _ ↦ ?_
    simp only [Function.comp_apply, Cursor.extend, Cursor.since, List.length_append, Nat.add_sub_add_right,
      List.take_append_of_le_length (Nat.sub_le ..)]
  | notBehind rejects => exact run_assertion_extend (fun _ ↦ !cursor.previous.any rejects) rfl
  | notAhead rejects =>
    have hhead := any_head?_append hwithin htail cursor.ahead
    exact run_assertion_extend (fun ahead ↦ !ahead.head?.any rejects) (by simp only [hhead])
  | boundary isWord =>
    have hhead := any_head?_append hwithin htail cursor.ahead
    exact run_assertion_extend (fun ahead ↦ cursor.previous.any isWord != ahead.head?.any isWord)
      (by simp only [hhead])

/-! ### All matches -/

variable {text : List α} {found : Found α γ} {skip : ℕ}

/-- A match of the pattern in a text after a character. -/
def MatchIn (pattern : Pattern α γ) (previous : Option α) (text : List α) (found : Found α γ) : Prop :=
  ∃ before taken, text = before ++ found.ahead ∧ found.ahead ≠ [] ∧ found.ahead = taken ++ found.rest ∧
    pattern.Reads (before.getLast?.or previous) taken found.rest found.groups

theorem MatchIn.cons {c : α} (h : pattern.MatchIn (some c) text found) :
    pattern.MatchIn previous (c :: text) found := by
  obtain ⟨before, taken, rfl, hne, hahead, hreads⟩ := h
  refine ⟨c :: before, taken, rfl, hne, hahead, ?_⟩
  rwa [List.getLast?_cons, Option.some_or, ← Option.or_some]

theorem matchIn_of_run {c : α} (h : later ∈ pattern.run ⟨previous, c :: text, []⟩) :
    pattern.MatchIn previous (c :: text) ⟨c :: text, later.ahead, later.groups⟩ := by
  obtain ⟨taken, rest, groups, hahead, hreads, rfl⟩ := (mem_run_iff pattern).mp h
  refine ⟨[], taken, rfl, List.cons_ne_nil _ _, hahead, ?_⟩
  simpa using hreads

theorem matchIn_of_mem_findAll (h : found ∈ pattern.findAll skip previous text) :
    pattern.MatchIn previous text found := by
  induction text generalizing skip previous with
  | nil =>
    rw [findAll] at h
    cases h
  | cons c text ih =>
    cases skip with
    | succ skip => exact (ih h).cons
    | zero =>
      rw [findAll] at h
      split at h
      · next later hlater =>
        rcases List.mem_cons.mp h with rfl | h
        · exact matchIn_of_run (List.mem_of_mem_head? hlater)
        · exact (ih h).cons
      · exact (ih h).cons

/-- The search from a place on after the characters of the last match. -/
theorem findAll_length (pattern : Pattern α γ) (previous : Option α) (text tail : List α) :
    pattern.findAll text.length previous (text ++ tail) = pattern.findAll 0 (text.getLast?.or previous) tail := by
  induction text generalizing previous with
  | nil => rfl
  | cons c text ih =>
    rw [List.length_cons, List.cons_append, findAll, ih, List.getLast?_cons, Option.some_or, ← Option.or_some]

theorem findAll_cons_of_none {c : α} (h : pattern.run ⟨previous, c :: text, []⟩ = []) :
    pattern.findAll 0 previous (c :: text) = pattern.findAll 0 (some c) text := by
  rw [findAll, h]
  rfl

/-- No match starts in a text. -/
theorem findAll_append_of_none (previous : Option α)
    (h : ∀ found, pattern.MatchIn previous (text ++ tail) found → found.ahead.length ≤ tail.length) :
    pattern.findAll 0 previous (text ++ tail) = pattern.findAll 0 (text.getLast?.or previous) tail := by
  induction text generalizing previous with
  | nil => rfl
  | cons c text ih =>
    have hrun : pattern.run ⟨previous, c :: (text ++ tail), []⟩ = [] := by
      refine List.eq_nil_iff_forall_not_mem.mpr fun later hlater ↦ ?_
      have hlength : (c :: (text ++ tail)).length ≤ tail.length := h _ (matchIn_of_run hlater)
      rw [List.length_cons, List.length_append] at hlength
      omega
    rw [List.cons_append, findAll_cons_of_none hrun, ih (some c) fun found hfound ↦ h found hfound.cons,
      List.getLast?_cons, Option.some_or, ← Option.or_some]

theorem length_le_of_run {c : α} (h : later ∈ pattern.run ⟨previous, c :: text, groups⟩) :
    later.ahead.length ≤ text.length + 1 := by
  obtain ⟨taken, rest, _, hahead, -, rfl⟩ := (mem_run_iff pattern).mp h
  have hlength := congrArg List.length hahead
  rw [List.length_cons, List.length_append] at hlength
  exact hlength ▸ Nat.le_add_left _ _

/-- Text that starts with a character of another kind is searched on its own. -/
theorem findAll_append (hwithin : pattern.Within kind) (htail : tail.head?.any kind = false)
    (previous : Option α) (hskip : skip ≤ text.length) :
    pattern.findAll skip previous (text ++ tail) =
      (pattern.findAll skip previous text).map (·.extend tail) ++
        pattern.findAll 0 (text.getLast?.or previous) tail := by
  induction text generalizing skip previous with
  | nil =>
    obtain rfl := Nat.le_zero.mp hskip
    rfl
  | cons c text ih =>
    have hlast : (c :: text).getLast?.or previous = text.getLast?.or (some c) := by
      rw [List.getLast?_cons, Option.some_or, ← Option.or_some]
    rw [hlast]
    cases skip with
    | succ skip => exact ih (some c) (Nat.le_of_succ_le_succ hskip)
    | zero =>
      have hrun := run_extend hwithin htail ⟨previous, c :: text, []⟩
      change pattern.run ⟨previous, c :: (text ++ tail), []⟩ = _ at hrun
      rw [List.cons_append, findAll, findAll, hrun, List.head?_map]
      cases hfirst : (pattern.run ⟨previous, c :: text, []⟩).head? with
      | none => exact ih (some c) (Nat.zero_le _)
      | some later =>
        have hlength := length_le_of_run (List.mem_of_mem_head? hfirst)
        have hskipped : (text ++ tail).length - (later.ahead ++ tail).length =
            text.length - later.ahead.length := by
          rw [List.length_append, List.length_append, Nat.add_sub_add_right]
        simp only [Option.map_some, Cursor.extend, hskipped]
        rw [ih (some c) (Nat.sub_le ..)]
        rfl

/-! ### Replacing matches -/

/-- A text without a match stays as it is. -/
theorem substitute_of_no_match {replacement : Found α γ → List α}
    (h : ∀ found, ¬pattern.MatchIn previous text found) :
    pattern.substitute replacement 0 previous text = text := by
  induction text generalizing previous with
  | nil => rfl
  | cons c text ih =>
    have hrun : pattern.run ⟨previous, c :: text, []⟩ = [] := by
      refine List.eq_nil_iff_forall_not_mem.mpr ?_
      intro later hlater
      exact h _ (matchIn_of_run hlater)
    rw [substitute, hrun, List.head?_nil]
    exact congrArg (c :: ·) (ih fun found hfound ↦ h found hfound.cons)

theorem substitute_length (replacement : Found α γ → List α) (previous : Option α) (text : List α) :
    pattern.substitute replacement text.length previous text = [] := by
  induction text generalizing previous with
  | nil => rfl
  | cons c text ih =>
    rw [List.length_cons, substitute]
    exact ih (some c)

/-- A match of the whole text is replaced by its replacement. -/
theorem substitute_of_whole {replacement : Found α γ → List α} {c : α} {last : Option α}
    (h : (pattern.run ⟨previous, c :: text, []⟩).head? = some ⟨last, [], groups⟩) :
    pattern.substitute replacement 0 previous (c :: text) = replacement ⟨c :: text, [], groups⟩ := by
  rw [substitute, h]
  simp only [List.length_nil, Nat.sub_zero, substitute_length, List.append_nil]

end Pattern

end VoiceHarness.Library
