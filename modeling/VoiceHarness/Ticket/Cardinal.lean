import VoiceHarness.Ticket.SpokenNumber
import Mathlib.Data.List.Chain

/-!
# English cardinals

The standard renderings of a number and the words that the loop takes. Every standard rendering is read back
as its number; what is read is a standard rendering unless the words have a zero or a teen where none belongs.
-/

set_option autoImplicit false
set_option relaxedAutoImplicit false

namespace VoiceHarness

/-! ### Renderings -/

namespace NumberWord

/-- The words for tens. -/
def tensValues : List ℕ := [20, 30, 40, 50, 60, 70, 80, 90]

/-- A conjunction where one may stand; the loop also takes an odd word for it. -/
def Joins (standard : Bool) (words : List NumberWord) : Prop :=
  words = [] ∨ words = [and] ∨ (standard = false ∧ words = [odd])

/-- What renders a number below a hundred. The loop also takes a zero, and a teen after a word for tens. -/
inductive Units (standard : Bool) : ℕ → List NumberWord → Prop
  | small {n : ℕ} (h : if standard then 1 ≤ n ∧ n ≤ 19 else n ≤ 19) : Units standard n [small n]
  | tens {t : ℕ} (ht : t ∈ tensValues) : Units standard t [tens t]
  | both {t n : ℕ} (ht : t ∈ tensValues) (h : if standard then 1 ≤ n ∧ n ≤ 9 else n ≤ 19) :
    Units standard (t + n) [tens t, small n]

/-- What renders a number below a thousand. -/
inductive Hundreds (standard : Bool) : ℕ → List NumberWord → Prop
  | below {n : ℕ} {words : List NumberWord} (h : Units standard n words) : Hundreds standard n words
  | exact {n : ℕ} (h : 1 ≤ n ∧ n ≤ 9) : Hundreds standard (n * 100) [small n, hundred]
  | more {n m : ℕ} {joint words : List NumberWord} (h : 1 ≤ n ∧ n ≤ 9) (hjoint : Joins standard joint)
    (hwords : Units standard m words) :
    Hundreds standard (n * 100 + m) ([small n, hundred] ++ joint ++ words)

/-- What renders a number below a million. -/
inductive Cardinal (standard : Bool) : ℕ → List NumberWord → Prop
  | zero : Cardinal standard 0 [small 0]
  | below {n : ℕ} {words : List NumberWord} (h : Hundreds standard n words) : Cardinal standard n words
  | exact {n : ℕ} {words : List NumberWord} (h : Hundreds standard n words) (hn : 1 ≤ n ∧ n ≤ 999) :
    Cardinal standard (n * 1000) (words ++ [thousand])
  | more {n m : ℕ} {first joint second : List NumberWord} (h : Hundreds standard n first)
    (hn : 1 ≤ n ∧ n ≤ 999) (hjoint : Joins standard joint) (hsecond : Hundreds standard m second) :
    Cardinal standard (n * 1000 + m) (first ++ [thousand] ++ joint ++ second)

variable {standard : Bool} {n : ℕ} {words : List NumberWord}

theorem Joins.loose (h : Joins standard words) : Joins false words := by
  rcases h with h | h | ⟨-, h⟩
  · exact .inl h
  · exact .inr (.inl h)
  · exact .inr (.inr ⟨rfl, h⟩)

theorem Units.loose (h : Units standard n words) : Units false n words := by
  cases h with
  | small h =>
    refine .small ?_
    cases standard <;> simp at h ⊢ <;> omega
  | tens ht => exact .tens ht
  | both ht h =>
    refine .both ht ?_
    cases standard <;> simp at h ⊢ <;> omega

theorem Hundreds.loose (h : Hundreds standard n words) : Hundreds false n words := by
  cases h with
  | below h => exact .below h.loose
  | exact h => exact .exact h
  | more h hjoint hwords => exact .more h hjoint.loose hwords.loose

/-- The loop takes every standard rendering. -/
theorem Cardinal.loose (h : Cardinal standard n words) : Cardinal false n words := by
  cases h with
  | zero => exact .zero
  | below h => exact .below h.loose
  | exact h hn => exact .exact h.loose hn
  | more h hn hjoint hsecond => exact .more h.loose hn hjoint.loose hsecond.loose

/-! ### What sets the standard apart -/

/-- The second word may stand after the first one: no zero or teen after a word for tens, no zero after a
hundred, a thousand or a conjunction. -/
def Follows : NumberWord → NumberWord → Prop
  | tens _, small n => 1 ≤ n ∧ n ≤ 9
  | hundred, small n | thousand, small n | and, small n => 1 ≤ n
  | _, _ => True

/-- Every word may stand after the one before it, and none is in an odd spelling. -/
structure Plain (words : List NumberWord) : Prop where
  chain : words.IsChain Follows
  spelling : odd ∉ words

theorem Plain.right_of_append {more : List NumberWord} (h : Plain (words ++ more)) : Plain more :=
  ⟨h.chain.right_of_append, fun hmem ↦ h.spelling (List.mem_append_right _ hmem)⟩

theorem Plain.left_of_append {more : List NumberWord} (h : Plain (words ++ more)) : Plain words :=
  ⟨h.chain.left_of_append, fun hmem ↦ h.spelling (List.mem_append_left _ hmem)⟩

theorem Plain.append {more : List NumberWord} (h : Plain words) (hmore : Plain more)
    (hjoin : ∀ last ∈ words.getLast?, ∀ head ∈ more.head?, Follows last head) : Plain (words ++ more) := by
  refine ⟨List.isChain_append.mpr ⟨h.chain, hmore.chain, hjoin⟩, fun hmem ↦ ?_⟩
  rcases List.mem_append.mp hmem with hmem | hmem
  · exact h.spelling hmem
  · exact hmore.spelling hmem

theorem Joins.of_plain (h : Joins false words) (hplain : Plain words) : Joins true words := by
  rcases h with h | h | ⟨-, rfl⟩
  · exact .inl h
  · exact .inr (.inl h)
  · exact absurd List.mem_cons_self hplain.spelling

/-- No zero stands after a hundred or a thousand. -/
theorem Plain.not_zero {last : NumberWord} {joint : List NumberWord} (hlast : last = hundred ∨ last = thousand)
    (hjoint : Joins false joint) : ¬ Plain (last :: (joint ++ [small 0])) := by
  intro hplain
  have hchain := hplain.chain
  have hspelling := hplain.spelling
  rcases hjoint with rfl | rfl | ⟨-, rfl⟩ <;> rcases hlast with rfl | rfl <;>
    simp [Follows] at hchain hspelling

theorem Units.eq_zero (h : Units false 0 words) : words = [NumberWord.small 0] := by
  generalize hzero : 0 = n at h
  cases h with
  | small h => rfl
  | tens ht =>
    subst hzero
    simp [tensValues] at ht
  | @both t m ht h =>
    have ht0 : t = 0 := by omega
    simp [tensValues, ht0] at ht

theorem Units.of_plain (h : Units false n words) (hn : n ≠ 0) (hplain : Plain words) :
    Units true n words := by
  cases h with
  | small h =>
    refine .small ?_
    simp only [Bool.false_eq_true, if_false] at h
    simp only [if_true]
    omega
  | tens ht => exact .tens ht
  | @both t m ht h =>
    have hchain := hplain.chain
    simp only [List.isChain_cons_cons, List.IsChain.singleton, and_true] at hchain
    exact .both ht hchain

theorem Hundreds.eq_zero (h : Hundreds false 0 words) : words = [small 0] := by
  generalize hzero : 0 = n at h
  cases h with
  | below h =>
    subst hzero
    exact Units.eq_zero h
  | exact h => omega
  | more h hjoint hwords => omega

theorem Hundreds.of_plain (h : Hundreds false n words) (hn : n ≠ 0) (hplain : Plain words) :
    Hundreds true n words := by
  cases h with
  | below h => exact .below (Units.of_plain h hn hplain)
  | exact h => exact .exact h
  | @more d m joint words h hjoint hwords =>
    refine .more h (Joins.of_plain hjoint hplain.left_of_append.right_of_append) ?_
    refine Units.of_plain hwords ?_ hplain.right_of_append
    rintro rfl
    rw [Units.eq_zero hwords] at hplain
    have hright : Plain ([small d] ++ hundred :: (joint ++ [small 0])) := hplain
    exact Plain.not_zero (.inl rfl) hjoint hright.right_of_append

/-- Plain words that the loop takes are a standard rendering. -/
theorem Cardinal.of_plain (h : Cardinal false n words) (hplain : Plain words) : Cardinal true n words := by
  cases h with
  | zero => exact .zero
  | below h =>
    by_cases hn : n = 0
    · subst hn
      rw [Hundreds.eq_zero h]
      exact .zero
    · exact .below (Hundreds.of_plain h hn hplain)
  | exact h hn => exact .exact (Hundreds.of_plain h (by omega) hplain.left_of_append) hn
  | @more d m first joint second h hn hjoint hsecond =>
    refine .more (Hundreds.of_plain h (by omega) hplain.left_of_append.left_of_append.left_of_append) hn
      (Joins.of_plain hjoint hplain.left_of_append.right_of_append) ?_
    refine Hundreds.of_plain hsecond ?_ hplain.right_of_append
    rintro rfl
    rw [Hundreds.eq_zero hsecond, List.append_assoc, List.append_assoc] at hplain
    exact Plain.not_zero (.inr rfl) hjoint hplain.right_of_append

/-- A rendering that may stand after any word but one for tens. -/
def Leads (words : List NumberWord) : Prop :=
  Plain words ∧ ∀ last : NumberWord, (∀ t, last ≠ tens t) → ∀ head ∈ words.head?, Follows last head

theorem leads_small {m : ℕ} (hm : 1 ≤ m) : Leads [small m] := by
  refine ⟨⟨.singleton _, by simp⟩, fun last hlast head hhead ↦ ?_⟩
  cases hhead
  cases last with
  | tens t => exact absurd rfl (hlast t)
  | hundred | thousand | and => exact hm
  | _ => trivial

theorem leads_tens (t : ℕ) : Leads [tens t] := by
  refine ⟨⟨.singleton _, by simp⟩, fun last _ head hhead ↦ ?_⟩
  cases hhead
  cases last <;> trivial

theorem Leads.append {more : List NumberWord} (h : Leads words) (hmore : Plain more) (hne : words ≠ [])
    (hjoin : ∀ last ∈ words.getLast?, ∀ head ∈ more.head?, Follows last head) : Leads (words ++ more) := by
  refine ⟨h.1.append hmore hjoin, fun last hlast head hhead ↦ h.2 last hlast head ?_⟩
  rwa [List.head?_append_of_ne_nil _ hne] at hhead

/-- A hundred or a thousand, and what is joined to it. -/
theorem plain_joint {last : NumberWord} {joint : List NumberWord} (hlast : last = hundred ∨ last = thousand)
    (hjoint : Joins true joint) (h : Leads words) : Plain (last :: (joint ++ words)) := by
  have hnot : ∀ t, last ≠ tens t := by rcases hlast with rfl | rfl <;> simp
  have hodd : odd ∉ [last] := by rcases hlast with rfl | rfl <;> simp
  rcases hjoint with rfl | rfl | ⟨hfalse, -⟩
  · exact Plain.append ⟨.singleton last, hodd⟩ h.1 fun held hheld ↦ h.2 held (by cases hheld; exact hnot)
  · have hand : Plain ([and] ++ words) :=
      Plain.append ⟨.singleton and, by simp⟩ h.1 fun held hheld ↦ h.2 held (by cases hheld; simp)
    refine Plain.append ⟨.singleton last, hodd⟩ hand fun held hheld head hhead ↦ ?_
    cases hheld
    cases hhead
    rcases hlast with rfl | rfl <;> trivial
  · cases hfalse

theorem Units.leads (h : Units true n words) : Leads words := by
  cases h with
  | small h => exact leads_small h.1
  | tens ht => exact leads_tens n
  | @both t m ht h =>
    refine (leads_tens t).append (leads_small h.1).1 (List.cons_ne_nil _ _) fun last hlast head hhead ↦ ?_
    cases hlast
    cases hhead
    exact h

theorem Hundreds.leads (h : Hundreds true n words) : Leads words := by
  cases h with
  | below h => exact Units.leads h
  | @exact d h =>
    refine (leads_small h.1).append ⟨.singleton hundred, by simp⟩ (List.cons_ne_nil _ _) ?_
    rintro _ ⟨⟩ _ ⟨⟩
    trivial
  | @more d m joint words h hjoint hwords =>
    have hjoined : Plain (hundred :: (joint ++ words)) := plain_joint (.inl rfl) hjoint (Units.leads hwords)
    rw [List.append_assoc]
    refine (leads_small h.1).append hjoined (List.cons_ne_nil _ _) ?_
    rintro _ ⟨⟩ _ ⟨⟩
    trivial

theorem follows_thousand (last : NumberWord) : Follows last thousand := by
  cases last <;> trivial

/-- Every standard rendering is plain. -/
theorem Cardinal.plain (h : Cardinal true n words) : Plain words := by
  cases h with
  | zero => exact ⟨.singleton _, by simp⟩
  | below h => exact (Hundreds.leads h).1
  | exact h hn =>
    refine (Hundreds.leads h).1.append ⟨.singleton thousand, by simp⟩ fun last _ head hhead ↦ ?_
    cases hhead
    exact follows_thousand last
  | @more d m first joint second h hn hjoint hsecond =>
    have hjoined : Plain (thousand :: (joint ++ second)) :=
      plain_joint (.inr rfl) hjoint (Hundreds.leads hsecond)
    rw [List.append_assoc, List.append_assoc]
    refine (Hundreds.leads h).1.append hjoined fun last _ head hhead ↦ ?_
    cases hhead
    exact follows_thousand last

end NumberWord

/-! ### Runs of the loop -/

namespace SpokenNumber

open NumberWord

variable {state next final : SpokenNumber} {word : NumberWord} {words more : List NumberWord} {n : ℕ}

/-- The loop takes the words one after another. -/
inductive Runs : SpokenNumber → List NumberWord → SpokenNumber → Prop
  | nil {state : SpokenNumber} : Runs state [] state
  | cons {state next final : SpokenNumber} {word : NumberWord} {words : List NumberWord}
    (hstep : state.step false word words.head? = .advance next) (hrest : Runs next words final) :
    Runs state (word :: words) final

/-- Only a conjunction looks at the next word. -/
theorem step_next (hand : word ≠ .and) (hodd : word ≠ .odd) (first second : Option NumberWord) :
    state.step false word first = state.step false word second := by
  cases word with
  | and => exact absurd rfl hand
  | odd => exact absurd rfl hodd
  | _ => rfl

theorem Runs.append (h : Runs state words next) (hmore : Runs next more final)
    (hlast : ∀ word ∈ words.getLast?, word ≠ .and ∧ word ≠ .odd) : Runs state (words ++ more) final := by
  induction h with
  | nil => exact hmore
  | @cons state middle last word words hstep hrest ih =>
    cases words with
    | nil =>
      obtain ⟨hand, hodd⟩ := hlast word rfl
      exact .cons ((step_next hand hodd _ _).trans hstep) (ih hmore fun _ hnone ↦ nomatch hnone)
    | cons other words =>
      refine .cons hstep (ih hmore fun held hheld ↦ hlast held ?_)
      rwa [List.getLast?_cons_cons]

/-- The word for tens or the small number may start here. -/
def IsOpen (state : SpokenNumber) : Prop :=
  state.last ∈ [LastWord.start, .hundred, .scale, .conjunction]

theorem step_small (h : state.IsOpen) (value : ℕ) (after : Option NumberWord) :
    state.step false (.small value) after =
      .advance { state with group := state.group + value, last := .small } := by
  unfold IsOpen at h
  simp only [List.mem_cons, List.not_mem_nil, or_false] at h
  rcases h with h | h | h | h <;> simp [step, h]

theorem step_tens (h : state.IsOpen) (value : ℕ) (after : Option NumberWord) :
    state.step false (.tens value) after =
      .advance { state with group := state.group + value, last := .tens } := by
  unfold IsOpen at h
  simp only [List.mem_cons, List.not_mem_nil, or_false] at h
  rcases h with h | h | h | h <;> simp [step, h]

theorem step_small_of_tens (h : state.last = .tens) (value : ℕ) (after : Option NumberWord) :
    state.step false (.small value) after =
      .advance { state with group := state.group + value, last := .small } := by
  simp [step, h]

theorem step_hundred (h : state.last = .small) (hgroup : 1 ≤ state.group ∧ state.group ≤ 9)
    (after : Option NumberWord) : state.step false .hundred after =
      .advance { state with group := state.group * 100, last := .hundred } := by
  simp [step, h, hgroup]

theorem step_thousand (hgroup : 1 ≤ state.group ∧ state.group ≤ 999)
    (hunused : state.usedThousand = false) (after : Option NumberWord) :
    state.step false .thousand after = .advance {
      total := state.total + state.group * 1000
      group := 0
      last := .scale
      usedThousand := true } := by
  simp [step, hgroup, hunused]

/-- A conjunction between a hundred or a thousand and a number. -/
theorem step_joint (hword : word = .and ∨ word = .odd)
    (hlast : state.last = .hundred ∨ state.last = .scale) (hnext : word.isCount = false)
    {after : NumberWord} (hafter : after.isCount = true) :
    state.step false word (some after) = .advance { state with last := .conjunction } := by
  rcases hword with rfl | rfl <;> rcases hlast with hlast | hlast <;> simp [step, hlast, hafter]

theorem Units.exists_head {standard : Bool} (h : Units standard n words) :
    ∃ word rest, words = word :: rest ∧ word.isCount = true := by
  cases h with
  | small => exact ⟨_, _, rfl, rfl⟩
  | tens => exact ⟨_, _, rfl, rfl⟩
  | both => exact ⟨_, _, rfl, rfl⟩

theorem Hundreds.exists_head {standard : Bool} (h : Hundreds standard n words) :
    ∃ word rest, words = word :: rest ∧ word.isCount = true := by
  cases h with
  | below h => exact Units.exists_head h
  | exact => exact ⟨_, _, rfl, rfl⟩
  | more => exact ⟨_, _, rfl, rfl⟩

/-- A standard rendering starts with a number that is not zero. -/
theorem Cardinal.exists_head (h : Cardinal true n words) (hn : n ≠ 0) :
    ∃ word rest, words = word :: rest ∧ word.isCount = true ∧ word ≠ .small 0 := by
  have hgroup : ∀ {m : ℕ} {first : List NumberWord} (more : List NumberWord), Hundreds true m first →
      ∃ word rest, first ++ more = word :: rest ∧ word.isCount = true ∧ word ≠ .small 0 := by
    intro m first more hfirst
    obtain ⟨word, rest, rfl, hcount⟩ := Hundreds.exists_head hfirst
    refine ⟨word, rest ++ more, rfl, hcount, ?_⟩
    rintro rfl
    exact absurd ((Hundreds.leads hfirst).2 .hundred (by simp) _ rfl) (by decide : ¬ 1 ≤ 0)
  cases h with
  | zero => exact absurd rfl hn
  | below h =>
    have hhead := hgroup [] h
    rwa [List.append_nil] at hhead
  | exact h => exact hgroup _ h
  | more h =>
    rw [List.append_assoc, List.append_assoc]
    exact hgroup _ h

/-- The last word of a rendering is no conjunction. -/
theorem Units.getLast {standard : Bool} (h : Units standard n words) :
    ∀ word ∈ words.getLast?, word ≠ .and ∧ word ≠ .odd := by
  cases h <;> simp

theorem Hundreds.getLast {standard : Bool} (h : Hundreds standard n words) :
    ∀ word ∈ words.getLast?, word ≠ .and ∧ word ≠ .odd := by
  cases h with
  | below h => exact Units.getLast h
  | exact => simp
  | more h hjoint hwords =>
    obtain ⟨word, rest, rfl, -⟩ := Units.exists_head hwords
    intro last hlast
    rw [List.getLast?_append, List.getLast?_cons, Option.some_or, ← List.getLast?_cons] at hlast
    exact Units.getLast hwords last hlast

/-- The class that the last word leaves. -/
def lastOf (words : List NumberWord) : LastWord :=
  match words.getLast? with
  | none => .start
  | some (.small _) => .small
  | some (.tens _) => .tens
  | some .hundred => .hundred
  | some .thousand => .scale
  | some .and | some .odd => .conjunction

theorem lastOf_append {first rest : List NumberWord} (h : rest ≠ []) :
    lastOf (first ++ rest) = lastOf rest := by
  obtain ⟨word, hword⟩ := Option.ne_none_iff_exists'.mp (mt List.getLast?_eq_none_iff.mp h)
  unfold lastOf
  rw [List.getLast?_append, hword, Option.some_or]

/-- A number below a hundred is added to the group. -/
theorem runs_units (hopen : state.IsOpen) (h : Units false n words) :
    Runs state words { state with group := state.group + n, last := lastOf words } := by
  cases h with
  | small h => exact .cons (step_small hopen n _) .nil
  | tens ht => exact .cons (step_tens hopen n _) .nil
  | @both t d ht h =>
    refine .cons (step_tens hopen t _) ?_
    have hsmall := @step_small_of_tens { state with group := state.group + t, last := .tens } rfl d none
    simp only [Nat.add_assoc] at hsmall
    exact .cons hsmall .nil

/-- What may stand between a hundred or a thousand and a number leaves the loop open. -/
theorem runs_joint {joint : List NumberWord} (hjoint : Joins false joint)
    (hlast : state.last = .hundred ∨ state.last = .scale) (hword : word.isCount = true)
    (hrest : ∀ last ∈ [LastWord.hundred, .scale, .conjunction],
      Runs { state with last } (word :: words) final) : Runs state (joint ++ word :: words) final := by
  have hsame : ∀ last, state.last = last → state = { state with last } := by
    rintro last rfl
    rfl
  rcases hjoint with rfl | rfl | ⟨-, rfl⟩
  · rcases hlast with hlast | hlast
    · rw [hsame _ hlast]
      exact hrest .hundred (by simp)
    · rw [hsame _ hlast]
      exact hrest .scale (by simp)
  · exact .cons (step_joint (.inl rfl) hlast rfl hword) (hrest .conjunction (by simp))
  · exact .cons (step_joint (.inr rfl) hlast rfl hword) (hrest .conjunction (by simp))

/-- A number below a thousand is the group. -/
theorem runs_hundreds (hopen : state.IsOpen) (hgroup : state.group = 0) (h : Hundreds false n words) :
    Runs state words { state with group := n, last := lastOf words } := by
  have hhundred : ∀ {m : ℕ}, 1 ≤ m ∧ m ≤ 9 → Runs state [small m, hundred]
      { state with group := m * 100, last := .hundred } := by
    intro m hm
    refine .cons (step_small hopen m _) ?_
    have hstep := @step_hundred { state with group := state.group + m, last := .small } rfl
      (by simp only [hgroup]; omega) none
    simp only [hgroup, Nat.zero_add] at hstep ⊢
    exact .cons hstep .nil
  cases h with
  | below h =>
    have hruns := runs_units hopen h
    rwa [hgroup, Nat.zero_add] at hruns
  | exact h => exact hhundred h
  | @more m d joint words h hjoint hwords =>
    obtain ⟨word, rest, rfl, hcount⟩ := Units.exists_head hwords
    rw [lastOf_append (List.cons_ne_nil _ _), List.append_assoc]
    refine (hhundred h).append ?_ (by simp)
    refine runs_joint hjoint (.inl rfl) hcount fun last hlast ↦ ?_
    refine runs_units ?_ hwords
    exact List.mem_cons_of_mem _ hlast

/-- The loop reads a rendering as its number. -/
theorem runs_cardinal (h : Cardinal false n words) :
    ∃ final, Runs {} words final ∧ final.value = n ∧ final.last = lastOf words := by
  have hopen : IsOpen {} := by
    unfold IsOpen
    simp
  cases h with
  | zero => exact ⟨_, runs_units hopen (.small (by simp)), rfl, rfl⟩
  | below h => exact ⟨_, runs_hundreds hopen rfl h, Nat.zero_add _, rfl⟩
  | @exact m words h hn =>
    have hgroup := runs_hundreds hopen rfl h
    refine ⟨⟨m * 1000, 0, .scale, true⟩, hgroup.append (.cons ?_ .nil) (Hundreds.getLast h),
      Nat.add_zero _, ?_⟩
    · rw [step_thousand hn rfl, Nat.zero_add]
    · rw [lastOf_append (List.cons_ne_nil _ _)]
      rfl
  | @more m d first joint second h hn hjoint hsecond =>
    have hgroup := runs_hundreds hopen rfl h
    obtain ⟨word, rest, rfl, hcount⟩ := Hundreds.exists_head hsecond
    refine ⟨⟨m * 1000, d, lastOf (word :: rest), true⟩, ?_, rfl, ?_⟩
    · have hscale : ∀ after, step false { group := m, last := lastOf first } .thousand after =
          .advance ⟨m * 1000, 0, .scale, true⟩ := by
        intro after
        rw [step_thousand hn rfl, Nat.zero_add]
      rw [List.append_assoc, List.append_assoc]
      refine hgroup.append (.cons (hscale _) ?_) (Hundreds.getLast h)
      refine runs_joint hjoint (.inr rfl) hcount fun last hlast ↦ ?_
      exact runs_hundreds (List.mem_cons_of_mem _ hlast) rfl hsecond
    · exact (lastOf_append (List.cons_ne_nil _ _)).symm

/-! ### What the loop takes -/

/-- A word with a value of the tables. -/
def Known (word : NumberWord) : Prop :=
  (∀ n, word = .small n → n ≤ 19) ∧ ∀ t, word = .tens t → t ∈ tensValues

theorem Runs.inv (h : Runs state (word :: words) final) :
    ∃ next, state.step false word words.head? = .advance next ∧ Runs next words final := by
  cases h with
  | cons hstep hrest => exact ⟨_, hstep, hrest⟩

/-- After a small number comes a hundred or a thousand. -/
theorem Runs.head_of_small (h : Runs state (word :: words) final) (hlast : state.last = .small) :
    (word = .hundred ∧ 1 ≤ state.group ∧ state.group ≤ 9) ∨ word = .thousand := by
  obtain ⟨next, hstep, -⟩ := h.inv
  cases word with
  | small value => simp [step, hlast] at hstep
  | tens value => simp [step, hlast] at hstep
  | hundred =>
    refine .inl ⟨rfl, ?_⟩
    by_contra hgroup
    simp [step, hlast, hgroup] at hstep
  | thousand => exact .inr rfl
  | and => simp [step, hlast] at hstep
  | odd => simp [step, hlast] at hstep

/-- After a word for tens comes a small number or a thousand. -/
theorem Runs.head_of_tens (h : Runs state (word :: words) final) (hlast : state.last = .tens) :
    (∃ n, word = .small n) ∨ word = .thousand := by
  obtain ⟨next, hstep, -⟩ := h.inv
  cases word with
  | small value => exact .inl ⟨value, rfl⟩
  | thousand => exact .inr rfl
  | _ => simp [step, hlast] at hstep

/-- After a hundred comes a number, a conjunction before a number, or a thousand. -/
theorem Runs.head_of_hundred (h : Runs state (word :: words) final)
    (hlast : state.last = .hundred ∨ state.last = .scale) :
    word.isCount = true ∨ word = .thousand ∨
      ((word = .and ∨ word = .odd) ∧ ∃ other more, words = other :: more ∧ other.isCount = true) := by
  obtain ⟨next, hstep, -⟩ := h.inv
  have hjoint : (word = .and ∨ word = .odd) → ∃ other more, words = other :: more ∧
      other.isCount = true := by
    intro hword
    cases words with
    | nil => rcases hword with rfl | rfl <;> rcases hlast with hlast | hlast <;> simp [step, hlast] at hstep
    | cons other more =>
      refine ⟨other, more, rfl, ?_⟩
      by_contra hcount
      rw [Bool.not_eq_true] at hcount
      rcases hword with rfl | rfl <;> rcases hlast with hlast | hlast <;>
        simp [step, hlast, hcount] at hstep
  cases word with
  | small value => exact .inl rfl
  | tens value => exact .inl rfl
  | hundred => rcases hlast with hlast | hlast <;> simp [step, hlast] at hstep
  | thousand => exact .inr (.inl rfl)
  | and => exact .inr (.inr ⟨.inl rfl, hjoint (.inl rfl)⟩)
  | odd => exact .inr (.inr ⟨.inr rfl, hjoint (.inr rfl)⟩)

/-- The first words are a number below a hundred. -/
theorem Runs.exists_units (h : Runs state (word :: words) final) (hopen : state.IsOpen)
    (hknown : ∀ held ∈ word :: words, Known held) (hcount : word.isCount = true) :
    ∃ n first rest, word :: words = first ++ rest ∧ Units false n first ∧
      Runs { state with group := state.group + n, last := lastOf first } rest final ∧
      ∀ head ∈ rest.head?, head = .thousand ∨ (head = .hundred ∧ lastOf first = .small ∧
        1 ≤ state.group + n ∧ state.group + n ≤ 9) := by
  obtain ⟨next, hstep, hrest⟩ := h.inv
  cases word with
  | small n =>
    rw [step_small hopen] at hstep
    cases hstep
    refine ⟨n, [.small n], words, rfl, .small ((hknown _ List.mem_cons_self).1 n rfl), hrest, ?_⟩
    intro head hhead
    cases words with
    | nil => cases hhead
    | cons other more =>
      cases hhead
      rcases hrest.head_of_small rfl with ⟨hhundred, hgroup⟩ | hthousand
      · exact .inr ⟨hhundred, rfl, hgroup⟩
      · exact .inl hthousand
  | tens t =>
    rw [step_tens hopen] at hstep
    cases hstep
    have ht := (hknown _ List.mem_cons_self).2 t rfl
    cases words with
    | nil => exact ⟨t, [.tens t], [], rfl, .tens ht, hrest, fun _ hnone ↦ nomatch hnone⟩
    | cons other more =>
      rcases hrest.head_of_tens rfl with ⟨d, rfl⟩ | rfl
      · obtain ⟨after, hsmall, hmore⟩ := hrest.inv
        rw [step_small_of_tens rfl] at hsmall
        cases hsmall
        have hd := (hknown (.small d) (by simp)).1 d rfl
        have hadd : state.group + t + d = state.group + (t + d) := Nat.add_assoc ..
        simp only [hadd] at hmore
        refine ⟨t + d, [.tens t, .small d], more, rfl, .both ht hd, hmore, ?_⟩
        intro head hhead
        cases more with
        | nil => cases hhead
        | cons last more =>
          cases hhead
          rcases hmore.head_of_small rfl with ⟨hhundred, hgroup⟩ | hthousand
          · exact .inr ⟨hhundred, rfl, hgroup⟩
          · exact .inl hthousand
      · refine ⟨t, [.tens t], .thousand :: more, rfl, .tens ht, hrest, ?_⟩
        rintro head ⟨⟩
        exact .inl rfl
  | _ => cases hcount

/-- A number below ten that ends with a small number is one word. -/
theorem Units.eq_small (h : Units false n words) (hn : n ≤ 9) : words = [.small n] := by
  cases h with
  | small h => rfl
  | tens ht =>
    simp only [tensValues, List.mem_cons, List.not_mem_nil, or_false] at ht
    omega
  | both ht h =>
    simp only [tensValues, List.mem_cons, List.not_mem_nil, or_false] at ht
    omega

/-- The words up to a thousand are a number below a thousand. -/
theorem Runs.exists_hundreds (h : Runs state (word :: words) final) (hopen : state.IsOpen)
    (hgroup : state.group = 0) (hknown : ∀ held ∈ word :: words, Known held)
    (hcount : word.isCount = true) :
    ∃ n first rest, word :: words = first ++ rest ∧ Hundreds false n first ∧
      Runs { state with group := n, last := lastOf first } rest final ∧
      ∀ head ∈ rest.head?, head = .thousand := by
  obtain ⟨n, first, rest, hsplit, hunits, hruns, hhead⟩ := h.exists_units hopen hknown hcount
  rw [hgroup] at hruns hhead
  simp only [Nat.zero_add] at hruns hhead
  have hbelow : (∀ head ∈ rest.head?, head = .thousand) → ∃ n first rest,
      word :: words = first ++ rest ∧ Hundreds false n first ∧
        Runs { state with group := n, last := lastOf first } rest final ∧
        ∀ head ∈ rest.head?, head = .thousand :=
    fun hthousand ↦ ⟨n, first, rest, hsplit, .below hunits, hruns, hthousand⟩
  cases rest with
  | nil => exact hbelow fun _ hnone ↦ nomatch hnone
  | cons head rest =>
    rcases hhead head rfl with rfl | ⟨rfl, hlast, hn⟩
    · exact hbelow (by simp)
    · obtain rfl := Units.eq_small hunits hn.2
      obtain ⟨next, hstep, hmore⟩ := hruns.inv
      rw [step_hundred rfl hn] at hstep
      cases hstep
      have hexact : (∀ head ∈ rest.head?, head = .thousand) → ∃ n first rest,
          word :: words = first ++ rest ∧ Hundreds false n first ∧
            Runs { state with group := n, last := lastOf first } rest final ∧
            ∀ head ∈ rest.head?, head = .thousand :=
        fun hthousand ↦ ⟨n * 100, [.small n, .hundred], rest, hsplit, .exact hn, hmore, hthousand⟩
      have hcompound : ∀ (joint second : List NumberWord) (other : NumberWord) (last : LastWord),
          rest = joint ++ other :: second → Joins false joint → other.isCount = true →
          last ∈ [LastWord.start, .hundred, .scale, .conjunction] →
          Runs { state with group := n * 100, last } (other :: second) final →
          ∃ n first rest, word :: words = first ++ rest ∧ Hundreds false n first ∧
            Runs { state with group := n, last := lastOf first } rest final ∧
            ∀ head ∈ rest.head?, head = .thousand := by
        intro joint second other last hrest hjoint hother hlast hsecond
        have hmem : ∀ held ∈ other :: second, Known held := by
          intro held hheld
          refine hknown held ?_
          rw [hsplit, hrest]
          simp only [List.mem_append, List.mem_cons] at hheld ⊢
          tauto
        obtain ⟨m, units, after, hunitsSplit, hm, hafter, hafterHead⟩ :=
          hsecond.exists_units hlast hmem hother
        refine ⟨n * 100 + m, [.small n, .hundred] ++ joint ++ units, after, ?_,
          .more hn hjoint hm, ?_, fun held hheld ↦ ?_⟩
        · rw [hsplit, hrest, hunitsSplit]
          simp
        · have hne : units ≠ [] := by
            obtain ⟨_, _, rfl, -⟩ := Units.exists_head hm
            exact List.cons_ne_nil _ _
          rw [lastOf_append hne]
          exact hafter
        · rcases hafterHead held hheld with hthousand | ⟨-, -, hrange⟩
          · exact hthousand
          · simp only at hrange
            omega
      cases rest with
      | nil => exact hexact fun _ hnone ↦ nomatch hnone
      | cons other second =>
        rcases hmore.head_of_hundred (.inl rfl) with hother | rfl | ⟨hjoint, next, more, rfl, hnext⟩
        · exact hcompound [] second other _ (List.nil_append _).symm (.inl rfl) hother (by simp) hmore
        · exact hexact (by simp)
        · obtain ⟨joined, hstep, hjoined⟩ := hmore.inv
          have hnot : other.isCount = false := by rcases hjoint with rfl | rfl <;> rfl
          rw [List.head?_cons, step_joint hjoint (.inl rfl) hnot hnext] at hstep
          cases hstep
          refine hcompound [other] more next _ rfl ?_ hnext (by simp) hjoined
          rcases hjoint with rfl | rfl
          · exact .inr (.inl rfl)
          · exact .inr (.inr ⟨rfl, rfl⟩)

/-- What follows a thousand. -/
theorem Runs.exists_second {total : ℕ} {last : LastWord}
    (h : Runs ⟨total, 0, last, true⟩ (word :: words) final)
    (hlast : last ∈ [LastWord.start, .hundred, .scale, .conjunction])
    (hknown : ∀ held ∈ word :: words, Known held) (hcount : word.isCount = true) :
    ∃ n, Hundreds false n (word :: words) ∧ final = ⟨total, n, lastOf (word :: words), true⟩ := by
  obtain ⟨n, first, rest, hsplit, hn, hruns, hhead⟩ := h.exists_hundreds hlast rfl hknown hcount
  cases rest with
  | nil =>
    rw [List.append_nil] at hsplit
    subst hsplit
    cases hruns
    exact ⟨n, hn, rfl⟩
  | cons head rest =>
    obtain rfl := hhead head rfl
    obtain ⟨next, hstep, -⟩ := hruns.inv
    simp [step] at hstep

/-- The words that the loop takes are a rendering of the value, with its slack. -/
theorem Runs.cardinal (h : Runs {} words final) (hne : words ≠ [])
    (hknown : ∀ held ∈ words, Known held) :
    Cardinal false final.value words ∧ final.last = lastOf words := by
  cases words with
  | nil => exact absurd rfl hne
  | cons word words =>
    have hopen : IsOpen {} := by
      unfold IsOpen
      simp
    have hcount : word.isCount = true := by
      obtain ⟨next, hstep, -⟩ := h.inv
      cases word with
      | small => rfl
      | tens => rfl
      | _ => simp [step] at hstep
    obtain ⟨n, first, rest, hsplit, hn, hruns, hhead⟩ := h.exists_hundreds hopen rfl hknown hcount
    rw [hsplit]
    cases rest with
    | nil =>
      cases hruns
      rw [List.append_nil]
      refine ⟨?_, rfl⟩
      change Cardinal false (0 + n) first
      rw [Nat.zero_add]
      exact .below hn
    | cons head rest =>
      obtain rfl := hhead head rfl
      have hrange : 1 ≤ n ∧ n ≤ 999 := by
        obtain ⟨next, hstep, -⟩ := hruns.inv
        by_contra hrange
        simp [step, hrange] at hstep
      obtain ⟨next, hstep, hmore⟩ := hruns.inv
      rw [step_thousand hrange rfl, Nat.zero_add] at hstep
      cases hstep
      have hmem : ∀ held ∈ rest, Known held := by
        intro held hheld
        refine hknown held ?_
        rw [hsplit]
        simp [hheld]
      cases rest with
      | nil =>
        cases hmore
        rw [lastOf_append (List.cons_ne_nil _ _)]
        refine ⟨?_, rfl⟩
        change Cardinal false (n * 1000 + 0) (first ++ [.thousand])
        rw [Nat.add_zero]
        exact .exact hn hrange
      | cons other second =>
        rcases hmore.head_of_hundred (.inr rfl) with hother | rfl | ⟨hjoint, next, more, rfl, hnext⟩
        · obtain ⟨m, hm, rfl⟩ := hmore.exists_second (by simp) hmem hother
          refine ⟨?_, ?_⟩
          · have hcardinal := Cardinal.more hn hrange (.inl rfl) hm
            rwa [List.append_nil, List.append_assoc] at hcardinal
          · rw [lastOf_append (List.cons_ne_nil _ _)]
            rfl
        · obtain ⟨after, hstep, -⟩ := hmore.inv
          simp [step] at hstep
        · obtain ⟨joined, hstep, hjoined⟩ := hmore.inv
          have hnot : other.isCount = false := by rcases hjoint with rfl | rfl <;> rfl
          rw [List.head?_cons, step_joint hjoint (.inr rfl) hnot hnext] at hstep
          cases hstep
          obtain ⟨m, hm, rfl⟩ := hjoined.exists_second (by simp)
            (fun held hheld ↦ hmem held (List.mem_cons_of_mem _ hheld)) hnext
          have hjoins : Joins false [other] := by
            rcases hjoint with rfl | rfl
            · exact .inr (.inl rfl)
            · exact .inr (.inr ⟨rfl, rfl⟩)
          refine ⟨?_, ?_⟩
          · have hcardinal := Cardinal.more hn hrange hjoins hm
            rwa [List.append_assoc, List.append_assoc] at hcardinal
          · rw [lastOf_append (List.cons_ne_nil _ _)]
            rfl

end SpokenNumber

end VoiceHarness
