import VoiceHarness.Question.Answer

/-!
# Exact answers

What a reply to a multiple-choice question must say for a choice to be accepted: the id or the label of the
choice, or a reference to it. The broker takes a reference out of any sentence, also out of one that negates it.
-/

set_option autoImplicit false
set_option relaxedAutoImplicit false

namespace VoiceHarness

/-! ### Negation -/

/-- The words that negate what comes after them, as they are left of a reply. -/
def negations : List String :=
  ["not", "never", "neither", "nor", "without", "except", "cannot", "dont", "wont", "cant"]

/-- A negation, or a word that ends in one. -/
def isNegation (word : List Char) : Bool :=
  negations.any (·.toList = word) || "n't".toList.isSuffixOf word

section

variable [SpeechLibrary] {question : VoiceQuestion} {answer : String} {trustedAnswer : Option String}
  {provenance : AnswerProvenance} {choice : Choice} {normalized : String}

/-- A negation stands before a reference to a choice. -/
def Negates (normalized : String) : Prop :=
  ∃ before word after, splitWords normalized.toList = before ++ word :: after ∧ isNegation word = true ∧
    choiceOrdinals (String.ofList ([' '].intercalate after)) ≠ []

/-! ### Acceptance -/

/-- The reply is the id or the label of the choice. -/
def NamesChoice (normalized : String) (choice : Choice) : Prop :=
  normalized = normalizeAnswer choice.id ∨ normalized = normalizeAnswer choice.label

instance (normalized : String) (choice : Choice) : Decidable (NamesChoice normalized choice) :=
  inferInstanceAs (Decidable (_ ∨ _))

/-- What was said. -/
def saidAnswer (answer : String) (trustedAnswer : Option String) : String := orElse trustedAnswer answer

/-- What was said, as it is compared. -/
def normalizedAnswer (answer : String) (trustedAnswer : Option String) : String :=
  normalizeAnswer (saidAnswer answer trustedAnswer)

/-- The question with its choices listed in another way. -/
def VoiceQuestion.withChoices (question : VoiceQuestion) (choices : List Choice) : VoiceQuestion :=
  { question with choices }

/-- The reply is resolved to the choice. -/
def Accepts (question : VoiceQuestion) (answer : String) (trustedAnswer : Option String)
    (provenance : AnswerProvenance) (choice : Choice) : Prop :=
  resolveAnswer question answer trustedAnswer provenance =
    { outcome := .accepted
      answer := some choice.id
      trustedAnswer := some (strip (saidAnswer answer trustedAnswer))
      choiceLabel := some choice.label }

/-- The choices that a reply names. -/
def namedChoices (question : VoiceQuestion) (normalized : String) : List Choice :=
  question.choices.filter fun choice ↦ NamesChoice normalized choice

theorem mem_namedChoices : choice ∈ namedChoices question normalized ↔
    choice ∈ question.choices ∧ NamesChoice normalized choice := by
  rw [namedChoices, List.mem_filter, decide_eq_true_eq]

theorem matchedChoices_eq (question : VoiceQuestion) (normalized : String) :
    matchedChoices question normalized =
      match choiceOrdinals normalized with
      | [] => some (namedChoices question normalized)
      | [ordinal] =>
        question.choices[ordinal]?.map fun choice ↦
          if choice ∈ namedChoices question normalized then namedChoices question normalized
          else namedChoices question normalized ++ [choice]
      | _ => none := by
  have hnamed : (question.choices.filter fun choice ↦
      normalized = normalizeAnswer choice.id || normalized = normalizeAnswer choice.label) =
      namedChoices question normalized := by
    unfold namedChoices
    refine List.filter_congr fun choice _ ↦ ?_
    rw [Bool.eq_iff_iff]
    simp only [Bool.or_eq_true, decide_eq_true_eq]
    exact Iff.rfl
  unfold matchedChoices
  exact hnamed ▸ rfl

/-- Exactly one choice is matched: it is the only one named, or the one that is referred to where no other is
named. -/
theorem matchedChoices_eq_singleton_iff :
    matchedChoices question normalized = some [choice] ↔
      (choiceOrdinals normalized = [] ∧ namedChoices question normalized = [choice]) ∨
        ∃ ordinal, choiceOrdinals normalized = [ordinal] ∧ question.choices[ordinal]? = some choice ∧
          (namedChoices question normalized = [] ∨ namedChoices question normalized = [choice]) := by
  rw [matchedChoices_eq]
  rcases hordinals : choiceOrdinals normalized with _ | ⟨ordinal, _ | ⟨other, rest⟩⟩
  · simp
  · simp only [Option.map_eq_some_iff, List.cons.injEq, and_true, exists_eq_left', reduceCtorEq, false_and,
      false_or]
    constructor
    · rintro ⟨found, hfound, hmatched⟩
      split_ifs at hmatched with hmem
      · rw [hmatched, List.mem_singleton] at hmem
        subst hmem
        exact ⟨hfound, .inr hmatched⟩
      · have hnil : namedChoices question normalized = [] := by
          cases hnamed : namedChoices question normalized with
          | nil => rfl
          | cons first others =>
            rw [hnamed] at hmatched
            simp at hmatched
        rw [hnil, List.nil_append, List.singleton_inj] at hmatched
        subst hmatched
        exact ⟨hfound, .inl hnil⟩
    · rintro ⟨hfound, hnamed | hnamed⟩
      · exact ⟨choice, hfound, by rw [hnamed, if_neg List.not_mem_nil, List.nil_append]⟩
      · exact ⟨choice, hfound, by rw [hnamed, if_pos (List.mem_singleton_self _)]⟩
  · simp

/-- A trusted reply to a multiple-choice question is resolved to a choice exactly when it is no control and
matches the choice only. -/
theorem accepts_iff (hkind : question.kind = .multipleChoice) (hprovenance : provenance ≠ .automation) :
    Accepts question answer trustedAnswer provenance choice ↔
      questionControl (saidAnswer answer trustedAnswer) = none ∧
        matchedChoices question (normalizedAnswer answer trustedAnswer) = some [choice] := by
  have htrusted : ¬ (question.sensitivity ≠ .routine ∧ provenance = .automation) := fun h ↦ hprovenance h.2
  unfold Accepts resolveAnswer normalizedAnswer saidAnswer
  simp only
  cases hcontrol : questionControl (orElse trustedAnswer answer) with
  | some control =>
    simp only [reduceCtorEq, false_and, iff_false]
    intro hequal
    cases hequal
  | none =>
    simp only [if_neg htrusted, hkind, true_and]
    split
    · next found hfound =>
      obtain ⟨id, label⟩ := found
      obtain ⟨choiceId, choiceLabel⟩ := choice
      rw [hfound]
      simp only [AnswerResolution.mk.injEq, Option.some.injEq, true_and, List.cons.injEq, and_true,
        Choice.mk.injEq]
    · next hnone =>
      refine iff_of_false (fun hequal ↦ ?_) fun hfound ↦ hnone choice hfound
      cases hequal

/-! ### Exactness -/

/-- The reply refers to the choice, and to nothing else, and does not negate it. -/
def RefersTo (question : VoiceQuestion) (normalized : String) (choice : Choice) : Prop :=
  (∃ ordinal, choiceOrdinals normalized = [ordinal] ∧ question.choices[ordinal]? = some choice) ∧
    ¬ Negates normalized

/-- The choices are resolved without guessing. -/
structure ResolvesExactly (question : VoiceQuestion) (answer : String) (trustedAnswer : Option String)
    (provenance : AnswerProvenance) : Prop where
  exact : ∀ choice, Accepts question answer trustedAnswer provenance choice →
    NamesChoice (normalizedAnswer answer trustedAnswer) choice ∨
      RefersTo question (normalizedAnswer answer trustedAnswer) choice
  alone : ∀ choice, Accepts question answer trustedAnswer provenance choice →
    (∀ other ∈ question.choices, NamesChoice (normalizedAnswer answer trustedAnswer) other →
        other = choice) ∧
      ∀ ordinal ∈ choiceOrdinals (normalizedAnswer answer trustedAnswer),
        question.choices[ordinal]? = some choice
  order : ∀ choice, Accepts question answer trustedAnswer provenance choice →
    choiceOrdinals (normalizedAnswer answer trustedAnswer) = [] →
    ∀ choices : List Choice, choices.Perm question.choices →
      Accepts (question.withChoices choices) answer trustedAnswer provenance choice

theorem namedChoices_perm (normalized : String) {choices : List Choice} (h : choices.Perm question.choices) :
    (namedChoices (question.withChoices choices) normalized).Perm (namedChoices question normalized) :=
  h.filter _

end

section

attribute [local instance] asciiSpeechLibrary

/-- A question with these choices, numbered from one. -/
def choiceQuestion (labels : List String) : VoiceQuestion where
  id := "q1"
  text := "Which one?"
  kind := .multipleChoice
  sensitivity := .routine
  origin := ⟨"cursor", "0123456789ab", "t1"⟩
  choices := labels.mapIdx fun index label ↦ ⟨toString (index + 1), label⟩
  owner := "agent"
  state := .pending
  askedAt := 0
  answer := none
  trustedAnswer := none
  answeredAt := none
  dispatchToken := none
  prompt := ⟨none, none, none, none, none⟩
  promptSubmittedAt := none
  promptAbsentObservations := 0

end

end VoiceHarness
