import VoiceHarness.Ticket.Cardinal

/-!
# Numbers in a text

The words of a number as they stand in a text, and what the reader of spoken numbers makes of them: it reads
every standard rendering back, and what it reads is one unless the text begins with words that only the slack
of its loop takes for a number.
-/

set_option autoImplicit false
set_option relaxedAutoImplicit false

namespace VoiceHarness

open NumberWord SpokenNumber

/-- The word characters are the letters, the digits and the underscore of ASCII, the letters that match one
without regard to case, and no white space. -/
class LawfulWords [SpeechLibrary] : Prop where
  isWord_ascii : ∀ c : Char, c.val < 128 → SpeechLibrary.isWord c = (c.isAlphanum || c = '_')
  isWord_variant : ∀ c ∈ [dottedI, dotlessI, longS, kelvinSign], SpeechLibrary.isWord c = true
  isWord_space : ∀ c, isSpace c = true → SpeechLibrary.isWord c = false

/-! ### Letters -/

theorem afterLetters_eq_some_iff {letters text matched rest : List Char} :
    afterLetters letters text = some (matched, rest) ↔
      text = matched ++ rest ∧ List.Forall₂ (fun letter c ↦ sameLetter letter c = true) letters matched := by
  induction letters generalizing text matched with
  | nil =>
    constructor
    · intro h
      cases h
      exact ⟨rfl, .nil⟩
    · rintro ⟨rfl, ⟨⟩⟩
      rfl
  | cons letter letters ih =>
    cases text with
    | nil =>
      constructor
      · intro h
        cases h
      · rintro ⟨htext, hsame⟩
        cases hsame
        cases htext
    | cons c text =>
      unfold afterLetters
      by_cases hletter : sameLetter letter c = true
      · rw [if_pos hletter, Option.map_eq_some_iff]
        constructor
        · rintro ⟨⟨tail, left⟩, htail, hequal⟩
          cases hequal
          obtain ⟨rfl, hsame⟩ := ih.mp htail
          exact ⟨rfl, .cons hletter hsame⟩
        · rintro ⟨htext, hsame⟩
          cases hsame with
          | cons hhead htail =>
            cases htext
            exact ⟨_, ih.mpr ⟨rfl, htail⟩, rfl⟩
      · rw [if_neg hletter]
        constructor
        · intro h
          cases h
        · rintro ⟨htext, hsame⟩
          cases hsame with
          | cons hhead htail =>
            cases htext
            exact absurd hhead hletter

theorem isLower_of_mem_table : ∀ entry ∈ table, ∀ letter ∈ entry.1.toList, letter.isLower = true := by
  decide

theorem spelling_ne_nil : ∀ entry ∈ table, entry.1.toList ≠ [] := by decide

theorem toLower_of_not_isUpper {c : Char} (h : c.isUpper = false) : c.toLower = c := by
  unfold Char.toLower
  refine dif_neg fun hupper ↦ ?_
  rw [Char.isUpper, decide_eq_false_iff_not] at h
  exact h hupper

/-- What becomes a small letter is a letter. -/
theorem isAlpha_of_toLower {c : Char} (h : c.toLower.isLower = true) : c.isAlpha = true := by
  cases hupper : c.isUpper with
  | true => simp [Char.isAlpha, hupper]
  | false =>
    rw [toLower_of_not_isUpper hupper] at h
    simp [Char.isAlpha, h]

theorem val_lt_of_isAlpha {c : Char} (h : c.isAlpha = true) : c.val < 128 := by
  simp only [Char.isAlpha, Char.isUpper, Char.isLower, Bool.or_eq_true, decide_eq_true_eq,
    Bool.and_eq_true] at h
  rcases h with ⟨-, h⟩ | ⟨-, h⟩
  · exact UInt32.lt_of_le_of_lt h (by decide)
  · exact UInt32.lt_of_le_of_lt h (by decide)

/-- A letter of a word in its own spelling is matched by no other letter. -/
theorem sameLetter_of_toLower {letter c : Char} (hlower : c.toLower.isLower = true) :
    sameLetter letter c = true ↔ letter = c.toLower := by
  have hascii := val_lt_of_isAlpha (isAlpha_of_toLower hlower)
  have hvariant : ∀ other : Char, ¬ other.val < 128 → c ≠ other := by
    rintro other hother rfl
    exact hother hascii
  have hdotted := hvariant dottedI (by decide)
  have hdotless := hvariant dotlessI (by decide)
  have hlong := hvariant longS (by decide)
  have hkelvin := hvariant kelvinSign (by decide)
  simp [sameLetter, hdotted, hdotless, hlong, hkelvin, eq_comm]

section

variable [SpeechLibrary] [LawfulWords]

/-- What a letter matches is a word character. -/
theorem isWord_of_sameLetter {letter c : Char} (hletter : letter.isLower = true)
    (h : sameLetter letter c = true) : SpeechLibrary.isWord c = true := by
  have hvariant := LawfulWords.isWord_variant
  simp only [List.forall_mem_cons] at hvariant
  obtain ⟨hdotted, hdotless, hlong, hkelvin, -⟩ := hvariant
  unfold sameLetter at h
  simp only [Bool.or_eq_true, Bool.and_eq_true, decide_eq_true_eq] at h
  rcases h with ((hlower | ⟨-, rfl | rfl⟩) | ⟨-, rfl⟩) | ⟨-, rfl⟩
  · subst hlower
    have halpha := isAlpha_of_toLower hletter
    rw [LawfulWords.isWord_ascii c (val_lt_of_isAlpha halpha), Char.isAlphanum, halpha]
    rfl
  · exact hdotted
  · exact hdotless
  · exact hkelvin
  · exact hlong

theorem isWord_of_matched {letters matched : List Char} (hletters : ∀ letter ∈ letters, letter.isLower = true)
    (h : List.Forall₂ (fun letter c ↦ sameLetter letter c = true) letters matched) :
    ∀ c ∈ matched, SpeechLibrary.isWord c = true := by
  induction h with
  | nil =>
    rintro c ⟨⟩
  | cons hhead _ ih =>
    rw [List.forall_mem_cons] at hletters ⊢
    exact ⟨isWord_of_sameLetter hletters.1 hhead, ih hletters.2⟩

theorem not_isWord_of_isNumberSeparator {c : Char} (h : isNumberSeparator c = true) :
    SpeechLibrary.isWord c = false := by
  unfold isNumberSeparator at h
  rw [Bool.or_eq_true, decide_eq_true_eq] at h
  rcases h with hspace | rfl
  · exact LawfulWords.isWord_space c hspace
  · rw [LawfulWords.isWord_ascii '-' (by decide)]
    decide

end

/-! ### The words of a text -/

section

variable [SpeechLibrary] {text rest middle : List Char} {word : NumberWord} {words : List NumberWord}

/-- A match of the pattern: the letters of a word up to a boundary. -/
theorem numberWordAt_eq_some (h : numberWordAt text = some (word, rest)) :
    ∃ entry ∈ table, ∃ matched, text = matched ++ rest ∧ matched ≠ [] ∧
      List.Forall₂ (fun letter c ↦ sameLetter letter c = true) entry.1.toList matched ∧
      atBoundary true rest = true ∧ word = ofFolded (casefoldLetters matched) := by
  obtain ⟨entry, hentry, hfound⟩ := List.exists_of_findSome?_eq_some h
  rw [Option.map_eq_some_iff] at hfound
  obtain ⟨⟨matched, left⟩, hfilter, hequal⟩ := hfound
  cases hequal
  rw [Option.filter_eq_some_iff] at hfilter
  obtain ⟨hletters, hboundary⟩ := hfilter
  obtain ⟨rfl, hsame⟩ := afterLetters_eq_some_iff.mp hletters
  refine ⟨entry, hentry, matched, rfl, ?_, hsame, hboundary, rfl⟩
  rintro rfl
  exact spelling_ne_nil entry hentry (List.forall₂_nil_right_iff.mp hsame)

theorem length_lt_of_numberWordAt (h : numberWordAt text = some (word, rest)) :
    rest.length < text.length := by
  obtain ⟨entry, -, matched, rfl, hne, -⟩ := numberWordAt_eq_some h
  rw [List.length_append]
  have hpos := List.length_pos_iff.mpr hne
  omega

theorem known_of_numberWordAt (h : numberWordAt text = some (word, rest)) : Known word := by
  obtain ⟨entry, -, matched, -, -, -, -, rfl⟩ := numberWordAt_eq_some h
  have htable : ∀ entry ∈ table, (∀ n, entry.2 = .small n → n ≤ 19) ∧
      ∀ t, entry.2 = .tens t → t ∈ tensValues := by
    intro entry hentry
    simp only [table, List.mem_cons, List.not_mem_nil, or_false] at hentry
    rcases hentry with rfl | rfl | rfl | rfl | rfl | rfl | rfl | rfl | rfl | rfl | rfl | rfl | rfl | rfl |
      rfl | rfl | rfl | rfl | rfl | rfl | rfl | rfl | rfl | rfl | rfl | rfl | rfl | rfl | rfl | rfl |
      rfl <;> simp [tensValues]
  unfold ofFolded
  cases hfind : table.find? (·.1.toList = casefoldLetters matched) with
  | none =>
    constructor
    · rintro n ⟨⟩
    · rintro t ⟨⟩
  | some entry => exact htable entry (List.mem_of_find?_eq_some hfind)

/-- After a word no other one follows at once. -/
theorem numberWordAt_rest [LawfulWords] (h : numberWordAt text = some (word, rest)) :
    numberWordAt rest = none := by
  obtain ⟨-, -, -, -, -, -, hboundary, -⟩ := numberWordAt_eq_some h
  by_contra hsome
  obtain ⟨⟨other, left⟩, hother⟩ := Option.ne_none_iff_exists'.mp hsome
  obtain ⟨entry, hentry, matched, rfl, hne, hsame, -, -⟩ := numberWordAt_eq_some hother
  obtain ⟨c, matched, rfl⟩ := List.exists_cons_of_ne_nil hne
  cases hletters : entry.1.toList with
  | nil => exact spelling_ne_nil entry hentry hletters
  | cons letter letters =>
    rw [hletters] at hsame
    cases hsame with
    | cons hhead htail =>
      have hlower := isLower_of_mem_table entry hentry letter (hletters ▸ List.mem_cons_self)
      have hword := isWord_of_sameLetter hlower hhead
      rw [atBoundary, List.cons_append, List.head?_cons, Option.any_some, hword] at hboundary
      cases hboundary

/-- The text begins with these words, and goes on with the rest. -/
inductive Spells : List NumberWord → List Char → List Char → Prop
  | last {word : NumberWord} {text rest : List Char} (h : numberWordAt text = some (word, rest)) :
    Spells [word] text rest
  | cons {word : NumberWord} {words : List NumberWord} {text middle rest : List Char}
    (h : numberWordAt text = some (word, middle)) (hsep : middle.head?.any isNumberSeparator = true)
    (hrest : Spells words (middle.dropWhile isNumberSeparator) rest) : Spells (word :: words) text rest

theorem Spells.head (h : Spells words text rest) :
    words.head? = (numberWordAt text).map (·.1) := by
  cases h with
  | last h => rw [h]; rfl
  | cons h => rw [h]; rfl

theorem Spells.ne_nil (h : Spells words text rest) : words ≠ [] := by
  cases h <;> exact List.cons_ne_nil _ _

theorem Spells.known (h : Spells words text rest) : ∀ held ∈ words, Known held := by
  induction h with
  | last h => simpa using known_of_numberWordAt h
  | cons h _ _ ih =>
    rw [List.forall_mem_cons]
    exact ⟨known_of_numberWordAt h, ih⟩

omit [SpeechLibrary] in
theorem length_dropWhile_le (text : List Char) :
    (text.dropWhile isNumberSeparator).length ≤ text.length :=
  (List.dropWhile_sublist _).length_le

theorem Spells.length_lt (h : Spells words text rest) : rest.length < text.length := by
  induction h with
  | last h => exact length_lt_of_numberWordAt h
  | @cons word words text middle rest h _ _ ih =>
    have hword := length_lt_of_numberWordAt h
    have hdrop := length_dropWhile_le middle
    omega

/-- The words up to a place of the text are determined. -/
theorem Spells.unique (h : Spells words text rest) {others : List NumberWord}
    (hothers : Spells others text rest) : others = words := by
  induction h generalizing others with
  | @last word text rest h =>
    cases hothers with
    | last hother =>
      rw [h] at hother
      cases hother
      rfl
    | cons hother _ hrest =>
      rw [h] at hother
      cases hother
      have hlength := hrest.length_lt
      have hdrop := length_dropWhile_le rest
      omega
  | @cons word words text middle rest h hsep hrest ih =>
    cases hothers with
    | last hother =>
      rw [h] at hother
      cases hother
      have hlength := hrest.length_lt
      have hdrop := length_dropWhile_le middle
      omega
    | cons hother _ hotherRest =>
      rw [h] at hother
      cases hother
      rw [ih hotherRest]

/-! ### The loop on a text -/

omit [SpeechLibrary] in
theorem step_eq_stop {state : SpokenNumber} {next : Option NumberWord}
    (h : state.step false word next = .stop) : (word = .and ∨ word = .odd) ∧
      (state.last ∈ [LastWord.hundred, .scale] → next.all (!·.isCount) = true) := by
  have hjoint : (if state.last ∉ [LastWord.hundred, .scale] ∨ next.all (!·.isCount) = true then Step.stop
      else .advance { state with last := .conjunction }) = Step.stop →
      state.last ∈ [LastWord.hundred, .scale] → next.all (!·.isCount) = true := by
    intro hif hlast
    by_contra hnext
    rw [if_neg (by tauto)] at hif
    cases hif
  cases word with
  | small value =>
    simp only [step] at h
    split_ifs at h
  | tens value =>
    simp only [step] at h
    split_ifs at h
  | hundred =>
    simp only [step] at h
    split_ifs at h
  | thousand =>
    simp only [step] at h
    split_ifs at h
  | and => exact ⟨.inl rfl, hjoint h⟩
  | odd => exact ⟨.inr rfl, hjoint h⟩

omit [SpeechLibrary] in
theorem step_of_stops {state : SpokenNumber} {next : Option NumberWord}
    (hword : word = .and ∨ word = .odd)
    (hnext : state.last ∈ [LastWord.hundred, .scale] → next.all (!·.isCount) = true) :
    state.step false word next = .stop := by
  have hcondition : state.last ∉ [LastWord.hundred, .scale] ∨ next.all (!·.isCount) = true := by
    tauto
  rcases hword with rfl | rfl <;> exact if_pos hcondition

/-- No number goes on after the words. -/
def Stops (state : SpokenNumber) (rest : List Char) : Prop :=
  ∀ word after, numberWordAt (rest.dropWhile isNumberSeparator) = some (word, after) →
    state.step false word (nextNumberWord after) = .stop

theorem nextNumberWord_eq (h : Spells words (middle.dropWhile isNumberSeparator) rest) :
    nextNumberWord middle = words.head? := h.head.symm

theorem spokenNumberLoop_of_stops {state : SpokenNumber} (h : Stops state rest) (fuel : ℕ)
    (found : Option (ℕ × List Char)) :
    spokenNumberLoop false fuel (rest.dropWhile isNumberSeparator) state found = found := by
  cases fuel with
  | zero => rfl
  | succ fuel =>
    unfold spokenNumberLoop
    rcases hword : numberWordAt (rest.dropWhile isNumberSeparator) with _ | ⟨word, after⟩
    · rfl
    · simp only [h word after hword]

/-- The loop takes words one after another, up to where it goes on. -/
theorem spokenNumberLoop_of_runs {state final : SpokenNumber} {fuel : ℕ} (h : Spells words text rest)
    (hruns : Runs state words final) (hfuel : text.length ≤ fuel) (found : Option (ℕ × List Char)) :
    ∃ less, rest.length ≤ less ∧ spokenNumberLoop false fuel text state found =
      if rest.head?.any isNumberSeparator then
        spokenNumberLoop false less (rest.dropWhile isNumberSeparator) final (some (final.value, rest))
      else some (final.value, rest) := by
  induction h generalizing state fuel found with
  | @last word text rest h =>
    have hlength := length_lt_of_numberWordAt h
    obtain ⟨fuel, rfl⟩ : ∃ less, fuel = less + 1 := ⟨fuel - 1, by omega⟩
    obtain ⟨next, hstep, hnil⟩ := hruns.inv
    cases hnil
    have hword : word ≠ .and ∧ word ≠ .odd := by
      constructor <;> rintro rfl <;> simp [step] at hstep
    rw [step_next hword.1 hword.2 _ (nextNumberWord rest)] at hstep
    refine ⟨fuel, by omega, ?_⟩
    conv_lhs => unfold spokenNumberLoop
    simp only [h, hstep]
  | @cons word words text middle rest h hsep hrest ih =>
    have hlength := length_lt_of_numberWordAt h
    have hdrop := length_dropWhile_le middle
    obtain ⟨fuel, rfl⟩ : ∃ less, fuel = less + 1 := ⟨fuel - 1, by omega⟩
    obtain ⟨next, hstep, hmore⟩ := hruns.inv
    rw [← nextNumberWord_eq hrest] at hstep
    have hfuelRest : (middle.dropWhile isNumberSeparator).length ≤ fuel := by omega
    obtain ⟨less, hless, hloop⟩ := ih hmore hfuelRest (some (next.value, middle))
    refine ⟨less, hless, ?_⟩
    rw [← hloop]
    conv_lhs => unfold spokenNumberLoop
    simp only [h, hstep, hsep, if_true]

/-- The loop reads the words that it takes, up to where it stops. -/
theorem spokenNumberLoop_of_spells {state final : SpokenNumber} {fuel : ℕ}
    {found : Option (ℕ × List Char)} (h : Spells words text rest) (hruns : Runs state words final)
    (hstops : Stops final rest) (hfuel : text.length ≤ fuel) :
    spokenNumberLoop false fuel text state found = some (final.value, rest) := by
  obtain ⟨less, -, hloop⟩ := spokenNumberLoop_of_runs h hruns hfuel found
  rw [hloop]
  split_ifs
  · exact spokenNumberLoop_of_stops hstops _ _
  · rfl

omit [SpeechLibrary] in
/-- A word with a value adds it. -/
theorem value_of_step_small {state next : SpokenNumber} {value : ℕ} {after : Option NumberWord}
    (h : state.step false (.small value) after = .advance next) : next.value = state.value + value := by
  simp only [step] at h
  split_ifs at h <;>
  · cases h
    exact (Nat.add_assoc ..).symm

omit [SpeechLibrary] in
theorem value_of_step_tens {state next : SpokenNumber} {value : ℕ} {after : Option NumberWord}
    (h : state.step false (.tens value) after = .advance next) : next.value = state.value + value := by
  simp only [step, Bool.false_and, Bool.false_eq_true, if_false] at h
  split_ifs at h
  cases h
  exact (Nat.add_assoc ..).symm

omit [SpeechLibrary] in
theorem value_le_of_step {state next : SpokenNumber} {after : Option NumberWord}
    (h : state.step false word after = .advance next) : state.value ≤ next.value := by
  cases word with
  | small value => exact Nat.le.intro (value_of_step_small h).symm
  | tens value => exact Nat.le.intro (value_of_step_tens h).symm
  | hundred =>
    simp only [step] at h
    split_ifs at h
    cases h
    simp only [SpokenNumber.value]
    omega
  | thousand =>
    simp only [step] at h
    split_ifs at h
    cases h
    simp only [SpokenNumber.value]
    omega
  | and | odd =>
    simp only [step] at h
    split_ifs at h
    cases h
    simp only [SpokenNumber.value]
    exact le_rfl

/-- What is found later is no less. -/
theorem value_le_of_spokenNumberLoop {state : SpokenNumber} {fuel value : ℕ}
    {found : Option (ℕ × List Char)} (hfound : ∀ held ∈ found, state.value ≤ held.1)
    (h : spokenNumberLoop false fuel text state found = some (value, rest)) : state.value ≤ value := by
  induction fuel generalizing text state found with
  | zero => exact hfound _ h
  | succ fuel ih =>
    unfold spokenNumberLoop at h
    rcases hword : numberWordAt text with _ | ⟨word, middle⟩
    · rw [hword] at h
      exact hfound _ h
    · simp only [hword] at h
      cases hstep : state.step false word (nextNumberWord middle) with
      | invalid =>
        rw [hstep] at h
        cases h
      | stop =>
        rw [hstep] at h
        exact hfound _ h
      | advance next =>
        have hle := value_le_of_step hstep
        simp only [hstep] at h
        split_ifs at h
        · refine hle.trans (ih ?_ h)
          rintro held ⟨⟩
          exact le_rfl
        · cases h
          exact hle

/-- A number that is followed by separators and another one is not read as it stands: what is read is none or
a greater one. -/
theorem lt_of_spokenNumberAt {n value : ℕ} {more after : List Char} (h : Spells words text more)
    (hwords : Cardinal false n words) (hsep : more.head?.any isNumberSeparator = true)
    (hmore : numberWordAt (more.dropWhile isNumberSeparator) = some (word, after))
    (hcount : word.isCount = true) (hzero : word ≠ .small 0) (hknown : Known word)
    (hread : spokenNumberAt false text = some (value, rest)) : n < value := by
  obtain ⟨final, hruns, rfl, -⟩ := runs_cardinal hwords
  obtain ⟨less, hless, hloop⟩ := spokenNumberLoop_of_runs h hruns le_rfl none
  rw [spokenNumberAt, hloop, if_pos hsep] at hread
  have hlength := length_lt_of_numberWordAt hmore
  have hdrop := length_dropWhile_le more
  obtain ⟨less, rfl⟩ : ∃ fewer, less = fewer + 1 := ⟨less - 1, by omega⟩
  unfold spokenNumberLoop at hread
  simp only [hmore] at hread
  cases hstep : final.step false word (nextNumberWord after) with
  | invalid =>
    rw [hstep] at hread
    cases hread
  | stop =>
    obtain ⟨hjoint, -⟩ := step_eq_stop hstep
    rcases hjoint with rfl | rfl <;> cases hcount
  | advance next =>
    have hlt : final.value < next.value := by
      cases word with
      | small value =>
        have hpos : value ≠ 0 := fun hvalue ↦ hzero (by rw [hvalue])
        rw [value_of_step_small hstep]
        omega
      | tens value =>
        have hpos : value ≠ 0 := by
          rintro rfl
          exact absurd (hknown.2 0 rfl) (by decide)
        rw [value_of_step_tens hstep]
        omega
      | _ => cases hcount
    simp only [hstep] at hread
    split_ifs at hread
    · refine hlt.trans_le (value_le_of_spokenNumberLoop ?_ hread)
      rintro held ⟨⟩
      exact le_rfl
    · cases hread
      exact hlt

/-- What the loop finds are words that it takes, up to where it stops. -/
theorem spells_of_spokenNumberLoop [LawfulWords] {state : SpokenNumber} {fuel value : ℕ}
    {found : Option (ℕ × List Char)} (hfuel : text.length ≤ fuel)
    (h : spokenNumberLoop false fuel text state found = some (value, rest)) :
    (found = some (value, rest) ∧ ∀ word after, numberWordAt text = some (word, after) →
        state.step false word (nextNumberWord after) = .stop) ∨
      ∃ words final, Spells words text rest ∧ Runs state words final ∧ value = final.value ∧
        Stops final rest := by
  induction fuel generalizing text state found with
  | zero =>
    obtain rfl := List.length_eq_zero_iff.mp (Nat.le_zero.mp hfuel)
    refine .inl ⟨h, fun word after hword ↦ ?_⟩
    have hlength := length_lt_of_numberWordAt hword
    simp at hlength
  | succ fuel ih =>
    unfold spokenNumberLoop at h
    rcases hword : numberWordAt text with _ | ⟨word, middle⟩
    · rw [hword] at h
      refine .inl ⟨h, fun other after hother ↦ ?_⟩
      cases hother
    · simp only [hword] at h
      have hlength := length_lt_of_numberWordAt hword
      have hdrop := length_dropWhile_le middle
      cases hstep : state.step false word (nextNumberWord middle) with
      | invalid =>
        rw [hstep] at h
        cases h
      | stop =>
        rw [hstep] at h
        refine .inl ⟨h, fun other after hother ↦ ?_⟩
        cases hother
        exact hstep
      | advance next =>
        rw [hstep] at h
        right
        by_cases hsep : middle.head?.any isNumberSeparator = true
        · simp only [hsep, if_true] at h
          rcases ih (by omega) h with ⟨hfound, hstop⟩ | ⟨words, final, hspells, hruns, hvalue, hstops⟩
          · cases hfound
            refine ⟨[word], next, .last hword, .cons ?_ .nil, rfl, hstop⟩
            by_cases hjoint : word = .and ∨ word = .odd
            · -- a conjunction was taken for the number word after it, which is then taken too
              exfalso
              unfold nextNumberWord at hstep
              rcases hnext : numberWordAt (rest.dropWhile isNumberSeparator) with _ | ⟨other, after⟩
              · rw [hnext] at hstep
                rcases hjoint with rfl | rfl <;> simp [step] at hstep
              · have hstopped := hstop other after hnext
                rw [hnext] at hstep
                have hlast : next.last = .conjunction ∧ other.isCount = true := by
                  rcases hjoint with rfl | rfl <;>
                  · simp only [step] at hstep
                    split_ifs at hstep with hcondition
                    cases hstep
                    refine ⟨rfl, ?_⟩
                    simpa using (not_or.mp hcondition).2
                obtain ⟨hother, -⟩ := step_eq_stop hstopped
                rcases hother with rfl | rfl <;> exact absurd hlast.2 (by decide)
            · rw [not_or] at hjoint
              rw [step_next hjoint.1 hjoint.2 _ (nextNumberWord rest), hstep]
          · refine ⟨word :: words, final, .cons hword hsep hspells, .cons ?_ hruns, hvalue, hstops⟩
            rw [← nextNumberWord_eq hspells, hstep]
        · simp only [hsep] at h
          cases h
          have hsame : rest.dropWhile isNumberSeparator = rest := by
            cases rest with
            | nil => rfl
            | cons c rest =>
              rw [List.head?_cons, Option.any_some] at hsep
              exact List.dropWhile_cons_of_neg hsep
          have hnone : nextNumberWord rest = none := by
            unfold nextNumberWord
            rw [hsame, numberWordAt_rest hword]
            rfl
          rw [hnone] at hstep
          refine ⟨[word], next, .last hword, .cons hstep .nil, rfl, fun other after hother ↦ ?_⟩
          rw [hsame, numberWordAt_rest hword] at hother
          cases hother

/-! ### Written numbers -/

omit [SpeechLibrary] in
theorem isWord_letters_of_map {letters : List Char} {entry : String × NumberWord} (hentry : entry ∈ table)
    (hletters : letters.map Char.toLower = entry.1.toList) : ∀ c ∈ letters, c.toLower.isLower = true := by
  intro c hc
  refine isLower_of_mem_table entry hentry c.toLower ?_
  rw [← hletters]
  exact List.mem_map_of_mem hc

omit [SpeechLibrary] in
theorem casefoldLetters_eq_map {letters : List Char} (h : ∀ c ∈ letters, c.toLower.isLower = true) :
    casefoldLetters letters = letters.map Char.toLower := by
  induction letters with
  | nil => rfl
  | cons c letters ih =>
    rw [List.forall_mem_cons] at h
    have hascii := val_lt_of_isAlpha (isAlpha_of_toLower h.1)
    have hvariant : ∀ other : Char, ¬ other.val < 128 → c ≠ other := by
      rintro other hother rfl
      exact hother hascii
    have hhead : casefoldLetters [c] = [c.toLower] := by
      simp [casefoldLetters, hvariant dottedI (by decide), hvariant longS (by decide),
        hvariant kelvinSign (by decide)]
    rw [List.map_cons, ← ih h.2, ← List.singleton_append, casefoldLetters, List.flatMap_append,
      ← casefoldLetters, ← casefoldLetters, hhead]
    rfl

/-- A text of word characters up to a boundary is all of the word characters. -/
theorem takeWhile_isWord {letters : List Char} (h : ∀ c ∈ letters, SpeechLibrary.isWord c = true)
    (hrest : atBoundary true rest = true) : (letters ++ rest).takeWhile SpeechLibrary.isWord = letters := by
  rw [List.takeWhile_append_of_pos h]
  cases rest with
  | nil => rw [List.takeWhile_nil, List.append_nil]
  | cons c rest =>
    rw [atBoundary, List.head?_cons, Option.any_some] at hrest
    rw [List.takeWhile_cons_of_neg (by simpa using hrest), List.append_nil]

/-- A word of a number in any case, as it is written. -/
def WritesWord (word : NumberWord) (letters : List Char) : Prop :=
  ∃ entry ∈ table, entry.2 = word ∧ letters.map Char.toLower = entry.1.toList

omit [SpeechLibrary] in
theorem ofFolded_of_writes {entry : String × NumberWord} (hentry : entry ∈ table) :
    ofFolded entry.1.toList = entry.2 := by
  have htable : ∀ entry ∈ table, ofFolded entry.1.toList = entry.2 := by decide
  exact htable entry hentry

/-- A word that is written out is read. -/
theorem numberWordAt_of_writes [LawfulWords] {letters : List Char} (h : WritesWord word letters)
    (hrest : atBoundary true rest = true) : numberWordAt (letters ++ rest) = some (word, rest) := by
  obtain ⟨entry, hentry, rfl, hletters⟩ := h
  have hlower := isWord_letters_of_map hentry hletters
  have hword : ∀ c ∈ letters, SpeechLibrary.isWord c = true := fun c hc ↦
    isWord_of_sameLetter (hlower c hc) ((sameLetter_of_toLower (hlower c hc)).mpr rfl)
  have hfound : numberWordAt (letters ++ rest) ≠ none := by
    intro hnone
    unfold numberWordAt at hnone
    have hentryNone := List.findSome?_eq_none_iff.mp hnone entry hentry
    have hmatch : afterLetters entry.1.toList (letters ++ rest) = some (letters, rest) := by
      refine afterLetters_eq_some_iff.mpr ⟨rfl, ?_⟩
      rw [← hletters, List.forall₂_map_left_iff, List.forall₂_same]
      exact fun c hc ↦ (sameLetter_of_toLower (hlower c hc)).mpr rfl
    simp [hmatch, hrest] at hentryNone
  obtain ⟨⟨other, left⟩, hother⟩ := Option.ne_none_iff_exists'.mp hfound
  obtain ⟨found, hfoundMem, matched, hsplit, hne, hsame, hboundary, rfl⟩ := numberWordAt_eq_some hother
  have hmatched := isWord_of_matched (isLower_of_mem_table found hfoundMem) hsame
  have hall : letters = matched := by
    rw [← takeWhile_isWord hword hrest, hsplit, takeWhile_isWord hmatched hboundary]
  subst hall
  obtain rfl := List.append_cancel_left hsplit
  rw [hother, casefoldLetters_eq_map hlower, hletters, ofFolded_of_writes hentry]

/-- The words of a number as they are written, with white space or hyphens between them. -/
inductive Written : List NumberWord → List Char → Prop
  | last {word : NumberWord} {letters : List Char} (h : WritesWord word letters) : Written [word] letters
  | cons {word : NumberWord} {words : List NumberWord} {letters separator more : List Char}
    (h : WritesWord word letters) (hne : separator ≠ [])
    (hsep : ∀ c ∈ separator, isNumberSeparator c = true) (hmore : Written words more) :
    Written (word :: words) (letters ++ separator ++ more)

omit [SpeechLibrary] in
theorem WritesWord.exists_head {letters : List Char} (h : WritesWord word letters) :
    ∃ c more, letters = c :: more ∧ c.toLower.isLower = true := by
  obtain ⟨entry, hentry, -, hletters⟩ := h
  cases letters with
  | nil => exact absurd hletters.symm (spelling_ne_nil entry hentry)
  | cons c more => exact ⟨c, more, rfl, isWord_letters_of_map hentry hletters c List.mem_cons_self⟩

omit [SpeechLibrary] in
theorem Written.exists_head {written : List Char} (h : Written words written) :
    ∃ c more, written = c :: more ∧ c.toLower.isLower = true := by
  cases h with
  | last h => exact h.exists_head
  | cons h =>
    obtain ⟨c, more, rfl, hlower⟩ := h.exists_head
    exact ⟨c, _, rfl, hlower⟩

theorem dropWhile_separator [LawfulWords] {separator : List Char} {c : Char}
    (hsep : ∀ c ∈ separator, isNumberSeparator c = true) (hlower : c.toLower.isLower = true)
    (more : List Char) : (separator ++ c :: more).dropWhile isNumberSeparator = c :: more := by
  rw [List.dropWhile_append_of_pos hsep]
  refine List.dropWhile_cons_of_neg fun hc ↦ ?_
  have hword := isWord_of_sameLetter hlower ((sameLetter_of_toLower hlower).mpr rfl)
  rw [not_isWord_of_isNumberSeparator hc] at hword
  cases hword

/-- A text that begins with written words begins with the words. -/
theorem Written.spells [LawfulWords] {written : List Char} (h : Written words written)
    (hrest : atBoundary true rest = true) : Spells words (written ++ rest) rest := by
  induction h with
  | last h => exact .last (numberWordAt_of_writes h hrest)
  | @cons word words letters separator more h hne hsep hmore ih =>
    obtain ⟨c, left, rfl, hlower⟩ := hmore.exists_head
    have hhead : (separator ++ (c :: left ++ rest)).head?.any isNumberSeparator = true := by
      obtain ⟨first, others, rfl⟩ := List.exists_cons_of_ne_nil hne
      rw [List.cons_append, List.head?_cons, Option.any_some]
      exact hsep first List.mem_cons_self
    rw [List.append_assoc, List.append_assoc]
    refine .cons (numberWordAt_of_writes h ?_) hhead ?_
    · obtain ⟨first, others, rfl⟩ := List.exists_cons_of_ne_nil hne
      rw [atBoundary, List.cons_append, List.head?_cons, Option.any_some,
        not_isWord_of_isNumberSeparator (hsep first List.mem_cons_self)]
      rfl
    · rw [List.cons_append, dropWhile_separator hsep hlower]
      exact ih

/-! ### Exact reading -/

/-- The number ends with the words: a word that comes next is a conjunction, and joins no number to a hundred
or a thousand. -/
def EndsWith (words : List NumberWord) (rest : List Char) : Prop :=
  atBoundary true rest = true ∧
    ∀ word after, numberWordAt (rest.dropWhile isNumberSeparator) = some (word, after) →
      (word = .and ∨ word = .odd) ∧
        (lastOf words ∈ [LastWord.hundred, .scale] → (nextNumberWord after).all (!·.isCount) = true)

theorem stops_iff {final : SpokenNumber} (hlast : final.last = lastOf words) :
    Stops final rest ↔ ∀ word after, numberWordAt (rest.dropWhile isNumberSeparator) = some (word, after) →
      (word = .and ∨ word = .odd) ∧
        (lastOf words ∈ [LastWord.hundred, .scale] → (nextNumberWord after).all (!·.isCount) = true) := by
  rw [← hlast]
  constructor
  · exact fun h word after hword ↦ step_eq_stop (h word after hword)
  · intro h word after hword
    obtain ⟨hjoint, hnext⟩ := h word after hword
    exact step_of_stops hjoint hnext

theorem Spells.atBoundary (h : Spells words text rest) : atBoundary true rest = true := by
  induction h with
  | last h =>
    obtain ⟨-, -, -, -, -, -, hboundary, -⟩ := numberWordAt_eq_some h
    exact hboundary
  | cons _ _ _ ih => exact ih

/-- Words that the loop takes are read as the number that they render, up to where it ends. -/
theorem spokenNumberAt_of_spells {n : ℕ} (h : Spells words text rest) (hwords : Cardinal false n words)
    (hends : EndsWith words rest) : spokenNumberAt false text = some (n, rest) := by
  obtain ⟨final, hruns, rfl, hlast⟩ := runs_cardinal hwords
  exact spokenNumberLoop_of_spells h hruns ((stops_iff hlast).mpr hends.2) le_rfl

/-- What is read are words that the loop takes, up to where the number ends. -/
theorem spells_of_spokenNumberAt [LawfulWords] {value : ℕ}
    (h : spokenNumberAt false text = some (value, rest)) :
    ∃ words, Spells words text rest ∧ Cardinal false value words ∧ EndsWith words rest := by
  rcases spells_of_spokenNumberLoop le_rfl h with ⟨hnone, -⟩ | ⟨words, final, hspells, hruns, rfl, hstops⟩
  · cases hnone
  · obtain ⟨hcardinal, hlast⟩ := hruns.cardinal hspells.ne_nil hspells.known
    exact ⟨words, hspells, hcardinal, hspells.atBoundary, (stops_iff hlast).mp hstops⟩

/-- Spoken numbers are read exactly from a text: every standard rendering at its start as its number, and
nothing else. -/
structure ReadsExactly (text : List Char) : Prop where
  complete : ∀ n words written rest, text = written ++ rest → 0 < n → n < 1000000 →
    Cardinal true n words → Written words written → EndsWith words rest →
    spokenNumberAt false text = some (n, rest)
  sound : ∀ value rest, spokenNumberAt false text = some (value, rest) →
    ∃ words, Spells words text rest ∧ Cardinal true value words

/-- Numbers are read exactly unless the text begins with words that the loop takes although they have a zero or
a teen after tens, a zero after a hundred, a thousand or a conjunction, or an odd spelling. -/
theorem readsExactly_iff [LawfulWords] (text : List Char) :
    ReadsExactly text ↔ ∀ words rest n, Spells words text rest → EndsWith words rest →
      Cardinal false n words → Plain words := by
  constructor
  · intro h words rest n hspells hends hwords
    obtain ⟨others, hothers, hstandard⟩ := h.sound n rest (spokenNumberAt_of_spells hspells hwords hends)
    rw [← hspells.unique hothers]
    exact hstandard.plain
  · intro h
    constructor
    · rintro n words written rest rfl - - hwords hwritten hends
      exact spokenNumberAt_of_spells (hwritten.spells hends.1) hwords.loose hends
    · intro value rest hread
      obtain ⟨words, hspells, hwords, hends⟩ := spells_of_spokenNumberAt hread
      exact ⟨words, hspells, hwords.of_plain (h words rest value hspells hends hwords)⟩

end

instance lawfulWords_letters : @LawfulWords letterSpeechLibrary := by
  refine @LawfulWords.mk letterSpeechLibrary (fun c hc ↦ ?_) (by decide) fun c hc ↦ ?_
  · have hvariant : ∀ other : Char, ¬ other.val < 128 → c ≠ other := by
      rintro other hother rfl
      exact hother hc
    change (c.isAlphanum || decide (c = '_') || decide (c ∈ [dottedI, dotlessI, longS, kelvinSign])) = _
    simp [hvariant dottedI (by decide), hvariant dotlessI (by decide), hvariant longS (by decide),
      hvariant kelvinSign (by decide)]
  · have hval : ∀ other : Char, isSpace other = false → c ≠ other := by
      rintro other hother rfl
      rw [hc] at hother
      cases hother
    have halnum : c.isAlphanum = false := by
      simp only [isSpace, List.mem_cons, List.not_mem_nil, or_false, Bool.or_eq_true, decide_eq_true_eq,
        Bool.and_eq_true, ← UInt32.toNat_inj, UInt32.le_iff_toNat_le] at hc
      simp [Char.isAlphanum, Char.isAlpha, Char.isUpper, Char.isLower, Char.isDigit, UInt32.le_iff_toNat_le] at hc ⊢
      omega
    change (c.isAlphanum || decide (c = '_') || decide (c ∈ [dottedI, dotlessI, longS, kelvinSign])) = _
    simp [halnum, hval '_' (by decide), hval dottedI (by decide), hval dotlessI (by decide), hval longS (by decide),
      hval kelvinSign (by decide)]

theorem readsExactly_iff_fiftyTwo : @ReadsExactly letterSpeechLibrary "fifty-two".toList := by
  let _ := letterSpeechLibrary
  have hfirst : numberWordAt "fifty-two".toList = some (tens 50, "-two".toList) := by decide +kernel
  have hsecond : numberWordAt "two".toList = some (small 2, []) := by decide +kernel
  refine (readsExactly_iff _).mpr fun words rest n hspells _ _ ↦ ?_
  cases hspells with
  | last h =>
    rw [hfirst] at h
    cases h
    exact ⟨.singleton _, by simp⟩
  | cons h hsep hrest =>
    rw [hfirst] at h
    cases h
    have htext : "-two".toList.dropWhile isNumberSeparator = "two".toList := by decide +kernel
    rw [htext] at hrest
    cases hrest with
    | last h =>
      rw [hsecond] at h
      cases h
      exact ⟨by simp [Follows], by simp⟩
    | cons h hsep =>
      rw [hsecond] at h
      cases h
      cases hsep

theorem readsExactly_not_teen : ¬ @ReadsExactly letterSpeechLibrary "twenty eleven".toList := by
  let _ := letterSpeechLibrary
  intro h
  have hread : spokenNumberAt false "twenty eleven".toList = some (31, []) := by decide +kernel
  obtain ⟨words, hspells, hwords⟩ := h.sound 31 [] hread
  have htext : Spells [tens 20, small 11] "twenty eleven".toList [] := by
    have hfirst : numberWordAt "twenty eleven".toList = some (tens 20, " eleven".toList) := by
      decide +kernel
    have hsecond : numberWordAt "eleven".toList = some (small 11, []) := by decide +kernel
    exact .cons hfirst (by decide +kernel) (.last hsecond)
  obtain rfl := htext.unique hspells
  have hchain := hwords.plain.chain
  simp [Follows] at hchain

end VoiceHarness
