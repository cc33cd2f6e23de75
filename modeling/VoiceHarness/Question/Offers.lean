import Mathlib
import VoiceHarness.Question.Exactness

/-!
# Offered choices

A prompt offers every choice by its number and by its label. The choices that can be taken by them are those
that no control, no other id or label and no ordinal gets in the way of, and no number above five is an ordinal.
-/

set_option autoImplicit false
set_option relaxedAutoImplicit false

namespace VoiceHarness

/-- The library does on ASCII text what the one for ASCII does. -/
class LawfulSpeech [SpeechLibrary] : Prop where
  casefold_ascii : ∀ text : String, (∀ c ∈ text.toList, c.val < 128) →
    TextLibrary.casefold text = text.map Char.toLower
  isWord_ascii : ∀ c : Char, c.val < 128 → SpeechLibrary.isWord c = (c.isAlphanum || c = '_')

/-! ### ASCII text -/

def IsAscii (text : List Char) : Prop := ∀ c ∈ text, c.val < 128

instance (text : List Char) : Decidable (IsAscii text) :=
  inferInstanceAs (Decidable (∀ c ∈ text, c.val < 128))

theorem IsAscii.of_cons {c : Char} {text : List Char} (h : IsAscii (c :: text)) : c.val < 128 ∧ IsAscii text :=
  List.forall_mem_cons.mp h

theorem IsAscii.afterLiteral {text rest : List Char} (h : IsAscii text) {literal : String}
    (hrest : afterLiteral literal text = some rest) : IsAscii rest := by
  unfold VoiceHarness.afterLiteral at hrest
  split_ifs at hrest
  cases hrest
  exact fun c hc ↦ h c (List.mem_of_mem_drop hc)

theorem val_toLower_lt {c : Char} (h : c.val < 128) : c.toLower.val < 128 := by
  unfold Char.toLower
  split_ifs with hupper
  · have hbound : c.val.toNat ≤ 90 := by
      have hle := hupper.2
      rw [UInt32.le_iff_toNat_le] at hle
      exact hle
    rw [UInt32.lt_iff_toNat_lt]
    simp only [UInt32.toNat_add]
    change (c.val.toNat + 32) % 2 ^ 32 < 128
    omega
  · exact h

theorem IsAscii.map_toLower {text : List Char} (h : IsAscii text) : IsAscii (text.map Char.toLower) := by
  intro c hc
  obtain ⟨held, hheld, rfl⟩ := List.mem_map.mp hc
  exact val_toLower_lt (h held hheld)

section

variable [library : SpeechLibrary] [LawfulSpeech] {text : List Char}

theorem isWord_eq {c : Char} (h : c.val < 128) : library.isWord c = asciiSpeechLibrary.isWord c :=
  LawfulSpeech.isWord_ascii c h

theorem head_isWord_eq (h : IsAscii text) :
    text.head?.any library.isWord = text.head?.any asciiSpeechLibrary.isWord := by
  cases text with
  | nil => rfl
  | cons c text =>
    rw [List.head?_cons, Option.any_some, Option.any_some]
    exact isWord_eq h.of_cons.1

theorem last_isWord_eq (h : IsAscii text) :
    text.getLast?.any library.isWord = text.getLast?.any asciiSpeechLibrary.isWord := by
  cases hlast : text.getLast? with
  | none => rfl
  | some c =>
    rw [Option.any_some, Option.any_some]
    exact isWord_eq (h c (List.mem_of_mem_getLast? hlast))

theorem atBoundary_eq (previous : Bool) (h : IsAscii text) :
    atBoundary previous text = @atBoundary asciiSpeechLibrary previous text :=
  congrArg (previous != ·) (head_isWord_eq h)

theorem filter_boundary_eq {literal : String} (hliteral : IsAscii literal.toList) (h : IsAscii text) :
    ((afterLiteral literal text).filter (atBoundary (literal.toList.getLast?.any library.isWord))) =
      ((afterLiteral literal text).filter
        (@atBoundary asciiSpeechLibrary (literal.toList.getLast?.any asciiSpeechLibrary.isWord))) := by
  cases hrest : afterLiteral literal text with
  | none => rfl
  | some rest =>
    rw [Option.filter_some, Option.filter_some, last_isWord_eq hliteral, atBoundary_eq _ (h.afterLiteral hrest)]

theorem afterLastOrdinal_eq (h : IsAscii text) :
    afterLastOrdinal text = @afterLastOrdinal asciiSpeechLibrary text := by
  have hnames : ∀ entry ∈ ordinals, IsAscii entry.1.toList := by decide
  unfold afterLastOrdinal
  generalize ordinals = entries at hnames
  induction entries with
  | nil => rfl
  | cons entry entries ih =>
    rw [List.forall_mem_cons] at hnames
    rw [List.findSome?_cons, List.findSome?_cons, ih hnames.2]
    simp only [filter_boundary_eq hnames.1 h]

theorem optionReference_eq (h : IsAscii text) :
    optionReference text = @optionReference asciiSpeechLibrary text := by
  unfold optionReference
  cases hnoun : (afterLiteral "option" text).or (afterLiteral "choice" text) with
  | none => rfl
  | some noun =>
    have hascii : IsAscii noun := by
      rcases Option.or_eq_some_iff.mp hnoun with hnoun | ⟨-, hnoun⟩ <;> exact h.afterLiteral hnoun
    have hbind : ∀ literal, (afterLiteral literal noun).bind afterLastOrdinal =
        (afterLiteral literal noun).bind (@afterLastOrdinal asciiSpeechLibrary) := by
      intro literal
      cases hrest : afterLiteral literal noun with
      | none => rfl
      | some rest => exact afterLastOrdinal_eq (hascii.afterLiteral hrest)
    simp only [Option.bind_eq_bind, Option.bind_some, hbind]

theorem ordinalReference_eq (h : IsAscii text) :
    ordinalReference text = @ordinalReference asciiSpeechLibrary text := by
  have hnouns : ∀ word ∈ ["option", "choice", "one"], IsAscii word.toList := by decide
  unfold ordinalReference
  congr 1
  funext entry
  cases hname : afterLiteral entry.1 text with
  | none => simp [hname]
  | some rest =>
    have hrest := h.afterLiteral hname
    cases hspace : afterLiteral " " rest with
    | none => simp [hname, hspace]
    | some noun =>
      have hascii := hrest.afterLiteral hspace
      have hfilters : ∀ word ∈ ["option", "choice", "one"],
          (afterLiteral word noun).filter (atBoundary (word.toList.getLast?.any library.isWord)) =
            (afterLiteral word noun).filter
              (@atBoundary asciiSpeechLibrary (word.toList.getLast?.any asciiSpeechLibrary.isWord)) :=
        fun word hword ↦ filter_boundary_eq (hnouns word hword) hascii
      simp only [List.forall_mem_cons] at hfilters
      obtain ⟨hoption, hchoice, hone, -⟩ := hfilters
      simp only [hname, hspace, Option.bind_eq_bind, Option.bind_some, List.findSome?_cons, hoption, hchoice,
        hone]
      rfl

theorem findOrdinals_eq {pattern reference : List Char → Option (ℕ × List Char)}
    (hpattern : ∀ text, IsAscii text → pattern text = reference text) (skip : ℕ) (previous : Bool)
    (h : IsAscii text) :
    findOrdinals pattern skip previous text = @findOrdinals asciiSpeechLibrary reference skip previous text := by
  induction text generalizing skip previous with
  | nil => cases skip <;> rfl
  | cons c text ih =>
    obtain ⟨hc, htext⟩ := h.of_cons
    cases skip with
    | succ skip =>
      unfold findOrdinals
      rw [isWord_eq hc]
      exact ih skip _ htext
    | zero =>
      unfold findOrdinals
      rw [atBoundary_eq previous h, hpattern _ h, isWord_eq hc]
      simp only [ih _ _ htext]

theorem choiceOrdinals_eq {value : String} (h : IsAscii value.toList) :
    choiceOrdinals value = @choiceOrdinals asciiSpeechLibrary value := by
  unfold choiceOrdinals
  rw [findOrdinals_eq (fun _ ↦ optionReference_eq) 0 false h,
    findOrdinals_eq (fun _ ↦ ordinalReference_eq) 0 false h]

theorem replaceWord_eq {word replacement : String} (hword : IsAscii word.toList) (skip : ℕ) (previous : Bool)
    (h : IsAscii text) :
    replaceWord word replacement skip previous text =
      @replaceWord asciiSpeechLibrary word replacement skip previous text := by
  induction text generalizing skip previous with
  | nil => cases skip <;> rfl
  | cons c text ih =>
    obtain ⟨hc, htext⟩ := h.of_cons
    cases skip with
    | succ skip =>
      unfold replaceWord
      rw [isWord_eq hc]
      exact ih skip _ htext
    | zero =>
      have hmatched : ((afterLiteral word (c :: text)).filter fun after ↦
          atBoundary previous (c :: text) && atBoundary (word.toList.getLast?.any library.isWord) after) =
          ((afterLiteral word (c :: text)).filter fun after ↦
            @atBoundary asciiSpeechLibrary previous (c :: text) &&
              @atBoundary asciiSpeechLibrary (word.toList.getLast?.any asciiSpeechLibrary.isWord) after) := by
        cases hrest : afterLiteral word (c :: text) with
        | none => rfl
        | some rest =>
          rw [Option.filter_some, Option.filter_some, last_isWord_eq hword, atBoundary_eq _ h,
            atBoundary_eq _ (h.afterLiteral hrest)]
      unfold replaceWord
      simp only [hmatched, isWord_eq hc, ih _ _ htext]

theorem normalizeAnswer_eq {value : String} (h : IsAscii value.toList) :
    normalizeAnswer value = @normalizeAnswer asciiSpeechLibrary value := by
  have hfold : (TextLibrary.casefold value).toList = value.toList.map Char.toLower := by
    rw [LawfulSpeech.casefold_ascii value h, String.toList_map]
  have hascii := h.map_toLower
  unfold normalizeAnswer
  rw [hfold]
  have hfoldAscii : (@TextLibrary.casefold asciiSpeechLibrary.toTextLibrary value).toList =
      value.toList.map Char.toLower := String.toList_map
  rw [hfoldAscii]
  have hkept : ((value.toList.map Char.toLower).filter fun c ↦
      library.isWord c || isSpace c || c = apostrophe || c = '-') =
      ((value.toList.map Char.toLower).filter fun c ↦
        asciiSpeechLibrary.isWord c || isSpace c || c = apostrophe || c = '-') := by
    refine List.filter_congr fun c hc ↦ ?_
    rw [isWord_eq (hascii c hc)]
  simp only
  rw [hkept, replaceWord_eq (by decide) 0 false fun c hc ↦ hascii c (List.mem_filter.mp hc).1]

/-! ### Offers -/

/-- The reply that takes the choice of this index by its number. -/
def offeredReply (index : ℕ) : String := s!"option {index + 1}"

omit library [LawfulSpeech] in
theorem isAscii_offeredReply {index : ℕ} (h : index < 10) : IsAscii (offeredReply index).toList := by
  have hall : ∀ index < 10, IsAscii (offeredReply index).toList := by decide +kernel
  exact hall index h

theorem normalizeAnswer_offeredReply {index : ℕ} (h : index < 10) :
    normalizeAnswer (offeredReply index) = offeredReply index := by
  have hall : ∀ index < 10, @normalizeAnswer asciiSpeechLibrary (offeredReply index) = offeredReply index := by
    decide +kernel
  rw [normalizeAnswer_eq (isAscii_offeredReply h), hall index h]

theorem questionControl_offeredReply {index : ℕ} (h : index < 10) :
    questionControl (offeredReply index) = none := by
  have hall : ∀ index < 10,
      offeredReply index ∉ ["repeat", "repeat that", "say that again", "what was that"] ∧
        offeredReply index ∉ ["answer later", "i'll answer later", "ill answer later", "ask me later", "later"] := by
    decide +kernel
  unfold questionControl
  simp only [normalizeAnswer_offeredReply h]
  rw [if_neg (hall index h).1, if_neg (hall index h).2]

/-- Only the first five numbers are ordinals. -/
theorem choiceOrdinals_offeredReply {index : ℕ} (h : index < 10) :
    choiceOrdinals (offeredReply index) = if index < 5 then [index] else [] := by
  have hall : ∀ index < 10, @choiceOrdinals asciiSpeechLibrary (offeredReply index) =
      if index < 5 then [index] else [] := by decide +kernel
  rw [choiceOrdinals_eq (isAscii_offeredReply h), hall index h]

end

section

variable [SpeechLibrary] {question : VoiceQuestion} {choice : Choice} {normalized : String} {index : ℕ}

/-- A valid question has at most ten choices, different ones, with labels. -/
structure Offered (question : VoiceQuestion) : Prop where
  length : question.choices.length ≤ 10
  nodup : question.choices.Nodup
  label : ∀ choice ∈ question.choices, choice.label ≠ ""

theorem offered_of_valid (hvalid : runGuards question.specGuards = .ok ()) : Offered question := by
  rw [runGuards_eq_ok_iff] at hvalid
  unfold VoiceQuestion.specGuards at hvalid
  simp only [List.forall_mem_append, List.forall_mem_cons, List.not_mem_nil, false_imp_iff, implies_true,
    and_true, List.mem_flatMap, forall_exists_index, and_imp] at hvalid
  obtain ⟨⟨⟨-, -, hlength, -⟩, hchoices⟩, hids⟩ := hvalid
  rw [decide_eq_false_iff_not, not_lt] at hlength
  rw [Bool.not_eq_false', decide_eq_true_eq] at hids
  refine ⟨hlength, List.Nodup.of_map _ hids, fun choice hchoice hblank ↦ ?_⟩
  have hlabel := hchoices _ choice hchoice (List.mem_cons_of_mem _ List.mem_cons_self)
  rw [hblank] at hlabel
  cases hlabel

theorem nodup_namedChoices (h : Offered question) (normalized : String) :
    (namedChoices question normalized).Nodup := h.nodup.filter _

/-- No other choice is named. -/
def NamesNoOther (question : VoiceQuestion) (normalized : String) (choice : Choice) : Prop :=
  ∀ other ∈ question.choices, NamesChoice normalized other → other = choice

theorem namedChoices_eq_nil_or_singleton (h : Offered question) :
    (namedChoices question normalized = [] ∨ namedChoices question normalized = [choice]) ↔
      NamesNoOther question normalized choice := by
  constructor
  · intro hnamed other hother hnames
    have hmem := mem_namedChoices.mpr ⟨hother, hnames⟩
    rcases hnamed with hnil | hsingle
    · rw [hnil] at hmem
      cases hmem
    · rwa [hsingle, List.mem_singleton] at hmem
  · intro hothers
    have hall : ∀ other ∈ namedChoices question normalized, other = choice := by
      intro other hother
      obtain ⟨hmem, hnames⟩ := mem_namedChoices.mp hother
      exact hothers other hmem hnames
    have hnodup := nodup_namedChoices h normalized
    rcases hlist : namedChoices question normalized with _ | ⟨first, _ | ⟨second, rest⟩⟩
    · exact .inl rfl
    · rw [hlist] at hall
      exact .inr (by rw [hall first List.mem_cons_self])
    · rw [hlist] at hall hnodup
      have hsame : first = second := by
        rw [hall first List.mem_cons_self, hall second (by simp)]
      rw [hsame] at hnodup
      simp at hnodup

theorem namedChoices_eq_singleton (h : Offered question) (hchoice : choice ∈ question.choices) :
    namedChoices question normalized = [choice] ↔
      NamesChoice normalized choice ∧ NamesNoOther question normalized choice := by
  constructor
  · intro hsingle
    have hmem : choice ∈ namedChoices question normalized := by
      rw [hsingle]
      exact List.mem_singleton_self _
    exact ⟨(mem_namedChoices.mp hmem).2, (namedChoices_eq_nil_or_singleton h).mp (.inr hsingle)⟩
  · rintro ⟨hnames, hothers⟩
    refine ((namedChoices_eq_nil_or_singleton h).mpr hothers).resolve_left fun hnil ↦ ?_
    have hmem := mem_namedChoices.mpr ⟨hchoice, hnames⟩
    rw [hnil] at hmem
    cases hmem

/-! ### Taking an offer -/

/-- The choice is taken by its number and by its label, each said as it is offered. -/
structure OfferTaken (question : VoiceQuestion) (index : ℕ) (choice : Choice) : Prop where
  byNumber : ∀ answer, Accepts question answer (some (offeredReply index)) .userVoice choice
  byLabel : ∀ answer, Accepts question answer (some choice.label) .userVoice choice

/-- Nothing gets in the way of the choice: its number is one of the first five or its own name, no other choice
is named by the number or the label, the label is no control, and has no ordinal of another choice. -/
structure Takable (question : VoiceQuestion) (index : ℕ) (choice : Choice) : Prop where
  number : index < 5 ∨ NamesChoice (offeredReply index) choice
  numberOnly : NamesNoOther question (offeredReply index) choice
  control : questionControl choice.label = none
  labelOnly : NamesNoOther question (normalizeAnswer choice.label) choice
  ordinal : choiceOrdinals (normalizeAnswer choice.label) = [] ∨
    choiceOrdinals (normalizeAnswer choice.label) = [index]

omit [SpeechLibrary] in
theorem offeredReply_ne_empty (index : ℕ) : offeredReply index ≠ "" := by
  intro hempty
  have hlength := congrArg String.length hempty
  rw [offeredReply] at hlength
  simp at hlength

omit [SpeechLibrary] in
theorem saidAnswer_of_trusted {said : String} (h : said ≠ "") (answer : String) :
    saidAnswer answer (some said) = said := by
  unfold saidAnswer orElse truthy
  simp [h]

theorem accepts_number_iff [LawfulSpeech] (h : Offered question) (hkind : question.kind = .multipleChoice)
    (hchoice : question.choices[index]? = some choice) :
    (∀ answer, Accepts question answer (some (offeredReply index)) .userVoice choice) ↔
      (index < 5 ∨ NamesChoice (offeredReply index) choice) ∧
        NamesNoOther question (offeredReply index) choice := by
  obtain ⟨hlength, -⟩ := List.getElem?_eq_some_iff.mp hchoice
  have hindex : index < 10 := hlength.trans_le h.length
  have hmem := List.mem_of_getElem? hchoice
  have hsaid := saidAnswer_of_trusted (offeredReply_ne_empty index)
  have hmatched : matchedChoices question (offeredReply index) = some [choice] ↔
      (index < 5 ∨ NamesChoice (offeredReply index) choice) ∧
        NamesNoOther question (offeredReply index) choice := by
    rw [matchedChoices_eq_singleton_iff, choiceOrdinals_offeredReply hindex]
    by_cases hfive : index < 5
    · simp only [hfive, if_true, List.cons_ne_nil, false_and, false_or, List.cons.injEq, and_true, true_or,
        true_and, exists_eq_left', hchoice, namedChoices_eq_nil_or_singleton h]
    · simp only [hfive, if_false, true_and, false_or, List.nil_eq, List.cons_ne_nil, false_and, exists_const,
        or_false, namedChoices_eq_singleton h hmem]
  constructor
  · intro haccepts
    have haccepted := (accepts_iff hkind (by decide)).mp (haccepts "")
    rw [normalizedAnswer, hsaid, normalizeAnswer_offeredReply hindex] at haccepted
    exact hmatched.mp haccepted.2
  · intro htakable answer
    refine (accepts_iff hkind (by decide)).mpr ?_
    rw [normalizedAnswer, hsaid, normalizeAnswer_offeredReply hindex]
    exact ⟨questionControl_offeredReply hindex, hmatched.mpr htakable⟩

theorem accepts_label_iff (h : Offered question) (hkind : question.kind = .multipleChoice)
    (hchoice : question.choices[index]? = some choice) :
    (∀ answer, Accepts question answer (some choice.label) .userVoice choice) ↔
      questionControl choice.label = none ∧ NamesNoOther question (normalizeAnswer choice.label) choice ∧
        (choiceOrdinals (normalizeAnswer choice.label) = [] ∨
          choiceOrdinals (normalizeAnswer choice.label) = [index]) := by
  have hmem := List.mem_of_getElem? hchoice
  have hsaid := saidAnswer_of_trusted (h.label choice hmem)
  have hnames : NamesChoice (normalizeAnswer choice.label) choice := .inr rfl
  have hmatched : matchedChoices question (normalizeAnswer choice.label) = some [choice] ↔
      NamesNoOther question (normalizeAnswer choice.label) choice ∧
        (choiceOrdinals (normalizeAnswer choice.label) = [] ∨
          choiceOrdinals (normalizeAnswer choice.label) = [index]) := by
    rw [matchedChoices_eq_singleton_iff, namedChoices_eq_nil_or_singleton h, namedChoices_eq_singleton h hmem]
    constructor
    · rintro (⟨hnil, -, hothers⟩ | ⟨ordinal, hordinal, hfound, hothers⟩)
      · exact ⟨hothers, .inl hnil⟩
      · obtain ⟨hlength, -⟩ := List.getElem?_eq_some_iff.mp hchoice
        have hsame : index = ordinal := (List.getElem?_inj hlength h.nodup).mp (hchoice.trans hfound.symm)
        exact ⟨hothers, .inr (hsame ▸ hordinal)⟩
    · rintro ⟨hothers, hnil | hordinal⟩
      · exact .inl ⟨hnil, hnames, hothers⟩
      · exact .inr ⟨index, hordinal, hchoice, hothers⟩
  constructor
  · intro haccepts
    have haccepted := (accepts_iff hkind (by decide)).mp (haccepts "")
    rw [normalizedAnswer, hsaid] at haccepted
    exact ⟨haccepted.1, hmatched.mp haccepted.2⟩
  · rintro ⟨hcontrol, htakable⟩ answer
    refine (accepts_iff hkind (by decide)).mpr ?_
    rw [normalizedAnswer, hsaid]
    exact ⟨hcontrol, hmatched.mpr htakable⟩

/-- Every offered choice can be taken by its number and by its label exactly when nothing gets in the way of any
of them. -/
theorem offersTaken_iff [LawfulSpeech] (question : VoiceQuestion) (hkind : question.kind = .multipleChoice)
    (hvalid : runGuards question.specGuards = .ok ()) :
    (∀ index choice, question.choices[index]? = some choice → OfferTaken question index choice) ↔
      ∀ index choice, question.choices[index]? = some choice → Takable question index choice := by
  have hoffered := offered_of_valid hvalid
  refine forall_congr' fun index ↦ forall_congr' fun choice ↦ forall_congr' fun hchoice ↦ ?_
  have hnumber := accepts_number_iff hoffered hkind hchoice
  have hlabel := accepts_label_iff hoffered hkind hchoice
  constructor
  · intro h
    obtain ⟨hfive, hnumberOnly⟩ := hnumber.mp h.byNumber
    obtain ⟨hcontrol, hlabelOnly, hordinal⟩ := hlabel.mp h.byLabel
    exact ⟨hfive, hnumberOnly, hcontrol, hlabelOnly, hordinal⟩
  · intro h
    exact ⟨hnumber.mpr ⟨h.number, h.numberOnly⟩, hlabel.mpr ⟨h.control, h.labelOnly, h.ordinal⟩⟩

end

section

attribute [local instance] asciiSpeechLibrary

instance lawfulSpeech_ascii : @LawfulSpeech asciiSpeechLibrary :=
  @LawfulSpeech.mk asciiSpeechLibrary (fun _ _ ↦ rfl) fun _ _ ↦ rfl

theorem offersTaken_iff_two :
    (choiceQuestion ["Blue", "Green"]).choices = [⟨"1", "Blue"⟩, ⟨"2", "Green"⟩] ∧
      ∀ index choice, (choiceQuestion ["Blue", "Green"]).choices[index]? = some choice →
        OfferTaken (choiceQuestion ["Blue", "Green"]) index choice := by
  have hchoices : (choiceQuestion ["Blue", "Green"]).choices = [⟨"1", "Blue"⟩, ⟨"2", "Green"⟩] := by
    decide +kernel
  refine ⟨hchoices,
    (offersTaken_iff _ rfl (by decide +kernel)).mpr fun index choice hchoice ↦ ?_⟩
  rw [hchoices] at hchoice
  rcases index with _ | _ | index
  · cases hchoice
    refine ⟨.inl (by decide), ?_, by decide +kernel, ?_, .inl (by decide +kernel)⟩ <;>
    · unfold NamesNoOther
      rw [hchoices]
      decide +kernel
  · cases hchoice
    refine ⟨.inl (by decide), ?_, by decide +kernel, ?_, .inl (by decide +kernel)⟩ <;>
    · unfold NamesNoOther
      rw [hchoices]
      decide +kernel
  · cases hchoice

/-- The sixth choice is offered as "option 6", and is not taken by it. -/
theorem not_offersTaken_six :
    runGuards (choiceQuestion ["Blue", "Green", "Red", "Black", "White", "Grey"]).guards = .ok () ∧
      (choiceQuestion ["Blue", "Green", "Red", "Black", "White", "Grey"]).choices[5]? = some ⟨"6", "Grey"⟩ ∧
      ¬ OfferTaken (choiceQuestion ["Blue", "Green", "Red", "Black", "White", "Grey"]) 5 ⟨"6", "Grey"⟩ := by
  refine ⟨by decide +kernel, by decide +kernel, fun h ↦ ?_⟩
  have hambiguous : ¬ Accepts (choiceQuestion ["Blue", "Green", "Red", "Black", "White", "Grey"]) ""
      (some (offeredReply 5)) .userVoice ⟨"6", "Grey"⟩ := by
    unfold Accepts
    decide +kernel
  exact hambiguous (h.byNumber "")

end

end VoiceHarness
