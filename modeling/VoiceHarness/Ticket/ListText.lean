import VoiceHarness.Ticket.NumberText
import VoiceHarness.Ticket.ScopedItems

/-!
# Renderings of ticket lists

A list of tickets and ranges may be spoken or typed: every number of it stands in digits or as a standard
English cardinal. The same items come out, except where a hyphen between two numbers in words is taken for one
inside a number.
-/

set_option autoImplicit false
set_option relaxedAutoImplicit false

namespace VoiceHarness

open NumberWord SpokenNumber

/-- The digits of ASCII are its ten digits; white space and dashes are no digits, and dashes no word
characters. -/
class LawfulDigits [DigitLibrary] : Prop extends LawfulWords where
  digit_ascii : ∀ c : Char, c.val < 128 →
    DigitLibrary.digit c = if c.isDigit then some (c.toNat - 48) else none
  digit_space : ∀ c, isSpace c = true → DigitLibrary.digit c = none
  digit_dash : ∀ c, isRangeDash c = true → DigitLibrary.digit c = none
  isWord_dash : ∀ c, isRangeDash c = true → SpeechLibrary.isWord c = false

/-! ### Characters -/

theorem val_lt_of_isDigit {c : Char} (h : c.isDigit = true) : c.val < 128 := by
  simp only [Char.isDigit, Bool.and_eq_true, decide_eq_true_eq] at h
  exact UInt32.lt_of_le_of_lt h.2 (by decide)

/-- The character is no space, comma, ampersand or hash. -/
structure Opens (c : Char) : Prop where
  space : isSpace c = false
  comma : c ≠ ','
  ampersand : c ≠ '&'
  hash : c ≠ '#'
  dash : isRangeDash c = false

theorem opens_of_ascii {c : Char} (h : c.isAlphanum = true) : Opens c := by
  have hother : ∀ other : Char, other.isAlphanum = false → c ≠ other := by
    rintro other hother rfl
    rw [h] at hother
    cases hother
  refine ⟨?_, hother ',' (by decide), hother '&' (by decide), hother '#' (by decide), ?_⟩
  · by_contra hspace
    rw [Bool.not_eq_false] at hspace
    simp only [isSpace, List.mem_cons, List.not_mem_nil, or_false, Bool.or_eq_true, decide_eq_true_eq,
      Bool.and_eq_true, ← UInt32.toNat_inj, UInt32.le_iff_toNat_le] at hspace
    simp only [Char.isAlphanum, Char.isAlpha, Char.isUpper, Char.isLower, Char.isDigit, Bool.or_eq_true,
      Bool.and_eq_true, decide_eq_true_eq, UInt32.le_iff_toNat_le] at h
    simp at hspace h
    omega
  · simp [isRangeDash, hother '-' (by decide), hother enDash (by decide), hother emDash (by decide)]

theorem isAlphanum_of_toLower {c : Char} (h : c.toLower.isLower = true) : c.isAlphanum = true := by
  rw [Char.isAlphanum, isAlpha_of_toLower h, Bool.true_or]

theorem isAlphanum_of_isDigit {c : Char} (h : c.isDigit = true) : c.isAlphanum = true := by
  rw [Char.isAlphanum, h, Bool.or_true]

theorem not_isLower_of_isDigit {c : Char} (h : c.isDigit = true) : c.toLower.isLower = false := by
  by_contra hlower
  rw [Bool.not_eq_false] at hlower
  have halpha := isAlpha_of_toLower hlower
  simp only [Char.isAlpha, Char.isUpper, Char.isLower, Char.isDigit, Bool.or_eq_true, Bool.and_eq_true,
    decide_eq_true_eq, UInt32.le_iff_toNat_le] at h halpha
  simp at h halpha
  omega

/-- No letter matches a digit. -/
theorem sameLetter_of_isDigit {letter c : Char} (hletter : letter.isLower = true) (h : c.isDigit = true) :
    sameLetter letter c = false := by
  have hother : ∀ other : Char, other.isDigit = false → c ≠ other := by
    rintro other hother rfl
    rw [h] at hother
    cases hother
  have hlower : c.toLower ≠ letter := by
    rintro rfl
    rw [not_isLower_of_isDigit h] at hletter
    cases hletter
  simp [sameLetter, hlower, hother dottedI (by decide), hother dotlessI (by decide),
    hother longS (by decide), hother kelvinSign (by decide)]

/-- Only its own spelling matches a word of ASCII letters. -/
theorem eq_map_of_matched {spelling letters : List Char} (hlower : ∀ c ∈ letters, c.toLower.isLower = true)
    (h : List.Forall₂ (fun letter c ↦ sameLetter letter c = true) spelling letters) :
    spelling = letters.map Char.toLower := by
  induction h with
  | nil => rfl
  | cons hhead _ ih =>
    rw [List.forall_mem_cons] at hlower
    rw [List.map_cons, ← (sameLetter_of_toLower hlower.1).mp hhead, ih hlower.2]

section

variable [SpeechLibrary]

/-- A text that starts with what no letter matches starts with no number word. -/
theorem numberWordAt_cons_eq_none {c : Char} {rest : List Char}
    (h : ∀ letter : Char, letter.isLower = true → sameLetter letter c = false) :
    numberWordAt (c :: rest) = none := by
  by_contra hsome
  obtain ⟨⟨word, after⟩, hword⟩ := Option.ne_none_iff_exists'.mp hsome
  obtain ⟨entry, hentry, matched, htext, hne, hsame, -, -⟩ := numberWordAt_eq_some hword
  obtain ⟨first, matched, rfl⟩ := List.exists_cons_of_ne_nil hne
  cases htext
  cases hletters : entry.1.toList with
  | nil => exact spelling_ne_nil entry hentry hletters
  | cons letter letters =>
    rw [hletters] at hsame
    cases hsame with
    | cons hhead _ =>
      rw [h letter (isLower_of_mem_table entry hentry letter (hletters ▸ List.mem_cons_self))] at hhead
      cases hhead

theorem numberWordAt_nil : numberWordAt [] = none := by
  by_contra hsome
  obtain ⟨⟨word, after⟩, hword⟩ := Option.ne_none_iff_exists'.mp hsome
  have hlength := length_lt_of_numberWordAt hword
  simp at hlength

theorem sameLetter_of_not_isWord [LawfulWords] {letter c : Char} (h : SpeechLibrary.isWord c = false)
    (hletter : letter.isLower = true) : sameLetter letter c = false := by
  by_contra hsame
  rw [Bool.not_eq_false] at hsame
  rw [isWord_of_sameLetter hletter hsame] at h
  cases h

/-- A word that is none of a number is read as none. -/
theorem numberWordAt_eq_none_of_letters [LawfulWords] {letters rest : List Char}
    (hlower : ∀ c ∈ letters, c.toLower.isLower = true) (hrest : atBoundary true rest = true)
    (h : ∀ entry ∈ table, entry.1.toList ≠ letters.map Char.toLower) :
    numberWordAt (letters ++ rest) = none := by
  by_contra hsome
  obtain ⟨⟨word, after⟩, hword⟩ := Option.ne_none_iff_exists'.mp hsome
  obtain ⟨entry, hentry, matched, htext, hne, hsame, hboundary, -⟩ := numberWordAt_eq_some hword
  have hletters : ∀ c ∈ letters, SpeechLibrary.isWord c = true := fun c hc ↦
    isWord_of_sameLetter (hlower c hc) ((sameLetter_of_toLower (hlower c hc)).mpr rfl)
  have hall : letters = matched := by
    rw [← takeWhile_isWord hletters hrest, htext,
      takeWhile_isWord (isWord_of_matched (isLower_of_mem_table entry hentry) hsame) hboundary]
  subst hall
  exact h entry hentry (eq_map_of_matched hlower hsame)

end

/-! ### Numerals -/

theorem isDigit_of_mem_digits {value : ℕ} {c : Char} (h : c ∈ Nat.toDigits 10 value) : c.isDigit = true :=
  Nat.isDigit_of_mem_toDigits (by decide) le_rfl h

theorem withoutHash_of_opens {c : Char} (h : Opens c) (more : List Char) :
    withoutHash (c :: more) = c :: more := by
  unfold withoutHash
  split
  · next hhash =>
    cases hhash
    exact absurd rfl h.hash
  · rfl

/-- A number in digits, or in words as they are written. -/
structure Numeral where
  value : ℕ
  spoken : Option (List NumberWord × List Char)
  range : 0 < value ∧ value < 1000000
  standard : ∀ held ∈ spoken, Cardinal true value held.1 ∧ Written held.1 held.2

namespace Numeral

def text (number : Numeral) : List Char :=
  match number.spoken with
  | none => Nat.toDigits 10 number.value
  | some (_, written) => written

def inDigits (number : Numeral) : Numeral where
  value := number.value
  spoken := none
  range := number.range
  standard := by simp

theorem text_of_none {number : Numeral} (h : number.spoken = none) :
    number.text = Nat.toDigits 10 number.value := by
  rw [text, h]

theorem text_of_some {number : Numeral} {words : List NumberWord} {written : List Char}
    (h : number.spoken = some (words, written)) : number.text = written := by
  rw [text, h]

theorem exists_digit {number : Numeral} (h : number.spoken = none) :
    ∃ c more, number.text = c :: more ∧ c.isDigit = true := by
  rw [text_of_none h]
  obtain ⟨c, more, hdigits⟩ := List.exists_cons_of_ne_nil (@Nat.toDigits_ne_nil number.value 10)
  have hmem : c ∈ Nat.toDigits 10 number.value := hdigits ▸ List.mem_cons_self
  exact ⟨c, more, hdigits, isDigit_of_mem_digits hmem⟩

theorem exists_letter {number : Numeral} {words : List NumberWord} {written : List Char}
    (h : number.spoken = some (words, written)) :
    ∃ c more, number.text = c :: more ∧ c.toLower.isLower = true := by
  rw [text_of_some h]
  exact (number.standard _ h).2.exists_head

theorem exists_opens (number : Numeral) : ∃ c more, number.text = c :: more ∧ Opens c := by
  cases h : number.spoken with
  | none =>
    obtain ⟨c, more, htext, hdigit⟩ := exists_digit h
    exact ⟨c, more, htext, opens_of_ascii (isAlphanum_of_isDigit hdigit)⟩
  | some held =>
    obtain ⟨c, more, htext, hlower⟩ := exists_letter h
    exact ⟨c, more, htext, opens_of_ascii (isAlphanum_of_toLower hlower)⟩

end Numeral

section

variable [DigitLibrary] [LawfulDigits] {rest : List Char}

theorem digit_of_isDigit {c : Char} (h : c.isDigit = true) :
    DigitLibrary.digit c = some (c.toNat - 48) := by
  rw [LawfulDigits.digit_ascii c (val_lt_of_isDigit h), if_pos h]

theorem isDecimal_of_isDigit {c : Char} (h : c.isDigit = true) : isDecimal c = true := by
  rw [isDecimal, digit_of_isDigit h]
  rfl

theorem not_isDecimal_of_toLower {c : Char} (h : c.toLower.isLower = true) : isDecimal c = false := by
  have hdigit : c.isDigit = false := by
    by_contra hdigit
    rw [Bool.not_eq_false] at hdigit
    rw [not_isLower_of_isDigit hdigit] at h
    cases h
  rw [isDecimal, LawfulDigits.digit_ascii c (val_lt_of_isAlpha (isAlpha_of_toLower h)), hdigit]
  rfl

theorem foldl_digits {digits : List Char} (h : ∀ c ∈ digits, c.isDigit = true) (value : ℕ) :
    digits.foldl (fun value c ↦ value * 10 + (DigitLibrary.digit c).getD 0) value =
      digits.foldl (fun value c ↦ 10 * value + (c.toNat - '0'.toNat)) value := by
  induction digits generalizing value with
  | nil => rfl
  | cons c digits ih =>
    rw [List.forall_mem_cons] at h
    rw [List.foldl_cons, List.foldl_cons, digit_of_isDigit h.1, ih h.2, Option.getD_some, Nat.mul_comm]
    rfl

theorem readDigits_toDigits (value : ℕ) : readDigits (Nat.toDigits 10 value) = value := by
  rw [readDigits, foldl_digits fun c hc ↦ isDigit_of_mem_digits hc, ← Nat.ofDigitChars_eq_foldl,
    Nat.ofDigitChars_ten_toDigits]

/-- A number is read up to what follows it. -/
theorem Numeral.read (number : Numeral) (hdigit : rest.head?.any isDecimal = false)
    (hspoken : number.spoken ≠ none → atBoundary true rest = true ∧
      numberWordAt (rest.dropWhile isNumberSeparator) = none) :
    numberAt false (number.text ++ rest) = some (number.value, rest) := by
  unfold numberAt
  cases h : number.spoken with
  | none =>
    have hdecimal : ∀ c ∈ Nat.toDigits 10 number.value, isDecimal c = true :=
      fun c hc ↦ isDecimal_of_isDigit (isDigit_of_mem_digits hc)
    obtain ⟨c, more, htext, hc⟩ := exists_digit h
    have hrest : rest.takeWhile isDecimal = [] ∧ rest.dropWhile isDecimal = rest := by
      cases rest with
      | nil => exact ⟨rfl, rfl⟩
      | cons first rest =>
        rw [List.head?_cons, Option.any_some] at hdigit
        rw [List.takeWhile_cons_of_neg (by simp [hdigit]), List.dropWhile_cons_of_neg (by simp [hdigit])]
        exact ⟨rfl, rfl⟩
    have hdigits : digitsAt (withoutHash (number.text ++ rest)) = some (number.value, rest) := by
      rw [htext, List.cons_append, withoutHash_of_opens (opens_of_ascii (isAlphanum_of_isDigit hc)),
        ← List.cons_append, ← htext, digitsAt, htext, List.cons_append, List.head?_cons, Option.any_some,
        isDecimal_of_isDigit hc, if_pos rfl, ← List.cons_append, ← htext, text_of_none h,
        List.takeWhile_append_of_pos hdecimal, List.dropWhile_append_of_pos hdecimal, hrest.1, hrest.2,
        List.append_nil, readDigits_toDigits]
    rw [hdigits]
  | some held =>
    obtain ⟨words, written⟩ := held
    obtain ⟨hboundary, hnone⟩ := hspoken (by simp [h])
    obtain ⟨hcardinal, hwritten⟩ := number.standard _ h
    obtain ⟨c, more, htext, hc⟩ := exists_letter h
    have hdigits : digitsAt (withoutHash (number.text ++ rest)) = none := by
      rw [htext, List.cons_append, withoutHash_of_opens (opens_of_ascii (isAlphanum_of_toLower hc)), digitsAt,
        List.head?_cons, Option.any_some, not_isDecimal_of_toLower hc]
      rfl
    rw [hdigits, text_of_some h]
    refine spokenNumberAt_of_spells (hwritten.spells hboundary) hcardinal.loose ⟨hboundary, ?_⟩
    intro word after hword
    rw [hnone] at hword
    cases hword

/-- A number in words that runs into another one through a hyphen is not read as it stands. -/
theorem Numeral.lt_of_fused {first last : Numeral} (hfirst : first.spoken ≠ none) (hlast : last.spoken ≠ none)
    {joint : List Char} (hne : joint ≠ []) (hjoint : ∀ c ∈ joint, isNumberSeparator c = true)
    (hboundary : atBoundary true rest = true) {value : ℕ} {after : List Char}
    (h : numberAt false (first.text ++ (joint ++ (last.text ++ rest))) = some (value, after)) :
    first.value < value := by
  obtain ⟨⟨words, written⟩, hwords⟩ := Option.ne_none_iff_exists'.mp hfirst
  obtain ⟨⟨lastWords, lastWritten⟩, hlastWords⟩ := Option.ne_none_iff_exists'.mp hlast
  obtain ⟨hcardinal, hwritten⟩ := first.standard _ hwords
  obtain ⟨hlastCardinal, hlastWritten⟩ := last.standard _ hlastWords
  obtain ⟨c, more, htext, hc⟩ := exists_letter hwords
  have hdigits : digitsAt (withoutHash (first.text ++ (joint ++ (last.text ++ rest)))) = none := by
    rw [htext, List.cons_append, withoutHash_of_opens (opens_of_ascii (isAlphanum_of_toLower hc)), digitsAt,
      List.head?_cons, Option.any_some, not_isDecimal_of_toLower hc]
    rfl
  unfold numberAt at h
  rw [hdigits] at h
  obtain ⟨separator, separators, rfl⟩ := List.exists_cons_of_ne_nil hne
  have hseparator := hjoint separator List.mem_cons_self
  have hjoined : atBoundary true ((separator :: separators) ++ (last.text ++ rest)) = true := by
    rw [atBoundary, List.cons_append, List.head?_cons, Option.any_some,
      not_isWord_of_isNumberSeparator hseparator]
    rfl
  have hspells := hwritten.spells hjoined
  rw [← text_of_some hwords] at hspells
  -- the first word of the last number goes on with the first number
  have hlastSpells := hlastWritten.spells hboundary
  rw [← text_of_some hlastWords] at hlastSpells
  have hhead := hlastSpells.head
  obtain ⟨word, others, hsplit, hcount, hzero⟩ :=
    Cardinal.exists_head hlastCardinal (Nat.pos_iff_ne_zero.mp last.range.1)
  subst hsplit
  rw [List.head?_cons] at hhead
  obtain ⟨⟨head, left⟩, hfound, hword⟩ := Option.map_eq_some_iff.mp hhead.symm
  cases hword
  obtain ⟨lastC, lastMore, hlastText, hlastC⟩ := exists_letter hlastWords
  have hdrop : ((separator :: separators) ++ (last.text ++ rest)).dropWhile isNumberSeparator =
      last.text ++ rest := by
    rw [hlastText, List.cons_append]
    exact dropWhile_separator hjoint hlastC _
  have hhyphen : ((separator :: separators) ++ (last.text ++ rest)).head?.any isNumberSeparator = true := by
    rw [List.cons_append, List.head?_cons, Option.any_some, hseparator]
  exact lt_of_spokenNumberAt hspells hcardinal.loose hhyphen (hdrop ▸ hfound) hcount hzero
    (hlastSpells.known _ List.mem_cons_self) h

end

instance lawfulDigits_ascii : @LawfulDigits asciiDigitLibrary := by
  refine @LawfulDigits.mk asciiDigitLibrary lawfulWords_letters (fun c _ ↦ rfl) (fun c hc ↦ ?_) ?_ ?_
  · refine if_neg fun hdigit ↦ ?_
    have hspace := (opens_of_ascii (isAlphanum_of_isDigit hdigit)).space
    rw [hc] at hspace
    cases hspace
  · intro c hdash
    simp only [isRangeDash, List.mem_cons, List.not_mem_nil, or_false, decide_eq_true_eq] at hdash
    rcases hdash with rfl | rfl | rfl <;> decide
  · intro c hdash
    simp only [isRangeDash, List.mem_cons, List.not_mem_nil, or_false, decide_eq_true_eq] at hdash
    rcases hdash with rfl | rfl | rfl <;> decide

end VoiceHarness
