import VoiceHarness.Ticket.ListText

/-!
# Lists in digits and in words

The same list of tickets and ranges gives the same items in digits and in words, unless both ends of a range
stand in words with a hyphen between them.
-/

set_option autoImplicit false
set_option relaxedAutoImplicit false

namespace VoiceHarness

open NumberWord SpokenNumber

/-! ### Lists -/

/-- White space. -/
def Spaces (text : List Char) : Prop := ∀ c ∈ text, isSpace c = true

instance (text : List Char) : Decidable (Spaces text) :=
  inferInstanceAs (Decidable (∀ c ∈ text, isSpace c = true))

/-- What joins the ends of a range. -/
inductive RangeJoint : List Char → Prop
  | word {before after : List Char} {word : String} (hword : word ∈ ["to", "through"]) (hbefore : Spaces before)
    (hneBefore : before ≠ []) (hafter : Spaces after) (hneAfter : after ≠ []) :
    RangeJoint (before ++ word.toList ++ after)
  | dash {before after : List Char} {c : Char} (hdash : isRangeDash c = true) (hbefore : Spaces before)
    (hafter : Spaces after) : RangeJoint (before ++ c :: after)

/-- A ticket or an ascending range of at most twenty-five. -/
inductive Entry
  | single (number : Numeral)
  | range (first last : Numeral) (joint : List Char) (hjoint : RangeJoint joint)
    (hrange : first.value ≤ last.value ∧ last.value < first.value + 25)

namespace Entry

def text : Entry → List Char
  | single number => number.text
  | range first last joint _ _ => first.text ++ (joint ++ last.text)

def inDigits : Entry → Entry
  | single number => single number.inDigits
  | range first last joint hjoint hrange => range first.inDigits last.inDigits joint hjoint hrange

/-- The tickets. -/
def numbers : Entry → List ℕ
  | single number => [number.value]
  | range first last _ _ _ => List.range' first.value (last.value + 1 - first.value)

/-- A hyphen stands between two numbers in words. -/
def Fuses : Entry → Prop
  | single _ => False
  | range first last joint _ _ => first.spoken ≠ none ∧ last.spoken ≠ none ∧ '-' ∈ joint

end Entry

/-- A comma, with white space around it. -/
structure Comma where
  before : List Char
  after : List Char
  spaces : Spaces before ∧ Spaces after

def Comma.text (comma : Comma) : List Char := comma.before ++ ',' :: comma.after

/-- The entries of a list. -/
def entriesText : Entry → List (Comma × Entry) → List Char
  | entry, [] => entry.text
  | entry, (comma, next) :: others => entry.text ++ (comma.text ++ entriesText next others)

/-- A list after a plural prefix. -/
structure TicketList where
  kind : String
  gap : List Char
  first : Entry
  others : List (Comma × Entry)
  plural : kind ∈ ["issues", "tickets"]
  spaces : Spaces gap ∧ gap ≠ []

namespace TicketList

def text (list : TicketList) : List Char :=
  list.kind.toList ++ (list.gap ++ entriesText list.first list.others)

def entries (list : TicketList) : List Entry := list.first :: list.others.map (·.2)

/-- The list with every number in digits. -/
def inDigits (list : TicketList) : TicketList where
  kind := list.kind
  gap := list.gap
  first := list.first.inDigits
  others := list.others.map fun (comma, entry) ↦ (comma, entry.inDigits)
  plural := list.plural
  spaces := list.spaces

end TicketList

/-- The values and errors of items. -/
def outcomes (items : List ScopedItem) : List (Option ℕ × Option String) :=
  items.map fun item ↦ (item.value, item.error)

/-- The values of tickets, without an error. -/
def found (numbers : List ℕ) : List (Option ℕ × Option String) :=
  numbers.map fun number ↦ (some number, none)

/-! ### Separators -/

section

variable {text rest spaces : List Char}

theorem dropWhile_spaces {c : Char} (h : Spaces spaces) (hc : isSpace c = false) :
    (spaces ++ c :: rest).dropWhile isSpace = c :: rest := by
  rw [List.dropWhile_append_of_pos h]
  exact List.dropWhile_cons_of_neg (by simp [hc])

theorem Numeral.dropWhile_spaces (number : Numeral) (h : Spaces spaces) :
    (spaces ++ (number.text ++ rest)).dropWhile isSpace = number.text ++ rest := by
  obtain ⟨c, more, htext, hopens⟩ := number.exists_opens
  rw [htext, List.cons_append]
  exact VoiceHarness.dropWhile_spaces h hopens.space

theorem head_spaces (h : Spaces spaces) (hne : spaces ≠ []) : (spaces ++ rest).head?.any isSpace = true := by
  obtain ⟨c, more, rfl⟩ := List.exists_cons_of_ne_nil hne
  exact h c List.mem_cons_self

/-- What stands after white space and is no letter of a word is no separating word. -/
theorem rangeWordAt_eq_none {c : Char} (hafter : text.dropWhile isSpace = c :: rest)
    (hc : sameLetter 't' c = false) : rangeWordAt text = none := by
  unfold rangeWordAt afterSpaces
  split_ifs
  · have hletters : ∀ letters : List Char, afterLetters ('t' :: letters) (c :: rest) = none := by
      intro letters
      rw [afterLetters, hc]
      rfl
    rw [hafter, Option.bind_some]
    exact List.findSome?_eq_none_iff.mpr fun word hword ↦ by
      simp only [List.mem_cons, List.not_mem_nil, or_false] at hword
      rcases hword with rfl | rfl
      · exact congrArg (Option.bind · _) (hletters _)
      · exact congrArg (Option.bind · _) (hletters _)
  · rfl

theorem rangeDashAt_eq_some {c : Char} (hafter : text.dropWhile isSpace = c :: rest)
    (hc : isRangeDash c = true) : rangeDashAt text = some (rest.dropWhile isSpace) := by
  rw [rangeDashAt, hafter]
  exact if_pos hc

theorem rangeDashAt_eq_none {c : Char} (hafter : text.dropWhile isSpace = c :: rest)
    (hc : isRangeDash c = false) : rangeDashAt text = none := by
  rw [rangeDashAt, hafter]
  exact if_neg (by simp [hc])

theorem afterSpaces_spaces (number : Numeral) (h : Spaces spaces) (hne : spaces ≠ []) :
    afterSpaces (spaces ++ (number.text ++ rest)) = some (number.text ++ rest) := by
  rw [afterSpaces, if_pos (head_spaces h hne), number.dropWhile_spaces h]

/-- The joint of a range is read up to the last number. -/
theorem RangeJoint.read {joint : List Char} (h : RangeJoint joint) (last : Numeral) :
    rangeSeparatorAt (joint ++ (last.text ++ rest)) = some (last.text ++ rest) := by
  cases h with
  | @word before after word hword hbefore hneBefore hafter hneAfter =>
    have hspaces : afterSpaces (after ++ (last.text ++ rest)) = some (last.text ++ rest) :=
      afterSpaces_spaces last hafter hneAfter
    obtain ⟨first, letters, hletters, hfirst⟩ : ∃ first letters, word.toList = first :: letters ∧
        isSpace first = false := by
      simp only [List.mem_cons, List.not_mem_nil, or_false] at hword
      rcases hword with rfl | rfl
      · exact ⟨'t', ['o'], rfl, by decide⟩
      · exact ⟨'t', "hrough".toList, rfl, by decide⟩
    have hbeforeRead : afterSpaces (before ++ word.toList ++ after ++ (last.text ++ rest)) =
        some (word.toList ++ (after ++ (last.text ++ rest))) := by
      rw [List.append_assoc, List.append_assoc, afterSpaces, if_pos (head_spaces hbefore hneBefore), hletters,
        List.cons_append, VoiceHarness.dropWhile_spaces hbefore hfirst]
    have hwordRead : rangeWordAt (before ++ word.toList ++ after ++ (last.text ++ rest)) =
        some (last.text ++ rest) := by
      rw [rangeWordAt, hbeforeRead, Option.bind_some]
      simp only [List.mem_cons, List.not_mem_nil, or_false] at hword
      rcases hword with rfl | rfl
      · have hthrough : afterLetters "through".toList ("to".toList ++ (after ++ (last.text ++ rest))) =
          none := rfl
        have hto : afterLetters "to".toList ("to".toList ++ (after ++ (last.text ++ rest))) =
          some ("to".toList, after ++ (last.text ++ rest)) := rfl
        rw [List.findSome?_cons, hthrough, Option.bind_none, List.findSome?_cons, hto, Option.bind_some]
        simp only [hspaces]
      · have hthrough : afterLetters "through".toList ("through".toList ++ (after ++ (last.text ++ rest))) =
          some ("through".toList, after ++ (last.text ++ rest)) := rfl
        rw [List.findSome?_cons, hthrough, Option.bind_some]
        simp only [hspaces]
    rw [rangeSeparatorAt, hwordRead, Option.some_or]
  | @dash before after c hdash hbefore hafter =>
    have hspace : isSpace c = false := by
      simp only [isRangeDash, List.mem_cons, List.not_mem_nil, or_false, decide_eq_true_eq] at hdash
      rcases hdash with rfl | rfl | rfl <;> decide
    have hletter : sameLetter 't' c = false := by
      simp only [isRangeDash, List.mem_cons, List.not_mem_nil, or_false, decide_eq_true_eq] at hdash
      rcases hdash with rfl | rfl | rfl <;> decide
    have hafterDash : (before ++ c :: after ++ (last.text ++ rest)).dropWhile isSpace =
        c :: (after ++ (last.text ++ rest)) := by
      rw [List.append_assoc, List.cons_append]
      exact VoiceHarness.dropWhile_spaces hbefore hspace
    rw [rangeSeparatorAt, rangeWordAt_eq_none hafterDash hletter, Option.none_or,
      rangeDashAt_eq_some hafterDash hdash, last.dropWhile_spaces hafter]

theorem Comma.dropWhile_spaces (comma : Comma) :
    (comma.text ++ rest).dropWhile isSpace = ',' :: (comma.after ++ rest) := by
  rw [Comma.text, List.append_assoc, List.cons_append]
  exact VoiceHarness.dropWhile_spaces comma.spaces.1 (by decide)

theorem Comma.not_range (comma : Comma) : rangeSeparatorAt (comma.text ++ rest) = none := by
  rw [rangeSeparatorAt, rangeWordAt_eq_none comma.dropWhile_spaces (by decide),
    rangeDashAt_eq_none comma.dropWhile_spaces (by decide)]
  rfl

end

/-! ### What stands after a number -/

theorem isNumberSeparator_of_spaces {spaces : List Char} (h : Spaces spaces) :
    ∀ c ∈ spaces, isNumberSeparator c = true := by
  intro c hc
  rw [isNumberSeparator, h c hc, Bool.true_or]

theorem not_mem_spaces {spaces : List Char} (h : Spaces spaces) : '-' ∉ spaces :=
  fun hmem ↦ absurd (h '-' hmem) (by decide)

/-- A joint with a hyphen may as well stand inside a number. -/
theorem RangeJoint.separators {joint : List Char} (h : RangeJoint joint) (hhyphen : '-' ∈ joint) :
    joint ≠ [] ∧ ∀ c ∈ joint, isNumberSeparator c = true := by
  cases h with
  | @word before after word hword hbefore hneBefore hafter hneAfter =>
    exfalso
    simp only [List.mem_cons, List.not_mem_nil, or_false] at hword
    rcases List.mem_append.mp hhyphen with hmem | hmem
    · rcases List.mem_append.mp hmem with hmem | hmem
      · exact not_mem_spaces hbefore hmem
      · rcases hword with rfl | rfl <;> exact absurd hmem (by decide)
    · exact not_mem_spaces hafter hmem
  | @dash before after c hdash hbefore hafter =>
    have hc : c = '-' := by
      rcases List.mem_append.mp hhyphen with hmem | hmem
      · exact absurd hmem (not_mem_spaces hbefore)
      · rcases List.mem_cons.mp hmem with hc | hmem
        · exact hc.symm
        · exact absurd hmem (not_mem_spaces hafter)
    subst hc
    refine ⟨by simp, fun c hc ↦ ?_⟩
    rcases List.mem_append.mp hc with hc | hc
    · exact isNumberSeparator_of_spaces hbefore c hc
    · rcases List.mem_cons.mp hc with rfl | hc
      · decide
      · exact isNumberSeparator_of_spaces hafter c hc

/-- The end of the text, or a comma. -/
def Ends (rest : List Char) : Prop := rest = [] ∨ ∃ (comma : Comma) (more : List Char), rest = comma.text ++ more

theorem Ends.not_range {rest : List Char} (h : Ends rest) : rangeSeparatorAt rest = none := by
  rcases h with rfl | ⟨comma, more, rfl⟩
  · rfl
  · exact comma.not_range

section

variable [DigitLibrary] [LawfulDigits] {rest : List Char}

/-- No digit and no word character goes on with a number. -/
structure Halts (rest : List Char) : Prop where
  digit : rest.head?.any isDecimal = false
  boundary : atBoundary true rest = true

omit [LawfulDigits] in
theorem halts_cons {c : Char} (hdigit : DigitLibrary.digit c = none) (hword : SpeechLibrary.isWord c = false) :
    Halts (c :: rest) := by
  refine ⟨?_, ?_⟩
  · rw [List.head?_cons, Option.any_some, isDecimal, hdigit]
    rfl
  · rw [atBoundary, List.head?_cons, Option.any_some, hword]
    rfl

theorem halts_space {c : Char} (h : isSpace c = true) : Halts (c :: rest) :=
  halts_cons (LawfulDigits.digit_space c h) (LawfulWords.isWord_space c h)

theorem halts_spaces {spaces : List Char} {c : Char} (h : Spaces spaces) (hc : Halts (c :: rest)) :
    Halts (spaces ++ c :: rest) := by
  cases spaces with
  | nil => exact hc
  | cons space spaces => exact halts_space (h space List.mem_cons_self)

theorem halts_comma : Halts (',' :: rest) := by
  refine halts_cons ?_ ?_
  · rw [LawfulDigits.digit_ascii ',' (by decide)]
    rfl
  · rw [LawfulWords.isWord_ascii ',' (by decide)]
    decide

theorem numberWordAt_comma : numberWordAt (',' :: rest) = none :=
  numberWordAt_cons_eq_none fun _ hletter ↦ sameLetter_of_not_isWord (by
    rw [LawfulWords.isWord_ascii ',' (by decide)]
    decide) hletter

theorem Ends.halts (h : Ends rest) : Halts rest := by
  rcases h with rfl | ⟨comma, more, rfl⟩
  · exact ⟨rfl, rfl⟩
  · rw [Comma.text, List.append_assoc, List.cons_append]
    exact halts_spaces comma.spaces.1 halts_comma

theorem Ends.not_word (h : Ends rest) : numberWordAt (rest.dropWhile isNumberSeparator) = none := by
  rcases h with rfl | ⟨comma, more, rfl⟩
  · exact numberWordAt_nil
  · rw [Comma.text, List.append_assoc, List.cons_append,
      List.dropWhile_append_of_pos (isNumberSeparator_of_spaces comma.spaces.1),
      List.dropWhile_cons_of_neg (by decide)]
    exact numberWordAt_comma

theorem RangeJoint.halts {joint : List Char} (h : RangeJoint joint) : Halts (joint ++ rest) := by
  cases h with
  | @word before after word hword hbefore hneBefore hafter hneAfter =>
    obtain ⟨space, spaces, rfl⟩ := List.exists_cons_of_ne_nil hneBefore
    exact halts_space (hbefore space List.mem_cons_self)
  | @dash before after c hdash hbefore hafter =>
    rw [List.append_assoc, List.cons_append]
    exact halts_spaces hbefore (halts_cons (LawfulDigits.digit_dash c hdash) (LawfulDigits.isWord_dash c hdash))

/-- After the joint of a range that does not fuse no number word goes on with the first number. -/
theorem RangeJoint.not_word {joint : List Char} (h : RangeJoint joint) (last : Numeral)
    (hfuse : last.spoken ≠ none → '-' ∉ joint) :
    numberWordAt ((joint ++ (last.text ++ rest)).dropWhile isNumberSeparator) = none := by
  cases h with
  | @word before after word hword hbefore hneBefore hafter hneAfter =>
    have hlower : ∀ c ∈ word.toList, c.toLower.isLower = true := by
      simp only [List.mem_cons, List.not_mem_nil, or_false] at hword
      rcases hword with rfl | rfl <;> decide
    have htable : ∀ entry ∈ table, entry.1.toList ≠ word.toList.map Char.toLower := by
      simp only [List.mem_cons, List.not_mem_nil, or_false] at hword
      rcases hword with rfl | rfl <;> decide
    have hne : word.toList ≠ [] := by
      simp only [List.mem_cons, List.not_mem_nil, or_false] at hword
      rcases hword with rfl | rfl <;> decide
    obtain ⟨first, letters, hletters⟩ := List.exists_cons_of_ne_nil hne
    obtain ⟨space, spaces, rfl⟩ := List.exists_cons_of_ne_nil hneAfter
    have hdrop : (before ++ word.toList ++ (space :: spaces) ++ (last.text ++ rest)).dropWhile isNumberSeparator =
        word.toList ++ ((space :: spaces) ++ (last.text ++ rest)) := by
      rw [List.append_assoc, List.append_assoc, hletters, List.cons_append]
      exact dropWhile_separator (isNumberSeparator_of_spaces hbefore)
        (hlower first (hletters ▸ List.mem_cons_self)) _
    rw [hdrop]
    exact numberWordAt_eq_none_of_letters hlower (halts_space (hafter space List.mem_cons_self)).boundary htable
  | @dash before after c hdash hbefore hafter =>
    rw [List.append_assoc, List.cons_append,
      List.dropWhile_append_of_pos (isNumberSeparator_of_spaces hbefore)]
    by_cases hc : c = '-'
    · subst hc
      have hspoken : last.spoken = none := by
        by_contra hsome
        exact hfuse hsome (by simp)
      obtain ⟨first, more, htext, hdigit⟩ := Numeral.exists_digit hspoken
      have hsep : isNumberSeparator first = false := by
        have hopens := opens_of_ascii (isAlphanum_of_isDigit hdigit)
        have hhyphen : first ≠ '-' := by
          rintro rfl
          exact absurd hdigit (by decide)
        simp [isNumberSeparator, hopens.space, hhyphen]
      rw [List.dropWhile_cons_of_pos (by decide), htext, List.cons_append,
        List.dropWhile_append_of_pos (isNumberSeparator_of_spaces hafter),
        List.dropWhile_cons_of_neg (by simp [hsep])]
      exact numberWordAt_cons_eq_none fun letter hletter ↦ sameLetter_of_isDigit hletter hdigit
    · have hsep : isNumberSeparator c = false := by
        have hword := LawfulDigits.isWord_dash c hdash
        simp only [isRangeDash, List.mem_cons, List.not_mem_nil, or_false, decide_eq_true_eq] at hdash
        rcases hdash with rfl | rfl | rfl
        · exact absurd rfl hc
        · decide
        · decide
      rw [List.dropWhile_cons_of_neg (by simp [hsep])]
      exact numberWordAt_cons_eq_none fun letter hletter ↦
        sameLetter_of_not_isWord (LawfulDigits.isWord_dash c hdash) hletter

/-! ### Entries -/

/-- The first number of an entry that does not fuse is read, and then the entry. -/
theorem Entry.read (entry : Entry) (hfuse : ¬ entry.Fuses) (hrest : Ends rest) (size : ℕ) :
    ∃ value after, numberAt false (entry.text ++ rest) = some (value, after) ∧
      (itemsAt size false (entry.text ++ rest) value after).2 = rest ∧
      outcomes (itemsAt size false (entry.text ++ rest) value after).1 = found entry.numbers := by
  cases entry with
  | single number =>
    refine ⟨number.value, rest, number.read hrest.halts.digit fun _ ↦ ⟨hrest.halts.boundary, hrest.not_word⟩,
      ?_, ?_⟩
    · rw [itemsAt, hrest.not_range]
      rfl
    · rw [itemsAt, hrest.not_range]
      rfl
  | range first last joint hjoint hrange =>
    have hlast : numberAt false (last.text ++ rest) = some (last.value, rest) :=
      last.read hrest.halts.digit fun _ ↦ ⟨hrest.halts.boundary, hrest.not_word⟩
    have hsplit : (Entry.range first last joint hjoint hrange).text ++ rest =
        first.text ++ (joint ++ (last.text ++ rest)) := by
      rw [Entry.text, List.append_assoc, List.append_assoc]
    have hfirst : numberAt false (first.text ++ (joint ++ (last.text ++ rest))) =
        some (first.value, joint ++ (last.text ++ rest)) := by
      refine first.read hjoint.halts.digit fun hfirst ↦ ⟨hjoint.halts.boundary, hjoint.not_word last ?_⟩
      exact fun hlast hhyphen ↦ hfuse ⟨hfirst, hlast, hhyphen⟩
    refine ⟨first.value, joint ++ (last.text ++ rest), hsplit ▸ hfirst, ?_, ?_⟩
    · rw [itemsAt, hjoint.read last, Option.bind_some, hlast]
    · have hcount : ¬ max last.value first.value - min last.value first.value + 1 > maxTicketRangeSize := by
        rw [maxTicketRangeSize]
        omega
      have hpositive : (decide (first.value < 1) || decide (last.value < 1)) = false := by
        have hpos := first.range.1
        simp only [Bool.or_eq_false_iff, decide_eq_false_iff_not]
        omega
      rw [itemsAt, hjoint.read last, Option.bind_some, hlast]
      simp only [rangeItems, hpositive, Bool.false_eq_true, if_false, not_lt.mpr hrange.1, hcount]
      rw [outcomes, List.map_map]
      rfl

/-- Of an entry that fuses no item has its first number. -/
theorem Entry.read_of_fuses (entry : Entry) (hfuse : entry.Fuses) (hrest : Ends rest) {value : ℕ}
    {after : List Char} (h : numberAt false (entry.text ++ rest) = some (value, after)) (size : ℕ) :
    ∃ outcome, (outcomes (itemsAt size false (entry.text ++ rest) value after).1).head? = some outcome ∧
      some outcome ≠ (found entry.numbers).head? := by
  cases entry with
  | single number => exact absurd hfuse id
  | range first last joint hjoint hrange =>
    obtain ⟨hfirst, hlast, hhyphen⟩ := hfuse
    have hnumbers : (found (Entry.range first last joint hjoint hrange).numbers).head? =
        some (some first.value, none) := by
      obtain ⟨count, hcount⟩ : ∃ count, last.value + 1 - first.value = count + 1 :=
        ⟨last.value - first.value, by omega⟩
      rw [found, Entry.numbers, hcount, List.range'_succ, List.map_cons, List.head?_cons]
    have hseparators := hjoint.separators hhyphen
    rw [Entry.text, List.append_assoc, List.append_assoc] at h
    have hlt := Numeral.lt_of_fused hfirst hlast hseparators.1 hseparators.2 hrest.halts.boundary h
    rw [hnumbers, itemsAt]
    cases (rangeSeparatorAt after).bind (numberAt false) with
    | none =>
      refine ⟨_, rfl, fun hequal ↦ ?_⟩
      cases hequal
      exact Nat.lt_irrefl _ hlt
    | some found =>
      obtain ⟨final, finalRest⟩ := found
      simp only [rangeItems]
      split_ifs
      · exact ⟨_, rfl, fun hequal ↦ nomatch hequal⟩
      · exact ⟨_, rfl, fun hequal ↦ nomatch hequal⟩
      · exact ⟨_, rfl, fun hequal ↦ nomatch hequal⟩
      · obtain ⟨count, hcount⟩ : ∃ count, final + 1 - value = count + 1 := ⟨final - value, by omega⟩
        rw [hcount, List.range'_succ]
        refine ⟨_, rfl, fun hequal ↦ ?_⟩
        cases hequal
        exact Nat.lt_irrefl _ hlt

/-! ### The loop -/

omit [DigitLibrary] [LawfulDigits] in
theorem afterLetters_cons_eq_none {letter c : Char} {letters text : List Char} (h : sameLetter letter c = false) :
    afterLetters (letter :: letters) (c :: text) = none := by
  rw [afterLetters, h]
  rfl

omit [LawfulDigits] in
theorem conjunctionAt_eq_none {c : Char} {text : List Char} (h : sameLetter 'a' c = false) :
    conjunctionAt (c :: text) = none := by
  have hletters : afterLetters "and".toList (c :: text) = none := afterLetters_cons_eq_none h
  rw [conjunctionAt, hletters]
  rfl

omit [LawfulDigits] in
/-- No number starts as the conjunction does. -/
theorem Numeral.not_conjunction (number : Numeral) : conjunctionAt (number.text ++ rest) = none := by
  cases h : number.spoken with
  | none =>
    obtain ⟨c, more, htext, hdigit⟩ := exists_digit h
    rw [htext, List.cons_append]
    exact conjunctionAt_eq_none (sameLetter_of_isDigit (by decide) hdigit)
  | some held =>
    obtain ⟨words, written⟩ := held
    obtain ⟨hcardinal, hwritten⟩ := number.standard _ h
    obtain ⟨word, others, rfl, hcount, -⟩ :=
      Cardinal.exists_head hcardinal (Nat.pos_iff_ne_zero.mp number.range.1)
    have htable : ∀ entry ∈ table, entry.2.isCount = true → ∀ letters, entry.1.toList ≠ 'a' :: letters := by
      intro entry hentry
      simp only [table, List.mem_cons, List.not_mem_nil, or_false] at hentry
      rcases hentry with rfl | rfl | rfl | rfl | rfl | rfl | rfl | rfl | rfl | rfl | rfl | rfl | rfl | rfl |
        rfl | rfl | rfl | rfl | rfl | rfl | rfl | rfl | rfl | rfl | rfl | rfl | rfl | rfl | rfl | rfl |
        rfl <;> simp [isCount]
    have hhead : ∀ {letters : List Char}, WritesWord word letters → ∃ c more, letters = c :: more ∧
        sameLetter 'a' c = false := by
      intro letters hletters
      obtain ⟨c, more, rfl, hlower⟩ := hletters.exists_head
      obtain ⟨entry, hentry, rfl, hspelling⟩ := hletters
      refine ⟨c, more, rfl, ?_⟩
      by_contra hsame
      rw [Bool.not_eq_false, sameLetter_of_toLower hlower] at hsame
      rw [List.map_cons, ← hsame] at hspelling
      exact htable entry hentry hcount _ hspelling.symm
    rw [text_of_some h]
    cases hwritten with
    | last hword =>
      obtain ⟨c, more, rfl, hc⟩ := hhead hword
      exact conjunctionAt_eq_none hc
    | cons hword =>
      obtain ⟨c, more, rfl, hc⟩ := hhead hword
      exact conjunctionAt_eq_none hc

omit [DigitLibrary] [LawfulDigits] in
theorem Entry.exists_number (entry : Entry) : ∃ (number : Numeral) (more : List Char),
    entry.text = number.text ++ more := by
  cases entry with
  | single number => exact ⟨number, [], (List.append_nil _).symm⟩
  | range first last joint => exact ⟨first, joint ++ last.text, rfl⟩

omit [DigitLibrary] [LawfulDigits] in
theorem exists_number (entry : Entry) (others : List (Comma × Entry)) :
    ∃ (number : Numeral) (more : List Char), entriesText entry others = number.text ++ more := by
  obtain ⟨number, more, htext⟩ := entry.exists_number
  cases others with
  | nil => exact ⟨number, more, htext⟩
  | cons next others =>
    refine ⟨number, more ++ (next.1.text ++ entriesText next.2 others), ?_⟩
    rw [entriesText, htext, List.append_assoc]

omit [LawfulDigits] in
/-- After a comma the next entry begins. -/
theorem nextItem_comma (comma : Comma) (entry : Entry) (others : List (Comma × Entry)) :
    nextItem (comma.text ++ entriesText entry others) = some (entriesText entry others) := by
  obtain ⟨number, more, htext⟩ := exists_number entry others
  rw [nextItem, comma.dropWhile_spaces, htext]
  simp only [number.dropWhile_spaces comma.spaces.2, number.not_conjunction, Option.getD_none]

omit [DigitLibrary] [LawfulDigits] in
theorem entriesText_pos (entry : Entry) (others : List (Comma × Entry)) :
    0 < (entriesText entry others).length := by
  obtain ⟨number, more, htext⟩ := exists_number entry others
  obtain ⟨c, left, hnumber, -⟩ := number.exists_opens
  rw [htext, hnumber, List.cons_append, List.length_cons]
  omega

omit [DigitLibrary] [LawfulDigits] in
theorem Entry.found_ne_nil (entry : Entry) : found entry.numbers ≠ [] := by
  cases entry with
  | single number => exact List.cons_ne_nil _ _
  | range first last joint hjoint hrange =>
    have hlength : (found (Entry.range first last joint hjoint hrange).numbers).length ≠ 0 := by
      rw [found, Entry.numbers, List.length_map, List.length_range']
      omega
    exact fun hnil ↦ hlength (by rw [hnil]; rfl)

/-- The outcomes from the next item on. -/
def outcomesAfter (size fuel : ℕ) (rest : List Char) : List (Option ℕ × Option String) :=
  match nextItem rest with
  | none => []
  | some text => outcomes (scopedLoop size false fuel false text)

omit [LawfulDigits] in
theorem outcomes_scopedLoop_succ (size fuel : ℕ) (firstItem : Bool) {text after : List Char} {value : ℕ}
    (h : numberAt false text = some (value, after)) :
    outcomes (scopedLoop size false (fuel + 1) firstItem text) =
      outcomes (itemsAt size false text value after).1 ++
        outcomesAfter size fuel (itemsAt size false text value after).2 := by
  rw [scopedLoop, Bool.false_and, h, outcomesAfter]
  simp only
  cases nextItem (itemsAt size false text value after).2 with
  | none => exact (List.append_nil _).symm
  | some next => exact List.map_append

/-- One entry comes out as it is exactly when it does not fuse. -/
theorem outcomes_entry (size fuel : ℕ) (firstItem : Bool) (entry : Entry) (hrest : Ends rest)
    (tail : List (Option ℕ × Option String)) :
    outcomes (scopedLoop size false (fuel + 1) firstItem (entry.text ++ rest)) = found entry.numbers ++ tail ↔
      ¬ entry.Fuses ∧ outcomesAfter size fuel rest = tail := by
  by_cases hfuse : entry.Fuses
  · refine iff_of_false (fun hequal ↦ ?_) fun h ↦ h.1 hfuse
    have hhead := congrArg List.head? hequal
    rw [List.head?_append_of_ne_nil _ entry.found_ne_nil] at hhead
    cases hnumber : numberAt false (entry.text ++ rest) with
    | none =>
      rw [scopedLoop, Bool.false_and, hnumber] at hhead
      exact entry.found_ne_nil (List.head?_eq_none_iff.mp hhead.symm)
    | some read =>
      obtain ⟨value, after⟩ := read
      obtain ⟨outcome, houtcome, hne⟩ := entry.read_of_fuses hfuse hrest hnumber size
      have hitems : outcomes (itemsAt size false (entry.text ++ rest) value after).1 ≠ [] := by
        intro hnil
        rw [hnil] at houtcome
        cases houtcome
      rw [outcomes_scopedLoop_succ size fuel firstItem hnumber, List.head?_append_of_ne_nil _ hitems,
        houtcome] at hhead
      exact hne hhead
  · obtain ⟨value, after, hnumber, hafter, hitems⟩ := entry.read hfuse hrest size
    rw [outcomes_scopedLoop_succ size fuel firstItem hnumber, hafter, hitems, List.append_cancel_left_eq]
    exact (and_iff_right hfuse).symm

/-- The loop gives the tickets of the list exactly when no entry fuses. -/
theorem outcomes_scopedLoop (size fuel : ℕ) (firstItem : Bool) (entry : Entry) (others : List (Comma × Entry))
    (hfuel : (entriesText entry others).length ≤ fuel) :
    outcomes (scopedLoop size false fuel firstItem (entriesText entry others)) =
        found ((entry :: others.map (·.2)).flatMap Entry.numbers) ↔
      ∀ held ∈ entry :: others.map (·.2), ¬ held.Fuses := by
  induction others generalizing entry fuel firstItem with
  | nil =>
    have hpos := entriesText_pos entry []
    obtain ⟨fuel, rfl⟩ : ∃ less, fuel = less + 1 := ⟨fuel - 1, by omega⟩
    have hstep := outcomes_entry size fuel firstItem entry (.inl rfl) []
    have hafter : outcomesAfter size fuel [] = [] := rfl
    rw [List.append_nil, List.append_nil, hafter] at hstep
    rw [List.map_nil, List.forall_mem_singleton, List.flatMap_singleton, entriesText, hstep]
    exact and_iff_left rfl
  | cons next others ih =>
    obtain ⟨comma, next⟩ := next
    have hpos := entriesText_pos entry ((comma, next) :: others)
    obtain ⟨fuel, rfl⟩ : ∃ less, fuel = less + 1 := ⟨fuel - 1, by omega⟩
    have hends : Ends (comma.text ++ entriesText next others) := .inr ⟨comma, _, rfl⟩
    have hstep := outcomes_entry size fuel firstItem entry hends
      (found ((next :: others.map (·.2)).flatMap Entry.numbers))
    have hlength : (entriesText next others).length ≤ fuel := by
      rw [entriesText, List.length_append, List.length_append, Comma.text, List.length_append,
        List.length_cons] at hfuel
      omega
    rw [outcomesAfter, nextItem_comma] at hstep
    have hnumbers : found ((entry :: ((comma, next) :: others).map (·.2)).flatMap Entry.numbers) =
        found entry.numbers ++ found ((next :: others.map (·.2)).flatMap Entry.numbers) := by
      rw [List.map_cons, List.flatMap_cons, found, List.map_append]
      rfl
    rw [hnumbers, entriesText, hstep, ih fuel false next hlength, List.map_cons]
    simp only [List.forall_mem_cons]

end

/-! ### The prefix -/

/-- No letters as in the middle of a prefix, and none at the end that may start them. -/
structure Calm (text : List Char) : Prop where
  chain : text.IsChain fun a b ↦ sameLetter 'i' a = true → sameLetter 's' b = false ∧ sameLetter 'c' b = false
  last : ∀ c ∈ text.getLast?, sameLetter 'i' c = false

theorem Calm.append {text more : List Char} (h : Calm text) (hmore : Calm more) : Calm (text ++ more) := by
  refine ⟨List.isChain_append.mpr ⟨h.chain, hmore.chain, fun a ha b _ hsame ↦ ?_⟩, fun c hc ↦ ?_⟩
  · rw [h.last a ha] at hsame
    cases hsame
  · rw [List.getLast?_append] at hc
    cases hlast : more.getLast? with
    | none =>
      rw [hlast, Option.none_or] at hc
      exact h.last c hc
    | some last =>
      rw [hlast, Option.some_or] at hc
      cases hc
      exact hmore.last c hlast

theorem calm_of_forall {text : List Char} (h : ∀ c ∈ text, sameLetter 'i' c = false) : Calm text := by
  refine ⟨?_, fun c hc ↦ h c (List.mem_of_mem_getLast? hc)⟩
  induction text with
  | nil => exact .nil
  | cons c text ih =>
    rw [List.forall_mem_cons] at h
    refine List.isChain_cons.mpr ⟨fun b _ hsame ↦ ?_, ih h.2⟩
    rw [h.1] at hsame
    cases hsame

theorem chain_letters {letters : List Char} (hlower : ∀ c ∈ letters, c.toLower.isLower = true)
    (h : (letters.map Char.toLower).IsChain fun a b ↦ a = 'i' → b ≠ 's' ∧ b ≠ 'c') :
    letters.IsChain fun a b ↦ sameLetter 'i' a = true → sameLetter 's' b = false ∧ sameLetter 'c' b = false := by
  induction letters with
  | nil => exact .nil
  | cons c letters ih =>
    rw [List.forall_mem_cons] at hlower
    rw [List.map_cons, List.isChain_cons] at h
    refine List.isChain_cons.mpr ⟨fun b hb hsame ↦ ?_, ih hlower.2 h.2⟩
    have hbLower := hlower.2 b (List.mem_of_mem_head? hb)
    have hnext := h.1 b.toLower (by rw [List.head?_map, hb]; rfl)
      ((sameLetter_of_toLower hlower.1).mp hsame).symm
    constructor
    · by_contra hs
      rw [Bool.not_eq_false, sameLetter_of_toLower hbLower] at hs
      exact hnext.1 hs.symm
    · by_contra hc
      rw [Bool.not_eq_false, sameLetter_of_toLower hbLower] at hc
      exact hnext.2 hc.symm

theorem WritesWord.calm {word : NumberWord} {letters : List Char} (h : WritesWord word letters) :
    Calm letters := by
  obtain ⟨entry, hentry, -, hletters⟩ := h
  have hlower := isWord_letters_of_map hentry hletters
  have htable : ∀ entry ∈ table, (entry.1.toList.IsChain fun a b ↦ a = 'i' → b ≠ 's' ∧ b ≠ 'c') ∧
      entry.1.toList.getLast? ≠ some 'i' := by decide
  obtain ⟨hchain, hlast⟩ := htable entry hentry
  refine ⟨chain_letters hlower (hletters ▸ hchain), fun c hc ↦ ?_⟩
  by_contra hsame
  rw [Bool.not_eq_false, sameLetter_of_toLower (hlower c (List.mem_of_mem_getLast? hc))] at hsame
  refine hlast ?_
  rw [← hletters, List.getLast?_map, hc, Option.map_some, ← hsame]

theorem sameLetter_of_not_toLower {c : Char} (hlower : c.toLower ≠ 'i') (hdotted : c ≠ dottedI)
    (hdotless : c ≠ dotlessI) : sameLetter 'i' c = false := by
  simp [sameLetter, hlower, hdotted, hdotless]

theorem Spaces.calm {spaces : List Char} (h : Spaces spaces) : Calm spaces := by
  refine calm_of_forall fun c hc ↦ ?_
  have hother : ∀ other : Char, isSpace other = false → c ≠ other := by
    rintro other hother rfl
    rw [h c hc] at hother
    cases hother
  refine sameLetter_of_not_toLower (fun hlower ↦ ?_) (hother dottedI (by decide)) (hother dotlessI (by decide))
  have hopens := opens_of_ascii (isAlphanum_of_toLower (c := c) (by rw [hlower]; decide))
  have hspace := hopens.space
  rw [h c hc] at hspace
  cases hspace

theorem Written.calm {words : List NumberWord} {written : List Char} (h : Written words written) :
    Calm written := by
  induction h with
  | last h => exact h.calm
  | @cons word words letters separator more h hne hsep _ ih =>
    refine (h.calm.append (calm_of_forall fun c hc ↦ ?_)).append ih
    have hc := hsep c hc
    rw [isNumberSeparator, Bool.or_eq_true, decide_eq_true_eq] at hc
    rcases hc with hspace | rfl
    · have hspaces : Spaces [c] := by
        rintro _ (_ | ⟨_, ⟨⟩⟩)
        exact hspace
      exact hspaces.calm.last c rfl
    · decide

theorem Numeral.calm (number : Numeral) : Calm number.text := by
  cases h : number.spoken with
  | none =>
    rw [text_of_none h]
    exact calm_of_forall fun c hc ↦ sameLetter_of_isDigit (by decide) (isDigit_of_mem_digits hc)
  | some held =>
    obtain ⟨words, written⟩ := held
    rw [text_of_some h]
    exact (number.standard _ h).2.calm

theorem RangeJoint.calm {joint : List Char} (h : RangeJoint joint) : Calm joint := by
  cases h with
  | @word before after word hword hbefore hneBefore hafter hneAfter =>
    refine (hbefore.calm.append (calm_of_forall ?_)).append hafter.calm
    simp only [List.mem_cons, List.not_mem_nil, or_false] at hword
    rcases hword with rfl | rfl <;> decide
  | @dash before after c hdash hbefore hafter =>
    have hc : Calm [c] := by
      refine calm_of_forall fun held hheld ↦ ?_
      cases List.mem_singleton.mp hheld
      simp only [isRangeDash, List.mem_cons, List.not_mem_nil, or_false, decide_eq_true_eq] at hdash
      rcases hdash with rfl | rfl | rfl <;> decide
    exact hbefore.calm.append (hc.append hafter.calm)

theorem Entry.calm (entry : Entry) : Calm entry.text := by
  cases entry with
  | single number => exact number.calm
  | range first last joint hjoint => exact first.calm.append (hjoint.calm.append last.calm)

theorem Comma.calm (comma : Comma) : Calm comma.text := by
  have hcomma : Calm [','] := calm_of_forall (by decide)
  exact comma.spaces.1.calm.append (hcomma.append comma.spaces.2.calm)

theorem calm_entriesText (entry : Entry) (others : List (Comma × Entry)) :
    Calm (entriesText entry others) := by
  induction others generalizing entry with
  | nil => exact entry.calm
  | cons next others ih => exact entry.calm.append (next.1.calm.append (ih next.2))

section

variable [SpeechLibrary]

/-- No prefix stands in a calm text. -/
theorem scopedPrefixAt_eq_none {text : List Char} (previous : Bool)
    (h : text.IsChain fun a b ↦ sameLetter 'i' a = true → sameLetter 's' b = false ∧ sameLetter 'c' b = false) :
    scopedPrefixAt previous text = none := by
  have hissue : afterLetters "issue".toList text = none := by
    change afterLetters ['i', 's', 's', 'u', 'e'] text = none
    by_contra hsome
    obtain ⟨⟨matched, rest⟩, hletters⟩ := Option.ne_none_iff_exists'.mp hsome
    obtain ⟨rfl, hsame⟩ := afterLetters_eq_some_iff.mp hletters
    cases hsame with
    | cons hi hsame =>
      cases hsame with
      | cons hs _ =>
        rw [(List.isChain_cons_cons.mp h).1 hi |>.1] at hs
        cases hs
  have hticket : afterLetters "ticket".toList text = none := by
    change afterLetters ['t', 'i', 'c', 'k', 'e', 't'] text = none
    by_contra hsome
    obtain ⟨⟨matched, rest⟩, hletters⟩ := Option.ne_none_iff_exists'.mp hsome
    obtain ⟨rfl, hsame⟩ := afterLetters_eq_some_iff.mp hletters
    cases hsame with
    | cons _ hsame =>
      cases hsame with
      | cons hi hsame =>
        cases hsame with
        | cons hc _ =>
          have htail := (List.isChain_cons_cons.mp h).2
          rw [((List.isChain_cons_cons.mp htail).1 hi).2] at hc
          cases hc
  unfold scopedPrefixAt
  split_ifs
  · rw [List.findSome?_cons, hissue, Option.bind_none, List.findSome?_cons, hticket]
    rfl
  · rfl

theorem scopedPrefixes_eq_nil {text : List Char} (fuel : ℕ) (previous : Bool)
    (h : text.IsChain fun a b ↦ sameLetter 'i' a = true → sameLetter 's' b = false ∧ sameLetter 'c' b = false) :
    scopedPrefixes fuel previous text = [] := by
  induction fuel generalizing text previous with
  | zero => rfl
  | succ fuel ih =>
    unfold scopedPrefixes
    rw [scopedPrefixAt_eq_none previous h]
    cases text with
    | nil => rfl
    | cons c text => exact ih _ (List.isChain_cons.mp h).2

/-- The prefix of a list is the only one in its text. -/
theorem TicketList.prefixes [LawfulWords] (list : TicketList) :
    scopedPrefixes (list.text.length + 1) false list.text = [(true, entriesText list.first list.others)] := by
  obtain ⟨kind, gap, first, others, hplural, hspaces, hne⟩ := list
  have hgap : afterSpaces (gap ++ entriesText first others) = some (entriesText first others) := by
    obtain ⟨number, more, htext⟩ := exists_number first others
    rw [htext]
    exact afterSpaces_spaces number hspaces hne
  have hword : ∀ c : Char, c.val < 128 → c.isAlpha = true → SpeechLibrary.isWord c = true := by
    intro c hc halpha
    rw [LawfulWords.isWord_ascii c hc, Char.isAlphanum, halpha]
    rfl
  have hread : scopedPrefixAt false (kind.toList ++ (gap ++ entriesText first others)) =
      some (true, entriesText first others) := by
    simp only [List.mem_cons, List.not_mem_nil, or_false] at hplural
    rcases hplural with rfl | rfl
    · have hboundary : atBoundary false ("issues".toList ++ (gap ++ entriesText first others)) = true := by
        change (false != SpeechLibrary.isWord 'i') = true
        rw [hword 'i' (by decide) (by decide)]
        rfl
      have hletters : afterLetters "issue".toList ("issues".toList ++ (gap ++ entriesText first others)) =
          some ("issue".toList, 's' :: (gap ++ entriesText first others)) := rfl
      rw [scopedPrefixAt, if_pos hboundary, List.findSome?_cons, hletters, Option.bind_some]
      have hplural : sameLetter 's' 's' = true := by decide
      simp only [List.head?_cons, Option.any_some, hplural, if_true, List.tail_cons, hgap, Option.map_some]
    · have hboundary : atBoundary false ("tickets".toList ++ (gap ++ entriesText first others)) = true := by
        change (false != SpeechLibrary.isWord 't') = true
        rw [hword 't' (by decide) (by decide)]
        rfl
      have hissue : afterLetters "issue".toList ("tickets".toList ++ (gap ++ entriesText first others)) =
          none := rfl
      have hletters : afterLetters "ticket".toList ("tickets".toList ++ (gap ++ entriesText first others)) =
          some ("ticket".toList, 's' :: (gap ++ entriesText first others)) := rfl
      rw [scopedPrefixAt, if_pos hboundary, List.findSome?_cons, hissue, Option.bind_none,
        List.findSome?_cons, hletters, Option.bind_some]
      have hplural : sameLetter 's' 's' = true := by decide
      simp only [List.head?_cons, Option.any_some, hplural, if_true, List.tail_cons, hgap, Option.map_some]
  unfold scopedPrefixes TicketList.text
  rw [hread]
  simp only [scopedPrefixes_eq_nil _ _ (calm_entriesText first others).chain]

end

/-! ### Agreement -/

section

variable [DigitLibrary]

/-- The list gives the same values and errors as with every number in digits. -/
def TicketList.Agrees (list : TicketList) : Prop :=
  outcomes (scopedItems list.text) = outcomes (scopedItems list.inDigits.text)

variable [LawfulDigits]

theorem TicketList.outcomes_iff (list : TicketList) :
    outcomes (scopedItems list.text) = found (list.entries.flatMap Entry.numbers) ↔
      ∀ entry ∈ list.entries, ¬ entry.Fuses := by
  rw [scopedItems, list.prefixes, List.flatMap_singleton]
  exact outcomes_scopedLoop _ _ _ _ _ le_rfl

omit [DigitLibrary] [LawfulDigits] in
theorem Entry.not_fuses_inDigits (entry : Entry) : ¬ entry.inDigits.Fuses := by
  cases entry with
  | single number => exact id
  | range first last joint hjoint hrange => exact fun h ↦ h.1 rfl

omit [DigitLibrary] [LawfulDigits] in
theorem Entry.numbers_inDigits (entry : Entry) : entry.inDigits.numbers = entry.numbers := by
  cases entry <;> rfl

omit [DigitLibrary] [LawfulDigits] in
theorem TicketList.entries_inDigits (list : TicketList) :
    list.inDigits.entries = list.entries.map Entry.inDigits := by
  rw [entries, entries, inDigits, List.map_cons, List.map_map, List.map_map]
  rfl

/-- The same items come out in digits and in words exactly when no range has a hyphen between two numbers in
words. -/
theorem TicketList.agrees_iff (list : TicketList) :
    list.Agrees ↔ ∀ entry ∈ list.entries, ¬ entry.Fuses := by
  have hdigits : outcomes (scopedItems list.inDigits.text) = found (list.entries.flatMap Entry.numbers) := by
    have hall : ∀ entry ∈ list.inDigits.entries, ¬ entry.Fuses := by
      rw [list.entries_inDigits, List.forall_mem_map]
      exact fun entry _ ↦ entry.not_fuses_inDigits
    rw [list.inDigits.outcomes_iff.mpr hall, list.entries_inDigits, List.flatMap_map]
    simp only [Entry.numbers_inDigits]
  rw [Agrees, hdigits, list.outcomes_iff]

end

/-- A number of one word. -/
def Numeral.oneWord (value : ℕ) (spelling : String) (h : 1 ≤ value ∧ value ≤ 19)
    (hentry : (spelling, small value) ∈ table) : Numeral where
  value := value
  spoken := some ([small value], spelling.toList)
  range := by omega
  standard := by
    rintro _ ⟨⟩
    have hspelling : spelling.toList.map Char.toLower = spelling.toList := by
      have htable : ∀ entry ∈ table, entry.1.toList.map Char.toLower = entry.1.toList := by decide
      exact htable _ hentry
    exact ⟨.below (.below (.small h)), .last ⟨_, hentry, rfl, hspelling⟩⟩

theorem rangeJoint_dash {c : Char} (h : isRangeDash c = true) : RangeJoint [c] := by
  have hnil : Spaces [] := by decide
  exact .dash h hnil hnil

/-- "issues five" joined to "seven". -/
def fiveToSeven (joint : List Char) (h : RangeJoint joint) : TicketList where
  kind := "issues"
  gap := [' ']
  first := .range (.oneWord 5 "five" (by decide) (by decide)) (.oneWord 7 "seven" (by decide) (by decide)) joint h
    ⟨by decide, by decide⟩
  others := []
  plural := by decide
  spaces := ⟨by decide, by decide⟩

theorem TicketList.agrees_iff_enDash :
    @TicketList.Agrees asciiDigitLibrary (fiveToSeven [enDash] (rangeJoint_dash (by decide))) := by
  let _ := asciiDigitLibrary
  refine (TicketList.agrees_iff _).mpr fun entry hentry hfuse ↦ ?_
  cases List.mem_singleton.mp hentry
  exact absurd hfuse.2.2 (by decide)

theorem not_agrees_hyphen :
    ¬ @TicketList.Agrees asciiDigitLibrary (fiveToSeven ['-'] (rangeJoint_dash (by decide))) := by
  let _ := asciiDigitLibrary
  unfold TicketList.Agrees
  decide +kernel

end VoiceHarness
