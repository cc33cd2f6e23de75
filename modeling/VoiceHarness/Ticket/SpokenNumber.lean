import Mathlib
import VoiceHarness.Question.Answer

/-!
# Spoken numbers

English cardinals as `ticket_targets.py` reads them. A loop adds the words up in groups below a thousand and
looks at the class of the last word only, so that it takes more word sequences than the standard renderings:
after a word for tens it also takes a teen or a zero.
-/

set_option autoImplicit false
set_option relaxedAutoImplicit false

namespace VoiceHarness

/-! ### Letters without regard to case -/

/-- The capital with a dot, the letter without one, the long s and the sign of the unit. -/
def dottedI : Char := Char.ofNat 0x130

def dotlessI : Char := Char.ofNat 0x131

def longS : Char := Char.ofNat 0x17f

def kelvinSign : Char := Char.ofNat 0x212a

/-- A speech library that is right on ASCII text and on the letters that match one of it. -/
@[reducible] def letterSpeechLibrary : SpeechLibrary where
  toTextLibrary := asciiTextLibrary
  isWord c := c.isAlphanum || c = '_' || c ∈ [dottedI, dotlessI, longS, kelvinSign]

/-- What a small letter of a pattern with `re.IGNORECASE` matches. -/
def sameLetter (letter c : Char) : Bool :=
  c.toLower = letter || (letter = 'i' && (c = dottedI || c = dotlessI)) ||
    (letter = 'k' && c = kelvinSign) || (letter = 's' && c = longS)

/-- `str.casefold` of what the letters of a pattern match. -/
def casefoldLetters (text : List Char) : List Char :=
  text.flatMap fun c ↦
    if c = dottedI then ['i', Char.ofNat 0x307]
    else if c = longS then ['s']
    else if c = kelvinSign then ['k']
    else [c.toLower]

/-- The match of a word of letters, and the text after it. -/
def afterLetters : List Char → List Char → Option (List Char × List Char)
  | [], text => some ([], text)
  | _ :: _, [] => none
  | letter :: letters, c :: text =>
    if sameLetter letter c then
      (afterLetters letters text).map fun (matched, rest) ↦ (c :: matched, rest)
    else none

/-! ### Number words -/

/-- A word of `_NUMBER_WORD_AT`; an odd one matches a word of the tables in none of its spellings. -/
inductive NumberWord
  | small (value : ℕ)
  | tens (value : ℕ)
  | hundred
  | thousand
  | and
  | odd
  deriving DecidableEq

namespace NumberWord

/-- `_SMALL_NUMBER_WORDS`, `_TENS_NUMBER_WORDS` and the other words, in the order of the pattern. -/
def table : List (String × NumberWord) :=
  [("zero", small 0), ("one", small 1), ("two", small 2), ("three", small 3), ("four", small 4),
    ("five", small 5), ("six", small 6), ("seven", small 7), ("eight", small 8), ("nine", small 9),
    ("ten", small 10), ("eleven", small 11), ("twelve", small 12), ("thirteen", small 13),
    ("fourteen", small 14), ("fifteen", small 15), ("sixteen", small 16), ("seventeen", small 17),
    ("eighteen", small 18), ("nineteen", small 19), ("twenty", tens 20), ("thirty", tens 30),
    ("forty", tens 40), ("fifty", tens 50), ("sixty", tens 60), ("seventy", tens 70),
    ("eighty", tens 80), ("ninety", tens 90), ("hundred", hundred), ("thousand", thousand),
    ("and", and)]

/-- The word of a folded match. -/
def ofFolded (folded : List Char) : NumberWord :=
  ((table.find? (·.1.toList = folded)).map (·.2)).getD odd

/-- A word of `_SMALL_NUMBER_WORDS` or `_TENS_NUMBER_WORDS`. -/
def isCount : NumberWord → Bool
  | small _ | tens _ => true
  | _ => false

end NumberWord

/-! ### The loop -/

/-- The class of the last word. -/
inductive LastWord
  | start | small | tens | hundred | scale | conjunction | groupedSmall | groupedTens
  deriving DecidableEq

/-- The state of the loop. -/
structure SpokenNumber where
  total : ℕ := 0
  group : ℕ := 0
  last : LastWord := .start
  usedThousand : Bool := false
  deriving DecidableEq

namespace SpokenNumber

def value (state : SpokenNumber) : ℕ := state.total + state.group

/-- What one word does. -/
inductive Step
  | advance (state : SpokenNumber)
  | stop
  | invalid
  deriving DecidableEq

/-- The body of the loop; `next` is the word after a conjunction. -/
def step (allowDigitGrouped : Bool) (state : SpokenNumber) (word : NumberWord)
    (next : Option NumberWord) : Step :=
  match word with
  | .small value =>
    if state.last ∈ [.start, .tens, .hundred, .scale, .conjunction, .groupedTens] then
      .advance { state with
        group := state.group + value
        last := if state.last = .groupedTens then .groupedSmall else .small }
    else .invalid
  | .tens value =>
    if allowDigitGrouped && state.last = .small && !state.usedThousand && state.total = 0 &&
        1 ≤ state.group && state.group ≤ 99 then
      .advance { state with group := state.group * 100 + value, last := .groupedTens }
    else if state.last ∈ [.start, .hundred, .scale, .conjunction] then
      .advance { state with group := state.group + value, last := .tens }
    else .invalid
  | .hundred =>
    if state.last ≠ .small ∨ ¬ (1 ≤ state.group ∧ state.group ≤ 9) then .invalid
    else .advance { state with group := state.group * 100, last := .hundred }
  | .thousand =>
    if ¬ (1 ≤ state.group ∧ state.group ≤ 999) ∨ state.usedThousand = true then .invalid
    else .advance {
      total := state.total + state.group * 1000
      group := 0
      last := .scale
      usedThousand := true }
  | .and | .odd =>
    if state.last ∉ [.hundred, .scale] ∨ next.all (!·.isCount) then .stop
    else .advance { state with last := .conjunction }

end SpokenNumber

/-- A separator of the words of a number. -/
def isNumberSeparator (c : Char) : Bool := isSpace c || c = '-'

section

variable [SpeechLibrary]

/-- `_NUMBER_WORD_AT.match`: the word, and the text after it. -/
def numberWordAt (text : List Char) : Option (NumberWord × List Char) :=
  NumberWord.table.findSome? fun (spelling, _) ↦
    ((afterLetters spelling.toList text).filter fun (_, rest) ↦ atBoundary true rest).map
      fun (matched, rest) ↦ (NumberWord.ofFolded (casefoldLetters matched), rest)

/-- The number word after any separators. -/
def nextNumberWord (rest : List Char) : Option NumberWord :=
  (numberWordAt (rest.dropWhile isNumberSeparator)).map (·.1)

/-- The loop from a position; what is found is a value and the text after it. -/
def spokenNumberLoop (allowDigitGrouped : Bool) :
    ℕ → List Char → SpokenNumber → Option (ℕ × List Char) → Option (ℕ × List Char)
  | 0, _, _, found => found
  | fuel + 1, text, state, found =>
    match numberWordAt text with
    | none => found
    | some (word, rest) =>
      match state.step allowDigitGrouped word (nextNumberWord rest) with
      | .invalid => none
      | .stop => found
      | .advance state =>
        if rest.head?.any isNumberSeparator then
          spokenNumberLoop allowDigitGrouped fuel (rest.dropWhile isNumberSeparator) state
            (some (state.value, rest))
        else some (state.value, rest)

/-- `_spoken_number_at`: the value and the text after the words. -/
def spokenNumberAt (allowDigitGrouped : Bool) (text : List Char) : Option (ℕ × List Char) :=
  spokenNumberLoop allowDigitGrouped text.length text {} none

end

example : letI := asciiSpeechLibrary
    spokenNumberAt false "one hundred and fifty, two".toList = some (150, ", two".toList) := by
  decide +kernel

end VoiceHarness
