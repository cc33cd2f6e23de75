import VoiceHarness.Ticket.SpokenNumber

/-!
# Scoped ticket lists

What `_scoped_items` of `ticket_targets.py` takes from a text: after every prefix such as "issues" a list of
numbers and ranges, in digits or in words.
-/

set_option autoImplicit false
set_option relaxedAutoImplicit false

namespace VoiceHarness

/-- The decimal digits of Unicode, as `\d` matches and `int` reads them. -/
class DigitLibrary extends SpeechLibrary where
  digit : Char → Option ℕ

/-- A library that is right on ASCII text. -/
@[reducible] def asciiDigitLibrary : DigitLibrary where
  toSpeechLibrary := letterSpeechLibrary
  digit c := if c.isDigit then some (c.toNat - 48) else none

/-- The dashes of a range. -/
def enDash : Char := Char.ofNat 0x2013

def emDash : Char := Char.ofNat 0x2014

def isRangeDash (c : Char) : Bool := c ∈ ['-', enDash, emDash]

/-! ### Numbers -/

section

variable [DigitLibrary]

def isDecimal (c : Char) : Bool := (DigitLibrary.digit c).isSome

/-- `int` of digits. -/
def readDigits (digits : List Char) : ℕ :=
  digits.foldl (fun value c ↦ value * 10 + (DigitLibrary.digit c).getD 0) 0

/-- `_NUMBER_AT` after its hash. -/
def digitsAt (text : List Char) : Option (ℕ × List Char) :=
  if text.head?.any isDecimal then some (readDigits (text.takeWhile isDecimal), text.dropWhile isDecimal)
  else none

def withoutHash : List Char → List Char
  | '#' :: text => text
  | text => text

/-- `_number_at`: the value and the text after the number. -/
def numberAt (allowDigitGrouped : Bool) (text : List Char) : Option (ℕ × List Char) :=
  match digitsAt (withoutHash text) with
  | some found => some found
  | none => spokenNumberAt allowDigitGrouped text

end

/-! ### Separators -/

/-- The text after white space, if it starts with any. -/
def afterSpaces (text : List Char) : Option (List Char) :=
  if text.head?.any isSpace then some (text.dropWhile isSpace) else none

/-- The first alternative of `_RANGE_SEPARATOR_AT`. -/
def rangeWordAt (text : List Char) : Option (List Char) :=
  (afterSpaces text).bind fun text ↦
    ["through", "to"].findSome? fun word ↦
      (afterLetters word.toList text).bind fun (_, rest) ↦ afterSpaces rest

/-- The second alternative of `_RANGE_SEPARATOR_AT`. -/
def rangeDashAt (text : List Char) : Option (List Char) :=
  match text.dropWhile isSpace with
  | [] => none
  | c :: rest => if isRangeDash c then some (rest.dropWhile isSpace) else none

/-- `_RANGE_SEPARATOR_AT.match`: the text after it. -/
def rangeSeparatorAt (text : List Char) : Option (List Char) :=
  (rangeWordAt text).or (rangeDashAt text)

/-! ### Items -/

/-- `_ScopedItem`. -/
structure ScopedItem where
  raw : List Char
  position : ℕ
  stop : ℕ
  value : Option ℕ
  requestedCount : ℕ := 1
  error : Option String := none
  deriving DecidableEq

def maxTicketRangeSize : ℕ := 25

section

variable [SpeechLibrary]

/-- `and\b\s*` at the start of a text. -/
def conjunctionAt (text : List Char) : Option (List Char) :=
  ((afterLetters "and".toList text).filter fun (_, rest) ↦ atBoundary true rest).map
    fun (_, rest) ↦ rest.dropWhile isSpace

/-- Where the next item of a list begins. -/
def nextItem (rest : List Char) : Option (List Char) :=
  match rest.dropWhile isSpace with
  | ',' :: text => some ((conjunctionAt (text.dropWhile isSpace)).getD (text.dropWhile isSpace))
  | '&' :: text => some (text.dropWhile isSpace)
  | text => conjunctionAt text

/-- `_SCOPED_PREFIX` at a place: whether it is plural, and the text after it. -/
def scopedPrefixAt (previous : Bool) (text : List Char) : Option (Bool × List Char) :=
  if atBoundary previous text then
    ["issue", "ticket"].findSome? fun kind ↦
      (afterLetters kind.toList text).bind fun (_, rest) ↦
        let plural := rest.head?.any (sameLetter 's')
        (afterSpaces (if plural then rest.tail else rest)).map fun rest ↦ (plural, rest)
  else none

/-- `_SCOPED_PREFIX.finditer`; a match ends with white space. -/
def scopedPrefixes : ℕ → Bool → List Char → List (Bool × List Char)
  | 0, _, _ => []
  | fuel + 1, previous, text =>
    match scopedPrefixAt previous text, text with
    | some (plural, rest), _ => (plural, rest) :: scopedPrefixes fuel false rest
    | none, [] => []
    | none, c :: text => scopedPrefixes fuel (SpeechLibrary.isWord c) text

end

section

variable [DigitLibrary]

/-- The items of a range; `size` is the length of the whole text. -/
def rangeItems (size : ℕ) (text : List Char) (value final : ℕ) (rest : List Char) : List ScopedItem :=
  let raw := text.take (text.length - rest.length)
  let position := size - text.length
  let stop := size - rest.length
  let requestedCount := (max final value - min final value) + 1
  let failed (error : String) : List ScopedItem := [⟨raw, position, stop, none, requestedCount, some error⟩]
  if value < 1 || final < 1 then failed "ticket range endpoints must be positive"
  else if final < value then failed "ticket range must be ascending"
  else if requestedCount > maxTicketRangeSize then
    failed s!"ticket range cannot exceed {maxTicketRangeSize} tickets"
  else
    (List.range' value (final + 1 - value)).map fun number ↦
      { raw := Nat.toDigits 10 number, position, stop, value := some number }

/-- The items of a number or a range that starts with it, and the text after them. -/
def itemsAt (size : ℕ) (singular : Bool) (text : List Char) (value : ℕ) (rest : List Char) :
    List ScopedItem × List Char :=
  match (rangeSeparatorAt rest).bind (numberAt singular) with
  | some (final, finalRest) => (rangeItems size text value final finalRest, finalRest)
  | none =>
    ([{ raw := text.take (text.length - rest.length)
        position := size - text.length
        stop := size - rest.length
        value := some value }], rest)

/-- The loop over the items of a list. -/
def scopedLoop (size : ℕ) (singular : Bool) : ℕ → Bool → List Char → List ScopedItem
  | 0, _, _ => []
  | fuel + 1, firstItem, text =>
    match numberAt (singular && firstItem) text with
    | none => []
    | some (value, rest) =>
      let found := itemsAt size singular text value rest
      match nextItem found.2 with
      | none => found.1
      | some text => found.1 ++ scopedLoop size singular fuel false text

/-- `_scoped_items`. -/
def scopedItems (text : List Char) : List ScopedItem :=
  (scopedPrefixes (text.length + 1) false text).flatMap fun (plural, rest) ↦
    scopedLoop text.length (!plural) rest.length true rest

end

example : letI := asciiDigitLibrary
    (scopedItems "issues 7, twenty-one to 23".toList).map (·.value) =
      [some 7, some 21, some 22, some 23] := by
  decide +kernel

end VoiceHarness
