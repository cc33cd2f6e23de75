import VoiceHarness.Json
import Mathlib.Tactic.Common

/-!
# JSON text

`json.dumps` of a flat object with `ensure_ascii` and without blanks, and `json.loads` of any text. A text
with half a surrogate pair, NaN or an infinity counts as unreadable, a number with a fraction or an exponent
stays exact, and the limits of the interpreter on digits and on nesting are left out.
-/

set_option autoImplicit false
set_option relaxedAutoImplicit false

namespace VoiceHarness.JsonText

/-! ### Writing -/

/-- The escape of a UTF-16 unit. -/
def unicodeEscape (unit : ℕ) : List Char :=
  ['\\', 'u', (unit / 4096 % 16).digitChar, (unit / 256 % 16).digitChar,
    (unit / 16 % 16).digitChar, (unit % 16).digitChar]

/-- The characters with an escape of one letter. -/
def shortEscapes : List (Char × Char) :=
  [('"', '"'), ('\\', '\\'), ('\n', 'n'), ('\r', 'r'), ('\t', 't'), ('\x0c', 'f'), ('\x08', 'b')]

/-- A character of a string with `ensure_ascii`. -/
def escapeChar (c : Char) : List Char :=
  match shortEscapes.find? (·.1 = c) with
  | some (_, letter) => ['\\', letter]
  | none =>
    if 32 ≤ c.toNat ∧ c.toNat ≤ 126 then [c]
    else if c.toNat < 65536 then unicodeEscape c.toNat
    else
      unicodeEscape (55296 + (c.toNat - 65536) / 1024) ++
        unicodeEscape (56320 + (c.toNat - 65536) % 1024)

def writeString (text : String) : List Char :=
  '"' :: (text.toList.flatMap escapeChar ++ ['"'])

def writeInt (value : ℤ) : List Char :=
  (if value < 0 then ['-'] else []) ++ Nat.toDigits 10 value.natAbs

/-- The values of a flat object. -/
inductive Scalar
  | str (value : String)
  | int (value : ℤ)
  deriving DecidableEq

def Scalar.toJson : Scalar → Json
  | str value => .str value
  | int value => .int value

def writeScalar : Scalar → List Char
  | .str value => writeString value
  | .int value => writeInt value

def writeMembers : List (String × Scalar) → List Char
  | [] => []
  | [member] => writeString member.1 ++ ':' :: writeScalar member.2
  | member :: members =>
    writeString member.1 ++ ':' :: (writeScalar member.2 ++ ',' :: writeMembers members)

/-- `json.dumps(..., separators=(",", ":"))` of an object in the order of its members. -/
def dumps (members : List (String × Scalar)) : List Char :=
  '\x7b' :: (writeMembers members ++ ['\x7d'])

/-! ### Reading -/

def hexValue (c : Char) : Option ℕ :=
  if '0' ≤ c ∧ c ≤ '9' then some (c.toNat - 48)
  else if 'a' ≤ c ∧ c ≤ 'f' then some (c.toNat - 87)
  else if 'A' ≤ c ∧ c ≤ 'F' then some (c.toNat - 55)
  else none

/-- A UTF-16 unit of four digits. -/
def readUnit (first second third fourth : Char) : Option ℕ := do
  some (4096 * (← hexValue first) + 256 * (← hexValue second) + 16 * (← hexValue third) +
    (← hexValue fourth))

/-- The character of an escape of one letter. -/
def unescape (letter : Char) : Option Char :=
  if letter = '/' then some '/' else (shortEscapes.find? (·.2 = letter)).map Prod.fst

/-- The character before the rest of a string. -/
def prepend (c : Char) (read : Option (List Char × List Char)) : Option (List Char × List Char) :=
  read.map fun (text, rest) ↦ (c :: text, rest)

/-- The rest of a string after its opening quote, and what follows the closing one. -/
def scanString : List Char → Option (List Char × List Char)
  | [] => none
  | '"' :: rest => some ([], rest)
  | '\\' :: 'u' :: a :: b :: c :: d :: rest =>
    match readUnit a b c d with
    | none => none
    | some unit =>
      if unit < 55296 ∨ 57344 ≤ unit then prepend (Char.ofNat unit) (scanString rest)
      else if 56320 ≤ unit then none
      else
        match rest with
        | '\\' :: 'u' :: e :: f :: g :: h :: rest =>
          match readUnit e f g h with
          | none => none
          | some low =>
            if 56320 ≤ low ∧ low < 57344 then
              prepend (Char.ofNat (65536 + (unit - 55296) * 1024 + (low - 56320))) (scanString rest)
            else none
        | _ => none
  | '\\' :: letter :: rest =>
    match unescape letter with
    | none => none
    | some c => prepend c (scanString rest)
  | c :: rest => if c.toNat < 32 then none else prepend c (scanString rest)

def skipSpace (text : List Char) : List Char :=
  text.dropWhile fun c ↦ c = ' ' || c = '\t' || c = '\n' || c = '\r'

/-- The digits at the start, as a number and how many there are. -/
def readDigits (text : List Char) : ℕ × ℕ :=
  let digits := text.takeWhile Char.isDigit
  (Nat.ofDigitChars 10 digits 0, digits.length)

/-- The fraction after the whole part. -/
def readFraction : List Char → Option (ℚ × List Char)
  | '.' :: rest =>
    let (value, count) := readDigits rest
    if count = 0 then none else some (value / 10 ^ count, rest.drop count)
  | _ => none

/-- The exponent after the whole part or the fraction. -/
def readExponent : List Char → Option (ℤ × List Char)
  | [] => none
  | c :: rest =>
    if c = 'e' ∨ c = 'E' then
      let negative := rest.head? = some '-'
      let digits := if negative ∨ rest.head? = some '+' then rest.tail else rest
      let (value, count) := readDigits digits
      if count = 0 then none else some (if negative then -value else value, digits.drop count)
    else none

def readNumber (text : List Char) : Option (Json × List Char) :=
  let negative := text.head? = some '-'
  let unsigned := if negative then text.tail else text
  let (value, count) := readDigits unsigned
  if count = 0 ∨ (unsigned.head? = some '0' ∧ 1 < count) then none
  else
    let rest := unsigned.drop count
    let sign : ℤ := if negative then -1 else 1
    match readFraction rest, readExponent rest with
    | none, none => some (.int (sign * value), rest)
    | none, some (exponent, rest) => some (.float (sign * value * 10 ^ exponent), rest)
    | some (fraction, rest), _ =>
      match readExponent rest with
      | none => some (.float (sign * (value + fraction)), rest)
      | some (exponent, rest) => some (.float (sign * (value + fraction) * 10 ^ exponent), rest)

/-- A value that is no string, array or object. -/
def readAtom (text : List Char) : Option (Json × List Char) :=
  let words : List (String × Json) := [("null", .null), ("true", .bool true), ("false", .bool false)]
  match words.find? fun word ↦ word.1.toList.isPrefixOf text with
  | some word => some (word.2, text.drop word.1.length)
  | none => readNumber text

mutual

def parseValue : ℕ → List Char → Option (Json × List Char)
  | 0, _ => none
  | _ + 1, [] => none
  | fuel + 1, c :: rest =>
    if c = '"' then (scanString rest).map fun (text, rest) ↦ (.str (String.ofList text), rest)
    else if c = '[' then
      if (skipSpace rest).head? = some ']' then some (.arr [], (skipSpace rest).tail)
      else (parseItems fuel (skipSpace rest)).map fun (items, rest) ↦ (.arr items, rest)
    else if c = '\x7b' then
      if (skipSpace rest).head? = some '\x7d' then some (.obj [], (skipSpace rest).tail)
      else (parseMembers fuel (skipSpace rest)).map fun (members, rest) ↦
        (.obj (Dict.merge [] members), rest)
    else readAtom (c :: rest)

def parseItems : ℕ → List Char → Option (List Json × List Char)
  | 0, _ => none
  | fuel + 1, text => do
    let (item, rest) ← parseValue fuel text
    match skipSpace rest with
    | ']' :: rest => some ([item], rest)
    | ',' :: rest => (parseItems fuel (skipSpace rest)).map fun (items, rest) ↦ (item :: items, rest)
    | _ => none

def parseMembers : ℕ → List Char → Option (Dict × List Char)
  | 0, _ => none
  | fuel + 1, '"' :: text => do
    let (key, rest) ← scanString text
    match skipSpace rest with
    | ':' :: rest => do
      let (value, rest) ← parseValue fuel (skipSpace rest)
      match skipSpace rest with
      | '\x7d' :: rest => some ([(String.ofList key, value)], rest)
      | ',' :: rest =>
        (parseMembers fuel (skipSpace rest)).map fun (members, rest) ↦
          ((String.ofList key, value) :: members, rest)
      | _ => none
    | _ => none
  | _ + 1, _ => none

end

/-- `json.loads`. -/
def loads (text : List Char) : Option Json :=
  match parseValue text.length (skipSpace text) with
  | some (value, rest) => if skipSpace rest = [] then some value else none
  | none => none

/-! ### Reading what was written -/

theorem hexValue_digitChar {digit : ℕ} (h : digit < 16) : hexValue digit.digitChar = some digit := by
  revert digit
  decide

theorem readUnit_unicodeEscape {unit : ℕ} (h : unit < 65536) :
    readUnit (unit / 4096 % 16).digitChar (unit / 256 % 16).digitChar (unit / 16 % 16).digitChar
      (unit % 16).digitChar = some unit := by
  unfold readUnit
  rw [hexValue_digitChar (by omega), hexValue_digitChar (by omega), hexValue_digitChar (by omega),
    hexValue_digitChar (by omega)]
  have hsum : 4096 * (unit / 4096 % 16) + 256 * (unit / 256 % 16) + 16 * (unit / 16 % 16) +
      unit % 16 = unit := by omega
  exact congrArg some hsum

theorem scanString_unicodeEscape {unit : ℕ} (h : unit < 55296 ∨ 57344 ≤ unit) (hunit : unit < 65536)
    (rest : List Char) :
    scanString (unicodeEscape unit ++ rest) = prepend (Char.ofNat unit) (scanString rest) := by
  unfold unicodeEscape
  simp only [List.cons_append, List.nil_append]
  rw [scanString, readUnit_unicodeEscape hunit]
  exact if_pos h

/-- Two escapes give a character outside the basic plane. -/
theorem scanString_surrogates {offset : ℕ} (h : offset < 1048576) (rest : List Char) :
    scanString (unicodeEscape (55296 + offset / 1024) ++ (unicodeEscape (56320 + offset % 1024) ++ rest)) =
      prepend (Char.ofNat (65536 + offset)) (scanString rest) := by
  have hhigh : 55296 + offset / 1024 < 56320 := by omega
  have hlow : 56320 + offset % 1024 < 57344 := by omega
  conv_lhs => unfold unicodeEscape
  simp only [List.cons_append, List.nil_append]
  rw [scanString, readUnit_unicodeEscape (by omega)]
  have hhalf : ¬ (55296 + offset / 1024 < 55296 ∨ 57344 ≤ 55296 + offset / 1024) := by omega
  have hfirst : ¬ 56320 ≤ 55296 + offset / 1024 := by omega
  simp only [hhalf, hfirst, if_false]
  rw [readUnit_unicodeEscape (by omega)]
  have hpair : 56320 ≤ 56320 + offset % 1024 ∧ 56320 + offset % 1024 < 57344 := ⟨by omega, hlow⟩
  have hvalue : 65536 + (55296 + offset / 1024 - 55296) * 1024 + (56320 + offset % 1024 - 56320) =
      65536 + offset := by omega
  simp only [hpair, and_self, if_true, hvalue]

/-- A character without an escape stands for itself. -/
theorem scanString_plain {c : Char} (hquote : c ≠ '"') (hslash : c ≠ '\\') (hplain : 32 ≤ c.toNat)
    (rest : List Char) : scanString (c :: rest) = prepend c (scanString rest) := by
  rw [scanString.eq_def]
  split
  · next heq => cases heq
  · next heq => exact absurd (List.cons.inj heq).1 hquote
  · next heq => exact absurd (List.cons.inj heq).1 hslash
  · next heq => exact absurd (List.cons.inj heq).1 hslash
  · next heq =>
    obtain ⟨rfl, rfl⟩ := List.cons.inj heq
    exact if_neg (by omega)

theorem scanString_escapeChar (c : Char) (rest : List Char) :
    scanString (escapeChar c ++ rest) = prepend c (scanString rest) := by
  unfold escapeChar
  split
  · next letter hfind =>
    have hmem := List.mem_of_find?_eq_some hfind
    have hkey := List.find?_some hfind
    simp only [decide_eq_true_eq] at hkey
    subst hkey
    simp only [shortEscapes, List.mem_cons, Prod.mk.injEq, List.not_mem_nil, or_false] at hmem
    rcases hmem with ⟨rfl, rfl⟩ | ⟨rfl, rfl⟩ | ⟨rfl, rfl⟩ | ⟨rfl, rfl⟩ | ⟨rfl, rfl⟩ | ⟨rfl, rfl⟩ |
      ⟨rfl, rfl⟩ <;> rfl
  · next hfind =>
    rw [List.find?_eq_none] at hfind
    have hquote : c ≠ '"' := by
      rintro rfl
      exact hfind ('"', '"') (by decide) (by decide)
    have hslash : c ≠ '\\' := by
      rintro rfl
      exact hfind ('\\', '\\') (by decide) (by decide)
    have hvalid : c.toNat < 55296 ∨ 57343 < c.toNat ∧ c.toNat < 1114112 := c.valid
    split_ifs with hplain hbasic
    · exact scanString_plain hquote hslash hplain.1 rest
    · have hunit : c.toNat < 55296 ∨ 57344 ≤ c.toNat := by omega
      rw [scanString_unicodeEscape hunit hbasic, Char.ofNat_toNat]
    · rw [List.append_assoc, scanString_surrogates (by omega)]
      have hvalue : 65536 + (c.toNat - 65536) = c.toNat := by omega
      rw [hvalue, Char.ofNat_toNat]

theorem scanString_flatMap (text rest : List Char) :
    scanString (text.flatMap escapeChar ++ '"' :: rest) = some (text, rest) := by
  induction text with
  | nil => rfl
  | cons c text ih =>
    rw [List.flatMap_cons, List.append_assoc, scanString_escapeChar, ih]
    rfl

theorem takeWhile_digits {digits rest : List Char} (hdigits : ∀ c ∈ digits, c.isDigit = true)
    (hrest : ∀ c ∈ rest.head?, c.isDigit = false) :
    (digits ++ rest).takeWhile Char.isDigit = digits := by
  rw [List.takeWhile_append_of_pos hdigits]
  cases rest with
  | nil => simp
  | cons c rest => simp [hrest c rfl]

theorem head?_toDigits_append (value : ℕ) (rest : List Char) :
    (Nat.toDigits 10 value ++ rest).head? = (Nat.toDigits 10 value).head? := by
  cases hdigits : Nat.toDigits 10 value with
  | nil => exact absurd hdigits Nat.toDigits_ne_nil
  | cons c digits => rfl

theorem head?_toDigits_ne {value : ℕ} (h : 0 < value) : (Nat.toDigits 10 value).head? ≠ some '0' := by
  induction value using Nat.strong_induction_on with
  | _ value ih =>
    by_cases hsmall : value < 10
    · have hdigit : ∀ digit < 10, 0 < digit → [digit.digitChar].head? ≠ some '0' := by decide
      rw [Nat.toDigits_of_lt_base hsmall]
      exact hdigit value hsmall h
    · rw [Nat.toDigits_of_base_le (by omega) (by omega), head?_toDigits_append]
      exact ih (value / 10) (by omega) (by omega)

/-- What follows a value in a flat object. -/
def EndsValue (rest : List Char) : Prop := rest.head? = some ',' ∨ rest.head? = some '\x7d'

theorem EndsValue.exists_cons {rest : List Char} (h : EndsValue rest) :
    ∃ c tail, rest = c :: tail ∧ (c = ',' ∨ c = '\x7d') := by
  cases rest with
  | nil => rcases h with h | h <;> cases h
  | cons c tail =>
    refine ⟨c, tail, rfl, ?_⟩
    rcases h with h | h
    · exact .inl (Option.some.inj h)
    · exact .inr (Option.some.inj h)

theorem readNumber_writeInt (value : ℤ) {rest : List Char} (hrest : EndsValue rest) :
    readNumber (writeInt value ++ rest) = some (.int value, rest) := by
  obtain ⟨c, tail, rfl, hc⟩ := hrest.exists_cons
  have hdigit : ∀ d ∈ Nat.toDigits 10 value.natAbs, d.isDigit = true :=
    fun d hd ↦ Nat.isDigit_of_mem_toDigits (by omega) (by omega) hd
  have hstop : ∀ d ∈ (c :: tail).head?, d.isDigit = false := by
    rintro d ⟨⟩
    rcases hc with rfl | rfl <;> rfl
  have hunsigned : readDigits (Nat.toDigits 10 value.natAbs ++ c :: tail) =
      (value.natAbs, (Nat.toDigits 10 value.natAbs).length) := by
    unfold readDigits
    rw [takeWhile_digits hdigit hstop]
    exact congrArg (·, _) Nat.ofDigitChars_ten_toDigits
  have hfraction : readFraction (c :: tail) = none := by rcases hc with rfl | rfl <;> rfl
  have hexponent : readExponent (c :: tail) = none := by rcases hc with rfl | rfl <;> rfl
  have hcount : (Nat.toDigits 10 value.natAbs).length ≠ 0 := by
    simp [Nat.toDigits_ne_nil]
  have hlead : ¬ ((Nat.toDigits 10 value.natAbs ++ c :: tail).head? = some '0' ∧
      1 < (Nat.toDigits 10 value.natAbs).length) := by
    rintro ⟨hzero, hlong⟩
    rw [head?_toDigits_append] at hzero
    rcases Nat.eq_zero_or_pos value.natAbs with hnone | hpos
    · rw [hnone] at hlong
      exact absurd hlong (by decide)
    · exact head?_toDigits_ne hpos hzero
  by_cases hnegative : value < 0
  · have hsign : (-1 : ℤ) * value.natAbs = value := by omega
    have htext : writeInt value ++ c :: tail = '-' :: (Nat.toDigits 10 value.natAbs ++ c :: tail) := by
      unfold writeInt
      rw [if_pos hnegative]
      rfl
    rw [htext]
    unfold readNumber
    simp only [List.head?_cons, if_true, List.tail_cons, hunsigned, hcount, hlead,
      or_self, if_false, List.drop_left, hfraction, hexponent, hsign]
  · have hsign : (1 : ℤ) * value.natAbs = value := by omega
    have htext : writeInt value ++ c :: tail = Nat.toDigits 10 value.natAbs ++ c :: tail := by
      unfold writeInt
      rw [if_neg hnegative]
      rfl
    have hplain : (Nat.toDigits 10 value.natAbs ++ c :: tail).head? ≠ some '-' := by
      intro hhead
      rw [head?_toDigits_append] at hhead
      have hminus := hdigit '-' (List.mem_of_mem_head? hhead)
      exact absurd hminus (by decide)
    rw [htext]
    unfold readNumber
    simp only [hplain, if_false, hunsigned, hcount, hlead,
      or_self, List.drop_left, hfraction, hexponent, hsign]

theorem skipSpace_of_head {c : Char} {rest : List Char}
    (h : (c = ' ' || c = '\t' || c = '\n' || c = '\r') = false) : skipSpace (c :: rest) = c :: rest := by
  unfold skipSpace
  rw [List.dropWhile_cons_of_neg]
  rw [h]
  exact Bool.false_ne_true

theorem readAtom_writeInt (value : ℤ) {rest : List Char} (hrest : EndsValue rest) :
    readAtom (writeInt value ++ rest) = some (.int value, rest) := by
  have hword : ∀ word : List Char, word.head?.all (fun c ↦ c ≠ '-' && !c.isDigit) = true → word ≠ [] →
      word.isPrefixOf (writeInt value ++ rest) = false := by
    intro word hhead hword
    by_contra hprefix
    rw [Bool.not_eq_false, List.isPrefixOf_iff_prefix] at hprefix
    obtain ⟨more, hmore⟩ := hprefix
    cases word with
    | nil => exact hword rfl
    | cons c word =>
      have hfirst : (writeInt value ++ rest).head? = some c := by rw [← hmore]; rfl
      simp only [List.head?_cons, Option.all_some, Bool.and_eq_true, decide_eq_true_eq,
        Bool.not_eq_true'] at hhead
      unfold writeInt at hfirst
      split_ifs at hfirst with hnegative
      · exact hhead.1 (Option.some.inj hfirst).symm
      · rw [List.nil_append, head?_toDigits_append] at hfirst
        have hdigit := Nat.isDigit_of_mem_toDigits (by omega) (by omega) (List.mem_of_mem_head? hfirst)
        rw [hdigit] at hhead
        exact absurd hhead.2 (by simp)
  unfold readAtom
  have hnone : ([("null", .null), ("true", .bool true), ("false", .bool false)] :
      List (String × Json)).find? (fun word ↦ word.1.toList.isPrefixOf (writeInt value ++ rest)) =
        none := by
    rw [List.find?_eq_none]
    intro word hmem
    have hshape : word.1.toList.head?.all (fun c ↦ c ≠ '-' && !c.isDigit) = true ∧ word.1.toList ≠ [] := by
      simp only [List.mem_cons, List.not_mem_nil, or_false] at hmem
      rcases hmem with rfl | rfl | rfl <;> decide
    rw [hword _ hshape.1 hshape.2]
    exact Bool.false_ne_true
  simp only [hnone]
  exact readNumber_writeInt value hrest

/-- A written value is read, whatever of the two marks follows it. -/
theorem parseValue_writeScalar (fuel : ℕ) (value : Scalar) {rest : List Char} (hrest : EndsValue rest) :
    parseValue (fuel + 1) (writeScalar value ++ rest) = some (value.toJson, rest) := by
  cases value with
  | str text =>
    have htext : writeScalar (.str text) ++ rest =
        '"' :: (text.toList.flatMap escapeChar ++ '"' :: rest) := by
      simp [writeScalar, writeString]
    rw [htext, parseValue, if_pos rfl, scanString_flatMap]
    simp [Scalar.toJson]
  | int value =>
    obtain ⟨c, tail, hcons, hquote, hbracket, hbrace⟩ : ∃ c tail, writeInt value ++ rest = c :: tail ∧
        c ≠ '"' ∧ c ≠ '[' ∧ c ≠ '\x7b' := by
      unfold writeInt
      split_ifs with hnegative
      · exact ⟨'-', _, rfl, by decide, by decide, by decide⟩
      · cases hdigits : Nat.toDigits 10 value.natAbs with
        | nil => exact absurd hdigits Nat.toDigits_ne_nil
        | cons c digits =>
          have hdigit : c.isDigit = true := by
            refine Nat.isDigit_of_mem_toDigits (b := 10) (n := value.natAbs) (by omega) (by omega) ?_
            rw [hdigits]
            exact List.mem_cons_self
          refine ⟨c, digits ++ rest, rfl, ?_, ?_, ?_⟩ <;> rintro rfl <;> exact absurd hdigit (by decide)
    have hatom := readAtom_writeInt value hrest
    rw [hcons] at hatom
    change parseValue (fuel + 1) (writeInt value ++ rest) = _
    rw [hcons, parseValue, if_neg hquote, if_neg hbracket, if_neg hbrace]
    exact hatom

theorem skipSpace_writeScalar (value : Scalar) (rest : List Char) :
    skipSpace (writeScalar value ++ rest) = writeScalar value ++ rest := by
  cases value with
  | str text => exact skipSpace_of_head rfl
  | int value =>
    change skipSpace (writeInt value ++ rest) = writeInt value ++ rest
    unfold writeInt
    split_ifs with hnegative
    · exact skipSpace_of_head rfl
    · cases hdigits : Nat.toDigits 10 value.natAbs with
      | nil => exact absurd hdigits Nat.toDigits_ne_nil
      | cons c digits =>
        have hdigit : c.isDigit = true := by
          refine Nat.isDigit_of_mem_toDigits (b := 10) (n := value.natAbs) (by omega) (by omega) ?_
          rw [hdigits]
          exact List.mem_cons_self
        refine skipSpace_of_head ?_
        by_contra hspace
        simp only [Bool.not_eq_false, Bool.or_eq_true, decide_eq_true_eq] at hspace
        rcases hspace with ((rfl | rfl) | rfl) | rfl <;> exact absurd hdigit (by decide)

theorem writeMembers_cons (member : String × Scalar) (members : List (String × Scalar)) :
    ∃ rest, writeMembers (member :: members) = '"' :: rest := by
  cases members <;> exact ⟨_, rfl⟩

theorem length_writeMembers (members : List (String × Scalar)) :
    members.length ≤ (writeMembers members).length := by
  induction members with
  | nil => exact Nat.le_refl 0
  | cons member members ih =>
    cases members with
    | nil =>
      simp only [writeMembers, writeString, List.length_cons, List.length_append, List.length_nil]
      omega
    | cons next members =>
      simp only [writeMembers, writeString, List.length_cons, List.length_append, List.length_nil] at ih ⊢
      omega

/-- The written members are read back in order. -/
theorem parseMembers_writeMembers {members : List (String × Scalar)} (hmembers : members ≠ [])
    (rest : List Char) {fuel : ℕ} (hfuel : members.length < fuel) :
    parseMembers fuel (writeMembers members ++ '\x7d' :: rest) =
      some (members.map fun member ↦ (member.1, member.2.toJson), rest) := by
  induction members generalizing fuel with
  | nil => exact absurd rfl hmembers
  | cons member members ih =>
    obtain ⟨fuel, rfl⟩ : ∃ less, fuel = less + 1 := ⟨fuel - 1, by omega⟩
    obtain ⟨fuel, rfl⟩ : ∃ less, fuel = less + 1 :=
      ⟨fuel - 1, by rw [List.length_cons] at hfuel; omega⟩
    cases members with
    | nil =>
      have htext : writeMembers [member] ++ '\x7d' :: rest =
          '"' :: (member.1.toList.flatMap escapeChar ++
            '"' :: ':' :: (writeScalar member.2 ++ '\x7d' :: rest)) := by
        simp [writeMembers, writeString]
      have hcolon : skipSpace (':' :: (writeScalar member.2 ++ '\x7d' :: rest)) =
          ':' :: (writeScalar member.2 ++ '\x7d' :: rest) := skipSpace_of_head rfl
      have hclose : skipSpace ('\x7d' :: rest) = '\x7d' :: rest := skipSpace_of_head rfl
      rw [htext, parseMembers, scanString_flatMap]
      simp only [Option.bind_eq_bind, Option.bind_some, hcolon, skipSpace_writeScalar]
      rw [parseValue_writeScalar fuel member.2 (.inr rfl)]
      simp only [Option.bind_some, hclose, String.ofList_toList, List.map_cons, List.map_nil]
    | cons next members =>
      have htext : writeMembers (member :: next :: members) ++ '\x7d' :: rest =
          '"' :: (member.1.toList.flatMap escapeChar ++ '"' :: ':' :: (writeScalar member.2 ++
            ',' :: (writeMembers (next :: members) ++ '\x7d' :: rest))) := by
        simp [writeMembers, writeString]
      have hcolon : ∀ tail, skipSpace (':' :: tail) = ':' :: tail := fun tail ↦ skipSpace_of_head rfl
      have hcomma : ∀ tail, skipSpace (',' :: tail) = ',' :: tail := fun tail ↦ skipSpace_of_head rfl
      have hnext : skipSpace (writeMembers (next :: members) ++ '\x7d' :: rest) =
          writeMembers (next :: members) ++ '\x7d' :: rest := by
        obtain ⟨tail, htail⟩ := writeMembers_cons next members
        rw [htail]
        exact skipSpace_of_head rfl
      have hless : (next :: members).length < fuel + 1 := by simpa using hfuel
      have hrest := ih (by simp) hless
      rw [htext, parseMembers, scanString_flatMap]
      simp only [Option.bind_eq_bind, Option.bind_some, hcolon, skipSpace_writeScalar]
      rw [parseValue_writeScalar fuel member.2 (.inl rfl)]
      simp only [Option.bind_some, hcomma, hnext, hrest, Option.map_some, String.ofList_toList,
        List.map_cons]

/-- Members with different keys make an object as they stand. -/
theorem merge_of_nodup (done : Dict) {members : Dict} (h : ((done ++ members).map Prod.fst).Nodup) :
    Dict.merge done members = done ++ members := by
  induction members generalizing done with
  | nil => simp [Dict.merge]
  | cons member members ih =>
    have hfresh : done.any (fun entry ↦ entry.1 = member.1) = false := by
      rw [List.any_eq_false]
      intro entry hentry hkey
      rw [List.map_append, List.nodup_append] at h
      exact h.2.2 entry.1 (List.mem_map_of_mem hentry) member.1 (by simp) (of_decide_eq_true hkey)
    have hset : done.set member.1 member.2 = done ++ [member] := by
      unfold Dict.set
      rw [hfresh]
      rfl
    have hmerge : Dict.merge done (member :: members) = Dict.merge (done.set member.1 member.2) members :=
      rfl
    rw [hmerge, hset, ih _ (by simpa using h)]
    simp

/-- A flat object with different keys is read as it was written. -/
theorem loads_dumps {members : List (String × Scalar)} (hmembers : members ≠ [])
    (hkeys : (members.map Prod.fst).Nodup) :
    loads (dumps members) = some (.obj (members.map fun member ↦ (member.1, member.2.toJson))) := by
  have hopen : skipSpace (dumps members) = dumps members := skipSpace_of_head rfl
  obtain ⟨member, others, rfl⟩ := List.exists_cons_of_ne_nil hmembers
  obtain ⟨tail, htail⟩ := writeMembers_cons member others
  have hfirst : skipSpace (writeMembers (member :: others) ++ ['\x7d']) =
      writeMembers (member :: others) ++ ['\x7d'] := by
    rw [htail]
    exact skipSpace_of_head rfl
  have hfuel : (member :: others).length < (writeMembers (member :: others) ++ ['\x7d']).length := by
    have hlength := length_writeMembers (member :: others)
    rw [List.length_append, List.length_singleton]
    omega
  have hread := parseMembers_writeMembers hmembers [] hfuel
  have hmerge : Dict.merge [] ((member :: others).map fun member ↦ (member.1, member.2.toJson)) =
      (member :: others).map fun member ↦ (member.1, member.2.toJson) := by
    refine merge_of_nodup [] ?_
    rw [List.nil_append, List.map_map]
    exact hkeys
  unfold loads
  rw [hopen]
  change (match parseValue ((writeMembers (member :: others) ++ ['\x7d']).length + 1)
    ('\x7b' :: (writeMembers (member :: others) ++ ['\x7d'])) with
    | some (value, rest) => if skipSpace rest = [] then some value else none
    | none => none) = _
  rw [parseValue, if_neg (by decide), if_neg (by decide), if_pos rfl, hfirst, hread]
  rw [htail]
  simp only [List.cons_append, List.head?_cons, Option.some.injEq, Option.map_some, hmerge]
  rfl

end VoiceHarness.JsonText
