import VoiceHarness.Text
import Mathlib.Algebra.Order.Ring.Nat

/-!
# Short requests for the synthesiser

`split_text` packs sentences, clauses and words into pieces of at most `max_chars` characters and cuts a word
only if it is longer than that. Its three nested loops keep one invariant, `Packs`: the words of the pieces so
far and of the accumulator are the words read, the long ones cut.
-/

set_option autoImplicit false
set_option relaxedAutoImplicit false

namespace VoiceHarness.Tts

/-! ### The function -/

/-- `re.split(r"(?<=[…])\s+", text)`, `current` being the text since the last match. -/
def splitAfter (ends : List Char) (current : List Char) : List Char → List (List Char)
  | [] => [current]
  | c :: rest =>
    if isSpace c && current.getLast?.any ends.contains then
      current :: splitAfter ends [] (rest.dropWhile isSpace)
    else splitAfter ends (current ++ [c]) rest
termination_by text => text.length
decreasing_by
  · exact Nat.lt_succ_of_le (List.length_dropWhile_le isSpace rest)
  · exact Nat.lt_succ_self _

/-- The text of an accumulator as one more piece, unless it is empty. -/
def flush (chunks : List (List Char)) (current : List Char) : List (List Char) :=
  if current = [] then chunks else chunks ++ [current]

/-- `word[offset : offset + max_chars] for offset in range(0, len(word), max_chars)`. -/
def cutWord (maxChars : ℕ) (word : List Char) : List (List Char) :=
  (List.range ((word.length + maxChars - 1) / maxChars)).map fun i ↦
    (word.drop (i * maxChars)).take maxChars

/-- A word or a clause that is not too long joins the accumulator if it fits, else it is the next one. -/
def place (maxChars : ℕ) (state : List (List Char) × List Char) (text : List Char) :
    List (List Char) × List Char :=
  if state.2 = [] then (state.1, text)
  else if state.2.length + text.length + 1 ≤ maxChars then (state.1, state.2 ++ ' ' :: text)
  else (state.1 ++ [state.2], text)

/-- One word of a clause that is too long: the pieces and `word_chunk`. -/
def splitWord (maxChars : ℕ) (state : List (List Char) × List Char) (word : List Char) :
    List (List Char) × List Char :=
  if maxChars < word.length then (flush state.1 state.2 ++ cutWord maxChars word, [])
  else place maxChars state word

/-- One clause of a sentence that is too long: the pieces and `current`. -/
def splitClause (maxChars : ℕ) (state : List (List Char) × List Char) (clause : List Char) :
    List (List Char) × List Char :=
  if maxChars < clause.length then
    let (chunks, wordChunk) := (splitWords clause).foldl (splitWord maxChars) (flush state.1 state.2, [])
    (flush chunks wordChunk, [])
  else place maxChars state clause

/-- One sentence. -/
def splitSentence (maxChars : ℕ) (chunks : List (List Char)) (sentence : List Char) : List (List Char) :=
  if sentence.length ≤ maxChars then chunks ++ [sentence]
  else
    let (chunks, current) :=
      (splitAfter [',', ';', ':'] [] sentence).foldl (splitClause maxChars) (chunks, [])
    flush chunks current

/-- `split_text`. -/
def splitText (maxChars : ℕ) (text : List Char) : List (List Char) :=
  let text := [' '].intercalate (splitWords text)
  if text = [] then []
  else (splitAfter ['.', '!', '?'] [] text).foldl (splitSentence maxChars) []

/-! ### The pieces of the regular expressions -/

/-- The pieces have the words of the text. -/
theorem flatMap_splitWords_splitAfter (ends current text : List Char) :
    (splitAfter ends current text).flatMap splitWords = splitWords (current ++ text) := by
  induction current, text using splitAfter.induct ends with
  | case1 current => rw [splitAfter, List.flatMap_singleton, List.append_nil]
  | case2 current c rest hsplit ih =>
    rw [Bool.and_eq_true] at hsplit
    rw [splitAfter, if_pos (by rw [Bool.and_eq_true]; exact hsplit), List.flatMap_cons, ih,
      List.nil_append, splitWords_dropWhile, splitWords_append_cons hsplit.1]
  | case3 current c rest hsplit ih =>
    rw [splitAfter, if_neg hsplit, ih, List.append_assoc, List.singleton_append]

/-- The text does not end with white space. -/
def EndsSolid (text : List Char) : Prop := ∀ c, text.getLast? = some c → isSpace c = false

theorem EndsSolid.of_cons {c : Char} {text : List Char} (h : EndsSolid (c :: text)) (hne : text ≠ []) :
    EndsSolid text := by
  intro last hlast
  refine h last ?_
  obtain ⟨d, text, rfl⟩ := List.exists_cons_of_ne_nil hne
  rwa [List.getLast?_cons_cons]

/-- Behind white space there is more. -/
theorem EndsSolid.dropWhile {text : List Char} :
    ∀ {c : Char}, EndsSolid (c :: text) → isSpace c = true →
      text.dropWhile isSpace ≠ [] ∧ EndsSolid (text.dropWhile isSpace) := by
  induction text with
  | nil =>
    intro c h hc
    rw [h c rfl] at hc
    cases hc
  | cons d text ih =>
    intro c h hc
    have htext := h.of_cons (List.cons_ne_nil d text)
    by_cases hd : isSpace d = true
    · rw [List.dropWhile_cons, if_pos hd]
      exact ih htext hd
    · rw [List.dropWhile_cons, if_neg hd]
      exact ⟨List.cons_ne_nil d text, htext⟩

/-- A text that does not end with white space is split into pieces that are not empty. -/
theorem ne_nil_of_mem_splitAfter (ends current text : List Char) (hne : current ++ text ≠ [])
    (hlast : EndsSolid text) : ∀ piece ∈ splitAfter ends current text, piece ≠ [] := by
  induction current, text using splitAfter.induct ends with
  | case1 current =>
    intro piece hpiece
    rw [splitAfter, List.mem_singleton] at hpiece
    rw [hpiece]
    rwa [List.append_nil] at hne
  | case2 current c rest hsplit ih =>
    have hsplit' := hsplit
    rw [Bool.and_eq_true] at hsplit'
    obtain ⟨hrest, hsolid⟩ := hlast.dropWhile hsplit'.1
    intro piece hpiece
    rw [splitAfter, if_pos hsplit, List.mem_cons] at hpiece
    obtain rfl | hpiece := hpiece
    · -- the piece holds the character that the lookbehind has seen
      intro hnil
      rw [hnil] at hsplit'
      cases hsplit'.2
    · exact ih (by rwa [List.nil_append]) hsolid piece hpiece
  | case3 current c rest hsplit ih =>
    intro piece hpiece
    rw [splitAfter, if_neg hsplit] at hpiece
    have hsolid : EndsSolid rest := by
      by_cases hrest : rest = []
      · intro last hlast'
        rw [hrest] at hlast'
        cases hlast'
      · exact hlast.of_cons hrest
    exact ih (by simp) hsolid piece hpiece

/-- The words of a text with one space between them do not end with white space. -/
theorem endsSolid_intercalate {words : List (List Char)}
    (hwords : ∀ word ∈ words, word ≠ [] ∧ ∀ c ∈ word, isSpace c = false) :
    EndsSolid ([' '].intercalate words) := by
  induction words with
  | nil =>
    intro last hlast
    cases hlast
  | cons word words ih =>
    obtain ⟨⟨hne, hsolid⟩, hwords⟩ := List.forall_mem_cons.mp hwords
    cases words with
    | nil =>
      intro last hlast
      rw [List.intercalate_singleton] at hlast
      exact hsolid last (List.mem_of_getLast? hlast)
    | cons next words =>
      intro last hlast
      rw [List.intercalate_cons_cons, List.getLast?_append] at hlast
      -- what stands behind the space is not empty
      have hrest : ([' '].intercalate (next :: words)).getLast? ≠ none := by
        rw [Ne, List.getLast?_eq_none_iff]
        intro hnil
        have hwords' := congrArg splitWords hnil
        rw [splitWords_intercalate, List.flatMap_cons, splitWords_nil,
          splitWords_of_solid (hwords next List.mem_cons_self).1 (hwords next List.mem_cons_self).2] at hwords'
        cases hwords'
      obtain ⟨c, hc⟩ := Option.ne_none_iff_exists'.mp hrest
      rw [hc] at hlast
      cases hlast
      exact ih hwords last hc

/-! ### Cut words -/

/-- A word that is not too long is one piece, any other is cut. -/
def cutLong (maxChars : ℕ) (word : List Char) : List (List Char) :=
  if word.length ≤ maxChars then [word] else cutWord maxChars word

variable {maxChars : ℕ}

/-- The first slice and the slices of the rest. -/
theorem cutWord_of_ne_nil (hmax : 1 ≤ maxChars) {word : List Char} (hne : word ≠ []) :
    cutWord maxChars word = word.take maxChars :: cutWord maxChars (word.drop maxChars) := by
  have hlength : 1 ≤ word.length := List.length_pos_iff.mpr hne
  have hcount : (word.length + maxChars - 1) / maxChars =
      ((word.drop maxChars).length + maxChars - 1) / maxChars + 1 := by
    rw [List.length_drop]
    by_cases hshort : word.length ≤ maxChars
    · rw [Nat.div_eq_of_lt_le (k := 1) (by omega) (by omega), Nat.div_eq_of_lt (by omega)]
    · rw [show word.length + maxChars - 1 = word.length - maxChars + maxChars - 1 + maxChars by omega,
        Nat.add_div_right _ (by omega)]
  rw [cutWord, hcount, List.range_succ_eq_map, List.map_cons, List.map_map, Nat.zero_mul, List.drop_zero]
  congr 1
  refine List.map_congr_left ?_
  intro i hi
  rw [Function.comp_apply, List.drop_drop, Nat.succ_mul, Nat.add_comm]

theorem cutWord_nil (hmax : 1 ≤ maxChars) : cutWord maxChars [] = [] := by
  rw [cutWord, List.length_nil, Nat.zero_add, Nat.div_eq_of_lt (by omega)]
  rfl

/-- The slices of a word are words of at most `max_chars` characters, and together they are the word. -/
theorem cutWord_spec (hmax : 1 ≤ maxChars) (n : ℕ) :
    ∀ {word : List Char}, word.length ≤ n → (∀ c ∈ word, isSpace c = false) →
      (cutWord maxChars word).flatten = word ∧
      (cutWord maxChars word).flatMap splitWords = cutWord maxChars word ∧
      ∀ piece ∈ cutWord maxChars word, piece ≠ [] ∧ piece.length ≤ maxChars := by
  induction n with
  | zero =>
    intro word hlength hsolid
    have hnil : word = [] := List.length_eq_zero_iff.mp (by omega)
    rw [hnil, cutWord_nil hmax]
    simp
  | succ n ih =>
    intro word hlength hsolid
    by_cases hne : word = []
    · rw [hne, cutWord_nil hmax]
      simp
    · have hpos : 1 ≤ word.length := List.length_pos_iff.mpr hne
      have htake : word.take maxChars ≠ [] := by
        rw [Ne, List.take_eq_nil_iff]
        simp only [hne, or_false]
        omega
      have hdrop : (word.drop maxChars).length ≤ n := by
        rw [List.length_drop]
        omega
      obtain ⟨hflat, hwords, hpieces⟩ := ih hdrop fun c hc ↦ hsolid c (List.mem_of_mem_drop hc)
      rw [cutWord_of_ne_nil hmax hne]
      refine ⟨?_, ?_, ?_⟩
      · rw [List.flatten_cons, hflat, List.take_append_drop]
      · rw [List.flatMap_cons, hwords,
          splitWords_of_solid htake fun c hc ↦ hsolid c (List.mem_of_mem_take hc)]
        rfl
      · rw [List.forall_mem_cons]
        exact ⟨⟨htake, List.length_take_le _ _⟩, hpieces⟩

theorem cutLong_of_le {word : List Char} (h : word.length ≤ maxChars) : cutLong maxChars word = [word] :=
  if_pos h

theorem flatten_cutLong (hmax : 1 ≤ maxChars) {word : List Char} (hsolid : ∀ c ∈ word, isSpace c = false) :
    (cutLong maxChars word).flatten = word := by
  rw [cutLong]
  split_ifs with hlong
  · rw [List.flatten_singleton]
  · exact (cutWord_spec hmax _ le_rfl hsolid).1

/-- Words that stay as they are. -/
theorem flatMap_of_eq_singleton {words : List (List Char)} {cut : List Char → List (List Char)}
    (h : ∀ word ∈ words, cut word = [word]) : words.flatMap cut = words := by
  rw [List.flatMap_def, List.map_congr_left h, ← List.flatMap_def]
  exact List.flatMap_singleton' _

/-- Of a text that is not too long no word is cut. -/
theorem flatMap_cutLong_splitWords {text : List Char} (h : text.length ≤ maxChars) :
    (splitWords text).flatMap (cutLong maxChars) = splitWords text := by
  refine flatMap_of_eq_singleton ?_
  intro word hword
  exact cutLong_of_le ((length_le_of_mem_splitWords hword).trans h)

/-! ### The invariant of the loops -/

/-- The pieces and the accumulator hold the words read, the long ones cut. -/
structure Packs (maxChars : ℕ) (words chunks : List (List Char)) (current : List Char) : Prop where
  pieces : ∀ piece ∈ chunks, piece ≠ [] ∧ piece.length ≤ maxChars
  length_le : current.length ≤ maxChars
  words_eq : chunks.flatMap splitWords ++ splitWords current = words.flatMap (cutLong maxChars)

theorem packs_nil : Packs maxChars [] [] [] where
  pieces := by simp
  length_le := Nat.zero_le _
  words_eq := rfl

theorem flush_of_ne_nil (chunks : List (List Char)) {current : List Char} (h : current ≠ []) :
    flush chunks current = chunks ++ [current] :=
  if_neg h

variable {words chunks : List (List Char)} {current : List Char}

theorem Packs.flush (h : Packs maxChars words chunks current) :
    Packs maxChars words (flush chunks current) [] := by
  by_cases hcurrent : current = []
  · rw [hcurrent] at h ⊢
    exact h
  · rw [flush_of_ne_nil chunks hcurrent]
    refine ⟨?_, Nat.zero_le _, ?_⟩
    · intro piece hpiece
      rw [List.mem_append, List.mem_singleton] at hpiece
      obtain hpiece | rfl := hpiece
      · exact h.pieces piece hpiece
      · exact ⟨hcurrent, h.length_le⟩
    · rw [List.flatMap_append, List.flatMap_singleton, splitWords_nil, List.append_nil, h.words_eq]

/-- A text that is not too long becomes the accumulator. -/
theorem Packs.start (h : Packs maxChars words chunks []) {text : List Char} (htext : text.length ≤ maxChars) :
    Packs maxChars (words ++ splitWords text) chunks text := by
  refine ⟨h.pieces, htext, ?_⟩
  have hwords := h.words_eq
  rw [splitWords_nil, List.append_nil] at hwords
  rw [hwords, List.flatMap_append, flatMap_cutLong_splitWords htext]

theorem Packs.place (h : Packs maxChars words chunks current) {text : List Char}
    (htext : text.length ≤ maxChars) :
    Packs maxChars (words ++ splitWords text) (place maxChars (chunks, current) text).1
      (place maxChars (chunks, current) text).2 := by
  rw [Tts.place]
  split_ifs with hcurrent hfits
  · simp only at hcurrent
    rw [hcurrent] at h
    exact h.start htext
  · have hspace : isSpace ' ' = true := by decide
    refine ⟨h.pieces, ?_, ?_⟩
    · simp only [List.length_append, List.length_cons] at hfits ⊢
      omega
    · rw [splitWords_append_cons hspace, ← List.append_assoc, h.words_eq, List.flatMap_append,
        flatMap_cutLong_splitWords htext]
  · rw [← flush_of_ne_nil chunks hcurrent]
    exact h.flush.start htext

theorem Packs.splitWord (hmax : 1 ≤ maxChars) (h : Packs maxChars words chunks current) {word : List Char}
    (hne : word ≠ []) (hsolid : ∀ c ∈ word, isSpace c = false) :
    Packs maxChars (words ++ [word]) (splitWord maxChars (chunks, current) word).1
      (splitWord maxChars (chunks, current) word).2 := by
  rw [Tts.splitWord]
  split_ifs with hlong
  · obtain ⟨-, hwords, hpieces⟩ := cutWord_spec hmax _ le_rfl hsolid
    have hflush := h.flush.words_eq
    rw [splitWords_nil, List.append_nil] at hflush
    refine ⟨?_, Nat.zero_le _, ?_⟩
    · intro piece hpiece
      rw [List.mem_append] at hpiece
      exact hpiece.elim (h.flush.pieces piece) (hpieces piece)
    · rw [splitWords_nil, List.append_nil, List.flatMap_append, hflush, hwords, List.flatMap_append,
        List.flatMap_singleton, cutLong, if_neg (by omega)]
  · have hplace := h.place (not_lt.mp hlong)
    rwa [splitWords_of_solid hne hsolid] at hplace

theorem Packs.splitWord_foldl (hmax : 1 ≤ maxChars) {rest : List (List Char)}
    (hrest : ∀ word ∈ rest, word ≠ [] ∧ ∀ c ∈ word, isSpace c = false) :
    ∀ {words : List (List Char)} {state : List (List Char) × List Char},
      Packs maxChars words state.1 state.2 →
      Packs maxChars (words ++ rest) (rest.foldl (Tts.splitWord maxChars) state).1
        (rest.foldl (Tts.splitWord maxChars) state).2 := by
  induction rest with
  | nil =>
    intro words state h
    rwa [List.append_nil]
  | cons word rest ih =>
    intro words state h
    obtain ⟨⟨hne, hsolid⟩, hrest⟩ := List.forall_mem_cons.mp hrest
    rw [List.append_cons, List.foldl_cons]
    exact ih hrest (h.splitWord hmax hne hsolid)

theorem solid_of_mem_splitWords (text : List Char) :
    ∀ word ∈ splitWords text, word ≠ [] ∧ ∀ c ∈ word, isSpace c = false :=
  fun _ hword ↦ ⟨ne_nil_of_mem_splitWords hword, fun _ ↦ isSpace_of_mem_splitWords hword⟩

theorem Packs.splitClause (hmax : 1 ≤ maxChars) (h : Packs maxChars words chunks current)
    (clause : List Char) :
    Packs maxChars (words ++ splitWords clause) (splitClause maxChars (chunks, current) clause).1
      (splitClause maxChars (chunks, current) clause).2 := by
  rw [Tts.splitClause]
  split_ifs with hlong
  · exact (Packs.splitWord_foldl hmax (solid_of_mem_splitWords clause) h.flush).flush
  · exact h.place (by omega)

theorem Packs.splitClause_foldl (hmax : 1 ≤ maxChars) (clauses : List (List Char)) :
    ∀ {words : List (List Char)} {state : List (List Char) × List Char},
      Packs maxChars words state.1 state.2 →
      Packs maxChars (words ++ clauses.flatMap splitWords)
        (clauses.foldl (Tts.splitClause maxChars) state).1
        (clauses.foldl (Tts.splitClause maxChars) state).2 := by
  induction clauses with
  | nil =>
    intro words state h
    rwa [List.flatMap_nil, List.append_nil]
  | cons clause clauses ih =>
    intro words state h
    rw [List.flatMap_cons, ← List.append_assoc, List.foldl_cons]
    exact ih (h.splitClause hmax clause)

theorem Packs.splitSentence (hmax : 1 ≤ maxChars) (h : Packs maxChars words chunks [])
    {sentence : List Char} (hne : sentence ≠ []) :
    Packs maxChars (words ++ splitWords sentence) (splitSentence maxChars chunks sentence) [] := by
  rw [Tts.splitSentence]
  split_ifs with hshort
  · rw [← flush_of_ne_nil chunks hne]
    exact (h.start hshort).flush
  · have hstart : Packs maxChars words (chunks, ([] : List Char)).1 (chunks, ([] : List Char)).2 := h
    have hclauses := Packs.splitClause_foldl hmax (splitAfter [',', ';', ':'] [] sentence) hstart
    rw [flatMap_splitWords_splitAfter, List.nil_append] at hclauses
    exact hclauses.flush

theorem Packs.splitSentence_foldl (hmax : 1 ≤ maxChars) {sentences : List (List Char)}
    (hsentences : ∀ sentence ∈ sentences, sentence ≠ []) :
    ∀ {words chunks : List (List Char)}, Packs maxChars words chunks [] →
      Packs maxChars (words ++ sentences.flatMap splitWords)
        (sentences.foldl (Tts.splitSentence maxChars) chunks) [] := by
  induction sentences with
  | nil =>
    intro words chunks h
    rwa [List.flatMap_nil, List.append_nil]
  | cons sentence sentences ih =>
    intro words chunks h
    obtain ⟨hne, hsentences⟩ := List.forall_mem_cons.mp hsentences
    rw [List.flatMap_cons, ← List.append_assoc, List.foldl_cons]
    exact ih hsentences (h.splitSentence hmax hne)

/-! ### Whole texts -/

theorem packs_splitText (hmax : 1 ≤ maxChars) (text : List Char) :
    Packs maxChars (splitWords text) (splitText maxChars text) [] := by
  have hsolid := endsSolid_intercalate (solid_of_mem_splitWords text)
  have hjoined : splitWords ([' '].intercalate (splitWords text)) = splitWords text := by
    rw [splitWords_intercalate]
    refine flatMap_of_eq_singleton ?_
    intro word hword
    exact splitWords_of_solid (ne_nil_of_mem_splitWords hword) fun c ↦ isSpace_of_mem_splitWords hword
  rw [splitText]
  split_ifs with hempty
  · rw [← hjoined, hempty]
    exact packs_nil
  · have hpieces := ne_nil_of_mem_splitAfter ['.', '!', '?'] [] _
      (by rwa [List.nil_append]) hsolid
    have hpacks := Packs.splitSentence_foldl hmax hpieces packs_nil
    rwa [flatMap_splitWords_splitAfter, List.nil_append, List.nil_append, hjoined] at hpacks

/-- Every piece is short and not empty, the pieces hold the text up to white space, and their words are the
words of the text, where only words of more than `max_chars` characters are cut. -/
theorem splitText_conserves (maxChars : ℕ) (hmax : 1 ≤ maxChars) (text : List Char) :
    (∀ piece ∈ splitText maxChars text, piece ≠ [] ∧ piece.length ≤ maxChars) ∧
      solidText (splitText maxChars text).flatten = solidText text ∧
      (splitText maxChars text).flatMap splitWords = (splitWords text).flatMap (cutLong maxChars) := by
  have hpacks := packs_splitText hmax text
  have hwords := hpacks.words_eq
  rw [splitWords_nil, List.append_nil] at hwords
  refine ⟨hpacks.pieces, ?_, hwords⟩
  calc solidText (splitText maxChars text).flatten
      = ((splitText maxChars text).flatMap splitWords).flatten := by
        induction splitText maxChars text with
        | nil => rfl
        | cons piece pieces ih =>
          rw [List.flatten_cons, solidText_append, ih, List.flatMap_cons, List.flatten_append,
            flatten_splitWords]
    _ = ((splitWords text).flatMap (cutLong maxChars)).flatten := by rw [hwords]
    _ = (splitWords text).flatten := by
        have hcut : ∀ word ∈ splitWords text, (List.flatten ∘ cutLong maxChars) word = word := by
          intro word hword
          exact flatten_cutLong hmax (solid_of_mem_splitWords text word hword).2
        rw [List.flatMap_def, List.flatten_flatten, List.map_map, List.map_congr_left hcut, List.map_id']
    _ = solidText text := flatten_splitWords text

/-- A clause, a comma and a word that is too long. -/
theorem splitText_conserves_word :
    1 ≤ 4 ∧ (∀ piece ∈ splitText 4 ['a', ',', ' ', 'b', ' ', 'c', 'd', 'e', 'f', 'g', '.'],
        piece ≠ [] ∧ piece.length ≤ 4) ∧
      solidText (splitText 4 ['a', ',', ' ', 'b', ' ', 'c', 'd', 'e', 'f', 'g', '.']).flatten =
        solidText ['a', ',', ' ', 'b', ' ', 'c', 'd', 'e', 'f', 'g', '.'] ∧
      (splitText 4 ['a', ',', ' ', 'b', ' ', 'c', 'd', 'e', 'f', 'g', '.']).flatMap splitWords =
        (splitWords ['a', ',', ' ', 'b', ' ', 'c', 'd', 'e', 'f', 'g', '.']).flatMap (cutLong 4) :=
  ⟨by decide, splitText_conserves 4 (by decide) ['a', ',', ' ', 'b', ' ', 'c', 'd', 'e', 'f', 'g', '.']⟩

end VoiceHarness.Tts
