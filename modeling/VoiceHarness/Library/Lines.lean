import Mathlib.Data.List.Basic

/-!
Lines in a stream of fragments. A writer ends each line with a separator that no line contains; a
reader gets the text in fragments of any length, keeps what it has of the current line in a buffer and
takes a line off whenever the buffer has a separator.
-/

set_option autoImplicit false
set_option relaxedAutoImplicit false

namespace VoiceHarness.Library

variable {α : Type*}

/-- The text of lines, each with its separator. -/
def encodeLines (separator : α) (lines : List (List α)) : List α :=
  lines.flatMap fun line ↦ line ++ [separator]

@[simp] theorem encodeLines_nil (separator : α) : encodeLines separator [] = [] := rfl

@[simp] theorem encodeLines_cons (separator : α) (line : List α) (lines : List (List α)) :
    encodeLines separator (line :: lines) =
      line ++ separator :: encodeLines separator lines := by
  simp [encodeLines]

theorem encodeLines_append (separator : α) (first second : List (List α)) :
    encodeLines separator (first ++ second) =
      encodeLines separator first ++ encodeLines separator second :=
  List.flatMap_append

/-- A cut of the text falls after some complete lines and inside the next one. -/
theorem exists_lines_of_append {separator : α} {lines : List (List α)}
    (hlines : ∀ line ∈ lines, separator ∉ line) {text rest : List α}
    (h : text ++ rest = encodeLines separator lines) :
    ∃ first second buffer, lines = first ++ second ∧ separator ∉ buffer ∧
      text = encodeLines separator first ++ buffer ∧
      buffer ++ rest = encodeLines separator second := by
  induction lines generalizing text with
  | nil =>
    obtain ⟨rfl, rfl⟩ := List.append_eq_nil_iff.mp h
    exact ⟨[], [], [], rfl, List.not_mem_nil, rfl, rfl⟩
  | cons line lines ih =>
    have hline := hlines line List.mem_cons_self
    rw [encodeLines_cons] at h
    rcases List.append_eq_append_iff.mp h with ⟨inside, hinside, hrest⟩ | ⟨beyond, htext, hbeyond⟩
    · refine ⟨[], line :: lines, text, rfl, fun hmem ↦ hline ?_, rfl, ?_⟩
      · rw [hinside]
        exact List.mem_append_left _ hmem
      · rw [encodeLines_cons, ← h]
    · cases beyond with
      | nil =>
        refine ⟨[], line :: lines, text, rfl, ?_, rfl, ?_⟩
        · rw [htext, List.append_nil]
          exact hline
        · rw [encodeLines_cons, ← h]
      | cons item beyond =>
        obtain ⟨rfl, hlater⟩ := List.cons.inj hbeyond
        obtain ⟨first, second, buffer, rfl, hbuffer, rfl, hsecond⟩ :=
          ih (fun other hother ↦ hlines other (List.mem_cons_of_mem _ hother)) hlater.symm
        refine ⟨line :: first, second, buffer, rfl, hbuffer, ?_, hsecond⟩
        rw [htext, encodeLines_cons, List.append_assoc, List.cons_append]

variable [DecidableEq α]

/-- The text before the first separator and the text after it. -/
def partitionLine (separator : α) : List α → List α × List α
  | [] => ([], [])
  | item :: text =>
    if item = separator then ([], text)
    else (item :: (partitionLine separator text).1, (partitionLine separator text).2)

theorem partitionLine_append {separator : α} {line : List α} (hline : separator ∉ line)
    (rest : List α) : partitionLine separator (line ++ separator :: rest) = (line, rest) := by
  induction line with
  | nil => simp [partitionLine]
  | cons item line ih =>
    have hne : item ≠ separator := fun heq ↦ hline (heq ▸ List.mem_cons_self)
    have hrest := ih fun hmem ↦ hline (List.mem_cons_of_mem _ hmem)
    rw [List.cons_append, partitionLine, if_neg hne, hrest]

/-- The separators of a text are those of its complete lines. -/
theorem count_encodeLines {separator : α} {lines : List (List α)}
    (hlines : ∀ line ∈ lines, separator ∉ line) {rest : List α} (hrest : separator ∉ rest) :
    (encodeLines separator lines ++ rest).count separator = lines.length := by
  induction lines with
  | nil => simpa using List.count_eq_zero.mpr hrest
  | cons line lines ih =>
    have hline : line.count separator = 0 :=
      List.count_eq_zero.mpr (hlines line List.mem_cons_self)
    have hothers := ih fun other hother ↦ hlines other (List.mem_cons_of_mem _ hother)
    rw [encodeLines_cons, List.append_assoc, List.count_append, hline, List.cons_append,
      List.count_cons_self, hothers]
    simp

/-- The complete lines of a text and what is left of it behind the last separator. -/
def cutLines (separator : α) : List α → List (List α) × List α
  | [] => ([], [])
  | item :: text =>
    if item = separator then ([] :: (cutLines separator text).1, (cutLines separator text).2)
    else
      match cutLines separator text with
      | ([], rest) => ([], item :: rest)
      | (line :: lines, rest) => ((item :: line) :: lines, rest)

/-- A text is its complete lines and the rest. -/
theorem encodeLines_cutLines (separator : α) (text : List α) :
    encodeLines separator (cutLines separator text).1 ++ (cutLines separator text).2 = text := by
  induction text with
  | nil => rfl
  | cons item text ih =>
    rw [cutLines]
    by_cases hitem : item = separator
    · rw [if_pos hitem, encodeLines_cons, List.nil_append, List.cons_append, ih, hitem]
    · rw [if_neg hitem]
      rcases hsplit : cutLines separator text with ⟨lines, rest⟩
      rw [hsplit] at ih
      cases lines with
      | nil => exact congrArg (item :: ·) ih
      | cons line lines =>
        rw [encodeLines_cons, List.append_assoc] at ih
        rw [encodeLines_cons, List.append_assoc, List.cons_append]
        exact congrArg (item :: ·) ih

theorem cutLines_of_notMem {separator : α} {text : List α} (h : separator ∉ text) :
    cutLines separator text = ([], text) := by
  induction text with
  | nil => rfl
  | cons item text ih =>
    have hitem : item ≠ separator := fun heq ↦ h (heq ▸ List.mem_cons_self)
    rw [cutLines, if_neg hitem, ih fun hmem ↦ h (List.mem_cons_of_mem _ hmem)]

/-- Lines that end nowhere before their separators are what the text is split into. -/
theorem cutLines_encodeLines {separator : α} {lines : List (List α)}
    (hlines : ∀ line ∈ lines, separator ∉ line) {rest : List α} (hrest : separator ∉ rest) :
    cutLines separator (encodeLines separator lines ++ rest) = (lines, rest) := by
  induction lines with
  | nil => exact cutLines_of_notMem hrest
  | cons line lines ih =>
    have hlater := ih fun other hother ↦ hlines other (List.mem_cons_of_mem _ hother)
    have hline := hlines line List.mem_cons_self
    rw [encodeLines_cons, List.append_assoc, List.cons_append]
    clear ih hlines
    induction line with
    | nil => rw [List.nil_append, cutLines, if_pos rfl, hlater]
    | cons item line ih =>
      have hitem : item ≠ separator := fun heq ↦ hline (heq ▸ List.mem_cons_self)
      rw [List.cons_append, cutLines, if_neg hitem,
        ih fun hmem ↦ hline (List.mem_cons_of_mem _ hmem)]

theorem separator_notMem_cutLines (separator : α) (text : List α) :
    (∀ line ∈ (cutLines separator text).1, separator ∉ line) ∧
      separator ∉ (cutLines separator text).2 := by
  induction text with
  | nil => exact ⟨fun _ h ↦ absurd h List.not_mem_nil, List.not_mem_nil⟩
  | cons item text ih =>
    rw [cutLines]
    by_cases hitem : item = separator
    · rw [if_pos hitem]
      refine ⟨fun line hline ↦ ?_, ih.2⟩
      rcases List.mem_cons.mp hline with rfl | hline
      · exact List.not_mem_nil
      · exact ih.1 line hline
    · rw [if_neg hitem]
      rcases hsplit : cutLines separator text with ⟨lines, rest⟩
      rw [hsplit] at ih
      cases lines with
      | nil =>
        refine ⟨fun _ h ↦ absurd h List.not_mem_nil, fun hmem ↦ ?_⟩
        exact (List.mem_cons.mp hmem).elim (fun heq ↦ hitem heq.symm) ih.2
      | cons line lines =>
        refine ⟨fun other hother ↦ ?_, ih.2⟩
        rcases List.mem_cons.mp hother with rfl | hother
        · intro hmem
          exact (List.mem_cons.mp hmem).elim (fun heq ↦ hitem heq.symm)
            (ih.1 line List.mem_cons_self)
        · exact ih.1 other (List.mem_cons_of_mem _ hother)

/-- More text ends the lines that it has separators for, the first of them with the rest so far. -/
theorem cutLines_append (separator : α) (text more : List α) :
    cutLines separator (text ++ more) =
      ((cutLines separator text).1 ++
          (cutLines separator ((cutLines separator text).2 ++ more)).1,
        (cutLines separator ((cutLines separator text).2 ++ more)).2) := by
  obtain ⟨hfirst, hrest⟩ := separator_notMem_cutLines separator text
  obtain ⟨hsecond, hend⟩ :=
    separator_notMem_cutLines separator ((cutLines separator text).2 ++ more)
  have htext : text ++ more = encodeLines separator ((cutLines separator text).1 ++
      (cutLines separator ((cutLines separator text).2 ++ more)).1) ++
      (cutLines separator ((cutLines separator text).2 ++ more)).2 := by
    rw [encodeLines_append, List.append_assoc, encodeLines_cutLines, ← List.append_assoc,
      encodeLines_cutLines]
  rw [htext]
  refine cutLines_encodeLines (fun line hline ↦ ?_) hend
  rcases List.mem_append.mp hline with hline | hline
  · exact hfirst line hline
  · exact hsecond line hline

/-- A text has as many complete lines as separators. -/
theorem length_cutLines (separator : α) (text : List α) :
    (cutLines separator text).1.length = text.count separator := by
  obtain ⟨hlines, hrest⟩ := separator_notMem_cutLines separator text
  calc
    (cutLines separator text).1.length =
        (encodeLines separator (cutLines separator text).1 ++
          (cutLines separator text).2).count separator := (count_encodeLines hlines hrest).symm
    _ = text.count separator := by rw [encodeLines_cutLines]

end VoiceHarness.Library
