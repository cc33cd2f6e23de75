import VoiceHarness.Vocabulary.Store

/-!
# The vocabulary always loads

`Vocabulary.Stored` says what every vocabulary satisfies that is read from a file or from a backup, and every
operation keeps it: its entries are read back as they are, and no two of a kind have one key. So what a save writes is
loaded again, and `performAll_sound` says it of every run of operations on a store that starts without a file.
-/

set_option autoImplicit false
set_option relaxedAutoImplicit false

namespace VoiceHarness

open Library

/-! ### Collapsed texts -/

theorem toList_collapse (value : String) : (collapse value).toList = joinWords value.toList :=
  String.toList_ofList

@[simp] theorem collapse_collapse (value : String) : collapse (collapse value) = collapse value := by
  rw [collapse, toList_collapse, joinWords, splitWords_joinWords]
  rfl

theorem mem_joinWords {text : List Char} {c : Char} (h : c ∈ joinWords text) : c = ' ' ∨ c ∈ text := by
  have hwords : ∀ words : List (List Char), c ∈ [' '].intercalate words → c = ' ' ∨ ∃ word ∈ words, c ∈ word := by
    intro words
    induction words with
    | nil => exact fun hmem ↦ (List.not_mem_nil hmem).elim
    | cons word words ih =>
      cases words with
      | nil =>
        intro hmem
        rw [List.intercalate_singleton] at hmem
        exact .inr ⟨word, List.mem_cons_self, hmem⟩
      | cons next words =>
        intro hmem
        rw [List.intercalate_cons_cons, List.append_assoc, List.mem_append, List.mem_append,
          List.mem_singleton] at hmem
        rcases hmem with hword | rfl | hlater
        · exact .inr ⟨word, List.mem_cons_self, hword⟩
        · exact .inl rfl
        · refine (ih hlater).imp_right ?_
          rintro ⟨later, hmem, hc⟩
          exact ⟨later, List.mem_cons_of_mem _ hmem, hc⟩
  refine (hwords _ h).imp_right ?_
  rintro ⟨word, hword, hc⟩
  have hsolid : c ∈ solidText text := by
    rw [← flatten_splitWords]
    exact List.mem_flatten.mpr ⟨word, hword, hc⟩
  exact (List.mem_filter.mp hsolid).1

section Loading

variable [VocabularyLibrary] [LawfulVocabulary]

/-! ### Entries that are read back -/

omit [VocabularyLibrary] [LawfulVocabulary] in
/-- A replacement in its normal form is read back. -/
theorem readReplacement_toRecord {item : Replacement} (hspoken : collapse item.spoken = item.spoken)
    (hwritten : strip item.written = item.written) (hne : item.spoken ≠ "" ∧ item.written ≠ "") :
    readReplacement item.toRecord = .ok item := by
  have htexts : readTexts "replacement" "spoken" "written" item.toRecord =
      .ok ([("spoken", .str item.spoken), ("written", .str item.written)], item.spoken, item.written) := rfl
  rw [readReplacement, htexts]
  simp only [bind, Except.bind, hspoken, hwritten, hne, or_self, if_false]

omit [VocabularyLibrary] [LawfulVocabulary] in
/-- What is read from a record is in its normal form. -/
theorem readReplacement_ok {entry : Json} {item : Replacement} (h : readReplacement entry = .ok item) :
    readReplacement item.toRecord = .ok item := by
  unfold readReplacement at h
  rw [checked_bind_eq_ok_iff] at h
  obtain ⟨⟨_, spokenRaw, writtenRaw⟩, -, h⟩ := h
  dsimp only at h
  split_ifs at h with hempty
  cases h
  exact readReplacement_toRecord (collapse_collapse _) (strip_strip _) (not_or.mp hempty)

/-- A normalised phrase is normalised already. -/
theorem normalizePhrase_ok {value phrase : String} (h : normalizePhrase value = .ok phrase) :
    normalizePhrase phrase = .ok phrase := by
  unfold normalizePhrase at h
  split_ifs at h with hempty
  obtain rfl := Except.ok.inj h
  have hcollapse : collapse (TextLibrary.casefold (collapse value)) = TextLibrary.casefold (collapse value) := by
    rw [collapse_eq_iff, toList_casefold_eq, joinWords_foldLetters, ← toList_collapse, collapse_collapse]
  rw [normalizePhrase, hcollapse, if_neg (casefold_ne_empty hempty), LawfulVocabulary.casefold_casefold]

omit [LawfulVocabulary] in
/-- An alias in its normal form is read back. -/
theorem readAlias_toRecord {item : Alias} (hphrase : normalizePhrase item.phrase = .ok item.phrase)
    (htarget : IsTarget item.target) (hsource : IsSource item.source) : readAlias item.toRecord = .ok item := by
  have htexts : readTexts "alias" "phrase" "target" item.toRecord =
      .ok ([("phrase", .str item.phrase), ("source", .str item.source), ("target", .str item.target),
        ("kind", .str item.kind.value)], item.phrase, item.target) := rfl
  have htagged : taggedSource [("phrase", .str item.phrase), ("source", .str item.source),
      ("target", .str item.target), ("kind", .str item.kind.value)] = some item.source := by
    change (if strip item.source = "" then none else _) = _
    rw [if_neg hsource.nonempty, hsource.folded]
  have hkind : AliasKind.ofValue? ((Dict.get? [("phrase", .str item.phrase), ("source", .str item.source),
      ("target", .str item.target), ("kind", .str item.kind.value)] "kind").getD .null) = some item.kind :=
    AliasKind.ofValue?_value item.kind
  rw [readAlias, htexts]
  simp only [bind, Except.bind, hphrase, htarget.stripped, htarget.nonempty, if_false, htagged, hkind]

theorem readAlias_ok {entry : Json} {item : Alias} (h : readAlias entry = .ok item) :
    readAlias item.toRecord = .ok item := by
  unfold readAlias at h
  rw [checked_bind_eq_ok_iff] at h
  obtain ⟨⟨record, phraseRaw, targetRaw⟩, -, h⟩ := h
  rw [checked_bind_eq_ok_iff] at h
  obtain ⟨phrase, hphrase, h⟩ := h
  dsimp only at h
  split_ifs at h with hempty
  split at h
  · next source hsource =>
    split at h
    · cases h
      refine readAlias_toRecord (normalizePhrase_ok hphrase) (isTarget_strip hempty) ?_
      unfold taggedSource at hsource
      split at hsource
      · split_ifs at hsource with hblank
        obtain rfl := Option.some.inj hsource
        exact isSource_casefold hblank
      · cases hsource
    · cases h
  · rw [checked_bind_eq_ok_iff] at h
    obtain ⟨⟨target, source, kind⟩, hidentity, h⟩ := h
    cases h
    obtain ⟨htarget, hsource⟩ := aliasIdentity_ok hidentity
    exact readAlias_toRecord (normalizePhrase_ok hphrase) htarget hsource

/-- A valid pronunciation is valid in its normal form. -/
theorem validatePronunciation_ok {written spoken : String} {item : Pronunciation}
    (h : validatePronunciation written spoken = .ok item) :
    validatePronunciation item.written item.spoken = .ok item := by
  unfold validatePronunciation at h
  dsimp only at h
  split_ifs at h with hcontrol hempty hlong hspoken
  obtain rfl := Except.ok.inj h
  have hplain : ((collapse written).toList ++ (collapse spoken).toList).any VocabularyLibrary.isControl = false := by
    rw [Bool.not_eq_true, List.any_eq_false] at hcontrol
    rw [List.any_eq_false]
    intro c hc
    have hmem : c = ' ' ∨ c ∈ written.toList ++ spoken.toList := by
      rw [toList_collapse, toList_collapse, List.mem_append] at hc
      rw [List.mem_append]
      rcases hc with hc | hc
      · exact (mem_joinWords hc).imp_right .inl
      · exact (mem_joinWords hc).imp_right .inr
    rcases hmem with rfl | hmem
    · rw [LawfulVocabulary.isControl_space]
      exact Bool.false_ne_true
    · exact hcontrol c hmem
  simp only [validatePronunciation, collapse_collapse, hplain, Bool.false_eq_true, if_false, if_neg hempty,
    if_neg hlong, if_neg hspoken]

omit [LawfulVocabulary] in
theorem readPronunciation_toRecord (item : Pronunciation) :
    readPronunciation item.toRecord = validatePronunciation item.written item.spoken := rfl

theorem readPronunciation_ok {entry : Json} {item : Pronunciation} (h : readPronunciation entry = .ok item) :
    readPronunciation item.toRecord = .ok item := by
  unfold readPronunciation at h
  rw [checked_bind_eq_ok_iff] at h
  obtain ⟨⟨_, writtenRaw, spokenRaw⟩, -, h⟩ := h
  rw [readPronunciation_toRecord]
  exact validatePronunciation_ok h

/-! ### Vocabularies that are read back -/

/-- No two entries of a kind have one key. -/
structure Vocabulary.UniqueKeys (vocabulary : Vocabulary) : Prop where
  replacements : (vocabulary.replacements.map Replacement.key).Nodup
  aliases : (vocabulary.aliases.map Alias.phrase).Nodup
  pronunciations : (vocabulary.pronunciations.map Pronunciation.key).Nodup

/-- The entries are read back as they are, under keys of their own. -/
structure Vocabulary.Stored (vocabulary : Vocabulary) : Prop where
  version : vocabulary.version = schemaVersion
  replacements : ∀ item ∈ vocabulary.replacements, readReplacement item.toRecord = .ok item
  aliases : ∀ item ∈ vocabulary.aliases, readAlias item.toRecord = .ok item
  pronunciations : ∀ item ∈ vocabulary.pronunciations, readPronunciation item.toRecord = .ok item
  keys : vocabulary.UniqueKeys

/-- The same entries, in any order. -/
structure Vocabulary.SameEntries (first second : Vocabulary) : Prop where
  version : first.version = second.version
  replacements : first.replacements.Perm second.replacements
  aliases : first.aliases.Perm second.aliases
  pronunciations : first.pronunciations.Perm second.pronunciations

section Entries

variable {α : Type} {kind name : String} {read : Json → Checked α} {key value label : α → String}
  {toRecord : α → Json} {items : List α}

omit [LawfulVocabulary] in
/-- Entries with keys of their own are read from their records. -/
theorem parseEntries_records (hread : ∀ item ∈ items, read (toRecord item) = .ok item)
    (hkeys : (items.map key).Nodup) :
    parseEntries kind name read key value label (.arr (items.map toRecord)) = .ok items := by
  have hreads : List.Forall₂ (fun record item ↦ read record = .ok item) (items.map toRecord) items := by
    rw [List.forall₂_map_left_iff, List.forall₂_same]
    exact hread
  rw [parseEntries, collect_eq_ok hreads (by rwa [List.nil_append])]
  rfl

omit [LawfulVocabulary] in
/-- What is read has keys of its own, and each entry is read from some record. -/
theorem parseEntries_ok {entries : Json} (h : parseEntries kind name read key value label entries = .ok items) :
    (items.map key).Nodup ∧ ∀ item ∈ items, ∃ record, read record = .ok item := by
  unfold parseEntries at h
  split at h
  · have hnil : (([] : List α).map key).Nodup := List.nodup_nil
    obtain ⟨hkeys, hitems⟩ := collect_spec hnil h
    refine ⟨hkeys, fun item hitem ↦ ?_⟩
    obtain ⟨record, -, hrecord⟩ := (hitems item hitem).resolve_left List.not_mem_nil
    exact ⟨record, hrecord⟩
  · cases h

end Entries

variable {vocabulary : Vocabulary} {location : String}

theorem parseDocument_ok {document : Dict} (h : parseDocument document = .ok vocabulary) : vocabulary.Stored := by
  simp only [parseDocument, checked_bind_eq_ok_iff] at h
  obtain ⟨replacements, hreplacements, aliases, haliases, pronunciations, hpronunciations, h⟩ := h
  cases h
  obtain ⟨hfirst, hreplacements⟩ := parseEntries_ok hreplacements
  obtain ⟨hsecond, haliases⟩ := parseEntries_ok haliases
  obtain ⟨hthird, hpronunciations⟩ := parseEntries_ok hpronunciations
  refine ⟨rfl, fun item hitem ↦ ?_, fun item hitem ↦ ?_, fun item hitem ↦ ?_, ⟨hfirst, hsecond, hthird⟩⟩
  · obtain ⟨record, hrecord⟩ := hreplacements item hitem
    exact readReplacement_ok hrecord
  · obtain ⟨record, hrecord⟩ := haliases item hitem
    exact readAlias_ok hrecord
  · obtain ⟨record, hrecord⟩ := hpronunciations item hitem
    exact readPronunciation_ok hrecord

/-- What is loaded from any file is read back as it is. -/
theorem load_ok {file : StoreFile} (h : load location file = .ok vocabulary) : vocabulary.Stored := by
  unfold load at h
  split at h
  · cases h
    have hnone : ∀ {α : Type} {P : α → Prop}, ∀ item ∈ ([] : List α), P item :=
      fun item hitem ↦ (List.not_mem_nil hitem).elim
    exact ⟨rfl, hnone, hnone, hnone, ⟨List.nodup_nil, List.nodup_nil, List.nodup_nil⟩⟩
  · cases h
  · rw [checked_bind_eq_ok_iff] at h
    obtain ⟨document, -, h⟩ := h
    dsimp only at h
    split_ifs at h
    exact parseDocument_ok h

omit [LawfulVocabulary] in
theorem Vocabulary.sameEntries_sorted (vocabulary : Vocabulary) : vocabulary.sorted.SameEntries vocabulary :=
  ⟨rfl, List.perm_insertionSort _ _, List.perm_insertionSort _ _, List.perm_insertionSort _ _⟩

omit [LawfulVocabulary] in
/-- The order of the entries does not matter for reading them back. -/
theorem Vocabulary.Stored.of_sameEntries {other : Vocabulary} (h : vocabulary.Stored)
    (hsame : other.SameEntries vocabulary) : other.Stored where
  version := hsame.version.trans h.version
  replacements item hitem := h.replacements item (hsame.replacements.mem_iff.mp hitem)
  aliases item hitem := h.aliases item (hsame.aliases.mem_iff.mp hitem)
  pronunciations item hitem := h.pronunciations item (hsame.pronunciations.mem_iff.mp hitem)
  keys :=
    ⟨(hsame.replacements.map _).nodup_iff.mpr h.keys.replacements,
      (hsame.aliases.map _).nodup_iff.mpr h.keys.aliases,
      (hsame.pronunciations.map _).nodup_iff.mpr h.keys.pronunciations⟩

omit [LawfulVocabulary] in
/-- The document of such a vocabulary is loaded with its entries in the order in which they are written. -/
theorem Vocabulary.Stored.load_toDocument (h : vocabulary.Stored) (location : String) :
    load location (.document vocabulary.toDocument) = .ok vocabulary.sorted := by
  have hsorted := h.of_sameEntries vocabulary.sameEntries_sorted
  have hversion : isSupportedVersion (.int vocabulary.version) = true := by
    rw [h.version]
    decide
  have hreplacements : parseReplacements (.arr (vocabulary.sorted.replacements.map Replacement.toRecord)) =
      .ok vocabulary.sorted.replacements := parseEntries_records hsorted.replacements hsorted.keys.replacements
  have haliases : parseAliases (.arr (vocabulary.sorted.aliases.map Alias.toRecord)) =
      .ok vocabulary.sorted.aliases := parseEntries_records hsorted.aliases hsorted.keys.aliases
  have hpronunciations : parsePronunciations
      (.arr (vocabulary.sorted.pronunciations.map Pronunciation.toRecord)) =
      .ok vocabulary.sorted.pronunciations :=
    parseEntries_records hsorted.pronunciations hsorted.keys.pronunciations
  have hload : load location (.document vocabulary.toDocument) = (do
      if !isSupportedVersion (.int vocabulary.version) then
        .error ("unsupported vocabulary schema version " ++
          VocabularyLibrary.repr (.int vocabulary.version) ++ "; expected one of [1, 2, 3]")
      else
        let replacements ← parseReplacements (.arr (vocabulary.sorted.replacements.map Replacement.toRecord))
        let aliases ← parseAliases (.arr (vocabulary.sorted.aliases.map Alias.toRecord))
        let pronunciations ←
          parsePronunciations (.arr (vocabulary.sorted.pronunciations.map Pronunciation.toRecord))
        return { replacements, aliases, pronunciations }) := rfl
  rw [hload, hversion, hreplacements, haliases, hpronunciations]
  change Except.ok (Vocabulary.mk schemaVersion _ _ _) = _
  rw [← h.version]
  rfl

/-! ### What an operation changes -/

/-- An entry of a key that was there before has the value it had. -/
def KeepsValues {α : Type} (key value : α → String) (before after : List α) : Prop :=
  ∀ old ∈ before, ∀ new ∈ after, key old = key new → value old = value new

/-- What an operation makes of the entries. -/
def VocabularyOperation.Changes (current written : Vocabulary) : VocabularyOperation → Prop
  | .addReplacement spoken target force =>
    (∃ item : Replacement, item.key = TextLibrary.casefold (collapse spoken) ∧ item.written = strip target ∧
        Overrides Replacement.key current.replacements [item] written.replacements) ∧
      (force = false →
        KeepsValues Replacement.key Replacement.written current.replacements written.replacements) ∧
      written.aliases = current.aliases ∧ written.pronunciations = current.pronunciations
  | .addAlias phrase target force source integrations =>
    (∃ item : Alias, normalizePhrase phrase = .ok item.phrase ∧
        resolveOwnedAliasTarget target source integrations = .ok (item.target, item.source, item.kind) ∧
        Overrides Alias.phrase current.aliases [item] written.aliases) ∧
      (force = false → KeepsValues Alias.phrase Alias.target current.aliases written.aliases) ∧
      written.replacements = current.replacements ∧ written.pronunciations = current.pronunciations
  | .addPronunciation target spoken force =>
    (∃ item : Pronunciation, item.key = TextLibrary.casefold (collapse target) ∧ item.spoken = collapse spoken ∧
        Overrides Pronunciation.key current.pronunciations [item] written.pronunciations) ∧
      (force = false →
        KeepsValues Pronunciation.key Pronunciation.spoken current.pronunciations written.pronunciations) ∧
      written.replacements = current.replacements ∧ written.aliases = current.aliases
  | .removeReplacement spoken =>
    (∃ item ∈ current.replacements, item.key = TextLibrary.casefold (collapse spoken)) ∧
      (∀ item, item ∈ written.replacements ↔
        item ∈ current.replacements ∧ item.key ≠ TextLibrary.casefold (collapse spoken)) ∧
      written.aliases = current.aliases ∧ written.pronunciations = current.pronunciations
  | .removeAlias phrase =>
    (∃ item ∈ current.aliases, normalizePhrase phrase = .ok item.phrase) ∧
      (∀ item, item ∈ written.aliases ↔ item ∈ current.aliases ∧ normalizePhrase phrase ≠ .ok item.phrase) ∧
      written.replacements = current.replacements ∧ written.pronunciations = current.pronunciations
  | .removePronunciation target =>
    (∃ item ∈ current.pronunciations, item.key = TextLibrary.casefold (collapse target)) ∧
      (∀ item, item ∈ written.pronunciations ↔
        item ∈ current.pronunciations ∧ item.key ≠ TextLibrary.casefold (collapse target)) ∧
      written.replacements = current.replacements ∧ written.aliases = current.aliases
  | .importEntries backup replace =>
    ∃ incoming, backup.entries = .ok incoming ∧
      if replace then written = incoming
      else
        Overrides Replacement.key current.replacements incoming.replacements written.replacements ∧
          Overrides Alias.phrase current.aliases incoming.aliases written.aliases ∧
          Overrides Pronunciation.key current.pronunciations incoming.pronunciations written.pronunciations

section Edits

variable {α : Type} {key value : α → String} {items : List α} {item : α}

omit [VocabularyLibrary] [LawfulVocabulary] in
theorem refuseConflict_ok {existing : Option α} {target : String} {force : Bool} {refusal : String → String}
    (h : refuseConflict existing value target force refusal = .ok ()) (hforce : force = false) :
    ∀ held ∈ existing, value held = target := by
  rintro held hheld
  obtain rfl := Option.mem_def.mp hheld
  rw [refuseConflict] at h
  split_ifs at h with hconflict
  by_contra hne
  exact hconflict ⟨hne, hforce⟩

omit [VocabularyLibrary] [LawfulVocabulary] in
/-- An entry that has the value of the one it replaces keeps the values. -/
theorem keepsValues_assign (hkeys : (items.map key).Nodup)
    (h : ∀ held ∈ findRow key items (key item), value held = value item) :
    KeepsValues key value items (assign key items item) := by
  intro old hold new hnew hsame
  rcases (overrides_assign key items item new).mp hnew with hnew | ⟨hnew, -⟩
  · rw [List.mem_singleton.mp hnew] at hsame ⊢
    have hfound := findRow_eq_some_of_mem hkeys hold
    rw [hsame] at hfound
    exact h old hfound
  · rw [eq_of_key_eq hkeys hold hnew hsame]

omit [VocabularyLibrary] [LawfulVocabulary] in
theorem forall_mem_assign {P : α → Prop} (hitems : ∀ other ∈ items, P other) (hitem : P item) :
    ∀ other ∈ assign key items item, P other := by
  intro other hother
  rcases (overrides_assign key items item other).mp hother with hmem | ⟨hmem, -⟩
  · rwa [List.mem_singleton.mp hmem]
  · exact hitems other hmem

end Edits

variable {current : Vocabulary}

omit [LawfulVocabulary] in
theorem normalizePhrase_collapse {text : String} (hne : collapse text ≠ "") :
    normalizePhrase (collapse text) = .ok (TextLibrary.casefold (collapse text)) := by
  rw [normalizePhrase, collapse_collapse, if_neg hne]

omit [LawfulVocabulary] in
theorem addReplacement_ok {spoken written : String} {force : Bool}
    (h : addReplacement spoken written force current = .ok vocabulary) (hcurrent : current.Stored) :
    vocabulary.Stored ∧ (VocabularyOperation.addReplacement spoken written force).Changes current vocabulary := by
  unfold addReplacement at h
  dsimp only at h
  split_ifs at h with hempty
  rw [not_or] at hempty
  rw [checked_bind_eq_ok_iff] at h
  obtain ⟨existing, hexisting, h⟩ := h
  rw [checked_bind_eq_ok_iff] at h
  obtain ⟨_, hrefuse, h⟩ := h
  obtain rfl := Except.ok.inj h
  rw [Vocabulary.replacementFor, normalizePhrase_collapse hempty.1] at hexisting
  obtain rfl := Except.ok.inj hexisting
  refine ⟨⟨rfl, forall_mem_assign hcurrent.replacements ?_, hcurrent.aliases, hcurrent.pronunciations,
      ⟨nodup_assign hcurrent.keys.replacements _, hcurrent.keys.aliases, hcurrent.keys.pronunciations⟩⟩,
    ⟨_, rfl, rfl, overrides_assign _ _ _⟩, ?_, rfl, rfl⟩
  · exact readReplacement_toRecord (collapse_collapse spoken) (strip_strip written) hempty
  · intro hforce
    exact keepsValues_assign hcurrent.keys.replacements (refuseConflict_ok hrefuse hforce)

theorem addAlias_ok {phrase target : String} {force : Bool} {source : Option String}
    {integrations : List Integration}
    (h : addAlias phrase target force source integrations current = .ok vocabulary) (hcurrent : current.Stored) :
    vocabulary.Stored ∧
      (VocabularyOperation.addAlias phrase target force source integrations).Changes current vocabulary := by
  simp only [addAlias, checked_bind_eq_ok_iff] at h
  obtain ⟨normalized, hnormalized, ⟨canonical, name, kind⟩, howner, existing, hexisting, _, hrefuse, h⟩ := h
  obtain rfl := Except.ok.inj h
  have hphrase := normalizePhrase_ok hnormalized
  rw [Vocabulary.aliasFor, hphrase] at hexisting
  obtain rfl := Except.ok.inj hexisting
  obtain ⟨htarget, hsource⟩ := resolveOwnedAliasTarget_ok howner
  refine ⟨⟨rfl, hcurrent.replacements, forall_mem_assign hcurrent.aliases ?_, hcurrent.pronunciations,
      ⟨hcurrent.keys.replacements, nodup_assign hcurrent.keys.aliases _, hcurrent.keys.pronunciations⟩⟩,
    ⟨_, hnormalized, howner, overrides_assign _ _ _⟩, ?_, rfl, rfl⟩
  · exact readAlias_toRecord hphrase htarget hsource
  · intro hforce
    exact keepsValues_assign hcurrent.keys.aliases (refuseConflict_ok hrefuse hforce)

omit [LawfulVocabulary] in
theorem validatePronunciation_eq {written spoken : String} {item : Pronunciation}
    (h : validatePronunciation written spoken = .ok item) :
    item.written = collapse written ∧ item.spoken = collapse spoken ∧ collapse written ≠ "" := by
  unfold validatePronunciation at h
  dsimp only at h
  split_ifs at h with hcontrol hempty hlong hspoken
  obtain rfl := Except.ok.inj h
  exact ⟨rfl, rfl, (not_or.mp hempty).1⟩

theorem addPronunciation_ok {written spoken : String} {force : Bool}
    (h : addPronunciation written spoken force current = .ok vocabulary) (hcurrent : current.Stored) :
    vocabulary.Stored ∧
      (VocabularyOperation.addPronunciation written spoken force).Changes current vocabulary := by
  simp only [addPronunciation, checked_bind_eq_ok_iff] at h
  obtain ⟨item, hitem, existing, hexisting, _, hrefuse, h⟩ := h
  obtain rfl := Except.ok.inj h
  have hread : readPronunciation item.toRecord = .ok item := validatePronunciation_ok hitem
  obtain ⟨hwritten, hspoken, hne⟩ := validatePronunciation_eq hitem
  have hkey : item.key = TextLibrary.casefold (collapse written) := by
    rw [Pronunciation.key, hwritten]
  rw [Vocabulary.pronunciationFor, hwritten, normalizePhrase_collapse hne, ← hkey] at hexisting
  obtain rfl := Except.ok.inj hexisting
  refine ⟨⟨rfl, hcurrent.replacements, hcurrent.aliases, forall_mem_assign hcurrent.pronunciations hread,
      ⟨hcurrent.keys.replacements, hcurrent.keys.aliases, nodup_assign hcurrent.keys.pronunciations _⟩⟩,
    ⟨item, hkey, hspoken, overrides_assign _ _ _⟩, ?_, rfl, rfl⟩
  intro hforce
  exact keepsValues_assign hcurrent.keys.pronunciations (refuseConflict_ok hrefuse hforce)

omit [VocabularyLibrary] [LawfulVocabulary] in
theorem forall_mem_discard {α : Type} {key : α → String} {items : List α} {P : α → Prop}
    (hitems : ∀ item ∈ items, P item) (name : String) : ∀ item ∈ discard key items name, P item :=
  fun item hitem ↦ hitems item (mem_discard.mp hitem).1

omit [VocabularyLibrary] [LawfulVocabulary] in
theorem exists_of_findRow {α : Type} {key : α → String} {items : List α} {item : α} {name : String}
    (h : findRow key items name = some item) : ∃ held ∈ items, key held = name := by
  obtain ⟨hmem, hkey⟩ := mem_of_findRow h
  exact ⟨item, hmem, hkey⟩

omit [LawfulVocabulary] in
/-- A phrase that is normalised has more than white space. -/
theorem collapse_ne_of_normalizePhrase {text phrase : String} (h : normalizePhrase (collapse text) = .ok phrase) :
    phrase = TextLibrary.casefold (collapse text) := by
  unfold normalizePhrase at h
  split_ifs at h
  rw [collapse_collapse] at h
  exact (Except.ok.inj h).symm

omit [LawfulVocabulary] in
theorem removeReplacement_ok {spoken : String} (h : removeReplacement spoken current = .ok vocabulary)
    (hcurrent : current.Stored) :
    vocabulary.Stored ∧ (VocabularyOperation.removeReplacement spoken).Changes current vocabulary := by
  unfold removeReplacement at h
  rw [checked_bind_eq_ok_iff] at h
  obtain ⟨existing, hexisting, h⟩ := h
  rw [Vocabulary.replacementFor, checked_bind_eq_ok_iff] at hexisting
  obtain ⟨folded, hfolded, hfound⟩ := hexisting
  obtain rfl := collapse_ne_of_normalizePhrase hfolded
  cases existing with
  | none => cases h
  | some item =>
    obtain rfl := Except.ok.inj h
    refine ⟨⟨rfl, forall_mem_discard hcurrent.replacements _, hcurrent.aliases, hcurrent.pronunciations,
        ⟨nodup_discard hcurrent.keys.replacements _, hcurrent.keys.aliases, hcurrent.keys.pronunciations⟩⟩,
      exists_of_findRow (Except.ok.inj hfound), fun other ↦ mem_discard, rfl, rfl⟩

theorem removeAlias_ok {phrase : String} (h : removeAlias phrase current = .ok vocabulary)
    (hcurrent : current.Stored) :
    vocabulary.Stored ∧ (VocabularyOperation.removeAlias phrase).Changes current vocabulary := by
  unfold removeAlias at h
  rw [checked_bind_eq_ok_iff] at h
  obtain ⟨normalized, hnormalized, h⟩ := h
  rw [checked_bind_eq_ok_iff] at h
  obtain ⟨existing, hexisting, h⟩ := h
  rw [Vocabulary.aliasFor, normalizePhrase_ok hnormalized] at hexisting
  cases existing with
  | none => cases h
  | some item =>
    obtain rfl := Except.ok.inj h
    have hphrase : ∀ other : Alias, normalizePhrase phrase = .ok other.phrase ↔ other.phrase = normalized := by
      intro other
      rw [hnormalized, Except.ok.injEq, eq_comm]
    obtain ⟨held, hheld, hkey⟩ := exists_of_findRow (Except.ok.inj hexisting)
    refine ⟨⟨rfl, hcurrent.replacements, forall_mem_discard hcurrent.aliases _, hcurrent.pronunciations,
        ⟨hcurrent.keys.replacements, nodup_discard hcurrent.keys.aliases _, hcurrent.keys.pronunciations⟩⟩,
      ⟨held, hheld, (hphrase held).mpr hkey⟩, fun other ↦ ?_, rfl, rfl⟩
    rw [Ne, hphrase]
    exact mem_discard

omit [LawfulVocabulary] in
theorem removePronunciation_ok {written : String} (h : removePronunciation written current = .ok vocabulary)
    (hcurrent : current.Stored) :
    vocabulary.Stored ∧ (VocabularyOperation.removePronunciation written).Changes current vocabulary := by
  unfold removePronunciation at h
  rw [checked_bind_eq_ok_iff] at h
  obtain ⟨existing, hexisting, h⟩ := h
  rw [Vocabulary.pronunciationFor, checked_bind_eq_ok_iff] at hexisting
  obtain ⟨folded, hfolded, hfound⟩ := hexisting
  obtain rfl := collapse_ne_of_normalizePhrase hfolded
  cases existing with
  | none => cases h
  | some item =>
    obtain rfl := Except.ok.inj h
    refine ⟨⟨rfl, hcurrent.replacements, hcurrent.aliases, forall_mem_discard hcurrent.pronunciations _,
        ⟨hcurrent.keys.replacements, hcurrent.keys.aliases, nodup_discard hcurrent.keys.pronunciations _⟩⟩,
      exists_of_findRow (Except.ok.inj hfound), fun other ↦ mem_discard, rfl, rfl⟩

theorem entries_ok {backup : Backup} (h : backup.entries = .ok vocabulary) : vocabulary.Stored := by
  unfold Backup.entries at h
  split at h
  · cases h
  · cases h
  · rw [checked_bind_eq_ok_iff] at h
    obtain ⟨document, -, h⟩ := h
    exact parseDocument_ok h

section Merge

variable {α : Type} {key : α → String} {items entries : List α}

omit [VocabularyLibrary] [LawfulVocabulary] in
/-- The dictionary of entries with keys of their own holds them in their order. -/
theorem storeAll_nil (hkeys : (items.map key).Nodup) : storeAll key [] items = items := by
  rw [← List.nil_append items] at hkeys
  exact storeAll_eq_append hkeys

omit [VocabularyLibrary] [LawfulVocabulary] in
theorem forall_mem_storeAll {P : α → Prop} (hkeys : (entries.map key).Nodup) (hitems : ∀ item ∈ items, P item)
    (hentries : ∀ entry ∈ entries, P entry) : ∀ item ∈ storeAll key items entries, P item := by
  intro item hitem
  rcases (overrides_storeAll hkeys items item).mp hitem with hmem | ⟨hmem, -⟩
  · exact hentries item hmem
  · exact hitems item hmem

end Merge

omit [LawfulVocabulary] in
/-- The merge of two vocabularies overrides the entries of the current one. -/
theorem mergeEntries_stored {incoming : Vocabulary} (hincoming : incoming.Stored) (hcurrent : current.Stored) :
    (mergeEntries incoming current).Stored ∧
      Overrides Replacement.key current.replacements incoming.replacements
        (mergeEntries incoming current).replacements ∧
      Overrides Alias.phrase current.aliases incoming.aliases (mergeEntries incoming current).aliases ∧
      Overrides Pronunciation.key current.pronunciations incoming.pronunciations
        (mergeEntries incoming current).pronunciations := by
  rw [mergeEntries, storeAll_nil hcurrent.keys.replacements, storeAll_nil hcurrent.keys.aliases,
    storeAll_nil hcurrent.keys.pronunciations]
  refine ⟨⟨rfl, ?_, ?_, ?_, ⟨?_, ?_, ?_⟩⟩, ?_, ?_, ?_⟩
  · exact forall_mem_storeAll hincoming.keys.replacements hcurrent.replacements hincoming.replacements
  · exact forall_mem_storeAll hincoming.keys.aliases hcurrent.aliases hincoming.aliases
  · exact forall_mem_storeAll hincoming.keys.pronunciations hcurrent.pronunciations hincoming.pronunciations
  · exact nodup_storeAll hcurrent.keys.replacements _
  · exact nodup_storeAll hcurrent.keys.aliases _
  · exact nodup_storeAll hcurrent.keys.pronunciations _
  · exact overrides_storeAll hincoming.keys.replacements _
  · exact overrides_storeAll hincoming.keys.aliases _
  · exact overrides_storeAll hincoming.keys.pronunciations _

/-- What an operation saves is read back as it is, and is the change that the operation is for. -/
theorem VocabularyOperation.updated_ok {operation : VocabularyOperation} {file : StoreFile}
    (h : operation.updated location file = .ok vocabulary) (hload : load location file = .ok current) :
    vocabulary.Stored ∧ operation.Changes current vocabulary := by
  have hcurrent := load_ok hload
  -- an edit finds the vocabulary that is loaded
  have hedit : ∀ {edit : Vocabulary → Checked Vocabulary}, load location file >>= edit = .ok vocabulary →
      edit current = .ok vocabulary := by
    intro edit hok
    rwa [hload] at hok
  cases operation with
  | addReplacement spoken written force => exact addReplacement_ok (hedit h) hcurrent
  | addAlias phrase target force source integrations => exact addAlias_ok (hedit h) hcurrent
  | addPronunciation written spoken force => exact addPronunciation_ok (hedit h) hcurrent
  | removeReplacement spoken => exact removeReplacement_ok (hedit h) hcurrent
  | removeAlias phrase => exact removeAlias_ok (hedit h) hcurrent
  | removePronunciation written => exact removePronunciation_ok (hedit h) hcurrent
  | importEntries backup replace =>
    simp only [VocabularyOperation.updated, checked_bind_eq_ok_iff] at h
    obtain ⟨incoming, hincoming, h⟩ := h
    have hstored := entries_ok hincoming
    cases replace with
    | true =>
      obtain rfl := Except.ok.inj h
      exact ⟨hstored, incoming, hincoming, rfl⟩
    | false =>
      simp only [hload, Bool.false_eq_true, if_false] at h
      obtain rfl := Except.ok.inj h
      obtain ⟨hmerged, hreplacements, haliases, hpronunciations⟩ := mergeEntries_stored hstored hcurrent
      exact ⟨hmerged, incoming, hincoming, hreplacements, haliases, hpronunciations⟩

/-! ### Runs -/

omit [LawfulVocabulary] in
/-- A save writes the document, or leaves the file. -/
theorem save_cases (fails : SaveStep → Option String) (vocabulary : Vocabulary) (disk : Disk) :
    (save fails vocabulary disk).1 = .ok () ∧
        (save fails vocabulary disk).2.file = .document vocabulary.toDocument ∨
      (∃ error, (save fails vocabulary disk).1 = .error error) ∧
        (save fails vocabulary disk).2.file = disk.file := by
  unfold save
  cases (fails .makeDirectory).or (fails .createTemporary) with
  | some error => exact .inr ⟨⟨error, rfl⟩, rfl⟩
  | none =>
    cases ((fails .write).or (fails .changeMode)).or (fails .replaceFile) with
    | none => exact .inl ⟨rfl, rfl⟩
    | some error =>
      cases fails .unlinkTemporary with
      | none => exact .inr ⟨⟨error, rfl⟩, rfl⟩
      | some unlinkError => exact .inr ⟨⟨unlinkError, rfl⟩, rfl⟩

/-- What a call promises where it finds this vocabulary: it leaves the file where it raises, and what it writes is
loaded again up to order, has keys of its own, and is the change that the operation is for. -/
structure VocabularyCall.Sound (call : VocabularyCall) (location : String) (current : Vocabulary) (before : Disk) :
    Prop where
  unchanged : ∀ error, (call.perform location before).1 = .error error →
    (call.perform location before).2.file = before.file
  written : (call.perform location before).1 = .ok () →
    ∃ written loaded : Vocabulary,
      (call.perform location before).2.file = .document written.toDocument ∧
        load location (call.perform location before).2.file = .ok loaded ∧ loaded.SameEntries written ∧
        written.UniqueKeys ∧ call.operation.Changes current written

variable {before : Disk}

/-- A call on a file that loads is sound. -/
theorem VocabularyCall.sound (call : VocabularyCall) (hload : load location before.file = .ok current) :
    call.Sound location current before := by
  cases hupdated : call.operation.updated location before.file with
  | error error =>
    have hperform : call.perform location before = (.error error, before) := by
      rw [VocabularyCall.perform, hupdated]
    constructor
    · intro _ _
      rw [hperform]
    · intro hok
      rw [hperform] at hok
      cases hok
  | ok written =>
    have hperform : call.perform location before = save call.fails written before := by
      rw [VocabularyCall.perform, hupdated]
    obtain ⟨hstored, hchanges⟩ := VocabularyOperation.updated_ok hupdated hload
    rcases save_cases call.fails written before with ⟨hok, hfile⟩ | ⟨⟨error, herror⟩, hfile⟩
    · constructor
      · intro other hother
        rw [hperform, hok] at hother
        cases hother
      · intro _
        rw [hperform, hfile]
        exact ⟨written, written.sorted, rfl, hstored.load_toDocument location, written.sameEntries_sorted,
          hstored.keys, hchanges⟩
    · constructor
      · intro _ _
        rw [hperform, hfile]
      · intro hok
        rw [hperform, herror] at hok
        cases hok

/-- A call leaves a file that loads. -/
theorem VocabularyCall.loads (call : VocabularyCall) (hload : load location before.file = .ok current) :
    ∃ next, load location (call.perform location before).2.file = .ok next := by
  have hsound := call.sound hload
  cases hanswer : (call.perform location before).1 with
  | error error =>
    rw [hsound.unchanged error hanswer]
    exact ⟨current, hload⟩
  | ok answer =>
    obtain ⟨_, loaded, -, hloaded, -⟩ := hsound.written hanswer
    exact ⟨loaded, hloaded⟩

/-- The file loads after every run. -/
theorem loads_performAll (calls : List VocabularyCall) (hload : load location before.file = .ok current) :
    ∃ last, load location (performAll location calls before).file = .ok last := by
  induction calls generalizing before current with
  | nil => exact ⟨current, hload⟩
  | cons call calls ih =>
    obtain ⟨next, hnext⟩ := call.loads hload
    exact ih hnext

/-- Whatever was added, removed and imported, on a store that had no file: the file loads, with keys of their own,
and the next call is sound. -/
theorem performAll_sound (location : String) (calls : List VocabularyCall) (call : VocabularyCall) :
    ∃ current, load location (performAll location calls ⟨.absent, 0⟩).file = .ok current ∧ current.UniqueKeys ∧
      call.Sound location current (performAll location calls ⟨.absent, 0⟩) := by
  have hfirst : load location (Disk.mk .absent 0).file = .ok {} := rfl
  obtain ⟨current, hcurrent⟩ := loads_performAll calls hfirst
  exact ⟨current, hcurrent, (load_ok hcurrent).keys, call.sound hcurrent⟩

end Loading

/-! ### A replacement that is stored twice -/

section Example

/-- A vocabulary library that is right on ASCII text. -/
@[reducible] def asciiVocabularyLibrary : VocabularyLibrary where
  toCaseLibrary := asciiCaseLibrary
  digit c := if c.isDigit then some (c.toNat - 48) else none
  isControl c := c.toNat < 32 || c.toNat = 127
  isAlnum := Char.isAlphanum
  isMark _ := false
  repr
    | .str text => "'" ++ text ++ "'"
    | _ => "None"

attribute [local instance] asciiVocabularyLibrary

theorem lawful_asciiVocabularyLibrary : LawfulVocabulary := by
  refine @LawfulVocabulary.mk _ lawful_asciiCaseLibrary ?_ ?_ ?_ (by decide)
  · intro text
    change (text.map Char.toLower).map Char.toLower = text.map Char.toLower
    rw [String.map_map]
    congr 1
    funext c
    exact c.toLower_toLower_eq_toLower
  · intro c hc
    change [c.toLower] = [c]
    rw [Char.toLower_eq_of_not_isUpper (Char.not_isUpper_of_isLower hc)]
  · intro c hc
    change (if c.isDigit then some (c.toNat - 48) else none) = none
    rw [if_neg]
    intro hdigit
    rw [(opens_of_ascii (isAlphanum_of_isDigit hdigit)).space] at hc
    cases hc

/-- No step of a save fails. -/
def noFault : SaveStep → Option String := fun _ ↦ none

/-- A user corrects what is heard as "open code". -/
def storeOpenCode (written : String) (force : Bool) : VocabularyCall :=
  ⟨.addReplacement "Open  code" written force, noFault⟩

def openCodeStored : Disk := performAll "vocabulary.json" [storeOpenCode "OpenCode" false] ⟨.absent, 0⟩

/-- Another correction of the same words is refused without force, and taken with it. -/
theorem performAll_sound_openCode :
    (∃ current, load "vocabulary.json" openCodeStored.file = .ok current ∧ current.UniqueKeys ∧
        (storeOpenCode "OC" false).Sound "vocabulary.json" current openCodeStored) ∧
      ((storeOpenCode "OC" false).perform "vocabulary.json" openCodeStored).1 =
        .error "replacement 'Open code' already maps to 'OpenCode'; pass --force to overwrite" ∧
      ((storeOpenCode "OC" true).perform "vocabulary.json" openCodeStored).1 = .ok () := by
  refine ⟨?_, by decide +kernel, by decide +kernel⟩
  exact @performAll_sound asciiVocabularyLibrary lawful_asciiVocabularyLibrary "vocabulary.json"
    [storeOpenCode "OpenCode" false] (storeOpenCode "OC" false)

end Example

end VoiceHarness
