import VoiceHarness.Library.Keyed
import VoiceHarness.Vocabulary.Target

/-!
# The vocabulary store

The file of the vocabulary: the document that is written, how a document is read, and the operations that add, remove
and import entries. Each operation loads the file, builds the vocabulary it leaves, and saves it, which may fail at
each of its steps. A file is the value that `json` reads from its text.
-/

set_option autoImplicit false
set_option relaxedAutoImplicit false

namespace VoiceHarness

open Library

def schemaVersion : ℤ := 3

/-- `Alias`. -/
structure Alias where
  phrase : String
  target : String
  kind : AliasKind
  source : String
  deriving DecidableEq

/-- `Pronunciation`. -/
structure Pronunciation where
  written : String
  spoken : String
  deriving DecidableEq

/-- `Vocabulary`. -/
structure Vocabulary where
  version : ℤ := schemaVersion
  replacements : List Replacement := []
  aliases : List Alias := []
  pronunciations : List Pronunciation := []
  deriving DecidableEq

section Model

variable [VocabularyLibrary]

/-! ### Keys -/

def Replacement.key (item : Replacement) : String := TextLibrary.casefold item.spoken

def Pronunciation.key (item : Pronunciation) : String := TextLibrary.casefold item.written

namespace Vocabulary

/-- `replacement_for`. -/
def replacementFor (vocabulary : Vocabulary) (spoken : String) : Checked (Option Replacement) := do
  let folded ← normalizePhrase spoken
  return findRow Replacement.key vocabulary.replacements folded

/-- `alias_for`. -/
def aliasFor (vocabulary : Vocabulary) (phrase : String) : Checked (Option Alias) := do
  let folded ← normalizePhrase phrase
  return findRow Alias.phrase vocabulary.aliases folded

/-- `pronunciation_for`. -/
def pronunciationFor (vocabulary : Vocabulary) (written : String) : Checked (Option Pronunciation) := do
  let folded ← normalizePhrase written
  return findRow Pronunciation.key vocabulary.pronunciations folded

end Vocabulary

/-! ### The document that is written -/

def Replacement.toRecord (item : Replacement) : Json :=
  .obj [("spoken", .str item.spoken), ("written", .str item.written)]

def Alias.toRecord (item : Alias) : Json :=
  .obj [("phrase", .str item.phrase), ("source", .str item.source), ("target", .str item.target),
    ("kind", .str item.kind.value)]

def Pronunciation.toRecord (item : Pronunciation) : Json :=
  .obj [("written", .str item.written), ("spoken", .str item.spoken)]

namespace Vocabulary

/-- The vocabulary with its entries in the order in which they are written. -/
def sorted (vocabulary : Vocabulary) : Vocabulary where
  version := vocabulary.version
  replacements := vocabulary.replacements.insertionSort (·.spoken ≤ ·.spoken)
  aliases := vocabulary.aliases.insertionSort (·.phrase ≤ ·.phrase)
  pronunciations := vocabulary.pronunciations.insertionSort (·.key ≤ ·.key)

/-- `to_document`. -/
def toDocument (vocabulary : Vocabulary) : Json :=
  .obj [("version", .int vocabulary.version),
    ("replacements", .arr (vocabulary.sorted.replacements.map Replacement.toRecord)),
    ("aliases", .arr (vocabulary.sorted.aliases.map Alias.toRecord)),
    ("pronunciations", .arr (vocabulary.sorted.pronunciations.map Pronunciation.toRecord))]

end Vocabulary

/-! ### Reading entries -/

/-- `_require_mapping`. -/
def requireMapping (value : Json) (message : String) : Checked Dict :=
  match value with
  | .obj fields => .ok fields
  | _ => .error message

/-- The record of an entry and its two texts. -/
def readTexts (kind first second : String) (entry : Json) : Checked (Dict × String × String) := do
  let record ← requireMapping entry ("each " ++ kind ++ " must be an object")
  match record.get? first, record.get? second with
  | some (.str firstRaw), some (.str secondRaw) => .ok (record, firstRaw, secondRaw)
  | _, _ => .error (kind ++ " '" ++ first ++ "' and '" ++ second ++ "' must be strings")

/-- One pass of the loop of `_parse_replacements`. -/
def readReplacement (entry : Json) : Checked Replacement := do
  let (_, spokenRaw, writtenRaw) ← readTexts "replacement" "spoken" "written" entry
  let spoken := collapse spokenRaw
  let written := strip writtenRaw
  if spoken = "" ∨ written = "" then .error "replacement 'spoken' and 'written' must not be empty"
  else .ok ⟨spoken, written⟩

/-- The source that an alias is tagged with. -/
def taggedSource (record : Dict) : Option String :=
  match record.get? "source" with
  | some (.str sourceRaw) => if strip sourceRaw = "" then none else some (TextLibrary.casefold (strip sourceRaw))
  | _ => none

/-- One pass of the loop of `_parse_aliases`. -/
def readAlias (entry : Json) : Checked Alias := do
  let (record, phraseRaw, targetRaw) ← readTexts "alias" "phrase" "target" entry
  let phrase ← normalizePhrase phraseRaw
  if strip targetRaw = "" then .error "alias 'target' must not be empty"
  else
    match taggedSource record with
    | some source =>
      let kindRaw := (record.get? "kind").getD .null
      match AliasKind.ofValue? kindRaw with
      | some kind => .ok ⟨phrase, strip targetRaw, kind, source⟩
      | none => .error ("alias " ++ VocabularyLibrary.repr (.str phrase) ++ " has invalid kind " ++
          VocabularyLibrary.repr kindRaw)
    | none =>
      let (target, source, kind) ← aliasIdentity targetRaw
      .ok ⟨phrase, target, kind, source⟩

/-- `_SPOKEN_PRONUNCIATION_PUNCTUATION`. -/
def spokenPunctuation : List Char := [' ', '-', apostrophe, closingQuote, '.', ',', '+']

/-- A character that may be spoken. -/
def isSpoken (c : Char) : Bool :=
  VocabularyLibrary.isAlnum c || VocabularyLibrary.isMark c || c ∈ spokenPunctuation

/-- `_validate_pronunciation`. -/
def validatePronunciation (written spoken : String) : Checked Pronunciation :=
  let normalized := collapse written
  let utterance := collapse spoken
  if (written.toList ++ spoken.toList).any VocabularyLibrary.isControl then
    .error "pronunciation values must not contain control characters"
  else if normalized = "" ∨ utterance = "" then
    .error "pronunciation 'written' and 'spoken' must not be empty"
  else if 200 < normalized.length ∨ 200 < utterance.length then
    .error "pronunciation values must be at most 200 characters"
  else if !utterance.toList.all isSpoken then
    .error "pronunciation 'spoken' must contain only words and speech punctuation"
  else .ok ⟨normalized, utterance⟩

/-- One pass of the loop of `_parse_pronunciations`. -/
def readPronunciation (entry : Json) : Checked Pronunciation := do
  let (_, writtenRaw, spokenRaw) ← readTexts "pronunciation" "written" "spoken" entry
  validatePronunciation writtenRaw spokenRaw

/-! ### Reading a document -/

/-- An entry that comes twice with two values. -/
def ambiguousError (kind label earlier later : String) : String :=
  kind ++ " " ++ VocabularyLibrary.repr (.str label) ++ " is ambiguous: it maps to both " ++
    VocabularyLibrary.repr (.str earlier) ++ " and " ++ VocabularyLibrary.repr (.str later)

/-- The entries of one kind, where an entry that repeats an earlier one is left out. -/
def parseEntries {α : Type} (kind name : String) (read : Json → Checked α) (key value label : α → String) :
    Json → Checked (List α)
  | .arr entries =>
    collect read key value (fun earlier item ↦ ambiguousError kind (label item) (value earlier) (value item)) []
      entries
  | _ => .error ("'" ++ name ++ "' must be a list")

/-- `_parse_replacements`. -/
def parseReplacements : Json → Checked (List Replacement) :=
  parseEntries "replacement" "replacements" readReplacement Replacement.key Replacement.written Replacement.spoken

/-- `_parse_aliases`. -/
def parseAliases : Json → Checked (List Alias) :=
  parseEntries "alias" "aliases" readAlias Alias.phrase Alias.target Alias.phrase

/-- `_parse_pronunciations`. -/
def parsePronunciations : Json → Checked (List Pronunciation) :=
  parseEntries "pronunciation" "pronunciations" readPronunciation Pronunciation.key Pronunciation.spoken
    Pronunciation.written

/-- The entries of a document, whatever its version. -/
def parseDocument (document : Dict) : Checked Vocabulary := do
  let replacements ← parseReplacements ((document.get? "replacements").getD (.arr []))
  let aliases ← parseAliases ((document.get? "aliases").getD (.arr []))
  let pronunciations ← parsePronunciations ((document.get? "pronunciations").getD (.arr []))
  return { replacements, aliases, pronunciations }

/-- `version in _SUPPORTED_SCHEMA_VERSIONS`; `True` is the number one. -/
def isSupportedVersion : Json → Bool
  | .int value => value ∈ [1, 2, schemaVersion]
  | .float value => value ∈ [1, 2, 3]
  | .bool value => value
  | _ => false

/-- What the path of the store holds: no file, a text that is not JSON, or a document. -/
inductive StoreFile
  | absent | malformed
  | document (value : Json)

/-- `load`. -/
def load (location : String) : StoreFile → Checked Vocabulary
  | .absent => .ok {}
  | .malformed => .error ("vocabulary store " ++ location ++ " is not valid JSON")
  | .document value => do
    let document ← requireMapping value ("vocabulary store " ++ location ++ " must be an object")
    let version := (document.get? "version").getD (.int schemaVersion)
    if !isSupportedVersion version then
      .error ("unsupported vocabulary schema version " ++ VocabularyLibrary.repr version ++
        "; expected one of [1, 2, 3]")
    else parseDocument document

/-! ### Saving -/

/-- The steps of `save` that may fail. -/
inductive SaveStep
  | makeDirectory | createTemporary | write | changeMode | replaceFile | unlinkTemporary
  deriving DecidableEq

/-- The file of the store, and the temporary files that a save left. -/
structure Disk where
  file : StoreFile
  leftovers : ℕ := 0

/-- `save`, where the steps fail with these errors. -/
def save (fails : SaveStep → Option String) (vocabulary : Vocabulary) (disk : Disk) : Checked Unit × Disk :=
  match (fails .makeDirectory).or (fails .createTemporary) with
  | some error => (.error error, disk)
  | none =>
    match ((fails .write).or (fails .changeMode)).or (fails .replaceFile) with
    | none => (.ok (), { disk with file := .document vocabulary.toDocument })
    | some error =>
      -- the temporary file is unlinked before the error is raised again
      match fails .unlinkTemporary with
      | none => (.error error, disk)
      | some unlinkError => (.error unlinkError, { disk with leftovers := disk.leftovers + 1 })

/-! ### Edits -/

/-- An entry that is stored with another value is replaced only by force. -/
def refuseConflict {α : Type} (existing : Option α) (value : α → String) (target : String) (force : Bool)
    (refusal : String → String) : Checked Unit :=
  match existing with
  | none => .ok ()
  | some item =>
    if value item ≠ target ∧ force = false then .error (refusal (value item) ++ "; pass --force to overwrite")
    else .ok ()

/-- The vocabulary of `add_replacement`. -/
def addReplacement (spoken written : String) (force : Bool) (vocabulary : Vocabulary) : Checked Vocabulary := do
  let normalized := collapse spoken
  let target := strip written
  if normalized = "" ∨ target = "" then .error "both a spoken phrase and a written form are required"
  else
    let existing ← vocabulary.replacementFor normalized
    refuseConflict existing Replacement.written target force fun held ↦
      "replacement " ++ VocabularyLibrary.repr (.str normalized) ++ " already maps to " ++
        VocabularyLibrary.repr (.str held)
    .ok { vocabulary with
      version := schemaVersion
      replacements := assign Replacement.key vocabulary.replacements ⟨normalized, target⟩ }

/-- The vocabulary of `add_alias`. -/
def addAlias (phrase target : String) (force : Bool) (source : Option String) (integrations : List Integration)
    (vocabulary : Vocabulary) : Checked Vocabulary := do
  let normalized ← normalizePhrase phrase
  let (canonical, resolvedSource, kind) ← resolveOwnedAliasTarget target source integrations
  let existing ← vocabulary.aliasFor normalized
  refuseConflict existing Alias.target canonical force fun held ↦
    "alias " ++ VocabularyLibrary.repr (.str normalized) ++ " already resolves to " ++
      VocabularyLibrary.repr (.str held)
  .ok { vocabulary with
    version := schemaVersion
    aliases := assign Alias.phrase vocabulary.aliases ⟨normalized, canonical, kind, resolvedSource⟩ }

/-- The vocabulary of `add_pronunciation`. -/
def addPronunciation (written spoken : String) (force : Bool) (vocabulary : Vocabulary) : Checked Vocabulary := do
  let item ← validatePronunciation written spoken
  let existing ← vocabulary.pronunciationFor item.written
  refuseConflict existing Pronunciation.spoken item.spoken force fun held ↦
    "pronunciation " ++ VocabularyLibrary.repr (.str item.written) ++ " already maps to " ++
      VocabularyLibrary.repr (.str held)
  .ok { vocabulary with
    version := schemaVersion
    pronunciations := assign Pronunciation.key vocabulary.pronunciations item }

/-- The vocabulary of `remove_replacement`. -/
def removeReplacement (spoken : String) (vocabulary : Vocabulary) : Checked Vocabulary := do
  let normalized := collapse spoken
  match ← vocabulary.replacementFor normalized with
  | none => .error ("no replacement is stored for " ++ VocabularyLibrary.repr (.str normalized))
  | some _ => .ok { vocabulary with
      version := schemaVersion
      replacements := discard Replacement.key vocabulary.replacements (TextLibrary.casefold normalized) }

/-- The vocabulary of `remove_alias`. -/
def removeAlias (phrase : String) (vocabulary : Vocabulary) : Checked Vocabulary := do
  let normalized ← normalizePhrase phrase
  match ← vocabulary.aliasFor normalized with
  | none => .error ("no alias is stored for " ++ VocabularyLibrary.repr (.str normalized))
  | some _ => .ok { vocabulary with
      version := schemaVersion
      aliases := discard Alias.phrase vocabulary.aliases normalized }

/-- The vocabulary of `remove_pronunciation`. -/
def removePronunciation (written : String) (vocabulary : Vocabulary) : Checked Vocabulary := do
  let normalized := collapse written
  match ← vocabulary.pronunciationFor normalized with
  | none => .error ("no pronunciation is stored for " ++ VocabularyLibrary.repr (.str normalized))
  | some _ => .ok { vocabulary with
      version := schemaVersion
      pronunciations := discard Pronunciation.key vocabulary.pronunciations (TextLibrary.casefold normalized) }

/-! ### Imports -/

/-- What a backup holds: it cannot be read, is not JSON, or is a document. -/
inductive BackupFile
  | unreadable (error : String)
  | malformed
  | document (value : Json)

/-- A backup with its path. -/
structure Backup where
  source : String
  file : BackupFile

/-- The entries of a backup. -/
def Backup.entries (backup : Backup) : Checked Vocabulary :=
  match backup.file with
  | .unreadable error => .error ("could not read " ++ backup.source ++ ": " ++ error)
  | .malformed => .error (backup.source ++ " is not valid JSON")
  | .document value => do
    parseDocument (← requireMapping value (backup.source ++ " must be a JSON object"))

/-- The current entries with the imported ones stored over them. -/
def mergeEntries (incoming current : Vocabulary) : Vocabulary where
  replacements := storeAll Replacement.key (storeAll Replacement.key [] current.replacements) incoming.replacements
  aliases := storeAll Alias.phrase (storeAll Alias.phrase [] current.aliases) incoming.aliases
  pronunciations :=
    storeAll Pronunciation.key (storeAll Pronunciation.key [] current.pronunciations) incoming.pronunciations

/-! ### Operations -/

inductive VocabularyOperation
  | addReplacement (spoken written : String) (force : Bool)
  | addAlias (phrase target : String) (force : Bool) (source : Option String) (integrations : List Integration)
  | addPronunciation (written spoken : String) (force : Bool)
  | removeReplacement (spoken : String)
  | removeAlias (phrase : String)
  | removePronunciation (written : String)
  | importEntries (backup : Backup) (replace : Bool)

/-- The vocabulary that an operation saves, on the file it finds. -/
def VocabularyOperation.updated (location : String) (file : StoreFile) :
    VocabularyOperation → Checked Vocabulary
  | .addReplacement spoken written force => load location file >>= VoiceHarness.addReplacement spoken written force
  | .addAlias phrase target force source integrations =>
    load location file >>= VoiceHarness.addAlias phrase target force source integrations
  | .addPronunciation written spoken force =>
    load location file >>= VoiceHarness.addPronunciation written spoken force
  | .removeReplacement spoken => load location file >>= VoiceHarness.removeReplacement spoken
  | .removeAlias phrase => load location file >>= VoiceHarness.removeAlias phrase
  | .removePronunciation written => load location file >>= VoiceHarness.removePronunciation written
  | .importEntries backup replace => do
    let incoming ← backup.entries
    if replace then .ok incoming else return mergeEntries incoming (← load location file)

/-- An operation, and the steps of its save that fail. -/
structure VocabularyCall where
  operation : VocabularyOperation
  fails : SaveStep → Option String

/-- The operation loads, builds and saves. -/
def VocabularyCall.perform (call : VocabularyCall) (location : String) (disk : Disk) : Checked Unit × Disk :=
  match call.operation.updated location disk.file with
  | .error error => (.error error, disk)
  | .ok vocabulary => save call.fails vocabulary disk

/-- The disk after these calls. -/
def performAll (location : String) (calls : List VocabularyCall) (disk : Disk) : Disk :=
  calls.foldl (fun disk call ↦ (call.perform location disk).2) disk

end Model

end VoiceHarness
