import VoiceHarness.Library.Pattern
import VoiceHarness.Library.Unique
import VoiceHarness.Ticket.ScopedItems
import Mathlib.Data.List.Sort

/-!
# Ticket references

What `extract_ticket_targets` of `ticket_targets.py` takes from a text: the matches of five patterns and the scoped
items, in the order of their places and one for each ticket. A key or a scoped number counts only where it lies
apart from the more specific references.
-/

set_option autoImplicit false
set_option relaxedAutoImplicit false

namespace VoiceHarness

open Library

/-! ### Characters -/

/-- What `[A-Za-z0-9]` matches with `re.IGNORECASE`. -/
def isPatternAlnum (c : Char) : Bool :=
  c.isAlphanum || c ∈ [dottedI, dotlessI, longS, kelvinSign]

/-- `[A-Za-z]`. -/
def isPatternLetter (c : Char) : Bool := isPatternAlnum c && !c.isDigit

/-- `[A-Za-z0-9-]`. -/
def isOwnerChar (c : Char) : Bool := isPatternAlnum c || c = '-'

/-- `[A-Za-z0-9_.-]`. -/
def isNameChar (c : Char) : Bool := isPatternAlnum c || c ∈ ['_', '.', '-']

/-- A character that may not follow the number of a URL. -/
def isPathChar (c : Char) : Bool := isPatternAlnum c || c ∈ ['_', '/', '-']

/-- `str.upper` of what a pattern for names matches. -/
def upperLetter (c : Char) : Char :=
  if c = dotlessI then 'I' else if c = longS then 'S' else c.toUpper

/-! ### Patterns -/

/-- The groups of the patterns. -/
inductive TicketField
  | owner | repo | number | team
  deriving DecidableEq

abbrev TicketPattern := Pattern Char TicketField

abbrev TicketFound := Found Char TicketField

/-- A literal text, without regard to case. -/
def literalText (text : String) : TicketPattern := .literal (text.toList.map sameLetter)

/-- `(?P<owner>[A-Za-z0-9](?:[A-Za-z0-9-]{0,38}))`. -/
def ownerName : TicketPattern := .seq (.one isPatternAlnum) (.many isOwnerChar 0 (some 38))

/-- `[A-Za-z0-9_.-]+`. -/
def pathName : TicketPattern := .many isNameChar 1 none

def spaces : TicketPattern := .many isSpace 1 none

section

variable [DigitLibrary]

/-- `(?P<number>\d+)`. -/
def numberGroup : TicketPattern := .group .number (.many isDecimal 1 none)

/-- `_GITHUB_URL`. -/
def githubUrl : TicketPattern :=
  .seq (literalText "https://") <| .seq (.opt (literalText "www.")) <| .seq (literalText "github.com/") <|
    .seq (.group .owner pathName) <| .seq (literalText "/") <| .seq (.group .repo pathName) <|
    .seq (literalText "/issues/") <| .seq numberGroup <| .seq (.opt (literalText "/")) (.notAhead isPathChar)

/-- `_GITHUB_REFERENCE`. -/
def githubReference : TicketPattern :=
  .seq (.notBehind isNameChar) <| .seq (.group .owner ownerName) <| .seq (literalText "/") <|
    .seq (.group .repo pathName) <| .seq (literalText "#") <| .seq numberGroup (.notAhead isNameChar)

/-- `_GITHUB_REPOSITORY_TARGET`. -/
def githubRepositoryTarget : TicketPattern :=
  .seq (.notBehind isNameChar) <| .seq ownerName <| .seq (literalText "/") pathName

/-- `_GITHUB_REPOSITORY_ISSUE`. -/
def githubRepositoryIssue : TicketPattern :=
  .seq (.notBehind isNameChar) <| .seq (.group .owner ownerName) <| .seq (literalText "/") <|
    .seq (.group .repo pathName) <| .seq spaces <| .seq (literalText "issue") <|
    .seq (.opt (literalText "s")) <| .seq spaces <| .seq (.opt (literalText "#")) <|
    .seq numberGroup (.notAhead isPathChar)

/-- `_GITHUB_IN_REPOSITORY`. -/
def githubInRepository : TicketPattern :=
  .seq (.boundary SpeechLibrary.isWord) <| .seq (literalText "issue") <| .seq spaces <|
    .seq (.opt (literalText "#")) <| .seq numberGroup <| .seq spaces <|
    .seq (.alt (literalText "in") (literalText "from")) <| .seq spaces <|
    .seq (.group .owner ownerName) <| .seq (literalText "/") <| .seq (.group .repo pathName)
      (.boundary SpeechLibrary.isWord)

/-- `_LINEAR_REFERENCE`. -/
def linearReference : TicketPattern :=
  .seq (.notBehind isPatternAlnum) <|
    .seq (.group .team (.seq (.one isPatternLetter) (.many isPatternAlnum 1 none))) <|
    .seq (literalText "-") <| .seq numberGroup (.notAhead isPatternAlnum)

end

/-! ### Repositories -/

/-- `[A-Za-z0-9_.-]` without `re.IGNORECASE`. -/
def isAsciiName (c : Char) : Bool := c.isAlphanum || c ∈ ['_', '.', '-']

/-- `REPOSITORY` of `integrations/github.py`. -/
def repositoryPattern : TicketPattern :=
  .seq (.group .owner (.seq (.one Char.isAlphanum) (.opt
    (.seq (.many (fun c ↦ c.isAlphanum || c = '-') 0 (some 37)) (.one Char.isAlphanum))))) <|
    .seq (.one (· = '/')) (.group .repo (.many isAsciiName 1 (some 100)))

/-- `value.removesuffix(".git")`. -/
def removeGitSuffix (value : List Char) : List Char :=
  if ".git".toList.isSuffixOf value then value.take (value.length - 4) else value

/-- Texts are equal where they are the same, found once for the membership of a text in a list. -/
theorem lawfulBEq_text : LawfulBEq (List Char) := inferInstance

attribute [local instance] lawfulBEq_text

/-- `validate_repository`. -/
def validateRepository (value : List Char) : Checked (List Char) :=
  match repositoryPattern.fullMatch (removeGitSuffix (strip (String.ofList value)).toList) with
  | none => .error "GitHub repository must be in owner/repository form"
  | some found =>
    let owner := (found.groups.lookup TicketField.owner).getD []
    let repo := (found.groups.lookup TicketField.repo).getD []
    if repo ∈ [['.'], ['.', '.']] then .error "GitHub repository must be in owner/repository form"
    else .ok (owner ++ '/' :: repo)

/-! ### References -/

inductive TicketSource
  | github | linear
  deriving DecidableEq, Repr

/-- `TicketReference`. -/
structure TicketReference where
  raw : List Char
  position : ℕ
  source : Option TicketSource
  canonical : Option (List Char)
  isScoped : Bool := false
  error : Option String := none
  deriving DecidableEq

/-- `TicketExtraction`. -/
structure TicketExtraction where
  references : List TicketReference
  requestedCount : ℕ
  deriving DecidableEq

/-- `batch_requested`. -/
def TicketExtraction.batchRequested (extraction : TicketExtraction) : Bool := 1 < extraction.requestedCount

/-- A name with a number after a sign. -/
def numbered (name : List Char) (sign : Char) (number : ℕ) : List Char :=
  name ++ sign :: Nat.toDigits 10 number

def missingIssueScopeError : String := "bare issue number requires an unambiguous issues-page scope"

/-- `_github_reference`, for a number that is read already. -/
def githubTicket (raw : List Char) (position : ℕ) (owner repository : List Char) (number : ℕ) :
    TicketReference :=
  match validateRepository (owner ++ '/' :: repository) with
  | .error error => { raw, position, source := none, canonical := none, error := some error }
  | .ok canonical =>
    if number < 1 then
      { raw, position, source := some .github, canonical := none
        error := some "GitHub issue number must be positive" }
    else { raw, position, source := some .github, canonical := some (numbered canonical '#' number) }

/-- `_linear_reference`. -/
def linearTicket (raw : List Char) (position : ℕ) (team : List Char) (number : ℕ) : TicketReference :=
  if number < 1 then
    { raw, position, source := some .linear, canonical := none
      error := some "Linear issue number must be positive" }
  else { raw, position, source := some .linear, canonical := some (numbered (team.map upperLetter) '-' number) }

/-- `_LINEAR_TEAM.fullmatch`. -/
def isLinearTeam : List Char → Bool
  | [] | [_] => false
  | c :: team => c.isAlpha && team.all Char.isAlphanum

/-- `_scoped_reference`. -/
def scopedTicket (raw : List Char) (position : ℕ) (number : ℕ) (scopeSource scope : Option String) :
    TicketReference :=
  let failed (source : Option TicketSource) (error : String) : TicketReference :=
    { raw, position, source, canonical := none, isScoped := true, error := some error }
  if number < 1 then failed none "issue number must be positive"
  else if !truthy scope || scopeSource ∉ [some "github", some "linear"] then failed none missingIssueScopeError
  else if scopeSource = some "github" then
    match validateRepository (orElse scope "").toList with
    | .error error => failed (some .github) error
    | .ok repository =>
      { raw, position, source := some .github, canonical := some (numbered repository '#' number)
        isScoped := true }
  else if !isLinearTeam (orElse scope "").toList then failed (some .linear) "Linear team scope is invalid"
  else
    { raw, position, source := some .linear, isScoped := true
      canonical := some (numbered ((orElse scope "").toList.map Char.toUpper) '-' number) }

/-! ### Extraction -/

/-- `_overlaps`. -/
def overlaps (span : ℕ × ℕ) (spans : List (ℕ × ℕ)) : Bool :=
  spans.any fun existing ↦ span.1 < existing.2 && existing.1 < span.2

/-- The key under which a reference is kept. -/
def TicketReference.key [TextLibrary] (reference : TicketReference) : String :=
  match reference.canonical with
  | some canonical => TextLibrary.casefold (String.ofList canonical)
  | none => TextLibrary.casefold (String.ofList reference.raw) ++ ":" ++ reference.error.getD ""

section

variable [DigitLibrary]

/-- The match of a GitHub pattern as a reference. -/
def githubCandidate (size : ℕ) (found : TicketFound) : TicketReference :=
  githubTicket found.text (found.start size) ((found.group? .owner).getD []) ((found.group? .repo).getD [])
    (readDigits ((found.group? .number).getD []))

def linearCandidate (size : ℕ) (found : TicketFound) : TicketReference :=
  linearTicket found.text (found.start size) ((found.group? .team).getD [])
    (readDigits ((found.group? .number).getD []))

/-- The matches of the GitHub patterns. -/
def githubMatches (text : List Char) : List TicketFound :=
  [githubUrl, githubReference, githubRepositoryIssue, githubInRepository].flatMap (·.finditer text)

/-- The keys that lie apart from the spans and from each other, and all the spans. -/
def keysApart (size : ℕ) : List TicketFound → List (ℕ × ℕ) → List TicketFound × List (ℕ × ℕ)
  | [], spans => ([], spans)
  | found :: rest, spans =>
    if overlaps (found.span size) spans then keysApart size rest spans
    else
      let later := keysApart size rest (spans ++ [found.span size])
      (found :: later.1, later.2)

/-- The spans before the keys are found. -/
def githubSpans (text : List Char) : List (ℕ × ℕ) :=
  (githubMatches text ++ githubRepositoryTarget.finditer text).map (·.span text.length)

/-- The matches of keys that count, and the spans after them. -/
def linearMatches (text : List Char) : List TicketFound × List (ℕ × ℕ) :=
  keysApart text.length (linearReference.finditer text) (githubSpans text)

/-- The scoped items that count. -/
def itemsApart (text : List Char) : List ScopedItem :=
  (scopedItems text).filter fun item ↦ !overlaps (item.position, item.stop) (linearMatches text).2

/-- A scoped item as a reference. -/
def scopedCandidate (scopeSource scope : Option String) (item : ScopedItem) : TicketReference :=
  match item.error with
  | some error =>
    { raw := item.raw, position := item.position, source := none, canonical := none, isScoped := true
      error := some error }
  | none => scopedTicket item.raw item.position (item.value.getD 0) scopeSource scope

/-- The candidates in the order in which they are found. -/
def ticketCandidates (text : List Char) (scopeSource scope : Option String) : List TicketReference :=
  (githubMatches text).map (githubCandidate text.length) ++
    (linearMatches text).1.map (linearCandidate text.length) ++
    (itemsApart text).map (scopedCandidate scopeSource scope)

/-- The candidates in the order of their places. -/
def sortedCandidates (text : List Char) (scopeSource scope : Option String) : List TicketReference :=
  (ticketCandidates text scopeSource scope).insertionSort fun first second ↦ first.position ≤ second.position

/-- `extract_ticket_targets`. -/
def extractTicketTargets (text : List Char) (scopeSource scope : Option String) : TicketExtraction where
  references := uniqueBy TicketReference.key [] (sortedCandidates text scopeSource scope)
  requestedCount := (githubMatches text).length + (linearMatches text).1.length +
    ((itemsApart text).map (·.requestedCount)).sum

end

end VoiceHarness
