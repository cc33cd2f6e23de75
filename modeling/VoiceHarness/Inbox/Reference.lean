import VoiceHarness.Job.AgentJob
import VoiceHarness.Question.Answer

/-!
# Spoken references to jobs

The inbox of `cursor/inbox.py`: the label a job is spoken of by, what a spoken reference matches, and the
question that is asked when it matches several jobs.
-/

set_option autoImplicit false
set_option relaxedAutoImplicit false

namespace VoiceHarness

/-! ### Text -/

/-- `_TOKEN`: a small letter or a digit of ASCII. -/
def isTokenChar (c : Char) : Bool := c.isLower || c.isDigit

/-- `_STOPWORDS`. -/
def stopwords : List String :=
  ["a", "an", "and", "cancel", "cursor", "dismiss", "for", "it", "job", "jobs", "me", "my", "of", "on",
    "one", "please", "repeat", "status", "task", "that", "the", "this", "to", "work"]

def shortIdLength : ℕ := 4

def maxLabelWords : ℕ := 6

/-- `text.strip("/")`. -/
def stripSlashes (text : List Char) : List Char :=
  ((text.dropWhile (· = '/')).reverse.dropWhile (· = '/')).reverse

/-- `str` of an integer. -/
def intText (value : ℤ) : List Char := (toString value).toList

/-- `_join`. -/
def joinItems : List (List Char) → List Char
  | [] => []
  | [item] => item
  | [first, second] => first ++ " and ".toList ++ second
  | items => ", ".toList.intercalate items.dropLast ++ ", and ".toList ++ items.getLastD []

section

variable [TextLibrary]

def foldText (text : String) : List Char := (TextLibrary.casefold text).toList

/-- `_tokens`. -/
def tokens (text : String) : List (List Char) :=
  ((foldText text).splitOnP (!isTokenChar ·)).filter (!·.isEmpty)

/-! ### Labels -/

/-- `build_speakable_label`. -/
def buildSpeakableLabel (request : String) (issueKey githubRepository : Option String)
    (githubIssue githubPullRequest : Option ℤ) : List Char :=
  let repository := (strip (String.ofList
    ((((githubRepository.getD "").toList.splitOnP (· = '/')).getLast?).getD []))).toList
  let handle :=
    if truthy issueKey then (strip (issueKey.getD "")).toList
    else if githubIssue.any (· ≠ 0) then "issue ".toList ++ intText (githubIssue.getD 0)
    else if githubPullRequest.any (· ≠ 0) then "pull request ".toList ++ intText (githubPullRequest.getD 0)
    else []
  let base :=
    if handle.isEmpty then [' '].intercalate ((splitWords request.toList).take maxLabelWords) else handle
  let named := decide (foldText (String.ofList repository) <:+: foldText (String.ofList base))
  let label := joinWords
    (if !repository.isEmpty && !named then repository ++ ' ' :: base else base)
  if label.isEmpty then "untitled job".toList else label

/-- `speakable_label_for`. -/
def speakableLabelFor (job : AgentJob) : List Char :=
  if job.values.hasText .speakableLabel then (job.values.textOrEmpty .speakableLabel).toList
  else
    buildSpeakableLabel (job.values.textOrEmpty .request) (job.values.text .issueKey)
      (job.values.text .githubRepository) (job.values.int .githubIssue) (job.values.int .githubPullRequest)

/-- `short_id`. -/
def shortId (job : AgentJob) : List Char := job.values.jobId.toList.take shortIdLength

/-- `category`. -/
def category (job : AgentJob) : String :=
  if job.values.status = .awaitingUser then "awaiting_user"
  else if job.values.status = .blocked then "blocked"
  else if job.values.status.isActive then "active"
  else job.values.status.value

/-- `JobSummary`. -/
structure JobSummary where
  id : String
  shortId : List Char
  label : List Char
  status : JobStatus
  category : String
  detail : List Char
  deriving DecidableEq

/-- `spoken`. -/
def JobSummary.spoken (summary : JobSummary) (disambiguator : Bool) : List Char :=
  if disambiguator then summary.label ++ " (".toList ++ summary.shortId ++ [')'] else summary.label

/-- `_detail`. -/
def detail (job : AgentJob) : List Char :=
  if job.values.status = .awaitingUser then
    joinWords (orElse (job.values.text .question) (job.values.textOrEmpty .result)).toList
  else if job.values.status = .blocked then "Manual attention required in Herdr".toList
  else if job.values.status = .failed then []
  else if job.values.status = .completed ∨ job.values.status = .cancelled then
    joinWords (job.values.textOrEmpty .result).toList
  else
    ((job.values.workflowTier.map fun tier ↦ tier.value ++ " ").getD "" ++ job.values.workflowPhase.value).toList.map
      fun c ↦ if c = '_' then ' ' else c

/-- `summarize`. -/
def summarize (job : AgentJob) : JobSummary where
  id := job.values.jobId
  shortId := shortId job
  label := speakableLabelFor job
  status := job.values.status
  category := category job
  detail := detail job

/-! ### Matching -/

/-- The tiers of a match. -/
inductive Tier
  | none | weak | strong | externalIdentity
  deriving DecidableEq

/-- The ways to write the GitHub issue of a job with its repository. -/
def qualifiedReferences (job : AgentJob) : List (List Char) :=
  let repository := stripSlashes (foldText (strip (job.values.textOrEmpty .githubRepository)))
  match job.values.int .githubIssue with
  | Option.none => []
  | some number =>
    if repository.isEmpty then []
    else
      ["github.com/".toList ++ repository ++ "/issues/".toList ++ intText number,
        repository ++ '#' :: intText number,
        repository ++ " issue ".toList ++ intText number,
        repository ++ " issue #".toList ++ intText number]

/-- `_qualified_github_issue_matches`. -/
def qualifiedGithubIssueMatches (job : AgentJob) (lowered : List Char) : Bool :=
  (qualifiedReferences job).any fun reference ↦ decide (reference <:+: lowered)

/-- The words of a label that may match weakly. -/
def labelTokens (label : List Char) : List (List Char) :=
  (tokens (String.ofList label)).filter fun token ↦
    3 ≤ token.length && !stopwords.any (·.toList = token)

/-- `_match_tier`. -/
def matchTier (summary : JobSummary) (job : AgentJob) (tokenSet : List (List Char)) (lowered : List Char) :
    Tier :=
  if summary.shortId ∈ tokenSet ∨ job.values.jobId.toList ∈ tokenSet then .strong
  else
    let key := foldText (job.values.textOrEmpty .issueKey)
    let keyTokens := tokens (TextLibrary.casefold (job.values.textOrEmpty .issueKey))
    if job.values.hasText .issueKey &&
        (decide (key <:+: lowered) || (!keyTokens.isEmpty && keyTokens.all (· ∈ tokenSet))) then
      .externalIdentity
    else if qualifiedGithubIssueMatches job lowered then .externalIdentity
    else if [job.values.int .githubIssue, job.values.int .githubPullRequest].any
        (·.any fun number ↦ intText number ∈ tokenSet) then .strong
    else if (labelTokens summary.label).any (· ∈ tokenSet) then .weak
    else .none

/-- `resolve_reference`: the matches. -/
def resolveReference (jobs : List AgentJob) (reference : String) : List JobSummary :=
  let tokenSet := tokens reference
  if tokenSet.isEmpty then []
  else
    let found (tier : Tier) :=
      (jobs.filter fun job ↦ matchTier (summarize job) job tokenSet (foldText reference) = tier).map summarize
    let external := found .externalIdentity
    let strong := found .strong
    if !external.isEmpty then external
    else if !strong.isEmpty then strong
    else found .weak

/-! ### Clarification -/

/-- What two labels are compared by. -/
def labelKey (summary : JobSummary) : List Char := foldText (String.ofList (joinWords summary.label))

/-- The options of `clarify`. -/
def clarifyOptions (summaries : List JobSummary) : List (List Char) :=
  let keys := summaries.map labelKey
  summaries.map fun summary ↦ summary.spoken (1 < keys.count (labelKey summary))

/-- `clarify`. -/
def clarify (summaries : List JobSummary) (action : String) : List Char :=
  let options := joinItems (clarifyOptions summaries)
  if options.isEmpty then "I could not find a job to ".toList ++ action.toList ++ ['.']
  else
    "There are several jobs I could ".toList ++ action.toList ++ ". Which one: ".toList ++ options ++ ['?']

end

end VoiceHarness
