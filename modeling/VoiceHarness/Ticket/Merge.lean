import VoiceHarness.Json
import VoiceHarness.Ticket.Extraction

/-!
# Ticket merges

`admit_ticket_merge` of `ticket_merge.py` takes the tickets that an utterance names, with the focused one, and chooses
the survivor; `merge_turn_arguments` encodes the others as the tickets to close. The extraction keeps one reference of
each identity without regard to case, the steps after it compare the identities as they are spelled.
-/

set_option autoImplicit false
set_option relaxedAutoImplicit false

namespace VoiceHarness

open Library

/-- The library of digits with `str.lower`. -/
class LowerLibrary extends DigitLibrary where
  lower : List Char → List Char

/-! ### Patterns -/

/-- The groups of `_INTO`. -/
inductive MergeField
  | github | linear
  deriving DecidableEq

abbrev MergePattern := Pattern Char MergeField

namespace MergePattern

def text (text : String) : MergePattern := .literal (text.toList.map sameLetter)

/-- One of these texts. -/
def oneOf : List String → MergePattern
  | [] => .one fun _ ↦ false
  | [only] => text only
  | first :: others => .alt (text first) (oneOf others)

/-- `\s+`. -/
def gap : MergePattern := .many isSpace 1 none

section

variable [DigitLibrary]

def wordBoundary : MergePattern := .boundary SpeechLibrary.isWord

/-- `(?:github\s+|linear\s+)?(?:ticket|issue)`. -/
def ticketName : MergePattern :=
  .seq (.opt (.alt (.seq (text "github") gap) (.seq (text "linear") gap))) (oneOf ["ticket", "issue"])

/-- A determiner and a ticket, or several: `\b(?:…)\s+(?:github\s+|linear\s+)?(?:ticket|issue)s?\b`. -/
def ticketPhrase (determiners : List String) : MergePattern :=
  .seq wordBoundary <| .seq (oneOf determiners) <| .seq gap <| .seq ticketName <|
    .seq (.opt (text "s")) wordBoundary

/-- `_MERGE_VERB`. -/
def mergeVerb : MergePattern := .seq wordBoundary (.seq (text "merge") wordBoundary)

/-- `_TICKET_OBJECT`. -/
def ticketObject : MergePattern :=
  .alt (ticketPhrase ["this", "that", "the", "these", "those", "a", "an"])
    (.seq wordBoundary (.seq ticketName (.seq (.opt (text "s")) wordBoundary)))

/-- `_BLOCKED`. -/
def blocked : MergePattern :=
  .seq wordBoundary <| .seq
    (.alt (text "implement") <| .alt (.seq (text "work") (.seq gap (text "on"))) <|
      .alt (oneOf ["fix", "split", "review"]) <|
      .alt (.seq (text "summari") (.seq (.one fun c ↦ sameLetter 's' c || sameLetter 'z' c) (text "e"))) <|
      .alt (oneOf ["adversarial", "create", "file", "open"]) <|
      .alt (.seq (text "pull") (.seq gap (text "request"))) (.seq (text "pr") (.opt (text "s"))))
    wordBoundary

/-- `_INTO`. -/
def into : MergePattern :=
  .alt
    (.seq wordBoundary <| .seq (text "into") <| .seq gap <| .seq (oneOf ["this", "that", "the"]) <| .seq gap <|
      .seq ticketName wordBoundary) <|
  .alt
    (.seq wordBoundary <| .seq (text "into") <| .seq gap <| .group .github <|
      .seq (.one isPatternAlnum) <| .seq (.many isOwnerChar 0 (some 38)) <| .seq (text "/") <|
      .seq (.many isNameChar 1 none) <| .seq (text "#") (.many isDecimal 1 none))
    (.seq wordBoundary <| .seq (text "into") <| .seq gap <| .group .linear <|
      .seq (.one isPatternLetter) <| .seq (.many isPatternAlnum 1 none) <| .seq (text "-") (.many isDecimal 1 none))

end

end MergePattern

/-! ### The named tickets -/

section

variable [DigitLibrary]

/-- `[1-9]\d*`. -/
def focusedNumber : TicketPattern := .seq (.one fun c ↦ c.isDigit && c ≠ '0') (.many isDecimal 0 none)

/-- `_FOCUSED_GITHUB`. -/
def focusedGithub : TicketPattern :=
  .seq (.group .owner ownerName) <| .seq (literalText "/") <| .seq (.group .repo pathName) <|
    .seq (literalText "#") (.group .number focusedNumber)

/-- `_FOCUSED_LINEAR`. -/
def focusedLinear : TicketPattern :=
  .seq (.group .team (.seq (.one isPatternLetter) (.many isPatternAlnum 1 none))) <| .seq (literalText "-")
    (.group .number focusedNumber)

/-- `parse_focused_ticket`. -/
def parseFocusedTicket (focusedIssue : String) : Option TicketReference :=
  let value := (strip focusedIssue).toList
  match focusedGithub.fullMatch value, focusedLinear.fullMatch value with
  | some found, _ =>
    some (githubTicket value 0 ((found.groups.lookup TicketField.owner).getD [])
      ((found.groups.lookup TicketField.repo).getD [])
      (readDigits ((found.groups.lookup TicketField.number).getD []))) |>.filter (·.canonical.isSome)
  | none, some found =>
    some (linearTicket value 0 ((found.groups.lookup TicketField.team).getD [])
      (readDigits ((found.groups.lookup TicketField.number).getD []))) |>.filter (·.canonical.isSome)
  | none, none => none

/-- `parse_focused_ticket(focused_issue) if focused_issue else None`. -/
def focusedTicket (focusedIssue : Option String) : Option TicketReference :=
  if truthy focusedIssue then parseFocusedTicket (focusedIssue.getD "") else none

/-- `if reference.canonical`. -/
def TicketReference.isNamed (reference : TicketReference) : Bool := reference.canonical.any (· ≠ [])

/-- The focused ticket comes first where the utterance points to it before it names another. -/
def pointsFirst (utterance : List Char) (resolved : List TicketReference) : Bool :=
  ((MergePattern.ticketPhrase ["this", "that", "the"]).search utterance).any fun found ↦
    found.start utterance.length ≤ (resolved.head?.map TicketReference.position).getD utterance.length

/-- The resolved references with the focused one. -/
def withFocused (resolved : List TicketReference) (focused : Option TicketReference) (includeFocused : Bool)
    (utterance : List Char) : List TicketReference :=
  match focused with
  | none => resolved
  | some focused =>
    if includeFocused = true ∧ ¬ resolved.any (·.canonical = focused.canonical) then
      if pointsFirst utterance resolved then focused :: resolved else resolved ++ [focused]
    else resolved

/-- `resolve_named_tickets`. -/
def resolveNamedTickets (extraction : TicketExtraction) (focusedIssue : Option String) (includeFocused : Bool)
    (utterance : List Char) : List TicketReference :=
  uniqueBy TicketReference.canonical []
    ((withFocused (extraction.references.filter TicketReference.isNamed) (focusedTicket focusedIssue) includeFocused
      utterance).filter (·.canonical.isSome))

/-! ### Admission -/

/-- `MAX_MERGE_TICKETS`. -/
def maxMergeTickets : ℕ := 8

/-- `TicketMergeAdmission`. -/
structure TicketMergeAdmission where
  tickets : List TicketReference
  survivor : Option TicketReference
  deriving DecidableEq

/-- `wants_ticket_merge_context`. -/
def wantsTicketMergeContext (utterance : List Char) : Bool :=
  (MergePattern.mergeVerb.search utterance).isSome && (MergePattern.blocked.search utterance).isNone &&
    (MergePattern.ticketObject.search utterance).isSome

/-- `rsplit("#", 1)[0]`. -/
def beforeNumber (identity : List Char) : List Char :=
  if '#' ∈ identity then ((identity.reverse.dropWhile (· ≠ '#')).drop 1).reverse else identity

end

section

variable [LowerLibrary]

/-- `select_merge_survivor`. -/
def selectMergeSurvivor (utterance : List Char) (tickets : List TicketReference) (focusedIssue : Option String) :
    Option TicketReference :=
  match MergePattern.into.search utterance with
  | none => tickets.head?
  | some found =>
    let spoken := (found.group? .github).or (found.group? .linear)
    match (spoken.or ((focusedTicket focusedIssue).bind (·.canonical))).filter (· ≠ []) with
    | none => none
    | some target => tickets.find? fun ticket ↦ ticket.canonical.any fun canonical ↦
        canonical ≠ [] && LowerLibrary.lower canonical = LowerLibrary.lower target

/-- `admit_ticket_merge`. -/
def admitTicketMerge (utterance : List Char) (extraction : TicketExtraction) (focusedIssue : Option String) :
    Option TicketMergeAdmission :=
  let isNamed := extraction.references.any fun reference ↦ reference.isNamed || reference.isScoped
  let isMerge := (MergePattern.mergeVerb.search utterance).isSome
  let isBlocked := (MergePattern.blocked.search utterance).isSome
  if ¬ (wantsTicketMergeContext utterance = true ∨ isMerge = true ∧ isBlocked = false ∧ isNamed = true) then none
  else if isBlocked = true then none
  else if ¬ ((MergePattern.ticketObject.search utterance).isSome = true ∨ isNamed = true) then none
  else
    let tickets := resolveNamedTickets extraction focusedIssue (wantsTicketMergeContext utterance) utterance
    let sources := (tickets.map TicketReference.source).dedup
    let repositories := (tickets.map fun ticket ↦ beforeNumber (ticket.canonical.getD [])).dedup
    if tickets.length < 2 ∨ maxMergeTickets < tickets.length then some ⟨[], none⟩
    else if sources.length ≠ 1 ∨ sources.any Option.isNone then some ⟨[], none⟩
    else if sources = [some .github] ∧ repositories.length ≠ 1 then some ⟨[], none⟩
    else
      match selectMergeSurvivor utterance tickets focusedIssue with
      | none => some ⟨[], none⟩
      | some survivor => some ⟨tickets, some survivor⟩

end

/-! ### The arguments of the turn -/

/-- `MergeClosingTicket`. -/
structure MergeClosingTicket where
  identity : List Char
  marker : String := "00000000000000000000000000000000"
  state : String := "planned"
  issueId : Option String := none
  repository : Option (List Char) := none
  number : Option ℕ := none
  terminalStateId : Option String := none
  terminalStateName : Option String := none

/-- `TicketMergeDispatch`. -/
structure TicketMergeDispatch where
  githubRepository : Option (List Char) := none
  githubIssue : Option ℕ := none
  githubIssueMergeRequested : Bool := false
  issueKey : Option (List Char) := none
  linearTicketMergeRequested : Bool := false
  ticketMergeSurvivor : List Char
  ticketMergeClosing : Json

/-- `int(number)`, for ASCII digits. -/
def readNumber (digits : List Char) : Option ℕ :=
  if digits ≠ [] ∧ digits.all Char.isDigit = true then
    some (digits.foldl (fun number c ↦ 10 * number + (c.toNat - 48)) 0)
  else none

/-- `repository, number = identity.rsplit("#", 1)` with `int(number)`. -/
def splitNumber (identity : List Char) : Checked (List Char × ℕ) :=
  if '#' ∉ identity then .error "not enough values to unpack (expected 2, got 1)"
  else match readNumber (identity.reverse.takeWhile (· ≠ '#')).reverse with
    | none => .error "invalid literal for int() with base 10"
    | some number => .ok (beforeNumber identity, number)

/-- `_closing_from_reference`. -/
def closingFromReference (ticket : TicketReference) : Checked MergeClosingTicket :=
  match ticket.canonical, ticket.source with
  | some identity, some .github => do
    let (repository, number) ← splitNumber identity
    return { identity, repository := some repository, number := some number }
  | some identity, some .linear => .ok { identity }
  | _, _ => .error "Ticket merge closing identity is invalid"

def MergeClosingTicket.toJson (ticket : MergeClosingTicket) : Json :=
  let orNull (text : Option String) : Json := text.elim .null .str
  .obj [("identity", .str (String.ofList ticket.identity)), ("marker", .str ticket.marker),
    ("state", .str ticket.state), ("issue_id", orNull ticket.issueId), ("repository", orNull (ticket.repository.map String.ofList)),
    ("number", ticket.number.elim .null fun number ↦ .int number),
    ("terminal_state_id", orNull ticket.terminalStateId), ("terminal_state_name", orNull ticket.terminalStateName)]

/-- `encode_merge_closing`, before the text of the JSON is written. -/
def encodeMergeClosing (tickets : List MergeClosingTicket) : Json := .arr (tickets.map MergeClosingTicket.toJson)

/-- The arguments for a survivor of a source. -/
def mergeDispatch (identity : List Char) (closing : Json) : TicketSource → Checked TicketMergeDispatch
  | .github => do
    let (repository, number) ← splitNumber identity
    return {
      githubRepository := some repository
      githubIssue := some number
      githubIssueMergeRequested := true
      ticketMergeSurvivor := identity
      ticketMergeClosing := closing }
  | .linear =>
    .ok {
      issueKey := some identity
      linearTicketMergeRequested := true
      ticketMergeSurvivor := identity
      ticketMergeClosing := closing }

/-- `merge_turn_arguments`. -/
def mergeTurnArguments (survivor : TicketReference) (tickets : List TicketReference) : Checked TicketMergeDispatch :=
  match survivor.canonical, survivor.source with
  | some identity, some source => do
    let closing ← (tickets.filter (·.canonical ≠ some identity)).mapM closingFromReference
    if closing.isEmpty then .error "Ticket merge requires at least one closing ticket"
    else mergeDispatch identity (encodeMergeClosing closing) source
  | _, _ => .error "Ticket merge requires a trusted survivor identity"

/-! ### What is encoded -/

/-- The identities of an encoded closing set. -/
def encodedIdentities : Json → List String
  | .arr items => items.filterMap fun item ↦
    match item with
    | .obj fields =>
      match Dict.get? fields "identity" with
      | some (.str identity) => some identity
      | _ => none
    | _ => none
  | _ => []

section

variable {survivor ticket : TicketReference} {tickets : List TicketReference} {closing : MergeClosingTicket}
  {dispatch : TicketMergeDispatch}

theorem encodedIdentities_encodeMergeClosing (closing : List MergeClosingTicket) :
    encodedIdentities (encodeMergeClosing closing) = closing.map fun ticket ↦ String.ofList ticket.identity := by
  rw [encodeMergeClosing, encodedIdentities, List.filterMap_map]
  induction closing with
  | nil => rfl
  | cons ticket closing ih => rw [List.filterMap_cons, ih]; rfl

theorem identity_of_closingFromReference (h : closingFromReference ticket = .ok closing) :
    closing.identity = ticket.canonical.getD [] := by
  rw [closingFromReference] at h
  split at h
  · rename_i identity hcanonical hsource
    obtain ⟨split, -, hclosing⟩ := checked_bind_eq_ok_iff.mp h
    obtain rfl := Except.ok.inj hclosing
    rw [hcanonical]
    rfl
  · rename_i identity hcanonical hsource
    obtain rfl := Except.ok.inj h
    rw [hcanonical]
    rfl
  · cases h

theorem identities_of_mapM {closing : List MergeClosingTicket} (h : tickets.mapM closingFromReference = .ok closing) :
    (closing.map fun ticket ↦ ticket.identity) = tickets.map fun ticket ↦ ticket.canonical.getD [] := by
  induction tickets generalizing closing with
  | nil =>
    obtain rfl := Except.ok.inj h
    rfl
  | cons ticket tickets ih =>
    rw [List.mapM_cons] at h
    obtain ⟨first, hfirst, hrest⟩ := checked_bind_eq_ok_iff.mp h
    obtain ⟨rest, hmap, hclosing⟩ := checked_bind_eq_ok_iff.mp hrest
    obtain rfl := Except.ok.inj hclosing
    rw [List.map_cons, List.map_cons, identity_of_closingFromReference hfirst, ih hmap]

theorem closing_of_mergeDispatch {identity : List Char} {closing : Json} {source : TicketSource}
    (h : mergeDispatch identity closing source = .ok dispatch) : dispatch.ticketMergeClosing = closing := by
  cases source with
  | github =>
    obtain ⟨split, -, hdispatch⟩ := checked_bind_eq_ok_iff.mp h
    obtain rfl := Except.ok.inj hdispatch
    rfl
  | linear =>
    obtain rfl := Except.ok.inj h
    rfl

/-- What is encoded are the identities of the tickets that are not spelled as the survivor's. -/
theorem encoded_of_mergeTurnArguments (h : mergeTurnArguments survivor tickets = .ok dispatch) :
    encodedIdentities dispatch.ticketMergeClosing =
      (tickets.filter (·.canonical ≠ survivor.canonical)).map fun ticket ↦
        String.ofList (ticket.canonical.getD []) := by
  rw [mergeTurnArguments] at h
  split at h
  · rename_i identity source hcanonical hsource
    obtain ⟨closing, hclosing, hrest⟩ := checked_bind_eq_ok_iff.mp h
    have hidentities := identities_of_mapM hclosing
    have hmap := congrArg (List.map String.ofList) hidentities
    rw [List.map_map, List.map_map] at hmap
    split_ifs at hrest
    rw [closing_of_mergeDispatch hrest, encodedIdentities_encodeMergeClosing, hcanonical]
    exact hmap
  · cases h

/-- A GitHub identity ends in its number. -/
def TicketReference.EndsInNumber (ticket : TicketReference) : Prop :=
  ticket.source = some .github → ∃ name number, ticket.canonical = some (numbered name '#' number)

theorem splitNumber_numbered (name : List Char) (number : ℕ) :
    ∃ split, splitNumber (numbered name '#' number) = .ok split := by
  have hdigits : ∀ c ∈ (Nat.toDigits 10 number).reverse, (decide (c ≠ '#')) = true := by
    intro c hc
    have hdigit : c.isDigit = true :=
      Nat.isDigit_of_mem_toDigits (by decide) (by decide) (List.mem_reverse.mp hc)
    rw [decide_eq_true_iff]
    rintro rfl
    cases hdigit
  have hread : ∃ value, readNumber (Nat.toDigits 10 number) = some value := by
    have hall : (Nat.toDigits 10 number).all Char.isDigit = true :=
      List.all_eq_true.mpr fun c hc ↦ Nat.isDigit_of_mem_toDigits (by decide) (by decide) hc
    exact ⟨_, if_pos ⟨Nat.toDigits_ne_nil, hall⟩⟩
  obtain ⟨value, hvalue⟩ := hread
  have hhash : '#' ∈ numbered name '#' number := List.mem_append_right _ List.mem_cons_self
  have htake : ((numbered name '#' number).reverse.takeWhile (· ≠ '#')).reverse = Nat.toDigits 10 number := by
    rw [numbered, List.reverse_append, List.reverse_cons, List.append_assoc, List.takeWhile_append_of_pos hdigits]
    simp
  refine ⟨(beforeNumber (numbered name '#' number), value), ?_⟩
  rw [splitNumber, if_neg (not_not_intro hhash), htake, hvalue]

theorem mergeDispatch_ok {identity : List Char} (closing : Json) {source : TicketSource}
    (hnumber : source = .github → ∃ name number, identity = numbered name '#' number) :
    ∃ dispatch, mergeDispatch identity closing source = .ok dispatch := by
  cases source with
  | github =>
    obtain ⟨name, number, rfl⟩ := hnumber rfl
    obtain ⟨split, hsplit⟩ := splitNumber_numbered name number
    exact ⟨_, checked_bind_eq_ok_iff.mpr ⟨split, hsplit, rfl⟩⟩
  | linear => exact ⟨_, rfl⟩

theorem closingFromReference_ok (hcanonical : ticket.canonical.isSome = true) (hsource : ticket.source.isSome = true)
    (hnumber : ticket.EndsInNumber) : ∃ closing, closingFromReference ticket = .ok closing := by
  obtain ⟨identity, hidentity⟩ := Option.isSome_iff_exists.mp hcanonical
  obtain ⟨source, hsource⟩ := Option.isSome_iff_exists.mp hsource
  rw [closingFromReference, hidentity, hsource]
  cases source with
  | github =>
    obtain ⟨name, number, hname⟩ := hnumber hsource
    obtain rfl := Option.some.inj (hidentity.symm.trans hname)
    obtain ⟨split, hsplit⟩ := splitNumber_numbered name number
    exact ⟨_, checked_bind_eq_ok_iff.mpr ⟨split, hsplit, rfl⟩⟩
  | linear => exact ⟨_, rfl⟩

theorem mapM_closingFromReference_ok
    (h : ∀ ticket ∈ tickets, ∃ closing, closingFromReference ticket = .ok closing) :
    ∃ closing, tickets.mapM closingFromReference = .ok closing := by
  induction tickets with
  | nil => exact ⟨[], rfl⟩
  | cons ticket tickets ih =>
    obtain ⟨hticket, htickets⟩ := List.forall_mem_cons.mp h
    obtain ⟨first, hfirst⟩ := hticket
    obtain ⟨rest, hrest⟩ := ih htickets
    refine ⟨first :: rest, ?_⟩
    rw [List.mapM_cons]
    exact checked_bind_eq_ok_iff.mpr ⟨first, hfirst, checked_bind_eq_ok_iff.mpr ⟨rest, hrest, rfl⟩⟩

theorem endsInNumber_githubTicket (raw : List Char) (position : ℕ) (owner repository : List Char) (number : ℕ)
    (h : (githubTicket raw position owner repository number).canonical.isSome = true) :
    (githubTicket raw position owner repository number).EndsInNumber := by
  intro _
  rw [githubTicket] at h ⊢
  cases hname : validateRepository (owner ++ '/' :: repository) with
  | error error =>
    rw [hname] at h
    cases h
  | ok name =>
    rw [hname] at h
    simp only at h ⊢
    split_ifs at h ⊢
    · cases h
    · exact ⟨name, number, rfl⟩

theorem source_linearTicket (raw : List Char) (position : ℕ) (team : List Char) (number : ℕ) :
    (linearTicket raw position team number).source = some .linear := by
  rw [linearTicket]
  split_ifs
  · rfl
  · rfl

theorem endsInNumber_of_linear {ticket : TicketReference} (h : ticket.source = some .linear) : ticket.EndsInNumber := by
  intro hgithub
  cases h.symm.trans hgithub

theorem endsInNumber_scopedTicket (raw : List Char) (position number : ℕ) (scopeSource scope : Option String)
    (h : (scopedTicket raw position number scopeSource scope).canonical.isSome = true) :
    (scopedTicket raw position number scopeSource scope).EndsInNumber := by
  unfold scopedTicket at h ⊢
  simp only at h ⊢
  split_ifs at h ⊢
  · cases h
  · cases h
  · cases hname : validateRepository (orElse scope "").toList with
    | error error =>
      rw [hname] at h
      cases h
    | ok name => exact fun _ ↦ ⟨name, number, rfl⟩
  · cases h
  · exact endsInNumber_of_linear rfl

end

end VoiceHarness
