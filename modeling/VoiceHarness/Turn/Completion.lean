import VoiceHarness.Turn.Markers

/-!
# The last marker of a turn

A turn should end with the last valid marker of its output. The code takes the last value of each kind, and
tells their order by where the texts of the markers stand last, valid or not.
-/

set_option autoImplicit false
set_option relaxedAutoImplicit false

namespace VoiceHarness

section

variable {kind : MarkerKind} {token : String} {output value : List Char}

/-! ### The last valid marker -/

/-- The valid marker of either kind in the first of these lines. -/
def anyMarkerAt (token : String) (lines : List (List Char)) : Option (MarkerKind × List Char) :=
  ((markerAt .summary token lines).map (MarkerKind.summary, ·)).or
    ((markerAt .question token lines).map (MarkerKind.question, ·))

/-- The last valid marker of an output. -/
def lastMarker (output : List Char) (token : String) : Option (MarkerKind × List Char) :=
  ((splitLines output).tails.filterMap (anyMarkerAt token)).getLast?

theorem anyMarkerAt_eq_none_iff {lines : List (List Char)} :
    anyMarkerAt token lines = none ↔ ∀ kind, markerAt kind token lines = none := by
  unfold anyMarkerAt
  rw [Option.or_eq_none_iff, Option.map_eq_none_iff, Option.map_eq_none_iff]
  constructor
  · rintro ⟨hsummary, hquestion⟩ (_ | _)
    · exact hsummary
    · exact hquestion
  · exact fun h ↦ ⟨h .summary, h .question⟩

theorem markerAt_of_anyMarkerAt {lines : List (List Char)} (h : anyMarkerAt token lines = some (kind, value)) :
    markerAt kind token lines = some value := by
  unfold anyMarkerAt at h
  cases hsummary : markerAt .summary token lines with
  | some found =>
    rw [hsummary] at h
    cases h
    exact hsummary
  | none =>
    rw [hsummary, Option.map_none, Option.none_or, Option.map_eq_some_iff] at h
    obtain ⟨found, hfound, hequal⟩ := h
    cases hequal
    exact hfound

/-- The last marker of a list of places is the last one of its kind. -/
theorem getLast?_markerAt {places : List (List (List Char))}
    (h : (places.filterMap (anyMarkerAt token)).getLast? = some (kind, value)) :
    (places.filterMap (markerAt kind token)).getLast? = some value := by
  induction places with
  | nil => cases h
  | cons lines places ih =>
    cases hplaces : places.filterMap (anyMarkerAt token) with
    | nil =>
      have hnone : places.filterMap (markerAt kind token) = [] := by
        rw [List.filterMap_eq_nil_iff] at hplaces ⊢
        exact fun held hheld ↦ anyMarkerAt_eq_none_iff.mp (hplaces held hheld) kind
      cases hfirst : anyMarkerAt token lines with
      | none =>
        rw [List.filterMap_cons_none hfirst, hplaces] at h
        cases h
      | some found =>
        rw [List.filterMap_cons_some hfirst, hplaces] at h
        cases h
        rw [List.filterMap_cons_some (markerAt_of_anyMarkerAt hfirst), hnone]
        rfl
    | cons first others =>
      have hlast : (places.filterMap (anyMarkerAt token)).getLast? = some (kind, value) := by
        cases hfirst : anyMarkerAt token lines with
        | none => rwa [List.filterMap_cons_none hfirst] at h
        | some found =>
          rw [List.filterMap_cons_some hfirst, hplaces, List.getLast?_cons_cons, ← hplaces] at h
          exact h
      have hkind := ih hlast
      cases hfirst : markerAt kind token lines with
      | none => rwa [List.filterMap_cons_none hfirst]
      | some found =>
        rw [List.filterMap_cons_some hfirst, List.getLast?_cons, hkind]
        rfl

/-- The last marker is the one that is extracted for its kind. -/
theorem extractMarker_of_lastMarker (h : lastMarker output token = some (kind, value)) :
    extractMarker output kind token = some value := getLast?_markerAt h

/-- Where there is no marker none is extracted. -/
theorem extractMarker_of_none (h : lastMarker output token = none) (kind : MarkerKind) :
    extractMarker output kind token = none := by
  unfold lastMarker at h
  unfold extractMarker
  rw [List.getLast?_eq_none_iff, List.filterMap_eq_nil_iff] at h ⊢
  exact fun held hheld ↦ anyMarkerAt_eq_none_iff.mp (h held hheld) kind

end

/-! ### The decision -/

/-- The other kind of marker. -/
def MarkerKind.other : MarkerKind → MarkerKind
  | .summary => .question
  | .question => .summary

section

variable [TextLibrary]

/-- What the last valid marker of an output asks for. -/
def completeFromLastMarker (job : AgentJob) (output : List Char) (agentStatus : String) (stageTerminal : Bool) :
    Completion :=
  match lastMarker output (job.values.textOrEmpty .turnToken) with
  | some (.question, value) => askQuestion value
  | some (.summary, value) => finishWith job stageTerminal value
  | none => .blocked (missingSummary job agentStatus)

/-- The text of a marker of this kind stands behind every text of the other kind, whatever is around them. -/
def StandsLast (output : List Char) (token : String) (kind : MarkerKind) : Prop :=
  rfind (markerText kind.other token) output < rfind (markerText kind token) output

theorem askQuestion_ne_finishWith (job : AgentJob) (stageTerminal : Bool) (value summary : List Char) :
    askQuestion value ≠ finishWith job stageTerminal summary := by
  unfold askQuestion finishWith
  split <;> split_ifs <;> exact fun h ↦ nomatch h

theorem askQuestion_ne_blocked (value : List Char) (result : String) : askQuestion value ≠ .blocked result := by
  unfold askQuestion
  split <;> exact fun h ↦ nomatch h

omit [TextLibrary] in
theorem finishWith_ne_blocked (job : AgentJob) (stageTerminal : Bool) (value : List Char) (result : String) :
    finishWith job stageTerminal value ≠ .blocked result := by
  unfold finishWith
  split_ifs <;> exact fun h ↦ nomatch h

end

section

attribute [local instance] asciiTextLibrary

/-- The record of a job in a turn. -/
def turnRecord (token : String) : Values :=
  let spec : NewAgentJob :=
    { id := "0123456789ab", request := "Fix the parser", createdAt := 0, foregroundUntil := 0
      harnessKind := .cursor, details := Values.empty }
  spec.record.update [.put (.text .turnToken) (some token)]

/-- Whether a job is blocked. -/
def Completion.isBlocked : Completion → Bool
  | .blocked _ => true
  | _ => false

end

end VoiceHarness
