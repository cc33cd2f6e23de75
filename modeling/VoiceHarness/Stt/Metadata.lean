import VoiceHarness.Json

/-!
# The metadata of a retained delivery

The speech server keeps a delivery that the client wants replayed as a directory with the audio and
`delivery.json`. `_load_retained_delivery` is the only reader of that file. Its checks raise `OSError`
for the values they foresee, and Python's own exceptions for the rest, so the model keeps the two apart.
-/

set_option autoImplicit false
set_option relaxedAutoImplicit false

namespace VoiceHarness

theorem Dict.get?_set_self (mapping : Dict) (key : String) (value : Json) :
    (mapping.set key value).get? key = some value := by
  unfold Dict.set
  split_ifs with h
  · induction mapping with
    | nil => simp at h
    | cons entry mapping ih =>
      by_cases hkey : entry.1 = key
      · simp [Dict.get?, hkey]
      · have htail : mapping.any (fun entry ↦ entry.1 = key) = true := by simpa [hkey] using h
        have hrest := ih htail
        simpa [Dict.get?, hkey] using hrest
  · have hnone : mapping.find? (fun entry ↦ entry.1 = key) = none := by
      rw [List.find?_eq_none]
      intro entry hentry hkey
      exact h (List.any_eq_true.mpr ⟨entry, hentry, hkey⟩)
    simp [Dict.get?, List.find?_append, hnone]

namespace Stt

/-- `PROTOCOL_VERSION`. -/
def protocolVersion : ℤ := 2

/-- The states of a retained delivery. -/
inductive RetainedState
  | pending | ambiguous | terminal
  deriving DecidableEq, Repr

namespace RetainedState

def value : RetainedState → String
  | pending => "pending"
  | ambiguous => "ambiguous"
  | terminal => "terminal"

def ofValue? : String → Option RetainedState
  | "pending" => some pending
  | "ambiguous" => some ambiguous
  | "terminal" => some terminal
  | _ => none

@[simp] theorem ofValue?_value (state : RetainedState) : ofValue? state.value = some state := by
  cases state <;> rfl

theorem value_of_ofValue? {text : String} {state : RetainedState}
    (h : ofValue? text = some state) : text = state.value := by
  unfold ofValue? at h
  split at h <;> cases h <;> rfl

theorem value_injective {first second : RetainedState} (h : first.value = second.value) :
    first = second := by
  have hread := congrArg ofValue? h
  rw [ofValue?_value, ofValue?_value] at hread
  exact Option.some.inj hread

end RetainedState

/-- What reading the metadata raises: `confined` is an `OSError` or a `JSONDecodeError`, which the
callers of `_load_retained_delivery` expect; the others are not. -/
inductive LoadError
  | confined
  | unicodeDecode
  | tooManyDigits
  | recursion
  | unhashable
  | overflow
  deriving DecidableEq, Repr

/-- What `json.loads(metadata_path.read_text(encoding="utf-8"))` makes of the file. -/
inductive MetadataText
  | unreadable (error : LoadError)
  | value (content : Json)
  deriving DecidableEq, Repr

/-- `re.fullmatch(r"[0-9a-f]{32}", text)`. -/
def isDeliveryId (text : String) : Bool :=
  text.toList.length == 32 && text.toList.all fun c ↦
    ('0' ≤ c && c ≤ '9') || ('a' ≤ c && c ≤ 'f')

/-- `str(value)` where it can look like a delivery identifier: the text of any other value has a letter
outside the hexadecimal digits, a bracket or a sign. -/
def deliveryIdText : Option Json → String
  | some (.str text) => text
  | some (.int value) => toString value
  | _ => ""

/-- `value != PROTOCOL_VERSION`, where a float may equal the integer. -/
def isProtocolVersion : Option Json → Bool
  | some (.int value) => value == protocolVersion
  | some (.float value) => value == (protocolVersion : ℚ)
  | _ => false

/-- From this magnitude on `float(value)` raises `OverflowError` for an integer. -/
def floatOverflow : ℕ := 2 ^ 1024 - 2 ^ 970

/-- `float(value)` of an integer in range: the nearest number with 53 binary digits, the even one of two. -/
def toFloat (value : ℤ) : ℚ :=
  let dropped := value.natAbs.log2 - 52
  let kept := value.natAbs / 2 ^ dropped
  let rest := value.natAbs % 2 ^ dropped
  let rounded :=
    if 2 ^ dropped < 2 * rest ∨ (2 * rest = 2 ^ dropped ∧ kept % 2 = 1) then kept + 1 else kept
  value.sign * ((rounded * 2 ^ dropped : ℕ) : ℚ)

/-- The checks of `created_at`: its value as a float. -/
def createdAt : Option Json → Except LoadError ℚ
  | some (.int value) =>
    if floatOverflow ≤ value.natAbs then .error .overflow else .ok (toFloat value)
  | some (.float value) => .ok value
  | _ => .error .confined

/-- `value.get("state") not in {"pending", "ambiguous", "terminal"}`: a list or a dict has no hash. -/
def retainedState : Option Json → Except LoadError RetainedState
  | some (.str text) =>
    match RetainedState.ofValue? text with
    | some state => .ok state
    | none => .error .confined
  | some (.arr _) | some (.obj _) => .error .unhashable
  | _ => .error .confined

/-- What `_load_retained_delivery` returns: the metadata, with what its checks established. -/
structure Retained where
  metadata : Dict
  deliveryId : String
  state : RetainedState
  createdAt : ℚ
  deriving DecidableEq, Repr

/-- `text.startswith(start)`. -/
def startsWith (text start : String) : Bool := start.toList.isPrefixOf text.toList

/-- `isinstance(value, str)`. -/
def isStr : Option Json → Bool
  | some (.str _) => true
  | _ => false

/-- `isinstance(value, bool)`. -/
def isBool : Option Json → Bool
  | some (.bool _) => true
  | _ => false

/-- The metadata checks of `_load_retained_delivery` before the state: a hidden entry may have any
identifier, another one has that of its name. -/
def isOwnMetadata (name : String) (metadata : Dict) : Bool :=
  isProtocolVersion (metadata.get? "version") &&
  isDeliveryId (deliveryIdText (metadata.get? "delivery_id")) &&
  (startsWith name "." || metadata.get? "delivery_id" == some (.str name)) &&
  isStr (metadata.get? "text") &&
  isBool (metadata.get? "woke")

/-- The metadata checks of `_load_retained_delivery`, in their order. -/
def checkMetadata (name : String) (metadata : Dict) : Except LoadError Retained :=
  if isOwnMetadata name metadata then
    match retainedState (metadata.get? "state") with
    | .error error => .error error
    | .ok state =>
      match createdAt (metadata.get? "created_at") with
      | .error error => .error error
      | .ok created =>
        .ok { metadata
              deliveryId := deliveryIdText (metadata.get? "delivery_id")
              state
              createdAt := created }
  else .error .confined

/-- `_load_retained_delivery` on the metadata of the entry `name`. -/
def loadMetadata (name : String) : MetadataText → Except LoadError Retained
  | .unreadable error => .error error
  | .value (.obj metadata) => checkMetadata name metadata
  | .value _ => .error .confined

theorem retainedState_eq_ok_iff {value : Option Json} {state : RetainedState} :
    retainedState value = .ok state ↔ value = some (.str state.value) := by
  constructor
  · intro h
    unfold retainedState at h
    split at h
    · rename_i text
      split at h
      · rename_i found hfound
        cases h
        rw [RetainedState.value_of_ofValue? hfound]
      · cases h
    · cases h
    · cases h
    · cases h
  · rintro rfl
    simp [retainedState]

theorem checkMetadata_eq_ok_iff {name : String} {metadata : Dict} {retained : Retained} :
    checkMetadata name metadata = .ok retained ↔
      isOwnMetadata name metadata = true ∧ retained.metadata = metadata ∧
      retained.deliveryId = deliveryIdText (metadata.get? "delivery_id") ∧
      retainedState (metadata.get? "state") = .ok retained.state ∧
      createdAt (metadata.get? "created_at") = .ok retained.createdAt := by
  unfold checkMetadata
  by_cases hown : isOwnMetadata name metadata = true
  · rw [if_pos hown]
    cases hstate : retainedState (metadata.get? "state") with
    | error error => simp
    | ok state =>
      cases hcreated : createdAt (metadata.get? "created_at") with
      | error error => simp
      | ok created =>
        constructor
        · intro h
          cases h
          exact ⟨hown, rfl, rfl, rfl, rfl⟩
        · rintro ⟨-, rfl, hid, hread, hmade⟩
          cases hread
          cases hmade
          rw [← hid]
  · rw [if_neg hown]
    constructor
    · intro h
      cases h
    · intro h
      exact absurd h.1 hown

/-- What a load that succeeds has read. -/
theorem loadMetadata_eq_ok_iff {name : String} {text : MetadataText} {retained : Retained} :
    loadMetadata name text = .ok retained ↔
      text = .value (.obj retained.metadata) ∧
        checkMetadata name retained.metadata = .ok retained := by
  constructor
  · intro h
    unfold loadMetadata at h
    split at h
    · cases h
    · have hmetadata := (checkMetadata_eq_ok_iff.mp h).2.1
      rw [hmetadata]
      exact ⟨rfl, h⟩
    · cases h
  · rintro ⟨rfl, h⟩
    exact h

end Stt

end VoiceHarness
