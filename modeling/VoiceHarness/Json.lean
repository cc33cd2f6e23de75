import Mathlib.Algebra.Group.Int.Defs
import Mathlib.Algebra.GroupWithZero.Nat
import Mathlib.Algebra.Order.Ring.Unbundled.Rat
import Mathlib.Data.List.Infix
import Mathlib.Data.Rat.Defs

/-!
The values that payloads, outcomes and structured job fields hold: what `json.loads` returns. A
Python `dict` is a list of key and value pairs in insertion order; `int` and `float` are separate
because the code asks `isinstance(value, int)`. Timestamps are rationals, so the comparisons and
the sums of the code are exact.
-/

set_option autoImplicit false
set_option relaxedAutoImplicit false

namespace VoiceHarness

/-- A `time.time()` value in seconds. -/
abbrev Time := ℚ

inductive Json where
  | null
  | bool (value : Bool)
  | int (value : ℤ)
  | float (value : ℚ)
  | str (value : String)
  | arr (items : List Json)
  | obj (fields : List (String × Json))
  deriving Repr

/-- A Python `dict` with string keys. -/
abbrev Dict := List (String × Json)

namespace Dict

/-- `mapping.get(key)`. -/
def get? (mapping : Dict) (key : String) : Option Json :=
  (mapping.find? fun entry ↦ entry.1 = key).map Prod.snd

/-- `mapping[key] = value`: an existing key keeps its place. -/
def set (mapping : Dict) (key : String) (value : Json) : Dict :=
  if mapping.any fun entry ↦ entry.1 = key then
    mapping.map fun entry ↦ if entry.1 = key then (key, value) else entry
  else mapping ++ [(key, value)]

/-- `{**mapping, **other}`. -/
def merge (mapping other : Dict) : Dict :=
  other.foldl (fun result entry ↦ result.set entry.1 entry.2) mapping

end Dict

namespace Json

/-- `isinstance(value, int) and not isinstance(value, bool)`. -/
def asInt? : Json → Option ℤ
  | .int value => some value
  | _ => none

/-- `value if isinstance(value, dict) else {}`. -/
def asDict : Json → Dict
  | .obj fields => fields
  | _ => []

/-! ### Equality -/

mutual

/-- `left == right`. -/
def beq : Json → Json → Bool
  | null, null => true
  | bool left, bool right => left == right
  | int left, int right => left == right
  | float left, float right => left == right
  | str left, str right => left == right
  | arr left, arr right => beqItems left right
  | obj left, obj right => beqFields left right
  | _, _ => false

def beqItems : List Json → List Json → Bool
  | [], [] => true
  | left :: lefts, right :: rights => beq left right && beqItems lefts rights
  | _, _ => false

def beqFields : List (String × Json) → List (String × Json) → Bool
  | [], [] => true
  | (leftKey, left) :: lefts, (rightKey, right) :: rights =>
    leftKey == rightKey && beq left right && beqFields lefts rights
  | _, _ => false

end

mutual

theorem beq_iff : ∀ left right : Json, beq left right = true ↔ left = right
  | null, right => by cases right <;> simp [beq]
  | bool left, right => by cases right <;> simp [beq]
  | int left, right => by cases right <;> simp [beq]
  | float left, right => by cases right <;> simp [beq]
  | str left, right => by cases right <;> simp [beq]
  | arr left, right => by
    cases right with
    | arr right => simp [beq, beqItems_iff left right]
    | _ => simp [beq]
  | obj left, right => by
    cases right with
    | obj right => simp [beq, beqFields_iff left right]
    | _ => simp [beq]

theorem beqItems_iff : ∀ left right : List Json, beqItems left right = true ↔ left = right
  | [], right => by cases right <;> simp [beqItems]
  | left :: lefts, right => by
    cases right with
    | nil => simp [beqItems]
    | cons right rights => simp [beqItems, beq_iff left right, beqItems_iff lefts rights]

theorem beqFields_iff : ∀ left right : List (String × Json),
    beqFields left right = true ↔ left = right
  | [], right => by cases right <;> simp [beqFields]
  | (key, left) :: lefts, right => by
    cases right with
    | nil => simp [beqFields]
    | cons right rights =>
      obtain ⟨other, right⟩ := right
      simp [beqFields, beq_iff left right, beqFields_iff lefts rights, and_assoc]

end

instance : DecidableEq Json := fun left right ↦ decidable_of_iff _ (beq_iff left right)

end Json

end VoiceHarness
