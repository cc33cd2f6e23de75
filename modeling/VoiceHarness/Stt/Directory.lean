import VoiceHarness.Library.Rows
import VoiceHarness.Library.Schedule
import VoiceHarness.Stt.Metadata

/-!
# Retained roots

The directories of the retained deliveries, and the releases that work in them. A release renames its
delivery to a name with the prefix `.released-` and then removes it file by file.
-/

set_option autoImplicit false
set_option relaxedAutoImplicit false

namespace VoiceHarness.Stt

open Library

/-! ### Directories -/

/-- The owner and the permission bits of a file. -/
structure Stat where
  owned : Bool
  mode : ℕ
  deriving DecidableEq, Repr

namespace Stat

/-- `st_uid == os.getuid() and not st_mode & 0o077`. -/
def isPrivate (stat : Stat) : Bool := stat.owned && stat.mode &&& 0o077 == 0

/-- The owner may look names up. -/
def canSearch (stat : Stat) : Bool := stat.mode &&& 0o100 != 0

/-- The owner may list the directory. -/
def canList (stat : Stat) : Bool := stat.mode &&& 0o400 != 0

/-- The owner may remove names. -/
def canRemove (stat : Stat) : Bool := stat.mode &&& 0o300 == 0o300

end Stat

/-- A file in a delivery; `text` is what reading it as metadata gives. -/
structure DeliveryFile where
  isRegular : Bool
  stat : Stat
  text : MetadataText
  deriving DecidableEq, Repr

/-- An entry of a retained root: a directory, or anything else. -/
inductive Node
  | directory (stat : Stat) (children : List (String × DeliveryFile))
  | other
  deriving DecidableEq, Repr

/-- A retained root; `isPrivate` is whether `_prepare_private_directory` accepts it. -/
structure Root where
  isPrivate : Bool
  entries : List (String × Node)
  deriving DecidableEq, Repr

/-- `RETAINED_METADATA`. -/
def retainedMetadata : String := "delivery.json"

/-- `RETAINED_AUDIO`. -/
def retainedAudio : String := "audio.wav"

/-- `RELEASED_RETAINED_PREFIX`. -/
def releasedRetainedPrefix : String := ".released-"

/-- The file of that name. -/
def findFile (children : List (String × DeliveryFile)) (name : String) : Option DeliveryFile :=
  (findRow Prod.fst children name).map Prod.snd

/-- `_load_retained_delivery` of the entry `name`: an entry that is gone, that is no directory or that
lacks a file raises `OSError`. The four calls look at one path, which a release takes away at once, so they
are one step. -/
def loadRetainedDelivery (name : String) : Option Node → Except LoadError Retained
  | some (.directory stat children) =>
    match findFile children retainedMetadata, findFile children retainedAudio with
    | some metadata, some audio =>
      if stat.canSearch && metadata.isRegular && audio.isRegular && stat.isPrivate &&
          metadata.stat.isPrivate && audio.stat.isPrivate then
        loadMetadata name metadata.text
      else .error .confined
    | _, _ => .error .confined
  | _ => .error .confined

namespace Root

/-- The entry of that name. -/
def find (root : Root) (name : String) : Option Node :=
  (findRow Prod.fst root.entries name).map Prod.snd

/-- The root without an entry. -/
def remove (root : Root) (name : String) : Root :=
  { root with entries := discard Prod.fst root.entries name }

/-- The root with an entry. -/
def put (root : Root) (name : String) (node : Node) : Root :=
  { root with entries := upsert Prod.fst root.entries (name, node) }

/-- `path.rename(destination)` for a destination that does not exist. -/
def rename (root : Root) (name destination : String) : Root :=
  match root.find name with
  | none => root
  | some node => (root.remove name).put destination node

/-- `child.unlink()`. -/
def unlink (root : Root) (name child : String) : Root :=
  match root.find name with
  | some (.directory stat children) =>
    root.put name (.directory stat (discard Prod.fst children child))
  | _ => root

/-- `sorted(root.iterdir())`. -/
def listing (root : Root) : List String :=
  (root.entries.map Prod.fst).mergeSort fun first second ↦ decide (first ≤ second)

@[simp] theorem find_remove_of_ne (root : Root) {name other : String} (h : other ≠ name) :
    (root.remove name).find other = root.find other :=
  congrArg (Option.map Prod.snd) (findRow_discard_of_ne h)

@[simp] theorem find_put_of_ne (root : Root) {name other : String} (node : Node)
    (h : other ≠ name) : (root.put name node).find other = root.find other := by
  have hrow : other ≠ Prod.fst (name, node) := h
  exact congrArg (Option.map Prod.snd) (findRow_upsert_of_ne hrow)

theorem find_rename_of_ne (root : Root) {name destination other : String} (hname : other ≠ name)
    (hdestination : other ≠ destination) :
    (root.rename name destination).find other = root.find other := by
  unfold rename
  cases root.find name with
  | none => rfl
  | some node => rw [find_put_of_ne _ node hdestination, find_remove_of_ne _ hname]

theorem find_unlink_of_ne (root : Root) {name other : String} (child : String)
    (h : other ≠ name) : (root.unlink name child).find other = root.find other := by
  unfold unlink
  split
  · rw [find_put_of_ne _ _ h]
  · rfl

theorem mem_listing {root : Root} {name : String} {node : Node} (h : root.find name = some node) :
    name ∈ root.listing := by
  unfold find at h
  obtain ⟨row, hrow, -⟩ := Option.map_eq_some_iff.mp h
  obtain ⟨hmem, hname⟩ := mem_of_findRow hrow
  unfold listing
  rw [List.mem_mergeSort]
  exact List.mem_map.mpr ⟨row, hmem, hname⟩

end Root

/-! ### Releases -/

/-- A system call of `_release_retained_delivery` in one of the roots. -/
inductive ReleaseCall
  | rename (root : ℕ) (deliveryId token : String)
  | unlink (root : ℕ) (name child : String)
  | rmdir (root : ℕ) (name : String)
  deriving DecidableEq, Repr

/-- The name that a release gives its delivery. -/
def releasedName (deliveryId token : String) : String :=
  releasedRetainedPrefix ++ deliveryId ++ "-" ++ token

/-- The retained roots, where a root may be missing. -/
abbrev Roots := List (Option Root)

/-- The roots with one of them changed. -/
def Roots.update (roots : Roots) (index : ℕ) (change : Root → Root) : Roots :=
  List.modify roots index (Option.map change)

/-- The entry of that name in one of the roots. -/
def Roots.find (roots : Roots) (index : ℕ) (name : String) : Option Node :=
  roots[index]?.join.bind fun root ↦ root.find name

/-- A change that leaves an entry of its root alone. -/
theorem Roots.find_update {roots : Roots} {changed index : ℕ} {change : Root → Root} {name : String}
    (h : changed = index → ∀ root, (change root).find name = root.find name) :
    (roots.update changed change).find index name = roots.find index name := by
  unfold find update
  rw [List.getElem?_modify]
  cases roots[index]? with
  | none => rfl
  | some found =>
    cases found with
    | none =>
      by_cases hindex : changed = index
      · simp [hindex]
      · simp [hindex]
    | some root =>
      by_cases hindex : changed = index
      · simpa [hindex] using h hindex root
      · simp [hindex]

/-- A call of a release: it renames a delivery, and removes only what has been renamed. -/
def ReleaseCall.apply (roots : Roots) : ReleaseCall → Roots
  | rename index deliveryId token =>
    if isDeliveryId deliveryId then
      roots.update index fun root ↦ root.rename deliveryId (releasedName deliveryId token)
    else roots
  | unlink index name child =>
    if startsWith name releasedRetainedPrefix then
      roots.update index fun root ↦ root.unlink name child
    else roots
  | rmdir index name =>
    if startsWith name releasedRetainedPrefix then
      roots.update index fun root ↦
        match root.find name with
        | some (.directory _ []) => root.remove name
        | _ => root
    else roots

theorem startsWith_of_startsWith {text start shorter : String} (h : startsWith text start = true)
    (hshorter : startsWith start shorter = true) : startsWith text shorter = true := by
  unfold startsWith at *
  rw [List.isPrefixOf_iff_prefix] at *
  exact List.IsPrefix.trans hshorter h

theorem startsWith_releasedName (deliveryId token : String) :
    startsWith (releasedName deliveryId token) "." = true := by
  have hreleased : startsWith (releasedName deliveryId token) releasedRetainedPrefix = true := by
    unfold startsWith releasedName
    rw [List.isPrefixOf_iff_prefix, String.append_assoc, String.append_assoc,
      String.toList_append]
    exact List.prefix_append _ _
  exact startsWith_of_startsWith hreleased (by decide)

theorem ne_of_startsWith {name hidden : String} (hname : startsWith name "." = false)
    (hhidden : startsWith hidden "." = true) : name ≠ hidden := by
  rintro rfl
  rw [hname] at hhidden
  cases hhidden

theorem hidden_of_released {name : String} (h : startsWith name releasedRetainedPrefix = true) :
    startsWith name "." = true :=
  startsWith_of_startsWith h (by decide)

/-- A release leaves the deliveries alone that it does not rename. -/
theorem ReleaseCall.find_apply {roots : Roots} {call : ReleaseCall} {index : ℕ} {name : String}
    (hvisible : startsWith name "." = false)
    (hother : ∀ token, call ≠ .rename index name token) :
    (call.apply roots).find index name = roots.find index name := by
  cases call with
  | rename changed deliveryId token =>
    simp only [apply]
    split_ifs
    · refine Roots.find_update fun hindex root ↦ root.find_rename_of_ne ?_
        (ne_of_startsWith hvisible (startsWith_releasedName _ _))
      rintro rfl
      exact hother token (by rw [hindex])
    · rfl
  | unlink changed hidden child =>
    simp only [apply]
    split_ifs with hreleased
    · exact Roots.find_update fun _ root ↦ root.find_unlink_of_ne child
        (ne_of_startsWith hvisible (hidden_of_released hreleased))
    · rfl
  | rmdir changed hidden =>
    simp only [apply]
    split_ifs with hreleased
    · refine Roots.find_update fun _ root ↦ ?_
      split
      · exact root.find_remove_of_ne (ne_of_startsWith hvisible (hidden_of_released hreleased))
      · rfl
    · rfl

end VoiceHarness.Stt
