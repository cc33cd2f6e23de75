import VoiceHarness.Llm.Stream

/-!
# Assembled tool calls

The tool calls of a message are those of the indexes in ascending order, each with its pieces in the order in
which they came.
-/

set_option autoImplicit false
set_option relaxedAutoImplicit false

namespace VoiceHarness.Llm

/-! ### The calls of a list of pieces -/

/-- The pieces of the call with this index. -/
def piecesOf (index : ℤ) (deltas : List ToolDelta) : List ToolDelta :=
  deltas.filter fun delta ↦ delta.index = index

/-- The call that its pieces make: id, name and arguments are put together, the last type counts. -/
def assembledCall (index : ℤ) (deltas : List ToolDelta) : ToolCall where
  id := (piecesOf index deltas).flatMap fun delta ↦ delta.id.getD []
  type := (((piecesOf index deltas).filterMap ToolDelta.type).getLast?).getD "function".toList
  name := (piecesOf index deltas).flatMap fun delta ↦ delta.name.getD []
  arguments := (piecesOf index deltas).flatMap fun delta ↦ delta.arguments.getD []

/-- The calls of all indexes, in ascending order. -/
def assembledCalls (deltas : List ToolDelta) : List ToolCall :=
  ((deltas.map ToolDelta.index).toFinset.sort (· ≤ ·)).map fun index ↦ assembledCall index deltas

/-! ### The dictionary of the loop -/

/-- The dictionary has one entry for each index, with the call that the pieces so far make. -/
structure Holds (deltas : List ToolDelta) (calls : ToolCalls) : Prop where
  nodup : (calls.map Prod.fst).Nodup
  indexes : ∀ index, index ∈ calls.map Prod.fst ↔ index ∈ deltas.map ToolDelta.index
  call : ∀ entry ∈ calls, entry.2 = assembledCall entry.1 deltas

theorem piecesOf_append_self (deltas : List ToolDelta) (delta : ToolDelta) :
    piecesOf delta.index (deltas ++ [delta]) = piecesOf delta.index deltas ++ [delta] := by
  simp [piecesOf]

theorem piecesOf_append_of_ne {index : ℤ} {delta : ToolDelta} (h : delta.index ≠ index)
    (deltas : List ToolDelta) : piecesOf index (deltas ++ [delta]) = piecesOf index deltas := by
  simp [piecesOf, h]

/-- A piece extends the call of its index. -/
theorem assembledCall_append_self (deltas : List ToolDelta) (delta : ToolDelta) :
    assembledCall delta.index (deltas ++ [delta]) =
      (assembledCall delta.index deltas).extend delta := by
  unfold assembledCall ToolCall.extend
  rw [piecesOf_append_self]
  cases htype : delta.type with
  | none => simp [htype]
  | some type => simp [htype]

theorem assembledCall_append_of_ne {index : ℤ} {delta : ToolDelta} (h : delta.index ≠ index)
    (deltas : List ToolDelta) :
    assembledCall index (deltas ++ [delta]) = assembledCall index deltas := by
  unfold assembledCall
  rw [piecesOf_append_of_ne h]

theorem assembledCall_of_notMem {index : ℤ} {deltas : List ToolDelta}
    (h : index ∉ deltas.map ToolDelta.index) : assembledCall index deltas = ToolCall.new := by
  have hnil : piecesOf index deltas = [] := by
    rw [piecesOf, List.filter_eq_nil_iff]
    intro delta hdelta heq
    exact h (List.mem_map.mpr ⟨delta, hdelta, by simpa using heq⟩)
  unfold assembledCall
  rw [hnil]
  rfl

theorem holds_nil : Holds [] [] where
  nodup := List.nodup_nil
  indexes _ := Iff.rfl
  call _ h := absurd h List.not_mem_nil

/-- A piece of a call goes into the entry of its index. -/
theorem Holds.extendCalls {deltas : List ToolDelta} {calls : ToolCalls} (h : Holds deltas calls)
    (delta : ToolDelta) : Holds (deltas ++ [delta]) (extendCalls calls delta) := by
  have hadded : ∀ index, index ∈ (deltas ++ [delta]).map ToolDelta.index ↔
      index ∈ deltas.map ToolDelta.index ∨ index = delta.index := by simp
  unfold Llm.extendCalls
  split_ifs with hany
  · obtain ⟨known, hknown, hindex⟩ := List.any_eq_true.mp hany
    have hmem : delta.index ∈ calls.map Prod.fst :=
      List.mem_map.mpr ⟨known, hknown, by simpa using hindex⟩
    have hkeys : (calls.map fun entry ↦ if entry.1 = delta.index then (entry.1, entry.2.extend delta)
        else entry).map Prod.fst = calls.map Prod.fst := by
      rw [List.map_map]
      refine List.map_congr_left fun entry _ ↦ ?_
      by_cases hentry : entry.1 = delta.index <;> simp [hentry]
    refine ⟨hkeys ▸ h.nodup, fun index ↦ ?_, fun entry hentry ↦ ?_⟩
    · rw [hkeys, hadded, h.indexes]
      constructor
      · exact .inl
      · rintro (hold | rfl)
        · exact hold
        · exact (h.indexes _).mp hmem
    · obtain ⟨old, hold, rfl⟩ := List.mem_map.mp hentry
      by_cases hentry : old.1 = delta.index
      · rw [if_pos hentry]
        show old.2.extend delta = assembledCall old.1 (deltas ++ [delta])
        rw [hentry, assembledCall_append_self, ← hentry, ← h.call old hold]
      · rw [if_neg hentry, assembledCall_append_of_ne fun heq ↦ hentry heq.symm]
        exact h.call old hold
  · have hnew : delta.index ∉ calls.map Prod.fst := by
      intro hmem
      obtain ⟨known, hknown, hindex⟩ := List.mem_map.mp hmem
      exact hany (List.any_eq_true.mpr ⟨known, hknown, by simpa using hindex⟩)
    refine ⟨?_, fun index ↦ ?_, fun entry hentry ↦ ?_⟩
    · rw [List.map_append, List.nodup_append]
      refine ⟨h.nodup, List.nodup_singleton _, fun first hfirst second hsecond heq ↦ hnew ?_⟩
      obtain rfl := List.mem_singleton.mp hsecond
      rw [heq] at hfirst
      exact hfirst
    · rw [hadded, List.map_append, List.mem_append, h.indexes]
      simp
    · rcases List.mem_append.mp hentry with hold | hlast
      · have hne : delta.index ≠ entry.1 := fun heq ↦
          hnew (heq ▸ List.mem_map.mpr ⟨entry, hold, rfl⟩)
        rw [assembledCall_append_of_ne hne]
        exact h.call entry hold
      · obtain rfl := List.mem_singleton.mp hlast
        show ToolCall.new.extend delta = assembledCall delta.index (deltas ++ [delta])
        rw [assembledCall_append_self,
          assembledCall_of_notMem fun hmem ↦ hnew ((h.indexes _).mpr hmem)]

theorem Holds.foldl {deltas : List ToolDelta} {calls : ToolCalls} (h : Holds deltas calls)
    (more : List ToolDelta) : Holds (deltas ++ more) (more.foldl Llm.extendCalls calls) := by
  induction more generalizing deltas calls with
  | nil =>
    rw [List.append_nil]
    exact h
  | cons delta more ih =>
    have hnext := ih (h.extendCalls delta)
    rw [List.append_assoc, List.singleton_append] at hnext
    exact hnext

/-- The message has the calls of all pieces in the order of their indexes. -/
theorem Holds.sortedCalls_eq {deltas : List ToolDelta} {calls : ToolCalls} (h : Holds deltas calls) :
    sortedCalls calls = assembledCalls deltas := by
  have hkeys : (calls.map Prod.fst).mergeSort (fun first second ↦ decide (first ≤ second)) =
      (deltas.map ToolDelta.index).toFinset.sort (· ≤ ·) := by
    have hperm := List.mergeSort_perm (calls.map Prod.fst) fun first second ↦ decide (first ≤ second)
    have hset : (deltas.map ToolDelta.index).toFinset =
        ((calls.map Prod.fst).mergeSort fun first second ↦ decide (first ≤ second)).toFinset := by
      ext index
      rw [List.mem_toFinset, List.mem_toFinset, hperm.mem_iff, h.indexes]
    rw [hset]
    refine ((List.toFinset_sort (· ≤ ·) (hperm.nodup_iff.mpr h.nodup)).mpr ?_).symm
    exact List.pairwise_mergeSort' (· ≤ ·) _
  have hfound : ∀ index ∈ (deltas.map ToolDelta.index).toFinset.sort (· ≤ ·),
      (calls.find? fun entry ↦ entry.1 = index).map Prod.snd = some (assembledCall index deltas) := by
    intro index hindex
    have hmem : index ∈ calls.map Prod.fst := by
      rw [h.indexes, ← List.mem_toFinset]
      exact (Finset.mem_sort (· ≤ ·)).mp hindex
    obtain ⟨known, hknown, hkey⟩ := List.mem_map.mp hmem
    rcases hentry : calls.find? fun entry ↦ entry.1 = index with _ | entry
    · exact absurd hkey (by simpa using List.find?_eq_none.mp hentry known hknown)
    · have heq : entry.1 = index := by simpa using List.find?_some hentry
      rw [hentry, Option.map_some, h.call entry (List.mem_of_find?_eq_some hentry), heq]
  unfold sortedCalls assembledCalls
  rw [hkeys]
  calc
    _ = ((deltas.map ToolDelta.index).toFinset.sort (· ≤ ·)).filterMap
        fun index ↦ some (assembledCall index deltas) := List.filterMap_congr hfound
    _ = _ := congrFun List.filterMap_eq_map' _

end VoiceHarness.Llm
