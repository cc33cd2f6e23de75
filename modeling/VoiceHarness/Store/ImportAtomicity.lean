import VoiceHarness.Store.ImportRuns

/-!
# Atomicity of an import

The loop of an import over its sources, one source at a time: a source leaves the rows of the other
jobs alone, so what the loop decides about a source and what is left of it depend on that source and
on the store before the import only.
-/

set_option autoImplicit false
set_option relaxedAutoImplicit false

namespace VoiceHarness

open Library

section

variable [TextLibrary] {files : ImportFiles} {cutoverComplete : Bool} {failed : List String}

/-! ### One source -/

/-- What the loop decides about a source depends on the rows of its job. -/
theorem importDecision_congr {source : ImportSource} {first second : Database}
    (h : first.SameRows second source.stem) :
    importDecision files cutoverComplete failed second source =
      importDecision files cutoverComplete failed first source := by
  unfold importDecision
  rcases hcandidate : source.candidate with message | candidate
  · rfl
  · obtain ⟨-, hid⟩ := ImportSource.candidate_ok hcandidate
    have hstored : second.storedJob candidate.id = first.storedJob candidate.id := by
      unfold Database.storedJob
      rw [hid, h.loadJob_eq]
    simp only [Except.mapError, bind, Except.bind, hstored]

/-- The stored job has the revision of the record that is read. -/
theorem revision_storedJob {database : Database} {jobId : String} {raw : Values}
    {stored : Option AgentJob} (hraw : database.loadJob jobId = .ok raw)
    (h : database.storedJob jobId = .ok stored) :
    ∃ current, stored = some current ∧ current.values.revision = raw.revision := by
  unfold Database.storedJob at h
  rw [hraw] at h
  rcases hread : AgentJob.fromDict raw with message | current
  · simp only [hread, Except.mapError, Except.map] at h
    cases h
  · simp only [hread, Except.mapError, Except.map] at h
    cases h
    obtain ⟨values, hcanonical, hvalues⟩ := AgentJob.fromDict_ok hread
    refine ⟨current, rfl, ?_⟩
    unfold Values.revision Values.count Values.int
    rw [hvalues, Values.get_of_agreeOff (Values.agreeOff_canonicalise hcanonical) (by decide)]

/-- A candidate that is to be saved is of a higher revision than the stored job. -/
theorem importDecision_save {source : ImportSource} {database : Database} {candidate : AgentJob}
    (h : importDecision files cutoverComplete failed database source = .ok (some candidate)) :
    source.candidate = .ok candidate ∧
      ∀ raw, database.loadJob source.stem = .ok raw →
        raw.revision < candidate.values.revision := by
  unfold importDecision at h
  rcases hcandidate : source.candidate with message | read
  · rw [hcandidate] at h
    cases h
  · obtain ⟨-, hid⟩ := ImportSource.candidate_ok hcandidate
    rw [hcandidate] at h
    simp only [Except.mapError, bind, Except.bind] at h
    rcases hstored : database.storedJob read.id with error | _ | current
    · simp only [hstored] at h
      cases h
    · simp only [hstored] at h
      rcases hcheck : files.check failed read none with message | _
      · rw [hcheck] at h
        cases h
      · rw [hcheck] at h
        cases h
        refine ⟨rfl, fun raw hraw ↦ ?_⟩
        rw [hid] at hstored
        obtain ⟨current, hnone, -⟩ := revision_storedJob hraw hstored
        exact absurd hnone (by simp)
    · simp only [hstored] at h
      rw [hid] at hstored
      split_ifs at h with hlineage hcutover hsame hlower hequal hsame
      · cases h
      · cases h
      · cases h
      · rcases hcheck : files.check failed read (some current) with message | _
        · rw [hcheck] at h
          cases h
        · rw [hcheck] at h
          cases h
          refine ⟨rfl, fun raw hraw ↦ ?_⟩
          obtain ⟨stored, hsome, hrevision⟩ := revision_storedJob hraw hstored
          cases hsome
          rw [← hrevision]
          omega

theorem importSource_apply (source : ImportSource) (database : Database) :
    importSource files cutoverComplete failed source database =
      match importDecision files cutoverComplete failed database source with
      | .ok none => .ok ⟨⟩ database
      | .ok (some candidate) => saveImported candidate database
      | .error error => .error error database := by
  unfold importSource
  rw [bind_apply, get_apply]
  simp only [bind_apply]
  rcases importDecision files cutoverComplete failed database source with error | _ | candidate <;>
    rfl

/-- A source leaves the rows of every other job. -/
theorem sameRows_importSource {source : ImportSource} {database : Database} {other : String}
    (h : other ≠ source.stem) :
    (∀ result next, importSource files cutoverComplete failed source database = .ok result next →
        database.SameRows next other) ∧
      ∀ error next, importSource files cutoverComplete failed source database = .error error next →
        database.SameRows next other := by
  rw [importSource_apply]
  rcases hdecision : importDecision files cutoverComplete failed database source with
    error | _ | candidate
  · constructor
    · intro result next hrun
      cases hrun
    · intro raised next hrun
      cases hrun
      exact .refl _ _
  · constructor
    · intro result next hrun
      cases hrun
      exact .refl _ _
    · intro raised next hrun
      cases hrun
  · obtain ⟨hdurable, hid⟩ := ImportSource.candidate_ok (importDecision_save hdecision).1
    exact AgentJob.sameRows_saveImported hdurable (hid ▸ h)

/-! ### The loop -/

theorem importLoop_cons (source : ImportSource) (sources : List ImportSource)
    (lists : ImportLists) (database : Database) :
    importLoop files cutoverComplete (source :: sources) lists database =
      match importSource files cutoverComplete lists.failedSources source database with
      | .ok _ next =>
        importLoop files cutoverComplete sources
          { lists with archived := lists.archived ++ [source.stem] } next
      | .error error next =>
        if error.isCaught then
          importLoop files cutoverComplete sources
            { lists with failedSources := lists.failedSources ++ [source.stem] } next
        else .error error next := by
  rw [importLoop, bind_apply]
  unfold attempt
  rcases importSource files cutoverComplete lists.failedSources source database with
    ⟨result, next⟩ | ⟨error, next⟩
  · rfl
  · simp only
    split_ifs <;> rfl

/-- A run of the loop that ends archives or moves aside each of its sources, and leaves the rows of
every other job. -/
theorem importLoop_lists {sources : List ImportSource} {lists final : ImportLists}
    {database after : Database}
    (hrun : importLoop files cutoverComplete sources lists database = .ok final after) :
    (∃ imported aside, final.archived = lists.archived ++ imported ∧
      final.failedSources = lists.failedSources ++ aside ∧
      (imported ++ aside).Perm (sources.map (·.stem))) ∧
    ∀ other, other ∉ sources.map (·.stem) → database.SameRows after other := by
  induction sources generalizing lists database with
  | nil =>
    cases hrun
    exact ⟨⟨[], [], by simp, by simp, List.Perm.nil⟩, fun other _ ↦ .refl _ _⟩
  | cons source sources ih =>
    rw [importLoop_cons] at hrun
    rcases hsource : importSource files cutoverComplete lists.failedSources source database with
      ⟨result, next⟩ | ⟨error, next⟩
    · simp only [hsource] at hrun
      obtain ⟨⟨imported, aside, harchived, hfailed, hperm⟩, hrows⟩ := ih hrun
      refine ⟨⟨source.stem :: imported, aside, ?_, hfailed, ?_⟩, fun other hother ↦ ?_⟩
      · rw [harchived]
        simp
      · exact hperm.cons source.stem
      · rw [List.map_cons, List.mem_cons, not_or] at hother
        exact ((sameRows_importSource hother.1).1 result next hsource).trans
          (hrows other hother.2)
    · simp only [hsource] at hrun
      split_ifs at hrun with hcaught
      obtain ⟨⟨imported, aside, harchived, hfailed, hperm⟩, hrows⟩ := ih hrun
      refine ⟨⟨imported, source.stem :: aside, harchived, ?_, ?_⟩, fun other hother ↦ ?_⟩
      · rw [hfailed]
        simp
      · exact List.perm_middle.trans (hperm.cons source.stem)
      · rw [List.map_cons, List.mem_cons, not_or] at hother
        exact ((sameRows_importSource hother.1).2 error next hsource).trans
          (hrows other hother.2)

/-- The candidates that the loop saves, decided on the store before it. -/
def importSaves (files : ImportFiles) (cutoverComplete : Bool) (database : Database) :
    List String → List ImportSource → List AgentJob
  | _, [] => []
  | failed, source :: sources =>
    match importDecision files cutoverComplete failed database source with
    | .ok none => importSaves files cutoverComplete database failed sources
    | .ok (some candidate) =>
      candidate :: importSaves files cutoverComplete database failed sources
    | .error _ =>
      importSaves files cutoverComplete database (failed ++ [source.stem]) sources

theorem importSaves_congr {sources : List ImportSource} {first second : Database}
    (h : ∀ source ∈ sources, first.SameRows second source.stem) (failed : List String) :
    importSaves files cutoverComplete second failed sources =
      importSaves files cutoverComplete first failed sources := by
  induction sources generalizing failed with
  | nil => rfl
  | cons source sources ih =>
    have hrest := ih fun other hother ↦ h other (List.mem_cons_of_mem _ hother)
    unfold importSaves
    rw [importDecision_congr (h source List.mem_cons_self)]
    simp only [hrest]

theorem sublist_importSaves (database : Database) (failed : List String)
    (sources : List ImportSource) :
    ((importSaves files cutoverComplete database failed sources).map (·.id)).Sublist
      (sources.map (·.stem)) := by
  induction sources generalizing failed with
  | nil => exact List.Sublist.refl _
  | cons source sources ih =>
    unfold importSaves
    rcases hdecision : importDecision files cutoverComplete failed database source with
      error | _ | candidate
    · exact (ih _).cons _
    · exact (ih _).cons _
    · obtain ⟨-, hid⟩ := ImportSource.candidate_ok (importDecision_save hdecision).1
      rw [List.map_cons, List.map_cons, hid]
      exact (ih _).cons_cons _

theorem nodup_importSaves {source : ImportSource} {sources : List ImportSource}
    {candidate : AgentJob} {database : Database} (hhead : source.stem ∉ sources.map (·.stem))
    (hnodup : (sources.map (·.stem)).Nodup) (hid : candidate.id = source.stem) :
    ((candidate :: importSaves files cutoverComplete database failed sources).map (·.id)).Nodup := by
  rw [List.map_cons, List.nodup_cons, hid]
  have hsublist : ((importSaves files cutoverComplete database failed sources).map (·.id)).Sublist
      (sources.map (·.stem)) := sublist_importSaves database failed sources
  exact ⟨fun hmem ↦ hhead (hsublist.subset hmem), hnodup.sublist hsublist⟩

theorem savesApart_nil (database : Database) : SavesApart database [] where
  storable _ h := absurd h List.not_mem_nil
  apart := List.Pairwise.nil
  unclaimed _ _ _ h := absurd h.symm (by simp)

/-- A run of the loop leaves no trace of a source it moves aside exactly when the candidates can be
saved one after the other. -/
theorem importLoop_failed_iff {sources : List ImportSource} {lists final : ImportLists}
    {database after : Database} (hstems : (sources.map (·.stem)).Nodup)
    (hlists : ∀ source ∈ sources, source.stem ∉ lists.failedSources)
    (hrun : importLoop files cutoverComplete sources lists database = .ok final after) :
    (∀ source ∈ sources, source.stem ∈ final.failedSources →
        database.SameRows after source.stem) ↔
      SavesApart database
        (importSaves files cutoverComplete database lists.failedSources sources) := by
  induction sources generalizing lists database with
  | nil =>
    refine ⟨fun _ ↦ savesApart_nil database, fun _ source hsource ↦ ?_⟩
    exact absurd hsource List.not_mem_nil
  | cons source sources ih =>
    rw [List.map_cons, List.nodup_cons] at hstems
    obtain ⟨hhead, hnodup⟩ := hstems
    have hothers : ∀ other ∈ sources, other.stem ≠ source.stem :=
      fun other hother heq ↦ hhead (heq ▸ List.mem_map_of_mem hother)
    have hrest : ∀ other ∈ sources, other.stem ∉ lists.failedSources :=
      fun other hother ↦ hlists other (List.mem_cons_of_mem _ hother)
    have haside : ∀ other ∈ sources, other.stem ∉ lists.failedSources ++ [source.stem] := by
      intro other hother hmem
      rcases List.mem_append.mp hmem with hmem | hmem
      · exact hrest other hother hmem
      · exact hothers other hother (List.mem_singleton.mp hmem)
    rw [importLoop_cons, importSource_apply] at hrun
    rw [List.forall_mem_cons]
    unfold importSaves
    rcases hdecision : importDecision files cutoverComplete lists.failedSources database source with
      error | _ | candidate
    · simp only [hdecision] at hrun ⊢
      split_ifs at hrun with hcaught
      rw [← ih hnodup haside hrun]
      have hframe := (importLoop_lists hrun).2 source.stem hhead
      exact and_iff_right fun _ ↦ hframe
    · simp only [hdecision] at hrun ⊢
      rw [← ih hnodup (by exact hrest) hrun]
      have hframe := (importLoop_lists hrun).2 source.stem hhead
      exact and_iff_right fun _ ↦ hframe
    · obtain ⟨hcandidate, hrevision⟩ := importDecision_save hdecision
      obtain ⟨hdurable, hid⟩ := ImportSource.candidate_ok hcandidate
      simp only [hdecision] at hrun ⊢
      rw [savesApart_cons_iff (nodup_importSaves hhead hnodup hid)]
      rcases hsave : saveImported candidate database with ⟨result, next⟩ | ⟨error, next⟩
      · simp only [hsave] at hrun
        obtain ⟨haccepts, hnext⟩ := (AgentJob.saveImported_eq_ok_iff hdurable).mp hsave
        have hframe : ∀ other ∈ sources, database.SameRows next other.stem :=
          fun other hother ↦ (AgentJob.sameRows_saveImported hdurable
            (hid ▸ hothers other hother)).1 result next hsave
        have hrec := ih hnodup (by exact hrest) hrun
        rw [importSaves_congr hframe] at hrec
        rw [← hnext, ← hrec]
        obtain ⟨⟨imported, aside, -, hfailed, hperm⟩, -⟩ := importLoop_lists hrun
        have hkept : source.stem ∉ final.failedSources := by
          rw [hfailed, List.mem_append, not_or]
          exact ⟨hlists source List.mem_cons_self,
            fun hmem ↦ hhead (hperm.subset (List.mem_append_right _ hmem))⟩
        constructor
        · rintro ⟨-, h⟩
          exact ⟨haccepts, fun other hother hmem ↦
            (hframe other hother).symm.trans (h other hother hmem)⟩
        · rintro ⟨-, h⟩
          exact ⟨fun hmem ↦ absurd hmem hkept, fun other hother hmem ↦
            (hframe other hother).trans (h other hother hmem)⟩
      · simp only [hsave] at hrun
        split_ifs at hrun with hcaught
        obtain ⟨loaded, hload, hloaded⟩ :=
          AgentJob.loadJob_saveImported_error hdurable hsave hcaught
        obtain ⟨⟨-, aside, -, hfailed, -⟩, hframe⟩ := importLoop_lists hrun
        have hmoved : source.stem ∈ final.failedSources := by
          rw [hfailed]
          simp
        refine iff_of_false ?_ ?_
        · rintro ⟨h, -⟩
          rw [hid, ← (hframe source.stem hhead).loadJob_eq, (h hmoved).loadJob_eq] at hload
          have hlower := hrevision loaded hload
          omega
        · rintro ⟨haccepts, -⟩
          rw [AgentJob.saveImported_of_accepts hdurable haccepts] at hsave
          cases hsave

/-- The rows of a job that is stored are those of a stored job in any store with the same rows. -/
theorem Database.Stores.of_sameRows {first second : Database} {job : AgentJob}
    (h : first.Stores job) (hsame : first.SameRows second job.id) : second.Stores job :=
  ⟨h.durable, hsame.loadJob_eq.trans h.load, hsame.reservations.trans h.rows⟩

/-- A run of the loop that saves its candidates leaves each job as it was or stores it with a higher
revision. -/
theorem importLoop_stored {sources : List ImportSource} {lists final : ImportLists}
    {database after : Database} (hstems : (sources.map (·.stem)).Nodup)
    (hapart : SavesApart database
      (importSaves files cutoverComplete database lists.failedSources sources))
    (hrun : importLoop files cutoverComplete sources lists database = .ok final after)
    (jobId : String) :
    database.SameRows after jobId ∨ ∃ job : AgentJob, job.id = jobId ∧ after.Stores job ∧
      ∀ raw, database.loadJob jobId = .ok raw → raw.revision < job.values.revision := by
  induction sources generalizing lists database with
  | nil =>
    cases hrun
    exact .inl (.refl _ _)
  | cons source sources ih =>
    rw [List.map_cons, List.nodup_cons] at hstems
    obtain ⟨hhead, hnodup⟩ := hstems
    rw [importLoop_cons, importSource_apply] at hrun
    unfold importSaves at hapart
    rcases hdecision : importDecision files cutoverComplete lists.failedSources database source with
      error | _ | candidate
    · simp only [hdecision] at hrun hapart
      split_ifs at hrun with hcaught
      exact ih hnodup hapart hrun
    · simp only [hdecision] at hrun hapart
      exact ih hnodup (by exact hapart) hrun
    · obtain ⟨hcandidate, hrevision⟩ := importDecision_save hdecision
      obtain ⟨hdurable, hid⟩ := ImportSource.candidate_ok hcandidate
      simp only [hdecision] at hrun hapart
      rw [savesApart_cons_iff (nodup_importSaves hhead hnodup hid)] at hapart
      obtain ⟨haccepts, hrest⟩ := hapart
      rw [AgentJob.saveImported_of_accepts hdurable haccepts] at hrun
      have hsaved : ∀ other, other ≠ source.stem → database.SameRows
          (candidate.values.saved candidate.values.reservationRows database) other :=
        fun other hother ↦ Values.sameRows_saved (fun heq ↦ hother (heq.trans hid)) haccepts
      by_cases hjob : jobId = source.stem
      · subst hjob
        obtain ⟨read, hread, hcells, hstores⟩ := Database.stores_saved hdurable haccepts
        have hname : read.id = source.stem := hread.trans hid
        have hframe := (importLoop_lists hrun).2 source.stem hhead
        refine .inr ⟨read, hname, hstores.of_sameRows (hname ▸ hframe), fun raw hraw ↦ ?_⟩
        have hequal : read.values.revision = candidate.values.revision := by
          unfold Values.revision Values.count Values.int Values.get
          rw [hcells]
        rw [hequal]
        exact hrevision raw hraw
      · have hother := hsaved jobId hjob
        rw [← importSaves_congr fun other hmem ↦
          hsaved other.stem fun heq ↦ hhead (heq ▸ List.mem_map_of_mem hmem)] at hrest
        rcases ih hnodup (by exact hrest) hrun with hsame | ⟨job, hname, hstores, hlower⟩
        · exact .inl (hother.trans hsame)
        · refine .inr ⟨job, hname, hstores, fun raw hraw ↦ hlower raw ?_⟩
          rw [hother.loadJob_eq]
          exact hraw

/-! ### The import -/

/-- The import is atomic in each of its sources and damages no stored job. -/
structure ImportAtomic (sources : List ImportSource) (lists : ImportLists)
    (before after : Database) : Prop where
  failed : ∀ source ∈ sources, source.stem ∈ lists.failedSources →
    before.SameRows after source.stem
  saved : ∀ jobId, before.SameRows after jobId ∨
    ∃ job : AgentJob, job.id = jobId ∧ getJob jobId after = .ok job after ∧
      after.reservations.filter (·.jobId = jobId) =
        job.values.reservationRows.map (Values.reservationEntry jobId)
  replaced : ∀ jobId stored, before.loadJob jobId = .ok stored →
    ∃ loaded, after.loadJob jobId = .ok loaded ∧
      (loaded = stored ∨ stored.revision < loaded.revision)
  once : ∀ source ∈ sources,
    (source.stem ∈ lists.archived ↔ source.stem ∉ lists.failedSources)

theorem mem_validSources {source : ImportSource} {sources : List ImportSource} :
    source ∈ validSources sources ↔ source ∈ sources ∧ source.candidate.isOk = true :=
  List.mem_filter

theorem mem_invalidSources {source : ImportSource} {sources : List ImportSource} :
    source ∈ invalidSources sources ↔ source ∈ sources ∧ ¬ source.candidate.isOk = true := by
  unfold invalidSources
  rw [List.mem_filter, Bool.not_eq_true', Bool.not_eq_true]

/-- An import that commits is atomic exactly when the candidates that reach their save can be saved
one after the other. -/
theorem importAtomic_iff {sources : List ImportSource} {lists : ImportLists}
    {before after : Database} (hstems : (sources.map (·.stem)).Nodup)
    (hrun : importJsonSources files cutoverComplete sources before = .ok lists after) :
    ImportAtomic sources lists before after ↔
      SavesApart before (importSaves files cutoverComplete before
        ((invalidSources sources).map (·.stem)) (validSources sources)) := by
  unfold importJsonSources at hrun
  have hvalid : ((validSources sources).map (·.stem)).Nodup :=
    hstems.sublist (List.filter_sublist.map _)
  have hapart : ∀ source ∈ validSources sources,
      source.stem ∉ (invalidSources sources).map (·.stem) := by
    intro source hsource hmem
    obtain ⟨other, hother, heq⟩ := List.mem_map.mp hmem
    obtain ⟨hsource, hok⟩ := mem_validSources.mp hsource
    obtain ⟨hother, hinvalid⟩ := mem_invalidSources.mp hother
    rw [List.inj_on_of_nodup_map hstems hother hsource heq] at hinvalid
    exact hinvalid hok
  have hloop := importLoop_failed_iff hvalid hapart hrun
  constructor
  · intro h
    exact hloop.mp fun source hsource ↦ h.failed source (mem_validSources.mp hsource).1
  · intro h
    have hstored := importLoop_stored hvalid h hrun
    obtain ⟨⟨imported, aside, harchived, hfailed, hperm⟩, hframe⟩ := importLoop_lists hrun
    refine ⟨fun source hsource hmem ↦ ?_, fun jobId ↦ ?_, fun jobId stored hload ↦ ?_,
      fun source hsource ↦ ?_⟩
    · by_cases hok : source.candidate.isOk = true
      · exact hloop.mpr h source (mem_validSources.mpr ⟨hsource, hok⟩) hmem
      · refine hframe source.stem fun hmem ↦ ?_
        obtain ⟨other, hother, heq⟩ := List.mem_map.mp hmem
        exact hapart other hother
          (heq ▸ List.mem_map_of_mem (mem_invalidSources.mpr ⟨hsource, hok⟩))
    · rcases hstored jobId with hsame | ⟨job, rfl, hstores, -⟩
      · exact .inl hsame
      · obtain ⟨read, hread, hvalues⟩ := hstores.getJob_eq
        have hname : read.id = job.id := by
          unfold AgentJob.id
          rw [hvalues]
        exact .inr ⟨read, hname, hread, hvalues ▸ hstores.rows⟩
    · rcases hstored jobId with hsame | ⟨job, rfl, hstores, hlower⟩
      · exact ⟨stored, hsame.loadJob_eq.trans hload, .inl rfl⟩
      · exact ⟨job.values, hstores.load, .inr (hlower stored hload)⟩
    · have hmem : source.stem ∈ imported ++ aside ↔ source.candidate.isOk = true := by
        rw [hperm.mem_iff, List.mem_map]
        constructor
        · rintro ⟨other, hother, heq⟩
          obtain ⟨hother, hok⟩ := mem_validSources.mp hother
          rwa [List.inj_on_of_nodup_map hstems hother hsource heq] at hok
        · intro hok
          exact ⟨source, mem_validSources.mpr ⟨hsource, hok⟩, rfl⟩
      have hinvalid : source.stem ∈ (invalidSources sources).map (·.stem) ↔
          ¬ source.candidate.isOk = true := by
        rw [List.mem_map]
        constructor
        · rintro ⟨other, hother, heq⟩
          obtain ⟨hother, hbad⟩ := mem_invalidSources.mp hother
          rwa [List.inj_on_of_nodup_map hstems hother hsource heq] at hbad
        · intro hbad
          exact ⟨source, mem_invalidSources.mpr ⟨hsource, hbad⟩, rfl⟩
      have hdisjoint := (List.nodup_append.mp (hperm.nodup_iff.mpr hvalid)).2.2
      rw [List.mem_append] at hmem
      rw [harchived, hfailed, List.nil_append, List.mem_append, hinvalid, not_or, not_not, ← hmem]
      constructor
      · intro himported
        exact ⟨.inl himported, fun haside ↦ hdisjoint _ himported _ haside rfl⟩
      · rintro ⟨himported | haside, hnot⟩
        · exact himported
        · exact absurd haside hnot

end

/-! ### Two records with one worktree -/

/-- A queued record that holds a worktree. -/
def worktreeRecord (jobId : String) : Values :=
  let spec : NewAgentJob :=
    { id := jobId, request := "Fix the parser", createdAt := 0, foregroundUntil := 0
      harnessKind := .cursor, details := .empty }
  spec.record.set (.text .worktreePath) (.val "/worktrees/parser")

/-- The file of such a record. -/
def worktreeSource (jobId : String) : ImportSource where
  stem := jobId
  parsed := .ok
    { id := jobId
      durableRecord := .ok (worktreeRecord jobId)
      id_eq := fun record hrecord ↦ by
        cases hrecord
        rfl
      transient := fun record hrecord field hfield ↦ by
        cases hrecord
        simp only [transientFields, List.mem_cons, List.not_mem_nil, or_false] at hfield
        rcases hfield with rfl | rfl | rfl <;> rfl }
  supersedes := false

/-- A file that is no JSON. -/
def malformedSource : ImportSource :=
  { stem := "ba9876543210", parsed := .error "ba9876543210.json: invalid JSON", supersedes := false }

/-- Files that refuse nothing. -/
def noFiles : ImportFiles where
  validateCandidateArtifacts _ _ := .ok ()
  validateQuarantineReservation _ _ _ := .ok ()

section

attribute [local instance] asciiTextLibrary

/-- The store with a job that holds the worktree. -/
def worktreeStore : Database :=
  let job : AgentJob :=
    { values := worktreeRecord "0123456789ab", lifecycleEvent := none, valid := by decide +kernel }
  job.values.saved job.values.reservationRows Database.empty

/-- The file of a record that does not parse is moved aside. -/
theorem importAtomic_malformedSource :
    ImportAtomic [malformedSource] { archived := [], failedSources := ["ba9876543210"] }
      worktreeStore worktreeStore := by
  have hrun : importJsonSources noFiles false [malformedSource] worktreeStore =
      .ok { archived := [], failedSources := ["ba9876543210"] } worktreeStore := rfl
  have hstems : ([malformedSource].map (·.stem)).Nodup := List.nodup_singleton _
  refine (importAtomic_iff hstems hrun).mpr ?_
  exact savesApart_nil worktreeStore

/-- In the store whose job holds the worktree the record is refused at its reservation, after its row
was written. -/
theorem not_importAtomic_worktreeStore :
    ∃ lists after, importJsonSources noFiles false [worktreeSource "ba9876543210"]
        worktreeStore = .ok lists after ∧
      ¬ ImportAtomic [worktreeSource "ba9876543210"] lists worktreeStore after := by
  have hrun : (match importJsonSources noFiles false [worktreeSource "ba9876543210"]
      worktreeStore with
    | .ok lists after => lists.failedSources.contains "ba9876543210" &&
        after.jobs.any (·.jobId = "ba9876543210")
    | .error _ _ => false) = true := by decide +kernel
  split at hrun
  · rename_i lists after himport
    rw [Bool.and_eq_true, List.contains_iff_mem, List.any_eq_true] at hrun
    obtain ⟨hfailed, row, hrow, hid⟩ := hrun
    refine ⟨lists, after, himport, fun hatomic ↦ ?_⟩
    have hsame := hatomic.failed (worktreeSource "ba9876543210") List.mem_cons_self hfailed
    have hmem : row ∈ worktreeStore.jobs.filter (·.jobId = "ba9876543210") :=
      hsame.jobs ▸ List.mem_filter.mpr ⟨hrow, hid⟩
    have hnone : worktreeStore.jobs.filter (·.jobId = "ba9876543210") = [] := by decide +kernel
    rw [hnone] at hmem
    exact absurd hmem List.not_mem_nil
  · exact absurd hrun (by decide)

end

end VoiceHarness
