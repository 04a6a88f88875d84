import VerifiedBuild.Proofs.Inputs
import VerifiedBuild.Proofs.Make.Flat
import VerifiedBuild.Proofs.Make.Program
import VerifiedBuild.Proofs.Reaching

/-!
# No program is left out

Which of the inputs a run reads. Without snapshots every program file is read. With them, what is
read of a file are those of its versions that the search gets to; a file without any is passed over
in silence.
-/

namespace VerifiedBuild

variable {K : Toolkit} {collaborators : Collaborators K} {config : Config}
  {before after : Machine K} {made : List (Exchange K)} {files others : List Source}
  {lineage : Option String} {status : ExitStatus}

/-! ## Versions that are found -/

/-- The search among the files `paths` gets to this version, and the file `path` has it. -/
structure Snapshot.Finds (store : Store) (paths : List String) (path : String) (version : Nat) :
    Prop where
  searched : path ∈ paths
  present : store.pathExists (Path.snapshot path version)
  unbroken : ∀ earlier < version, ∃ other ∈ paths, store.pathExists (Path.snapshot other earlier)

namespace Snapshot

variable {store : Store} {paths : List String} {path : String} {version : Nat}

theorem mem_group (searched : path ∈ paths)
    (present : store.pathExists (Path.snapshot path version)) :
    Path.snapshot path version ∈ group store paths version :=
  List.mem_filter.mpr ⟨List.mem_map.mpr ⟨path, searched, rfl⟩, present⟩

/-- A version that is found is a small number: there are more entries in the store. -/
theorem Finds.mem_groups (finds : Finds store paths path version) :
    version < store.entries.length ∧
      ∃ group ∈ groups store paths, Path.snapshot path version ∈ group := by
  obtain ⟨count, few, all, empty, -⟩ := groups_eq store paths
  have own := mem_group finds.searched finds.present
  have below : version < count := by
    by_contra beyond
    rcases Nat.lt_or_eq_of_le (Nat.not_lt.mp beyond) with earlier | same
    · obtain ⟨other, searched, present⟩ := finds.unbroken count earlier
      have member := mem_group searched present
      rw [empty] at member
      cases member
    · rw [same] at empty
      rw [empty] at own
      cases own
  refine ⟨Nat.lt_of_lt_of_le below few, group store paths version, ?_, own⟩
  rw [all]
  exact List.mem_map.mpr ⟨version, List.mem_range.mpr below, rfl⟩

end Snapshot

/-! ## What is read -/

/-- Among the calls made is one that reads a program with this file. -/
def Reads (made : List (Exchange K)) (path : String) : Prop :=
  ∃ name files answer, ⟨.readProgram name files, answer⟩ ∈ made ∧ ∃ file ∈ files, file.path = path

theorem Reads.mono {own : List (Exchange K)} {path : String} (reads : Reads own path)
    (within : own ⊆ made) : Reads made path := by
  obtain ⟨name, files, answer, member, part⟩ := reads
  exact ⟨name, files, answer, within member, part⟩

theorem makeProgram_reads
    (runs : (makeProgram config files others lineage).Runs collaborators before (.ok status) made
      after) {file : Source} (member : file ∈ files) : Reads made file.path := by
  cases files with
  | nil => cases member
  | cons first rest =>
      rcases makeProgram_runs runs with ⟨failure, impossible, -⟩ |
        ⟨parsed, middle, later, -, rfl, -⟩
      · cases impossible
      · exact ⟨jointName (first :: rest), first :: rest, .ok parsed, List.mem_cons_self, file,
          member, rfl⟩

theorem foldlM_makeProgram_reads {groups : List (List String)} {start : ExitStatus}
    (runs : (groups.foldlM (fun (status : ExitStatus) group => do
        let next ← makeProgram config (Source.programs group) [] lineage
        pure (status.merge next)) start).Runs collaborators before (.ok status) made after)
    {paths : List String} (found : paths ∈ groups) {path : String} (member : path ∈ paths) :
    Reads made path := by
  obtain ⟨current, here, result, own, stop, -, step, within⟩ := Job.does_of_foldlM runs found
  obtain ⟨next, first, middle, rest, program, -, rfl⟩ := Job.runs_bind_ok.mp step
  have source : (⟨path, .program⟩ : Source) ∈ Source.programs paths :=
    List.mem_map.mpr ⟨path, member, rfl⟩
  have reads : Reads first path := makeProgram_reads program source
  exact reads.mono (List.Subset.trans (List.subset_append_left first rest) within)

/-- What is read of a file whose versions are looked for on the machine `before`. -/
theorem makeSnapshots_reads
    (runs : (makeSnapshots config files lineage).Runs collaborators before (.ok status) made after)
    {path : String} {version : Nat}
    (finds : Snapshot.Finds before.host.store (files.map (·.path)) path version) :
    version < before.host.store.entries.length ∧ Reads made (Path.snapshot path version) := by
  obtain ⟨few, paths, found, member⟩ := finds.mem_groups
  refine ⟨few, ?_⟩
  obtain ⟨host, given, runs⟩ := (Job.runs_aside_bind rfl).mp runs
  have same : before.host = host := Except.ok.inj given
  subst same
  exact foldlM_makeProgram_reads runs found member

/-- A run reads a program file: the file itself, or those of its versions that are found when they
are looked for together with those of the files `searched`. Versions that are found are below the
number of entries, so that a counter of 31 bits is enough for fewer than `2 ^ 31` of these. -/
structure Covers (collaborators : Collaborators K) (config : Config) (job : Job K ExitStatus)
    (searched : List Source) (before : Machine K) (made : List (Exchange K)) (file : Source) :
    Prop where
  plain : config.snapshotLevel < 0 → Reads made file.path
  versions : 0 ≤ config.snapshotLevel → ∃ lineage there,
    job.Does collaborators before (makeSnapshots config searched lineage) there ∧
    ∀ version, Snapshot.Finds there.host.store (searched.map (·.path)) file.path version →
      version < there.host.store.entries.length ∧ Reads made (Path.snapshot file.path version)

/-- What a part of a job reads, the job reads. -/
theorem Covers.lift {job part : Job K ExitStatus} {searched : List Source} {here : Machine K}
    {own : List (Exchange K)} {file : Source}
    (covers : Covers collaborators config part searched here own file)
    (does : job.Does collaborators before part here) (within : own ⊆ made) :
    Covers collaborators config job searched before made file := by
  constructor
  case plain =>
    intro plain
    exact (covers.plain plain).mono within
  case versions =>
    intro snapshots
    obtain ⟨lineage, there, search, found⟩ := covers.versions snapshots
    refine ⟨lineage, there, does.trans search, fun version finds => ?_⟩
    exact (found version finds).imp_right fun reads => reads.mono within

theorem makeTogether_covers {file : Source} (member : file ∈ files)
    (runs : (makeTogether config files others true lineage).Runs collaborators before (.ok status)
      made after) :
    Covers collaborators config (makeTogether config files others true lineage) files before made
      file := by
  by_cases snapshots : 0 ≤ config.snapshotLevel
  · have search : (makeTogether config files others true lineage : Job K ExitStatus) =
        makeSnapshots config files lineage := if_pos ⟨snapshots, rfl⟩
    rw [search] at runs ⊢
    refine ⟨fun plain => absurd plain (by omega), fun _ => ?_⟩
    exact ⟨lineage, before, Job.does_self _ before, fun version finds =>
      makeSnapshots_reads runs finds⟩
  · have direct : (makeTogether config files others true lineage : Job K ExitStatus) =
        makeProgram config files others lineage := if_neg fun both => snapshots both.1
    rw [direct] at runs ⊢
    exact ⟨fun _ => makeProgram_reads runs member, fun impossible => absurd impossible snapshots⟩

theorem makeSeparately_covers {file : Source}
    (runs : (makeSeparately config true file).Runs collaborators before (.ok status) made after) :
    Covers collaborators config (makeSeparately config true file) [file] before made file := by
  -- Two lines of header stand before the programs of the file.
  obtain ⟨_, -, afterBlank⟩ := (Job.runs_aside_bind rfl).mp runs
  obtain ⟨_, -, together⟩ := (Job.runs_aside_bind rfl).mp afterBlank
  have header : (makeSeparately config true file : Job K ExitStatus).Does collaborators before
      (makeTogether config [file] [] true (some file.path))
      (before.announced collaborators file) := by
    rw [makeSeparately_eq]
    exact Job.does_next rfl
  exact (makeTogether_covers List.mem_cons_self together).lift header (List.Subset.refl made)

/-- The files whose versions are looked for together with those of `file`. -/
def searchedWith (config : Config) (programs : List Source) (file : Source) : List Source :=
  if config.separately ∧ programs.length > 1 then [file] else programs

theorem makeAll_covers
    (runs : (makeAll config files others).Runs collaborators before (.ok status) made after)
    {file : Source} (member : file ∈ files) :
    Covers collaborators config (makeAll config files others) (searchedWith config files file)
      before made file := by
  by_cases apart : config.separately ∧ files.length > 1
  · have alone : searchedWith config files file = [file] := if_pos apart
    rw [makeAll_apart others apart] at runs ⊢
    rw [alone]
    obtain ⟨current, here, result, own, stop, does, step, within⟩ := Job.does_of_foldlM runs member
    obtain ⟨next, first, middle, rest, separate, -, rfl⟩ := Job.runs_bind_ok.mp step
    exact (makeSeparately_covers separate).lift (does.trans (Job.does_bind _ _ here))
      (List.Subset.trans (List.subset_append_left first rest) within)
  · have all : searchedWith config files file = files := if_neg apart
    rw [makeAll_joint others apart] at runs ⊢
    rw [all]
    exact makeTogether_covers member runs

/-! ## From the command line -/

variable {options : Options} {inputs : Inputs}

theorem makeSorted_started
    (runs : (makeSorted config inputs).Runs collaborators before (.ok status) made after)
    (started : status ≠ .notStarted) :
    inputs.refusal = none ∧
      ∃ start,
        (makeSorted config inputs).Does collaborators before
          (makeAll config inputs.programs inputs.others) start ∧
        (makeAll config inputs.programs inputs.others).Runs collaborators start (.ok status) made
          after := by
  have complained {line : String} {made : List (Exchange K)} : ¬(do
      Job.errorLine line
      pure ExitStatus.notStarted : Job K ExitStatus).Runs collaborators before (.ok status) made
        after := by
    intro runs
    obtain ⟨_, -, ending⟩ := (Job.runs_aside_bind rfl).mp runs
    exact started (Except.ok.inj (Job.runs_pure.mp ending).1)
  rw [makeSorted] at runs ⊢
  cases refused : inputs.refusal with
  | some refusal =>
      rw [refused] at runs
      exact absurd runs complained
  | none =>
      rw [refused] at runs
      dsimp only at runs ⊢
      split at runs
      next missing => exact absurd runs complained
      next given =>
        rw [if_neg given]
        obtain ⟨_, -, runs⟩ := (Job.runs_aside_bind rfl).mp runs
        exact ⟨rfl, _, Job.does_next rfl, runs⟩

/-- A run that is started reads each of its program files, or what versions are found of it. -/
theorem processInputs_covers
    (ended : (processInputs options).run collaborators before = (.ok status, after))
    (started : status ≠ .notStarted) {input : String} (given : input ∈ options.inputs)
    (role : SourceRole.ofPath? input = some .program) :
    ∃ made, after.exchanges = before.exchanges ++ made ∧
      Covers collaborators options.config (processInputs options)
        (searchedWith options.config (options.sorted before.host.store).programs
          ⟨input, .program⟩) before made ⟨input, .program⟩ := by
  obtain ⟨made, makes⟩ := Job.exchanges_run collaborators (processInputs options) before
  rw [ended] at makes
  have whole : (processInputs options).Runs collaborators before (.ok status) made after :=
    ⟨ended, makes⟩
  rw [processInputs_eq] at whole
  obtain ⟨host, looked, sorting⟩ := (Job.runs_aside_bind rfl).mp whole
  obtain rfl : before.host = host := Except.ok.inj looked
  have sorts : (processInputs options : Job K ExitStatus).Does collaborators before
      (makeSorted options.config (options.sorted before.host.store))
      (before.perform collaborators .look).2 := by
    rw [processInputs_eq]
    exact Job.does_next rfl
  obtain ⟨accepted, start, does, runs⟩ := makeSorted_started sorting started
  have covers := makeAll_covers runs (Inputs.mem_programs accepted given role)
  exact ⟨made, makes, covers.lift (sorts.trans does) (List.Subset.refl made)⟩

/-- One file is there and has no version; another has two versions and is not there itself. -/
def Rehearsal.versionedStore : Store :=
  storeWith ["a.prf", "b.v0.prf", "b.v1.prf"]

def Rehearsal.versionRun (inputs : List String) : Except Failure ExitStatus × Machine toolkit :=
  (processInputs { inputs, config := { snapshotLevel := 0, compile := false } }).run
    (Rehearsal.collaborators .single) { host := { store := versionedStore } }

theorem versionRun_covers :
    (Rehearsal.versionRun ["b.prf"]).1 = .ok .verified ∧
      ∃ made, (Rehearsal.versionRun ["b.prf"]).2.exchanges = made ∧
        Covers (Rehearsal.collaborators .single) { snapshotLevel := 0, compile := false }
          (processInputs
            { inputs := ["b.prf"], config := { snapshotLevel := 0, compile := false } })
          [⟨"b.prf", .program⟩]
          { host := { store := Rehearsal.versionedStore } } made ⟨"b.prf", .program⟩ := by
  have ended : (Rehearsal.versionRun ["b.prf"]).1 = .ok .verified := by rfl
  obtain ⟨made, makes, covers⟩ := processInputs_covers (Prod.ext ended rfl) (by decide)
    List.mem_cons_self (by decide)
  exact ⟨ended, made, makes, covers⟩

/-- A file that is there but has no version is passed over. -/
theorem versionRun_unread :
    (Rehearsal.versionRun ["a.prf"]).1 = .ok .verified ∧
      (Rehearsal.versionRun ["a.prf"]).2.calls = [] :=
  ⟨rfl, rfl⟩

end VerifiedBuild
