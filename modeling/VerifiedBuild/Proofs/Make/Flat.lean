import VerifiedBuild.Make
import VerifiedBuild.Proofs.Outcome
import VerifiedBuild.Proofs.Snapshot
import VerifiedBuild.Proofs.Succession
import VerifiedBuild.Rehearsal

/-!
# All programs in one row

Files that are made one by one, and versions of files, nest. What they come to is a row of programs,
one after another, whose last failure is the status of the run.
-/

namespace VerifiedBuild

variable {K : Toolkit} {α β γ ι : Type}

/-! ## The row of programs -/

/-- The files of one program, the native files that are built with it, and the file that names its
results. -/
structure Task where
  files : List Source
  others : List Source := []
  lineage : Option String := none

namespace Task

def make (config : Config) (task : Task) : Job K ExitStatus :=
  makeProgram config task.files task.others task.lineage

/-- One program for each version of the files that a store holds. -/
def versions (store : Store) (files : List Source) (lineage : Option String) : List Task :=
  (Snapshot.groups store (files.map (·.path))).map fun paths =>
    { files := Source.programs paths, lineage }

def single (file : Source) : Task :=
  { files := [file], lineage := some file.path }

end Task

def makeVersions (config : Config) (files : List Source) (lineage : Option String) :
    Job K (List ExitStatus) := do
  let host ← Job.look
  (Task.versions host.store files lineage).mapM (Task.make config)

def announce (file : Source) : Job K Unit := do
  Job.writeLine ""
  Job.writeLine (fileHeader file.path)

/-- The programs of a run, one after another, with the status of each. -/
def makeRow (config : Config) (files others : List Source) : Job K (List ExitStatus) :=
  if config.separately ∧ files.length > 1 then
    if config.snapshotLevel ≥ 0 then do
      let statuses ← files.mapM fun file => do
        announce file
        makeVersions config [file] (some file.path)
      pure statuses.flatten
    else files.mapM fun file => do
      announce file
      (Task.single file).make config
  else if config.snapshotLevel ≥ 0 then makeVersions config files none
  else [{ files, others }].mapM (Task.make config)

/-! ## Folding statuses -/

theorem foldlM_merge (items : List α) (make : α → Job K ExitStatus) (start : ExitStatus) :
    (items.foldlM (fun status item => do
        let next ← make item
        pure (status.merge next)) start) =
      (do
        let statuses ← items.mapM make
        pure (statuses.foldl .merge start)) := by
  induction items generalizing start with
  | nil => rfl
  | cons item rest ih =>
      rw [List.foldlM_cons, List.mapM_cons]
      simp only [bind_assoc, pure_bind, ih, List.foldl_cons]

theorem mapM_bind_pure (items : List α) (job : α → Job K β) (finish : β → γ) :
    (items.mapM fun item => do
        let value ← job item
        pure (finish value)) =
      (do
        let values ← items.mapM job
        pure (values.map finish)) := by
  induction items with
  | nil => rfl
  | cons item rest ih =>
      rw [List.mapM_cons, List.mapM_cons, ih]
      simp only [bind_assoc, pure_bind, List.map_cons]

theorem makeSnapshots_eq (config : Config) (files : List Source) (lineage : Option String) :
    (makeSnapshots config files lineage : Job K ExitStatus) =
      (do
        let statuses ← makeVersions config files lineage
        pure (ExitStatus.lastFailure statuses)) := by
  rw [makeSnapshots, makeVersions]
  simp only [foldlM_merge, ExitStatus.foldl_merge_verified, bind_assoc, Task.versions,
    List.mapM_map]
  rfl

theorem makeSeparately_eq (config : Config) (file : Source) :
    (makeSeparately config true file : Job K ExitStatus) =
      (do
        announce file
        makeTogether config [file] [] true (some file.path)) := by
  rw [makeSeparately, announce]
  simp only [bind_assoc]

theorem makeAll_apart {config : Config} {files : List Source} (others : List Source)
    (apart : config.separately ∧ files.length > 1) :
    (makeAll config files others : Job K ExitStatus) =
      files.foldlM (fun status file => do
        let next ← makeSeparately config true file
        pure (status.merge next)) .verified :=
  if_pos apart

theorem makeAll_joint {config : Config} {files : List Source} (others : List Source)
    (joint : ¬(config.separately ∧ files.length > 1)) :
    (makeAll config files others : Job K ExitStatus) = makeTogether config files others true none :=
  if_neg joint

theorem makeAll_row (config : Config) (files others : List Source) :
    (makeAll config files others : Job K ExitStatus) =
      (do
        let statuses ← makeRow config files others
        pure (ExitStatus.lastFailure statuses)) := by
  rw [makeAll, makeFiles, makeRow]
  split
  next apart =>
    simp only [makeSeparately_eq, foldlM_merge, ExitStatus.foldl_merge_verified]
    split
    next snapshots =>
      simp only [makeTogether, snapshots, and_self, if_true, makeSnapshots_eq]
      have each := mapM_bind_pure files (fun file => (do
        announce file
        makeVersions config [file] (some file.path) : Job K _)) ExitStatus.lastFailure
      simp only [bind_assoc] at each
      rw [each]
      simp only [bind_assoc, pure_bind, ExitStatus.lastFailure_flatten]
    next plain =>
      simp only [makeTogether, plain, false_and, if_false]
      rfl
  next together =>
    rw [makeTogether]
    split
    next snapshots =>
      rw [if_pos snapshots.1, makeSnapshots_eq]
    next plain =>
      rw [if_neg fun snapshots => plain ⟨snapshots, rfl⟩]
      simp only [Task.make, List.mapM_cons, List.mapM_nil, bind_assoc, pure_bind,
        ExitStatus.lastFailure_singleton, bind_pure]

/-! ## Items in turn -/

variable {collaborators : Collaborators K} {config : Config} {before after : Machine K}
  {items : List ι} {values : Except Failure (List α)}

/-- Items dealt with in order, each where the one before left the machine, up to the first failure.
What dealing with one of them comes to is said by `does`. -/
inductive InTurn (does : ι → Machine K → Except Failure α → Machine K → Prop) :
    List ι → Machine K → Except Failure (List α) → Machine K → Prop
  | nil (machine : Machine K) : InTurn does [] machine (.ok []) machine
  | done {item : ι} {items : List ι} {machine middle after : Machine K} {value : α}
      {values : Except Failure (List α)} (first : does item machine (.ok value) middle)
      (rest : InTurn does items middle values after) :
      InTurn does (item :: items) machine (values.map (value :: ·)) after
  | failed {item : ι} {items : List ι} {machine after : Machine K} {failure : Failure}
      (first : does item machine (.error failure) after) :
      InTurn does (item :: items) machine (.error failure) after

theorem inTurn_of_mapM {does : ι → Machine K → Except Failure α → Machine K → Prop}
    {job : ι → Job K α}
    (each : ∀ {item : ι} {before : Machine K} {result : Except Failure α} {after : Machine K},
      (job item).run collaborators before = (result, after) → does item before result after)
    (run : (items.mapM job).run collaborators before = (values, after)) :
    InTurn does items before values after := by
  induction items generalizing before values with
  | nil =>
      obtain ⟨rfl, rfl⟩ := Prod.mk.inj run
      exact .nil before
  | cons item rest ih =>
      rw [List.mapM_cons, Job.run_bind] at run
      cases first : (job item).run collaborators before with
      | mk result middle =>
          rw [first] at run
          cases result with
          | error failure =>
              obtain ⟨rfl, rfl⟩ := Prod.mk.inj run
              exact .failed (each first)
          | ok value =>
              dsimp only at run
              rw [Job.run_bind_pure] at run
              obtain ⟨rfl, rfl⟩ := Prod.mk.inj run
              exact .done (each first) (ih rfl)

theorem InTurn.succession {does : ι → Machine K → Except Failure α → Machine K → Prop}
    {job : γ → Job K β} (inTurn : InTurn does items before values after)
    (each : ∀ {item : ι} {before : Machine K} {result : Except Failure α} {after : Machine K},
      does item before result after → ∃ turns, Succession collaborators job before turns after) :
    ∃ turns, Succession collaborators job before turns after := by
  induction inTurn with
  | nil machine => exact ⟨[], .nil machine⟩
  | done first rest ih =>
      obtain ⟨begun, succession⟩ := each first
      obtain ⟨turns, later⟩ := ih
      exact ⟨begun ++ turns, succession.append later⟩
  | failed first => exact each first

/-! ## Rows on a machine -/

variable {file : Source} {files others : List Source} {lineage : Option String}
  {statuses : Except Failure (List ExitStatus)}

def Task.Makes (collaborators : Collaborators K) (config : Config) (task : Task)
    (before : Machine K) (status : Except Failure ExitStatus) (after : Machine K) : Prop :=
  (task.make config).run collaborators before = (status, after)

/-- The programs of all versions that the files have on the machine `before`. -/
def VersionRow (collaborators : Collaborators K) (config : Config) (files : List Source)
    (lineage : Option String) (before : Machine K) (statuses : Except Failure (List ExitStatus))
    (after : Machine K) : Prop :=
  InTurn (Task.Makes collaborators config) (Task.versions before.host.store files lineage)
    (before.perform collaborators .look).2 statuses after

def Machine.announced (machine : Machine K) (collaborators : Collaborators K) (file : Source) :
    Machine K :=
  ((machine.perform collaborators (.write "\n")).2.perform collaborators
    (.write (fileHeader file.path ++ "\n"))).2

/-- The programs of a run: one of all files, or one of each file or of each version, or of each
version of each file. -/
def RunRow (collaborators : Collaborators K) (config : Config) (files others : List Source)
    (before : Machine K) (statuses : Except Failure (List ExitStatus)) (after : Machine K) : Prop :=
  if config.separately ∧ files.length > 1 then
    if config.snapshotLevel ≥ 0 then
      ∃ rows, statuses = rows.map List.flatten ∧
        InTurn (fun file machine => VersionRow collaborators config [file] (some file.path)
          (machine.announced collaborators file)) files before rows after
    else
      InTurn (fun file machine => (Task.single file).Makes collaborators config
        (machine.announced collaborators file)) files before statuses after
  else if config.snapshotLevel ≥ 0 then
    VersionRow collaborators config files none before statuses after
  else InTurn (Task.Makes collaborators config) [{ files, others }] before statuses after

theorem versionRow_of_run
    (run : (makeVersions config files lineage).run collaborators before = (statuses, after)) :
    VersionRow collaborators config files lineage before statuses after := by
  change ((Task.versions before.host.store files lineage).mapM (Task.make config)).run collaborators
    (before.perform collaborators .look).2 = _ at run
  exact inTurn_of_mapM id run

theorem run_announce (file : Source) (next : Job K α) :
    (announce file >>= fun _ => next).run collaborators before =
      next.run collaborators (before.announced collaborators file) :=
  rfl

theorem versionRow_of_announced
    (run : (announce file >>= fun _ => makeVersions config [file] (some file.path)).run
      collaborators before = (statuses, after)) :
    VersionRow collaborators config [file] (some file.path) (before.announced collaborators file)
      statuses after :=
  versionRow_of_run ((run_announce file _).symm.trans run)

theorem runRow_of_run
    (run : (makeRow config files others).run collaborators before = (statuses, after)) :
    RunRow collaborators config files others before statuses after := by
  rw [makeRow] at run
  rw [RunRow]
  split at run
  next apart =>
    rw [if_pos apart]
    split at run
    next versions =>
      rw [if_pos versions]
      rw [Job.run_bind_pure] at run
      obtain ⟨rfl, rfl⟩ := Prod.mk.inj run
      exact ⟨_, rfl, inTurn_of_mapM versionRow_of_announced rfl⟩
    next plain =>
      rw [if_neg plain]
      exact inTurn_of_mapM (run_announce _ _).symm.trans run
  next together =>
    rw [if_neg together]
    split at run
    next versions =>
      rw [if_pos versions]
      exact versionRow_of_run run
    next plain =>
      rw [if_neg plain]
      exact inTurn_of_mapM id run

theorem makeAll_runs (collaborators : Collaborators K) (config : Config)
    (files others : List Source) (before : Machine K) :
    ∃ statuses after,
      (makeAll config files others).run collaborators before =
        (statuses.map ExitStatus.lastFailure, after) ∧
      RunRow collaborators config files others before statuses after := by
  rw [makeAll_row, Job.run_bind_pure]
  exact ⟨_, _, rfl, runRow_of_run rfl⟩

/-- A run is a row of programs, whose last failure is its status unless one of them is not made at
all; what is looked for in the row are the versions before the first that no file has. There are no
more of these than entries of the store, so that a counter of 31 bits is enough for fewer than
`2 ^ 31` entries. -/
theorem makeAll_rows (collaborators : Collaborators K) (config : Config)
    (files others : List Source) (before : Machine K) :
    (∃ statuses after,
      (makeAll config files others).run collaborators before =
        (statuses.map ExitStatus.lastFailure, after) ∧
      RunRow collaborators config files others before statuses after) ∧
    ∀ (store : Store) (paths : List String), ∃ count ≤ store.entries.length,
      Snapshot.groups store paths = (List.range count).map (Snapshot.group store paths) ∧
        Snapshot.group store paths count = [] ∧
        ∀ version < count, Snapshot.group store paths version ≠ [] :=
  ⟨makeAll_runs collaborators config files others before, Snapshot.groups_eq⟩

def Rehearsal.Script.single : Script where
  parts := [{ name := "A" }]

/-- Empty files in the working directory. -/
def Rehearsal.storeWith (names : List String) : Store :=
  names.foldl (fun store name => store.set ["work", name] (.file [] false)) .standard

/-- The only unit of the first file has no program, and the second file is in error. -/
def Rehearsal.Script.interrupted : Script where
  partsByProgram := .ofList [("a.prf", [{ name := "A", absent := true }])]
  errorsByProgram := .ofList [("b.prf", "unexpected end of file")]

/-- Without any failure raised by a collaborator a run can end before the row does. -/
theorem makeAll_interrupted :
    (∀ history toCall host, ∃ answer,
      (Rehearsal.collaborators .interrupted history toCall host).result = .ok answer) ∧
    ∃ after,
      (makeAll { separately := true } [{ path := "a.prf" }, { path := "b.prf" }] []).run
        (Rehearsal.collaborators .interrupted) { host := { store := .standard } } =
          (.error (.unitWithoutProgram "A"), after) ∧
      after.calls = [.readProgram "a.prf" [{ path := "a.prf" }], .countModules "a.prf",
        .translate "a.prf"] := by
  refine ⟨fun history toCall host => ?_, _, rfl, rfl⟩
  cases toCall <;> exact ⟨_, rfl⟩

/-! ## The programs of a run -/

theorem Task.Makes.succession {task : Task} {status : Except Failure ExitStatus}
    (makes : task.Makes collaborators config before status after) :
    ∃ turns, Succession collaborators (Task.make config) before turns after :=
  ⟨_, .cons makes (.nil _)⟩

theorem VersionRow.succession
    (row : VersionRow collaborators config files lineage before statuses after) :
    ∃ turns, Succession collaborators (Task.make config) before turns after := by
  obtain ⟨turns, succession⟩ := InTurn.succession row Task.Makes.succession
  exact ⟨turns, .aside .look rfl succession⟩

theorem succession_of_announced
    (announced : ∃ turns, Succession collaborators (Task.make config)
      (before.announced collaborators file) turns after) :
    ∃ turns, Succession collaborators (Task.make config) before turns after := by
  obtain ⟨turns, succession⟩ := announced
  exact ⟨turns, .aside (.write "\n") rfl
    (.aside (.write (fileHeader file.path ++ "\n")) rfl succession)⟩

theorem makeAll_succession (collaborators : Collaborators K) (config : Config)
    (files others : List Source) (before : Machine K) :
    ∃ turns, Succession collaborators (Task.make config) before turns
      ((makeAll config files others).run collaborators before).2 := by
  obtain ⟨statuses, after, run, row⟩ := makeAll_runs collaborators config files others before
  rw [run]
  rw [RunRow] at row
  split at row
  next =>
    split at row
    next =>
      obtain ⟨rows, -, inTurn⟩ := row
      exact inTurn.succession fun versions => succession_of_announced versions.succession
    next => exact row.succession fun single => succession_of_announced single.succession
  next =>
    split at row
    next => exact row.succession
    next => exact row.succession Task.Makes.succession

end VerifiedBuild
