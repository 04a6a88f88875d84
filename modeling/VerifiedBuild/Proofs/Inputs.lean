import VerifiedBuild.Application

/-!
# Sorted inputs

What is known of inputs by how they are sorted: each accepted file has the role that its extension
gives it, program files are all among the programs, and the run is that of the programs.
-/

namespace VerifiedBuild

variable {K : Toolkit}

/-! ## Accepted inputs -/

namespace Inputs

variable {store : Store} {snapshots : Bool} {paths : List String} {path : String}

theorem accept_ok {source : Source} (accepted : accept store snapshots path = .ok source) :
    source.path = path ∧ SourceRole.ofPath? path = some source.role := by
  unfold accept at accepted
  split at accepted
  next => cases accepted
  next role =>
    split at accepted
    · cases accepted
      exact ⟨rfl, role⟩
    · cases accepted
  next role _ named =>
    cases accepted
    exact ⟨rfl, named⟩

/-- Each file has the role that its extension says, and is sorted by it. -/
structure Proper (inputs : Inputs) : Prop where
  programs : ∀ source ∈ inputs.programs,
    source.role = .program ∧ SourceRole.ofPath? source.path = some .program
  others : ∀ source ∈ inputs.others,
    source.role ≠ .program ∧ SourceRole.ofPath? source.path = some source.role

theorem Proper.cons {inputs : Inputs} (proper : inputs.Proper) {source : Source}
    (named : SourceRole.ofPath? source.path = some source.role) : (inputs.cons source).Proper := by
  unfold Inputs.cons
  cases role : source.role with
  | program =>
      rw [role] at named
      exact ⟨List.forall_mem_cons.mpr ⟨⟨role, named⟩, proper.programs⟩, proper.others⟩
  | _ =>
      have other : source.role ≠ .program := by simp [role]
      exact ⟨proper.programs, List.forall_mem_cons.mpr ⟨⟨other, named⟩, proper.others⟩⟩

theorem proper_ofPaths (store : Store) (snapshots : Bool) (paths : List String) :
    (ofPaths store snapshots paths).Proper := by
  induction paths with
  | nil => exact ⟨by simp [ofPaths], by simp [ofPaths]⟩
  | cons path rest ih =>
      rw [ofPaths]
      cases checked : accept store snapshots path with
      | error refusal => exact ⟨by simp, by simp⟩
      | ok source =>
          obtain ⟨same, role⟩ := accept_ok checked
          apply ih.cons
          rw [same]
          exact role

theorem mem_programs_cons {source other : Source} {inputs : Inputs}
    (member : source ∈ inputs.programs) : source ∈ (inputs.cons other).programs := by
  unfold cons
  split
  · exact List.mem_cons_of_mem _ member
  · exact member

theorem refusal_cons (source : Source) (inputs : Inputs) :
    (inputs.cons source).refusal = inputs.refusal := by
  unfold cons
  split <;> rfl

/-- Of accepted inputs, the program files are all among the programs. -/
theorem mem_programs (accepted : (ofPaths store snapshots paths).refusal = none)
    (given : path ∈ paths) (role : SourceRole.ofPath? path = some .program) :
    ⟨path, .program⟩ ∈ (ofPaths store snapshots paths).programs := by
  induction paths with
  | nil => cases given
  | cons first rest ih =>
      rw [ofPaths] at accepted ⊢
      cases checked : accept store snapshots first with
      | error refusal =>
          rw [checked] at accepted
          cases accepted
      | ok source =>
          rw [checked] at accepted
          dsimp only at accepted ⊢
          rw [refusal_cons] at accepted
          rcases List.mem_cons.mp given with rfl | later
          · obtain ⟨source, kind⟩ := source
            obtain ⟨rfl, named⟩ := accept_ok checked
            rw [role] at named
            cases named
            exact List.mem_cons_self
          · exact mem_programs_cons (ih accepted later)

end Inputs

/-! ## Runs on sorted inputs -/

/-- The inputs of the command line, sorted by what a store holds. -/
def Options.sorted (options : Options) (store : Store) : Inputs :=
  .ofPaths store (decide (options.config.snapshotLevel ≥ 0)) options.inputs

def makeSorted (config : Config) (inputs : Inputs) : Job K ExitStatus :=
  match inputs.refusal with
  | some refusal => do
      Job.errorLine refusal.message
      pure .notStarted
  | none =>
      if inputs.programs.isEmpty then do
        Job.errorLine "*** Error: No proof program (.prf) files were specified."
        pure .notStarted
      else do
        Job.request .restartTally
        makeAll config inputs.programs inputs.others

theorem processInputs_eq (options : Options) :
    (processInputs options : Job K ExitStatus) =
      (do
        let host ← Job.look
        makeSorted options.config (options.sorted host.store)) :=
  rfl

end VerifiedBuild
