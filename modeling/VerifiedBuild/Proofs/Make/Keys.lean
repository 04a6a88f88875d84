import Mathlib.Data.List.Basic
import VerifiedBuild.Proofs.Make.Flat
import VerifiedBuild.Proofs.Make.Generation

/-!
# Keys of units

Under which keys the results of units are kept for reuse. A key joins the file that a unit stems
from and the name of the unit. Files that are made one by one pass their path on to all of their
versions, so that the versions of a file share its keys; the keys of other files differ, but for
names that hold the mark between the two parts of a key themselves.
-/

namespace VerifiedBuild

variable {K : Toolkit} {collaborators : Collaborators K} {config : Config}
  {files others : List Source} {before : Machine K} {lineage : Option String}

/-! ## Equal keys -/

/-- The path `other` goes on where `path` ends, with what `unit` begins with before `otherUnit`. -/
def Overlaps (path unit other otherUnit : String) : Prop :=
  ∃ middle, other = path ++ "_" ++ middle ∧ unit = middle ++ "_" ++ otherUnit

theorem join_eq_iff {α : Type} {mark : α} {xs ys us vs : List α} :
    xs ++ mark :: us = ys ++ mark :: vs ↔
      (xs = ys ∧ us = vs) ∨ (∃ middle, ys = xs ++ mark :: middle ∧ us = middle ++ mark :: vs) ∨
        ∃ middle, xs = ys ++ mark :: middle ∧ vs = middle ++ mark :: us := by
  constructor
  · intro same
    rcases List.append_eq_append_iff.mp same with ⟨middle, rfl, rest⟩ | ⟨middle, rfl, rest⟩
    · cases middle with
      | nil => exact .inl ⟨by simp, (List.cons.inj rest).2⟩
      | cons first middle =>
          obtain ⟨rfl, rfl⟩ := List.cons.inj rest
          exact .inr (.inl ⟨middle, rfl, rfl⟩)
    -- The other way round, the first list goes on where the second ends.
    · cases middle with
      | nil => exact .inl ⟨by simp, (List.cons.inj rest).2.symm⟩
      | cons first middle =>
          obtain ⟨rfl, rfl⟩ := List.cons.inj rest
          exact .inr (.inr ⟨middle, rfl, rfl⟩)
  · rintro (⟨rfl, rfl⟩ | ⟨middle, rfl, rfl⟩ | ⟨middle, rfl, rfl⟩)
    · rfl
    · simp
    · simp

theorem overlaps_iff {path unit other otherUnit : String} :
    Overlaps path unit other otherUnit ↔
      ∃ middle, other.toList = path.toList ++ '_' :: middle ∧
        unit.toList = middle ++ '_' :: otherUnit.toList := by
  constructor
  · rintro ⟨middle, rfl, rfl⟩
    exact ⟨middle.toList, by simp, by simp⟩
  · rintro ⟨middle, first, second⟩
    refine ⟨String.ofList middle, ?_, ?_⟩
    · apply String.toList_inj.mp
      simp [first]
    · apply String.toList_inj.mp
      simp [second]

theorem unitKey_eq_iff {path unit other otherUnit : String} :
    unitKey (some path) unit = unitKey (some other) otherUnit ↔
      (path = other ∧ unit = otherUnit) ∨ Overlaps path unit other otherUnit ∨
        Overlaps other otherUnit path unit := by
  have chars (path unit : String) :
      (unitKey (some path) unit).toList = path.toList ++ '_' :: unit.toList := by
    simp [unitKey]
  rw [← String.toList_inj, chars, chars, join_eq_iff, overlaps_iff, overlaps_iff,
    String.toList_inj, String.toList_inj]

/-! ## Who calls the solver -/

def Request.isVerify : Request K → Prop
  | .call (.verify _ _) => True
  | _ => False

theorem Request.Plain.not_isVerify {calls : Call K → Prop} {request : Request K}
    (plain : request.Plain calls) (others : ∀ program key, ¬calls (.verify program key)) :
    ¬request.isVerify := by
  intro verify
  cases request with
  | call toCall =>
      cases toCall with
      | verify program key => exact others program key plain
      | _ => exact verify
  | _ => exact verify

theorem Generates.not_isVerify {base : String} {past : List (Event K)} {request : Request K}
    (generates : Generates config base past request) : ¬request.isVerify := by
  intro verify
  cases request with
  | call toCall =>
      cases toCall with
      | verify program key => cases generates
      | _ => exact verify
  | _ => exact verify

/-- The turn of a unit, when there are results of other units already. -/
structure UnitTurn (K : Toolkit) where
  programFile : String
  aggregate : Aggregate
  unit : ProofUnit K

def UnitTurn.verify (config : Config) (lineage : Option String) (turn : UnitTurn K) :
    Job K Aggregate :=
  verifyNext config turn.programFile lineage turn.aggregate turn.unit

variable {program : K.Program} {first last : Source}

theorem delegates_verifyAll (programFile : String) (units : List (ProofUnit K)) :
    (verifyAll config programFile lineage units).Delegates collaborators Request.isVerify
      (UnitTurn.verify config lineage) := by
  apply Job.delegates_foldlM
  intro aggregate unit _
  let turn : UnitTurn K := ⟨programFile, aggregate, unit⟩
  have own : (turn.verify config lineage).Delegates collaborators Request.isVerify
      (UnitTurn.verify config lineage) := Job.delegates_part turn
  exact own

theorem delegates_verifyAndCompile :
    (verifyAndCompile config program first last others lineage).Delegates collaborators
      Request.isVerify (UnitTurn.verify config lineage) := by
  have translates : (translateUnits config program).Delegates collaborators Request.isVerify
      (UnitTurn.verify config lineage) :=
    confined_translateUnits.delegates fun _ plain =>
      plain.not_isVerify (by simp [Call.isTranslation])
  refine translates.bind fun units => (delegates_verifyAll _ units).bind fun aggregate => ?_
  refine Job.Delegates.bind (Job.delegates_of_obeys fun past => ?_) fun _ => Job.delegates_pure _
  exact (obeys_concludeProgram past).mono fun _ _ generates => generates.not_isVerify

theorem delegates_makeParsed :
    (makeParsed config program first last others lineage).Delegates collaborators
      Request.isVerify (UnitTurn.verify config lineage) := by
  have reports : (printReports config program).Delegates collaborators Request.isVerify
      (UnitTurn.verify config lineage) :=
    confined_printReports.delegates fun _ plain => plain.not_isVerify (by simp [Call.isShow])
  have judges : (judgeProgram config program first last others lineage).Delegates collaborators
      Request.isVerify (UnitTurn.verify config lineage) := by
    unfold judgeProgram
    split
    · exact delegates_verifyAndCompile
    · exact Job.delegates_pure _
  exact judges.bind fun _ => reports.bind fun _ => Job.delegates_pure _

theorem delegates_makeProgram :
    (makeProgram config files others lineage).Delegates collaborators Request.isVerify
      (UnitTurn.verify config lineage) := by
  cases files with
  | nil => exact Job.delegates_of_obeys (Job.obeys_fail _)
  | cons first rest =>
      refine (Job.delegates_request id).bind fun parsed => ?_
      obtain ⟨program, error⟩ := parsed
      cases error with
      | some error =>
          exact (Job.delegates_request id).bind fun _ => Job.delegates_pure _
      | none =>
          cases program with
          | none => exact Job.delegates_pure _
          | some program => exact delegates_makeParsed

theorem delegates_makeTogether :
    (makeTogether config files others true lineage).Delegates collaborators Request.isVerify
      (UnitTurn.verify config lineage) := by
  unfold makeTogether
  split
  · refine (Job.delegates_request id).bind fun host => ?_
    apply Job.delegates_foldlM
    intro status group _
    exact delegates_makeProgram.bind fun _ => Job.delegates_pure _
  · exact delegates_makeProgram

theorem delegates_makeSeparately (file : Source) :
    (makeSeparately config true file).Delegates collaborators Request.isVerify
      (UnitTurn.verify config (some file.path)) :=
  (Job.delegates_request id).bind fun _ => (Job.delegates_request id).bind fun _ =>
    delegates_makeTogether

/-! ## Keys of a run -/

theorem UnitTurn.verify_key {turn : UnitTurn K} {start stop : Machine K} {program : K.ProofProgram}
    {key : Option String}
    (does : (turn.verify config lineage).Does collaborators start
      (Job.call (.verify program key)) stop) :
    turn.unit.program = some program ∧ key = reuseKey config lineage turn.unit.name :=
  (confined_verifyNext.obeys (fun _ _ plain => plain) _).of_does does

/-- Once the events `past` have happened, the run calls the solver for a unit of the programs that
stem from `file`. -/
def Submits (collaborators : Collaborators K) (config : Config) (job : Job K ExitStatus)
    (before : Machine K) (past : List (Event K)) (file : Source) (unit : ProofUnit K)
    (program : K.ProofProgram) (key : Option String) : Prop :=
  ∃ here turn start stop,
    job.Does collaborators before (makeSeparately config true file) here ∧
    (makeSeparately config true file).Does collaborators here
      (UnitTurn.verify config (some file.path) turn) start ∧
    (UnitTurn.verify config (some file.path) turn).Does collaborators start
      (Job.call (.verify program key)) stop ∧
    turn.unit = unit ∧ stop.history = past

theorem Submits.key_eq {job : Job K ExitStatus} {past : List (Event K)} {file : Source}
    {unit : ProofUnit K} {program : K.ProofProgram} {key : Option String}
    (submits : Submits collaborators config job before past file unit program key) :
    unit.program = some program ∧ key = reuseKey config (some file.path) unit.name := by
  obtain ⟨here, turn, start, stop, -, -, calls, rfl, -⟩ := submits
  exact turn.verify_key calls

theorem delegates_makeAll (apart : config.separately ∧ files.length > 1) :
    (makeAll config files others).Delegates collaborators Request.isVerify
      fun file : { file // file ∈ files } => makeSeparately config true file := by
  rw [makeAll_apart others apart]
  apply Job.delegates_foldlM
  intro status file member
  let item : { file // file ∈ files } := ⟨file, member⟩
  have own : (makeSeparately config true file : Job K ExitStatus).Delegates collaborators
      Request.isVerify fun file : { file // file ∈ files } => makeSeparately config true file :=
    Job.delegates_part item
  exact own.bind fun _ => Job.delegates_pure _

theorem makeAll_submits (apart : config.separately ∧ files.length > 1)
    {past later : List (Event K)} {program : K.ProofProgram} {key : Option String}
    {answer : Except Failure Verdict}
    (split : ((makeAll config files others).run collaborators before).2.history =
      past ++ ⟨.call (.verify program key), answer⟩ :: later)
    (begun : before.history.length ≤ past.length) :
    ∃ file ∈ files, ∃ unit, Submits collaborators config (makeAll config files others) before past
      file unit program key := by
  obtain ⟨next, stop, reaches, turn⟩ := Job.exists_reaches split begun
  have calls : (makeAll config files others).Does collaborators before
      (Job.request (.call (.verify program key))) stop := ⟨next, reaches⟩
  have verify : Request.isVerify (.call (.verify program key)) := trivial
  obtain ⟨⟨file, member⟩, here, outer, within⟩ := delegates_makeAll apart verify calls
  obtain ⟨unitTurn, start, inner, call⟩ := delegates_makeSeparately file verify within
  exact ⟨file, member, unitTurn.unit, here, unitTurn, start, stop, outer, inner, call, rfl, turn⟩

theorem isSome_reuseKey (unit : String) :
    (reuseKey config lineage unit).isSome ↔ config.snapshotLevel > 1 := by
  unfold reuseKey
  split
  next reuses => simpa using reuses
  next plain => simpa using plain

theorem makeAll_key_isSome {past later : List (Event K)} {program : K.ProofProgram}
    {key : Option String} {answer : Except Failure Verdict}
    (split : ((makeAll config files others).run collaborators before).2.history =
      past ++ ⟨.call (.verify program key), answer⟩ :: later)
    (begun : before.history.length ≤ past.length) :
    key.isSome ↔ config.snapshotLevel > 1 := by
  by_cases apart : config.separately ∧ files.length > 1
  · obtain ⟨file, -, unit, submits⟩ := makeAll_submits apart split begun
    rw [submits.key_eq.2]
    exact isSome_reuseKey unit.name
  · rw [makeAll_joint others apart] at split
    obtain ⟨next, stop, reaches, -⟩ := Job.exists_reaches split begun
    have calls : (makeTogether config files others true none).Does collaborators before
        (Job.request (.call (.verify program key))) stop := ⟨next, reaches⟩
    have verify : Request.isVerify (.call (.verify program key)) := trivial
    obtain ⟨turn, start, -, call⟩ := delegates_makeTogether verify calls
    rw [(turn.verify_key call).2]
    exact isSome_reuseKey turn.unit.name

/-- A call of the solver has a key exactly when results are reused. When files are made one by one,
it is for a unit of one of the files, and two such calls have the same key exactly if file and unit
have the same names, or the names overlap. -/
theorem makeAll_keys (collaborators : Collaborators K) (config : Config)
    (files others : List Source) (before : Machine K) :
    (∀ past program key answer later,
      ((makeAll config files others).run collaborators before).2.history =
        past ++ ⟨.call (.verify program key), answer⟩ :: later →
      before.history.length ≤ past.length →
      (key.isSome ↔ config.snapshotLevel > 1) ∧
      (config.separately ∧ files.length > 1 → ∃ file ∈ files, ∃ unit,
        unit.program = some program ∧
        Submits collaborators config (makeAll config files others) before past file unit program
          key)) ∧
    (config.snapshotLevel > 1 → ∀ past file unit program key otherPast otherFile otherUnit
        otherProgram otherKey,
      Submits collaborators config (makeAll config files others) before past file unit program
        key →
      Submits collaborators config (makeAll config files others) before otherPast otherFile
        otherUnit otherProgram otherKey →
      (key = otherKey ↔ (file.path = otherFile.path ∧ unit.name = otherUnit.name) ∨
        Overlaps file.path unit.name otherFile.path otherUnit.name ∨
        Overlaps otherFile.path otherUnit.name file.path unit.name)) := by
  constructor
  · intro past program key answer later split begun
    refine ⟨makeAll_key_isSome split begun, fun apart => ?_⟩
    obtain ⟨file, member, unit, submits⟩ := makeAll_submits apart split begun
    exact ⟨file, member, unit, submits.key_eq.1, submits⟩
  · intro reuses past file unit program key otherPast otherFile otherUnit otherProgram otherKey
      first second
    rw [first.key_eq.2, second.key_eq.2, reuseKey, reuseKey, if_pos reuses, if_pos reuses,
      Option.some_inj]
    exact unitKey_eq_iff

namespace Rehearsal

/-- The unit of one program is named like the rest of the other program's path. -/
def Script.overlapping : Script where
  partsByProgram := .ofList
    [("a.v0.prf", [{ name := "b.prf_U" }]), ("a.prf_b.v0.prf", [{ name := "U" }])]

def overlappingRun : Except Failure ExitStatus × Machine toolkit :=
  (makeAll { separately := true, snapshotLevel := 2, compile := false }
    [{ path := "a.prf" }, { path := "a.prf_b.prf" }] []).run (Rehearsal.collaborators .overlapping)
      { host := { store := storeWith ["a.v0.prf", "a.prf_b.v0.prf"] } }

def submitted (machine : Machine toolkit) : List (String × Option String) :=
  machine.calls.filterMap fun
    | .verify (part : Part) key => some (part.name, key)
    | _ => none

end Rehearsal

/-- Units of different names that stem from different files can have the same key. -/
theorem overlappingRun_submitted :
    Rehearsal.overlappingRun.1 = .ok .verified ∧
      Rehearsal.submitted Rehearsal.overlappingRun.2 =
        [("b.prf_U", some "a.prf_b.prf_U"), ("U", some "a.prf_b.prf_U")] :=
  ⟨rfl, rfl⟩

end VerifiedBuild
