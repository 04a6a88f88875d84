import VerifiedBuild.Proofs.Path.Extension
import VerifiedBuild.Proofs.Path.Insertion
import VerifiedBuild.Proofs.Store.Resolution
import VerifiedBuild.Verification

/-!
# The files of units

The printed form of each unit has a file of its own: units with different names have different
files, whatever the configured file or the program is called. A unit whose name has no slash stays
in the directory of the configured file or among the temporary files, and keeps the extension.
-/

namespace VerifiedBuild

variable {host : Host} {config : Config} {programFile unit other : String}

/-! ## What files are named after -/

/-- The file that the files of the units are named after. -/
def dumpFile (host : Host) (config : Config) (programFile : String) : String :=
  config.conditionsFile.getD
    (Path.join (host.temporaryDirectory config.scratchDirectory)
      (Path.withExtension (Path.fileName programFile) "vc"))

def dumpDirectory (host : Host) (config : Config) : String :=
  (config.conditionsFile.map Path.parent).getD (host.temporaryDirectory config.scratchDirectory)

theorem unitFile_eq (host : Host) (config : Config) (programFile unit : String) :
    unitFile host config programFile unit =
      Path.inserting (dumpFile host config programFile) ("_" ++ unit) :=
  rfl

theorem dumpFile_configured {file : String} (configured : config.conditionsFile = some file)
    (host : Host) (programFile : String) : dumpFile host config programFile = file := by
  rw [dumpFile, configured, Option.getD_some]

theorem dumpDirectory_configured {file : String} (configured : config.conditionsFile = some file)
    (host : Host) : dumpDirectory host config = Path.parent file := by
  rw [dumpDirectory, configured, Option.map_some, Option.getD_some]

theorem isPlain_vc : Path.IsPlain "vc" :=
  ⟨by decide, by decide, by decide⟩

theorem dumpFile_unset (unset : config.conditionsFile = none) (host : Host)
    (programFile : String) :
    dumpFile host config programFile =
      Path.join (dumpDirectory host config)
        (Path.fileName (Path.withExtension programFile "vc")) := by
  rw [dumpFile, dumpDirectory, unset, Option.getD_none, Option.map_none, Option.getD_none,
    Path.withExtension_fileName programFile isPlain_vc.slash isPlain_vc.nonempty]

theorem parts_dumpFile (unset : config.conditionsFile = none) (host : Host)
    (named : Path.fileName programFile ≠ "") :
    Path.stem (dumpFile host config programFile) = Path.stem programFile ∧
      Path.extension (dumpFile host config programFile) = ".vc" := by
  obtain ⟨stem, extension⟩ := Path.stem_withExtension named isPlain_vc
  have same : Path.fileName (dumpFile host config programFile) =
      Path.fileName (Path.withExtension programFile "vc") := by
    rw [dumpFile_unset unset]
    exact Path.fileName_join _ (Path.slash_not_mem_fileName _)
  rw [← Path.stem_fileName, ← Path.extension_fileName, same, Path.stem_fileName,
    Path.extension_fileName, stem, extension]
  exact ⟨rfl, rfl⟩

/-! ## The files -/

/-- The name of a unit's file, without its directory. -/
def unitFileName (host : Host) (config : Config) (programFile unit : String) : String :=
  Path.stem (dumpFile host config programFile) ++ ("_" ++ unit) ++
    Path.extension (dumpFile host config programFile)

theorem slash_not_mem_mark (plain : '/' ∉ unit.toList) : '/' ∉ ("_" ++ unit).toList := by
  simp [plain]

theorem unitFile_eq_iff : unitFile host config programFile unit =
    unitFile host config programFile other ↔ unit = other := by
  rw [unitFile_eq, unitFile_eq, Path.inserting_inj (by simp) (by simp), String.append_right_inj]

theorem unitFileName_eq_iff : unitFileName host config programFile unit =
    unitFileName host config programFile other ↔ unit = other := by
  rw [unitFileName, unitFileName, String.append_left_inj, String.append_right_inj,
    String.append_right_inj]

/-- A mark stands in the name, so that it is none of the names with a meaning of their own. -/
theorem mark_mem_unitFileName (host : Host) (config : Config) (programFile unit : String) :
    '_' ∈ (unitFileName host config programFile unit).toList := by
  simp [unitFileName]

theorem liesIn_unitFile (host : Host) (config : Config) (programFile : String)
    (plain : '/' ∉ unit.toList) :
    Store.LiesIn (dumpDirectory host config) (unitFileName host config programFile unit)
      (unitFile host config programFile unit) := by
  have nonempty : unitFileName host config programFile unit ≠ "" := by
    intro empty
    have mark := mark_mem_unitFileName host config programFile unit
    rw [empty] at mark
    exact List.not_mem_nil mark
  have lies : Store.LiesIn (Path.parent (dumpFile host config programFile))
      (unitFileName host config programFile unit) (unitFile host config programFile unit) :=
    Store.liesIn_join _ (Path.slash_not_mem_inserted _ (slash_not_mem_mark plain)) nonempty
  cases configured : config.conditionsFile with
  | some file =>
      rwa [dumpDirectory_configured configured, ← dumpFile_configured configured host programFile]
  | none =>
      refine lies.of_same ?_
      rw [dumpFile_unset configured]
      exact Store.sameDirectory_join _ (Path.slash_not_mem_fileName _)

/-- The file of a unit whose name has no slash: where it is and which extension it has. -/
structure KeepsPlace (host : Host) (config : Config) (programFile unit : String) : Prop where
  directory : Store.LiesIn (dumpDirectory host config)
    (unitFileName host config programFile unit) (unitFile host config programFile unit)
  beside : ∀ file, config.conditionsFile = some file → file.toList.all (· = '/') = false →
    Path.parent (unitFile host config programFile unit) = Path.parent file
  configured : ∀ file, config.conditionsFile = some file → Path.extension file ≠ "" →
    Path.extension (unitFile host config programFile unit) = Path.extension file
  temporary : config.conditionsFile = none → Path.fileName programFile ≠ "" →
    Path.stem (unitFile host config programFile unit) =
      Path.stem programFile ++ ("_" ++ unit) ∧
    Path.extension (unitFile host config programFile unit) = ".vc"

theorem keepsPlace (host : Host) (config : Config) (programFile : String)
    (plain : '/' ∉ unit.toList) : KeepsPlace host config programFile unit := by
  have mark := slash_not_mem_mark plain
  have something : "_" ++ unit ≠ "" := by simp
  constructor
  case directory => exact liesIn_unitFile host config programFile plain
  case beside =>
    intro file configured mixed
    rw [unitFile_eq, dumpFile_configured configured]
    exact Path.parent_inserting mixed mark something
  case configured =>
    intro file configured dotted
    rw [unitFile_eq, dumpFile_configured configured]
    exact (Path.parts_inserting mark something dotted).2
  case temporary =>
    intro unset named
    obtain ⟨stem, extension⟩ := parts_dumpFile unset host named
    have dotted : Path.extension (dumpFile host config programFile) ≠ "" := by
      rw [extension]
      decide
    obtain ⟨inStem, inExtension⟩ := Path.parts_inserting mark something dotted
    rw [unitFile_eq, inStem, inExtension, stem, extension]
    exact ⟨rfl, rfl⟩

/-- Different units have different files. If their names have no slashes, the files are nowhere at the
same place, they are where the configuration says, and they have its extension. -/
theorem unitFile_own (host : Host) (config : Config) (programFile unit other : String) :
    (unitFile host config programFile unit = unitFile host config programFile other ↔
      unit = other) ∧
    ('/' ∉ unit.toList → KeepsPlace host config programFile unit) ∧
    ('/' ∉ unit.toList → '/' ∉ other.toList → unit ≠ other → ∀ (store : Store) place,
      store.resolve (unitFile host config programFile unit) = .ok place →
      store.resolve (unitFile host config programFile other) ≠ .ok place) := by
  refine ⟨unitFile_eq_iff, keepsPlace host config programFile, ?_⟩
  intro plain alsoPlain different store place leads alsoLeads
  have proper (unit : String) : unitFileName host config programFile unit ≠ "." ∧
      unitFileName host config programFile unit ≠ ".." := by
    have mark := mark_mem_unitFileName host config programFile unit
    constructor <;> intro same <;> rw [same] at mark <;> revert mark <;> decide
  have last := (liesIn_unitFile host config programFile plain).getLast?_resolve (proper unit) leads
  have alsoLast :=
    (liesIn_unitFile host config programFile alsoPlain).getLast?_resolve (proper other) alsoLeads
  rw [last] at alsoLast
  exact different (unitFileName_eq_iff.mp (Option.some.inj alsoLast))

/-- Units whose names differ in what could be taken for the mark or an extension. -/
theorem dottedUnit_own :
    let host : Host := { store := .standard }
    let config : Config := { conditionsFile := some "../tmp//.dump.x" }
    '/' ∉ "A.b".toList ∧ '/' ∉ "A_b".toList ∧ "A.b" ≠ "A_b" ∧
      KeepsPlace host config "a.prf" "A.b" ∧
      host.store.resolve (unitFile host config "a.prf" "A.b") = .ok ["tmp", ".dump_A.b.x"] ∧
      host.store.resolve (unitFile host config "a.prf" "A_b") ≠ .ok ["tmp", ".dump_A.b.x"] := by
  intro host config
  have plain : '/' ∉ "A.b".toList := by decide
  have alsoPlain : '/' ∉ "A_b".toList := by decide
  have different : "A.b" ≠ "A_b" := by decide
  have leads : host.store.resolve (unitFile host config "a.prf" "A.b") =
      .ok ["tmp", ".dump_A.b.x"] := by decide +kernel
  obtain ⟨-, keeps, apart⟩ := unitFile_own host config "a.prf" "A.b" "A_b"
  exact ⟨plain, alsoPlain, different, keeps plain, leads,
    apart plain alsoPlain different host.store _ leads⟩

end VerifiedBuild
