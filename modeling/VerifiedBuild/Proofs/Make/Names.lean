import VerifiedBuild.Proofs.Make.Places
import VerifiedBuild.Proofs.Verification.Files

/-!
# Names that belong together

Generated code, products and the files of units are named after a program in ways of their own, each
with another extension and some in another directory. They all have the stem of the program.
-/

namespace VerifiedBuild

variable {path ext : String}

/-- What another extension changes. -/
structure Path.Extends (path ext : String) : Prop where
  parent : Path.parent (Path.withExtension path ext) = Path.parent path
  stem : Path.stem (Path.withExtension path ext) = Path.stem path
  extension : Path.extension (Path.withExtension path ext) = "." ++ ext
  fileName : Path.fileName (Path.withExtension path ext) =
    Path.withExtension (Path.fileName path) ext
  again : ∀ last, Path.withExtension (Path.withExtension path ext) last =
    Path.withExtension path last

theorem Path.extends_of_isPlain (named : Path.fileName path ≠ "") (plain : Path.IsPlain ext) :
    Path.Extends path ext where
  parent := Path.parent_withExtension named plain.slash plain.nonempty
  stem := (Path.stem_withExtension named plain).1
  extension := (Path.stem_withExtension named plain).2
  fileName := (Path.withExtension_fileName path plain.slash plain.nonempty).symm
  again := Path.withExtension_withExtension named plain

/-- Whatever is named after a program has its stem: generated code beside it or among the temporary
files, products, and what the files of units are named after, which have the mark behind it. -/
structure SharesStem (host : Host) (config : Config) (path : String) : Prop where
  target : Path.stem (Path.withExtension path config.target.extension) = Path.stem path
  temporaryTarget : Path.stem (temporaryTarget host config path) = Path.stem path
  product : ∀ hasEntryPoint,
    Path.stem (outputPath host config hasEntryPoint path) = Path.stem path
  dump : config.conditionsFile = none →
    Path.stem (dumpFile host config (Path.fileName path)) = Path.stem path
  unit : config.conditionsFile = none → ∀ unit : String, '/' ∉ unit.toList →
    Path.stem (unitFile host config (Path.fileName path) unit) = Path.stem path ++ ("_" ++ unit)

theorem sharesStem (host : Host) (config : Config) (named : Path.fileName path ≠ "") :
    SharesStem host config path := by
  have plain := isPlain_target config.target
  have alsoNamed : Path.fileName (Path.fileName path) ≠ "" := by rwa [Path.fileName_fileName]
  constructor
  case target => exact (Path.stem_withExtension named plain).1
  case temporaryTarget =>
    exact (Path.parts_of_fileName (fileName_temporaryTarget host config path)
      (Path.stem_ne_empty named) plain.dot plain.nonempty).1
  case product =>
    intro hasEntryPoint
    exact (parts_outputPath host config hasEntryPoint named).1
  case dump =>
    intro unset
    rw [(parts_dumpFile unset host alsoNamed).1, Path.stem_fileName]
  case unit =>
    intro unset unit slash
    rw [((keepsPlace host config (Path.fileName path) slash).temporary unset alsoNamed).1,
      Path.stem_fileName]

/-- Another extension is all that changes, the present one does not matter for it, and it can be
given to the path or to its file name. So all names derived from one program agree in their stem. -/
theorem withExtension_lawful (host : Host) (config : Config) (path : String)
    (named : Path.fileName path ≠ "") :
    (∀ ext, Path.IsPlain ext → Path.Extends path ext) ∧ SharesStem host config path :=
  ⟨fun _ plain => Path.extends_of_isPlain named plain, sharesStem host config named⟩

/-- The name is hidden, has several dots and ends with one. -/
theorem dottedPath_lawful :
    Path.fileName "a/..//.x.tar." ≠ "" ∧ Path.IsPlain "cpp" ∧
      Path.withExtension "a/..//.x.tar." "cpp" = "a/..//.x.tar.cpp" ∧
      Path.Extends "a/..//.x.tar." "cpp" ∧ Path.stem "a/..//.x.tar." = ".x.tar" ∧
      SharesStem { store := .standard } { runAfterwards := true } "a/..//.x.tar." := by
  have named : Path.fileName "a/..//.x.tar." ≠ "" := by decide +kernel
  have plain : Path.IsPlain "cpp" := isPlain_target .cpp
  obtain ⟨lawful, shares⟩ :=
    withExtension_lawful { store := .standard } { runAfterwards := true } "a/..//.x.tar." named
  exact ⟨named, plain, by decide +kernel, lawful "cpp" plain, by decide +kernel, shares⟩

/-- A path without a file name gains one, so that a second extension comes after the first. -/
example : Path.withExtension (Path.withExtension "d/" "a") "b" = "d/.a.b" := by
  decide +kernel

end VerifiedBuild
