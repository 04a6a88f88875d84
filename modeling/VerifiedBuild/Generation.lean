import VerifiedBuild.Job
/-!
# Code generation

What happens to a program after verification: whether code is generated for it, where the code goes,
and whether it is built and run.
-/

namespace VerifiedBuild

variable {K : Toolkit}

/-! ## Modes and results -/

inductive CodeMode where
  | nothing
  | codeOnly
  | build
deriving DecidableEq, Repr, Inhabited

/-- The mode for a program with the given outcome and verdict. Code is built for verified whole
programs or by force. Where it is not, a spill level of two or more has it written all the same. -/
def CodeMode.select (outcome : Outcome) (verified : Bool) (config : Config) :
    CodeMode :=
  let accepted := verified && config.isUnrestricted
  match outcome with
  | .solved =>
      if config.compile && accepted || config.force then .build
      else if (config.spillLevel ≥ 2 && accepted) || config.spillLevel ≥ 3 then .codeOnly
      else .nothing
  | .done =>
      if config.force then .build
      else if config.spillLevel ≥ 3 then .codeOnly
      else .nothing
  | _ => .nothing

inductive CodeStatus where
  /-- Nothing was generated. -/
  | notAsked
  /-- Code was generated, and maybe written, but not built. -/
  | kept
  /-- The program was built, and ran without fault if that was asked for. -/
  | made
  /-- The program was built and its run was cut short. -/
  | runFailed
  /-- Generation reported errors and nothing was built. -/
  | incomplete
  /-- The compiler rejected the program. -/
  | rejected
  /-- A file could not be written. -/
  | unwritten
deriving DecidableEq, Repr, Inhabited

namespace CodeStatus

def isFulfilled : CodeStatus → Bool
  | .notAsked | .kept | .made | .runFailed => true
  | .incomplete | .rejected | .unwritten => false

end CodeStatus

/-- What became of the generated code, and the file that holds it or what was built from it. -/
structure CodeResult where
  status : CodeStatus := .notAsked
  artifact : String := ""
deriving DecidableEq, Repr, Inhabited

/-! ## Building -/

/-- The directory of generated files; the working directory for a bare file name. -/
def directoryOf (path : String) : String :=
  if Path.parent path = "" then "." else Path.parent path

def provideCollections (config : Config) (basePath : String) : Job K Bool := do
  let source := collectionsLibrary config
  let directory := directoryOf basePath
  let destination := Path.join directory (Path.fileName source)
  let host ← Job.look
  let error ←
    if host.store.sameEntry source destination then pure none
    else Job.request (.copyFile source destination)
  match error with
  | some (reason : FileError) =>
      Job.errorLine ("proofc: failed to copy optimize dependency " ++ source ++ " to " ++
        directory ++ ": " ++ reason.message)
      pure false
  | none =>
      Job.writeLine ("Copied optimize dependency " ++ Path.fileName source ++ " to " ++ directory)
      pure true

def runBuilt (output : String) : Job K CodeResult := do
  Job.writeLine "Program compiled successfully"
  Job.writeLine "Running..."
  Job.writeLine ""
  match ← Job.timed .run (Job.call (.run output)) with
  | .exited code =>
      if code ≠ 0 then Job.writeLine ("Program exited with code " ++ toString code)
      pure ⟨.made, output⟩
  | .signaled _ detail | .notLaunched detail =>
      Job.errorLine ("Error: Execution resulted in exception: " ++ detail)
      pure ⟨.runFailed, output⟩

/-- The file that is built: beside the program, or among the temporary files if it is only run. -/
def outputPath (host : Host) (config : Config) (hasEntryPoint : Bool) (basePath : String) :
    String :=
  let output := (Product.ofEntryPoint hasEntryPoint).productPath basePath
  if config.runAfterwards then
    Path.join (host.temporaryDirectory config.scratchDirectory) (Path.fileName output)
  else output

def buildProduct (config : Config) (codePath : String) (hasEntryPoint : Bool) (basePath : String)
    (others : List Source) : Job K CodeResult := do
  let output := outputPath (← Job.look) config hasEntryPoint basePath
  let shown := Path.fileName output
  let plan := BuildPlan.make codePath hasEntryPoint output others config
  let built : BuildReport ← Job.timed .build (Job.call (.build plan))
  if !built.ok then
    Job.errorLine ("Errors compiling program into " ++ shown)
    Job.errorLines (built.errors.flatMap fun error => [error, ""])
    pure ⟨.rejected, output⟩
  else
    Job.countOne "native.builds"
    Job.errorLines built.warnings
    if config.runAfterwards then
      if hasEntryPoint then runBuilt output else pure ⟨.made, output⟩
    else
      Job.writeLine ("Compiled assembly into " ++ shown)
      if config.optimize then
        if ← provideCollections config basePath then pure ⟨.made, output⟩
        else pure ⟨.unwritten, output⟩
      else pure ⟨.made, output⟩

/-! ## Generating -/

structure Generated where
  hasEntryPoint : Bool
  text : String
  complete : Bool
deriving DecidableEq, Repr, Inhabited

/-- Generate code for a program. It is complete if generation adds no error to those reported. -/
def generate (target : Target) (program : K.Program) : Job K Generated := do
  let before ← Job.errorCount
  let (hasEntryPoint, text) ← Job.timed .generate do
    let hasEntryPoint ← Job.call (.hasEntryPoint target program)
    let text ← Job.call (.generate target program)
    pure (hasEntryPoint, text)
  let after ← Job.errorCount
  pure { hasEntryPoint, text, complete := after = before }

def storeCode (path text : String) : Job K Bool := do
  match ← Job.request (.saveFile path text) with
  | some (error : WriteError) =>
      Job.errorLine ("proofc: " ++ error.message)
      pure false
  | none => pure true

def keepsTarget (config : Config) (others : List Source) (wantsBuild : Bool) : Bool :=
  config.spillLevel > 0 || !others.isEmpty || (!config.target.isCompiled && wantsBuild)

def temporaryTarget (host : Host) (config : Config) (basePath : String) : String :=
  Path.join (host.temporaryDirectory config.scratchDirectory)
    (Path.fileName (Path.withExtension basePath config.target.extension))

def targetNotice (path : String) (complete : Bool) : String :=
  if complete then "Compiled program written to " ++ Path.fileName path
  else "File " ++ Path.fileName path ++ " contains the partially compiled program"

/-- What is done with generated code once it is kept, if it is: `kept` is the file that holds it. -/
def finishGenerated (config : Config) (basePath : String) (others : List Source)
    (wantsBuild : Bool) (generated : Generated) (kept : Option String) :
    Job K CodeResult := do
  let artifact := kept.getD ""
  if !generated.complete then
    pure ⟨if wantsBuild then .incomplete else .kept, artifact⟩
  else if !wantsBuild then pure ⟨.kept, artifact⟩
  else if !config.target.isCompiled then pure ⟨.made, artifact⟩
  else match kept with
    | some path => buildProduct config path generated.hasEntryPoint basePath others
    | none =>
        let path := temporaryTarget (← Job.look) config basePath
        if ← storeCode path generated.text then
          buildProduct config path generated.hasEntryPoint basePath others
        else pure ⟨.unwritten, ""⟩

def generateCode (config : Config) (program : K.Program) (basePath : String)
    (others : List Source) (wantsBuild : Bool) : Job K CodeResult := do
  let provided : Bool ← Job.call (.provides config.target)
  if !provided then
    Job.errorLine ("Error: the toolchain provides no " ++ config.target.extension ++
      " code generator")
    pure ⟨.rejected, ""⟩
  else
    let generated ← generate config.target program
    if keepsTarget config others wantsBuild then
      let path := Path.withExtension basePath config.target.extension
      if ← storeCode path generated.text then
        Job.writeLine (targetNotice path generated.complete)
        finishGenerated config basePath others wantsBuild generated (some path)
      else pure ⟨.unwritten, ""⟩
    else finishGenerated config basePath others wantsBuild generated none

def concludeProgram (config : Config) (outcome : Outcome) (byUnit : NameMap Statistics)
    (program : K.Program) (verified : Bool) (fileName : String) (others : List Source) :
    Job K CodeResult := do
  if !outcome.isFinished then pure {}
  else
    Job.write (Statistics.total byUnit).trailer
    match CodeMode.select outcome verified config with
    | .build => generateCode config program fileName others true
    | .codeOnly => generateCode config program fileName others false
    | .nothing => pure {}

end VerifiedBuild
