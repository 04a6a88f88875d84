import VerifiedBuild.Store.Write
/-!
# The host

The system a run takes place on: its environment variables and its files.
-/

namespace VerifiedBuild

structure Host where
  environment : NameMap String := NameMap.empty
  store : Store
  /-- The directory that holds the program itself. -/
  programDirectory : String := "."
deriving DecidableEq, Repr, Inhabited

def utilityNames : List String :=
  ["[", "basename", "bash", "cat", "chmod", "cp", "dash", "dirname", "echo", "env", "false",
    "head", "ls", "mkdir", "mv", "printenv", "printf", "pwd", "rm", "rmdir", "seq", "sh",
    "sleep", "tail", "tee", "test", "touch", "true", "wc"]

def programDirectories : List Place := [["bin"], ["usr", "bin"]]

/-- A system with the usual programs and devices, a directory for temporary files and an empty
working directory. -/
def Store.standard : Store where
  entries :=
    ["bin", "dev", "tmp", "usr", "work"].map (fun name => ([name], .directory)) ++
      (["usr", "bin"], .directory) :: (["dev", "null"], .device .null) ::
      (["dev", "full"], .device .full) :: programDirectories.flatMap fun directory =>
        utilityNames.map fun name => (directory ++ [name], .utility name)
  workingDirectory := ["work"]

/-- Where programs are looked up by name unless the environment says otherwise. -/
def standardPath : String := "/usr/local/sbin:/usr/local/bin:/usr/sbin:/usr/bin:/sbin:/bin"

namespace Host

/-- The variables that may name the directory for temporary files, the first one set counts. -/
def temporaryVariables : List String := ["TMPDIR", "TMP", "TEMP", "TEMPDIR"]

def fallbackTemporary : String := "/tmp"

/-- The directory for temporary files: the one asked for if any, else that of the environment. -/
def temporaryDirectory (host : Host) (requested : String) : String :=
  if requested ≠ "" then requested
  else
    let named := (temporaryVariables.findSome? host.environment.find?).getD fallbackTemporary
    if host.store.isDirectory named then named else fallbackTemporary

end Host

end VerifiedBuild
