import VerifiedBuild.Path
/-!
# Source files

The files named on a command line: proof programs, and native sources and libraries that are
compiled and linked along with the generated code. The extension of a file, whatever the case of its
letters, says which it is.
-/

namespace VerifiedBuild

inductive SourceRole where
  | program
  | nativeCode
  | nativeLibrary
deriving DecidableEq, Repr, Inhabited

structure Source where
  path : String
  role : SourceRole := .program
deriving DecidableEq, Repr, Inhabited

def SourceRole.ofExtension? (extension : String) : Option SourceRole :=
  if extension = ".prf" then some .program
  else if extension = ".cc" ∨ extension = ".cpp" then some .nativeCode
  else if extension = ".a" ∨ extension = ".so" then some .nativeLibrary
  else none

def SourceRole.ofPath? (path : String) : Option SourceRole :=
  SourceRole.ofExtension? (Path.lowercaseExtension path)

def Source.programs (paths : List String) : List Source :=
  paths.map fun path => { path }

end VerifiedBuild
