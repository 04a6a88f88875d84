/-!
# Path names

Names of files are texts with components between slashes. Everything here looks at the text only and
never at a file: no component is resolved, `.` and `..` are kept, repeated slashes stay.

The *file name* is what follows the last slash. It splits into *stem* and *extension* at its last
dot, unless that dot is its first character or the name is `.` or `..`; the extension holds the dot.
-/

namespace VerifiedBuild.Path

/-! ## Character lists -/

def nameChars (path : List Char) : List Char :=
  (path.reverse.takeWhile (· ≠ '/')).reverse

def directoryChars (path : List Char) : List Char :=
  (path.reverse.dropWhile (· ≠ '/')).reverse

theorem directoryChars_append_nameChars (path : List Char) :
    directoryChars path ++ nameChars path = path := by
  rw [directoryChars, nameChars, ← List.reverse_append, List.takeWhile_append_dropWhile,
    List.reverse_reverse]

def splitExtension (name : List Char) : List Char × List Char :=
  if name = ['.', '.'] then (name, [])
  else match name.reverse.dropWhile (· ≠ '.') with
    | '.' :: first :: before =>
        ((first :: before).reverse, '.' :: (name.reverse.takeWhile (· ≠ '.')).reverse)
    | _ => (name, [])

def dropTrailingSlashes (path : List Char) : List Char :=
  (path.reverse.dropWhile (· = '/')).reverse

/-! ## Parts of a name -/

/-- The last component; empty when the path ends with a slash. -/
def fileName (path : String) : String :=
  String.ofList (nameChars path.toList)

/-- The path of the directory that holds the file: `/` for a file of the root directory, and a path
of slashes alone is its own parent. -/
def parent (path : String) : String :=
  if path.toList.all (· = '/') then path
  else match directoryChars path.toList with
    | [] => ""
    | directory => match dropTrailingSlashes directory with
        | [] => "/"
        | trimmed => String.ofList trimmed

def stem (path : String) : String :=
  String.ofList (splitExtension (nameChars path.toList)).1

/-- The last dot of the file name and what follows it, or nothing. -/
def extension (path : String) : String :=
  String.ofList (splitExtension (nameChars path.toList)).2

def lowercaseExtension (path : String) : String :=
  String.ofList ((splitExtension (nameChars path.toList)).2.map Char.toLower)

/-! ## Building names -/

/-- The path `name`, read from the directory `directory`: an absolute `name` stands for itself. -/
def join (directory name : String) : String :=
  if name.toList.head? = some '/' ∨ directory = "" then name
  else if directory.toList.getLast? = some '/' then directory ++ name
  else directory ++ "/" ++ name

/-- The path with another extension, given without its dot; the empty one takes the extension off.
-/
def withExtension (path ext : String) : String :=
  String.ofList (directoryChars path.toList ++ (splitExtension (nameChars path.toList)).1) ++
    (if ext = "" then "" else "." ++ ext)

def inserting (path insert : String) : String :=
  join (parent path) (stem path ++ insert ++ extension path)

/-- The path of the file that belongs to one of several units: `<parent>/<stem>_<unit><extension>`.
-/
def forUnit (path unit : String) : String :=
  inserting path ("_" ++ unit)

def snapshot (path : String) (version : Int) : String :=
  inserting path (".v" ++ toString version)

theorem stem_append_extension (path : String) : stem path ++ extension path = fileName path := by
  apply String.toList_inj.mp
  simp only [stem, extension, fileName, String.toList_append, String.toList_ofList]
  generalize nameChars path.toList = name
  rw [splitExtension]
  split
  · simp
  · split
    · rename_i first before located
      have recombine := List.takeWhile_append_dropWhile (p := (· ≠ '.')) (l := name.reverse)
      rw [located] at recombine
      have := congrArg List.reverse recombine
      simpa using this
    · simp

end VerifiedBuild.Path
