import VerifiedBuild.Process.Utility.Work
/-!
# Utilities for files

The programs that list, make, copy, move and remove files and change their modes.
-/

namespace VerifiedBuild.Utility

/-! ## Modes -/

/-- Whether a file is executable after a clause of a symbolic mode such as `u+x`. -/
def applyClause (executable : Bool) (clause : List Char) : Option Bool :=
  let who := clause.takeWhile fun c => c ∈ ['u', 'g', 'o', 'a']
  let all := who = [] || who.contains 'a'
  match clause.drop who.length with
  | operator :: permissions =>
      let runs := permissions.contains 'x'
      if permissions.any fun c => !(c ∈ ['r', 'w', 'x', 'X', 's', 't']) then none
      else match operator with
        | '+' => some (executable || runs)
        | '-' => some (executable && !(runs && all))
        | '=' => some (runs || (executable && !all))
        | _ => none
  | [] => none

/-- Whether a file is executable after its mode is changed; nothing if the mode makes no sense. -/
def applyMode (executable : Bool) (mode : String) : Option Bool :=
  let digits := mode.toList
  if digits ≠ [] ∧ digits.all fun c => '0' ≤ c && c < '8' then
    some ((digits.reverse.take 3).any fun c => c.toNat % 2 = 1)
  else (digits.splitOn ',').foldlM applyClause executable

def changeModes (process : Process) : Work Nat :=
  match process.arguments.drop 1 with
  | [] => misuse process "missing operand"
  | [mode] => misuse process ("missing operand after " ++ quote mode)
  | mode :: paths =>
      if (applyMode false mode).isNone then misuse process ("invalid mode: " ++ quote mode)
      else forEach paths fun path => do
        let system ← get
        match system.find path with
        | .error error =>
            warn process (refusal "access" path error)
            return false
        | .ok (place, .file _ executable) =>
            set { system with
              store := system.store.setExecutable place
                ((applyMode executable mode).getD executable) }
            return true
        | .ok _ => return true

/-! ## Listing and making -/

def visibleNames (system : System) (place : Place) (hidden : Bool) : List String :=
  (system.store.children place).filter fun name => hidden || name.toList.head? ≠ some '.'

def listFiles (process : Process) : Work Nat :=
  withOptions process ['1', 'a', 'A', 'd'] fun given operands => do
    let system ← get
    let operands := if operands = [] then ["."] else operands
    let found := operands.map fun path => (path, system.find path)
    let missing := found.filter fun (_, entry) => !entry.isOk
    missing.forM fun (path, entry) => match entry with
      | .error error => warn process (refusal "access" path error)
      | .ok _ => pure ()
    let directories := found.filterMap fun (path, entry) => match entry with
      | .ok (place, .directory) => if given.contains 'd' then none else some (path, place)
      | _ => none
    let files := found.filterMap fun (path, entry) => match entry with
      | .ok (_, .directory) => if given.contains 'd' then some path else none
      | .ok _ => some path
      | .error _ => none
    let lines := fun (names : List String) => String.join (names.map (· ++ "\n"))
    let listing := fun (place : Place) =>
      let hidden := given.contains 'a' || given.contains 'A'
      let names := (visibleNames system place hidden).map narrowed
      lines (if given.contains 'a' then "." :: ".." :: names else names)
    let sections := directories.map fun (path, place) =>
      if operands.length = 1 then listing place else path ++ ":\n" ++ listing place
    let all := if files = [] then sections
      else lines (files.mergeSort fun first second => decide (first ≤ second)) :: sections
    print process (if missing = [] then 0 else 2) (String.intercalate "\n" all)

def makeDirectory (parents : Bool) (path : String) (system : System) :
    Except FileError System :=
  let wide := widened path
  if parents then
    match system.store.find wide with
    | .ok (_, .directory) => .ok system
    | .ok _ => .error .fileExists
    | .error _ => .ok { system with store := system.store.put wide .directory }
  else match system.store.find wide with
    | .ok _ => .error .fileExists
    | .error _ => do
        let place ← system.store.resolve wide
        return { system with store := system.store.set place .directory }

def makeDirectories (process : Process) : Work Nat :=
  withOptions process ['p'] fun given operands => do
    if operands = [] then misuse process "missing operand"
    else forEach operands fun path => do
      match makeDirectory (given.contains 'p') path (← get) with
      | .ok system =>
          set system
          return true
      | .error error =>
          warn process (refusal "create directory" path error)
          return false

def touchFiles (process : Process) : Work Nat :=
  withOptions process ['c'] fun given operands => do
    if operands = [] then misuse process "missing file operand"
    else forEach operands fun path => do
      let system ← get
      if (system.find path).isOk ∨ given.contains 'c' then return true
      match system.store.openForWriting (widened path) with
      | .ok (store, _) =>
          set { system with store }
          return true
      | .error error =>
          warn process (refusal "touch" path error)
          return false

/-! ## Copying and moving -/

/-- Where a file goes: into a directory under its own name, else to the path given. -/
def destination (system : System) (source target : String) : String :=
  match system.find target with
  | .ok (_, .directory) =>
      if target.toList.getLast? = some '/' then target ++ lastComponent source
      else target ++ "/" ++ lastComponent source
  | _ => target

def copyTree (system : System) (source target : Place) : System :=
  let below := system.store.entries.filter fun entry => source.isPrefixOf entry.1
  { system with
    store := below.foldl (fun store (place, node) =>
      store.set (target ++ place.drop source.length) node) system.store }

/-- Copy one file over another or to a new name. A file that is there keeps its mode. -/
def copyNode (system : System) (node : Node) (target : String) : Except FileError System := do
  let wide := widened target
  let fresh := !(system.store.find wide).isOk
  let (store, place) ← system.store.openForWriting wide
  let after := match node, store.lookup place with
    | .file content executable, some (.file _ before) =>
        store.set place (.file content (if fresh then executable else before))
    | _, some (.device _) => store
    | node, _ => store.set place node
  return { system with store := after }

/-- Copy what a path names. The result is what to complain about. -/
def copyOne (recursive : Bool) (source target : String) (system : System) :
    Except String System :=
  let goal := destination system source target
  match system.find source with
  | .error error => .error (refusal "stat" source error)
  | .ok (place, .directory) =>
      if !recursive then .error ("-r not specified; omitting directory " ++ quote source)
      else match system.store.resolve (widened goal) with
        | .ok other => .ok (copyTree system place other)
        | .error error => .error (refusal "create directory" goal error)
  | .ok (place, node) =>
      match system.find goal with
      | .ok (other, _) =>
          if other = place then
            .error (quote source ++ " and " ++ quote goal ++ " are the same file")
          else copyTo node goal
      | .error _ => copyTo node goal
where
  copyTo (node : Node) (goal : String) : Except String System :=
    match copyNode system node goal with
    | .ok after => .ok after
    | .error error => .error (refusal "create regular file" goal error)

/-- Move what a path names. The result is what to complain about. -/
def moveOne (source target : String) (system : System) : Except String System :=
  let goal := destination system source target
  let deed := "cannot move " ++ quote source ++ " to " ++ quote goal ++ ": "
  match system.find source with
  | .error error => .error (refusal "stat" source error)
  | .ok (place, node) =>
      match system.store.resolve (widened goal) with
      | .error error => .error (deed ++ error.message)
      | .ok other =>
          if other = place then
            .error (quote source ++ " and " ++ quote goal ++ " are the same file")
          else match node, system.store.lookup other with
            | .directory, some (.file _ _) =>
                .error ("cannot overwrite non-directory " ++ quote goal ++ " with directory " ++
                  quote source)
            | _, some (.utility _) | _, some (.device _) =>
                .error (deed ++ FileError.permissionDenied.message)
            | _, _ => .ok { system with store := system.store.rename place other }

/-- Hand each source over to `work`; of several, the target must be a directory. -/
def transfer (process : Process) (operands : List String)
    (work : String → String → System → Except String System) : Work Nat := do
  match operands, operands.getLast? with
  | [], _ | _, none => misuse process "missing file operand"
  | [only], _ => misuse process ("missing destination file operand after " ++ quote only)
  | _, some target =>
      let system ← get
      let sources := operands.dropLast
      let problem := match system.find target with
        | .ok (_, .directory) => none
        | .ok _ => some FileError.notDirectory
        | .error error => some error
      match sources, problem with
      | _ :: _ :: _, some error =>
          misuse process ("target " ++ quote target ++ ": " ++ error.message)
      | _, _ => forEach sources fun source => do
          match work source target (← get) with
          | .ok after =>
              set after
              return true
          | .error text =>
              warn process text
              return false

def copyFiles (process : Process) : Work Nat :=
  withOptions process ['f', 'p', 'r', 'R', 'a'] fun given operands =>
    transfer process operands
      (copyOne (given.contains 'r' || given.contains 'R' || given.contains 'a'))

def moveFiles (process : Process) : Work Nat :=
  withOptions process ['f'] fun _ operands => transfer process operands moveOne

/-! ## Removing -/

def removeFiles (process : Process) : Work Nat :=
  withOptions process ['f', 'r', 'R'] fun given operands => do
    let force := given.contains 'f'
    if operands = [] then
      if force then return 0 else misuse process "missing operand"
    else forEach operands fun path => do
      let system ← get
      let refuse := fun error => do
        warn process (refusal "remove" path error)
        return false
      match system.find path with
      | .error error => if force ∧ Store.isMissing error then return true else refuse error
      | .ok (place, node) =>
          if node = .directory ∧ !given.contains 'r' ∧ !given.contains 'R' then refuse .isDirectory
          else
            set { system with store := system.store.removePlace place }
            return true

def removeDirectories (process : Process) : Work Nat :=
  withOptions process [] fun _ operands => do
    if operands = [] then misuse process "missing operand"
    else forEach operands fun path => do
      let system ← get
      let refuse := fun (error : FileError) => do
        warn process ("failed to remove " ++ quote path ++ ": " ++ error.message)
        return false
      match system.find path with
      | .error error => refuse error
      | .ok (place, .directory) =>
          if !system.store.isEmptyDirectory place then refuse .notEmpty
          else
            set { system with store := system.store.removePlace place }
            return true
      | .ok _ => refuse .notDirectory

end VerifiedBuild.Utility
