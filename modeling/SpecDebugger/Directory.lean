/-
Files in memory, below the directory in which relative paths start. On
the way along a path every component but the last leads to a directory,
so that `file/.` and `file/../other` lead nowhere; a `..` goes back to
the directory above, and from the root to the root. No file in memory is
a program.
-/
import SpecDebugger.FilePath
import SpecDebugger.PathFault

namespace SpecDebugger

/-- Files by the components of their absolute paths. The directories are those
that lead to a file, to the starting place, or to a directory that was made. -/
structure Directory where
  /-- Where relative paths start. -/
  place : List String
  files : List (List String × List UInt8) := []
  made : List (List String) := []

namespace Directory

-- ========================================================== places

/-- Whether a file is at a place. -/
def isFile (d : Directory) (place : List String) : Bool :=
  (d.files.lookup place).isSome

/-- Whether a directory is at a place. -/
def isDirectory (d : Directory) (place : List String) : Bool :=
  place.isPrefixOf d.place || d.made.any place.isPrefixOf ||
    d.files.any fun (file, _) => file != place && place.isPrefixOf file

/-- Where a path starts, and its components, which may be empty, `.` or
`..`. -/
def start (d : Directory) (path : String) : List String × List String :=
  let components := (FilePath.segments path.toList).map String.ofList
  (if ['/'].isPrefixOf path.toList then [] else d.place, components)

/-- The place that a component leads to. -/
def enter (place : List String) (component : String) : List String :=
  if component = "" ∨ component = "." then place
  else if component = ".." then place.dropLast
  else place ++ [component]

/-- Goes along a component, which is looked up in a directory. -/
def step (d : Directory) (place : List String) (component : String) :
    Except PathFault (List String) :=
  if d.isFile place then .error .notDirectory
  else if !d.isDirectory place then .error .notFound
  else if FilePath.nameLimit < component.utf8ByteSize then .error .nameTooLong
  else .ok (enter place component)

/-- Goes along components. -/
def walk (d : Directory) (place : List String) :
    List String → Except PathFault (List String)
  | [] => .ok place
  | component :: rest => do d.walk (← d.step place component) rest

/-- The place that a path leads to, whatever is there. -/
def resolve (d : Directory) (path : String) : Except PathFault (List String) :=
  if path.isEmpty then .error .notFound
  else if FilePath.pathLimit ≤ path.utf8ByteSize then .error .nameTooLong
  else
    let (origin, components) := d.start path
    d.walk origin components

-- =========================================================== files

/-- The bytes of a file. -/
def read (d : Directory) (path : String) : Except PathFault (List UInt8) := do
  let place ← d.resolve path
  match d.files.lookup place with
  | some bytes => .ok bytes
  | none => .error (if d.isDirectory place then .isDirectory else .notFound)

/-- Adds a file. -/
def put (d : Directory) (path : String) (bytes : List UInt8) : Directory :=
  let (origin, components) := d.start path
  { d with files := (components.foldl enter origin, bytes) :: d.files }

/-- Makes the directories that components lead to, where they are missing. -/
def makeAll (d : Directory) (place : List String) :
    List String → Except PathFault Directory
  | [] => .ok d
  | component :: rest => do
    let next ← d.step place component
    if d.isDirectory next then makeAll d next rest
    else if d.isFile next then
      .error (if rest.isEmpty then .taken else .notDirectory)
    else makeAll { d with made := next :: d.made } next rest

/-- Makes a directory with those that lead to it. -/
def make (d : Directory) (path : String) : Except PathFault Directory :=
  if FilePath.pathLimit ≤ path.utf8ByteSize then .error .nameTooLong
  else
    let (origin, components) := d.start path
    d.makeAll origin components

-- ======================================================== programs

/-- Why there is no program at a path. -/
def runFaultAt (d : Directory) (path : String) : PathFault :=
  match d.resolve path with
  | .error fault => fault
  | .ok place =>
    if d.isFile place || d.isDirectory place then .denied else .notFound

/-- Why the program of a name cannot be run. A name with a slash is a path; any
other is looked for in the directories of `searched`, and is denied if it is in
one of them. -/
def runFault (d : Directory) (searched : List String) (name : String) :
    PathFault :=
  if name.toList.contains '/' then d.runFaultAt name
  else if name.isEmpty then .notFound
  else if FilePath.nameLimit < name.utf8ByteSize then .nameTooLong
  else if searched.any fun s =>
      d.runFaultAt (FilePath.join s name) = .denied then .denied
  else .notFound

end Directory

end SpecDebugger
