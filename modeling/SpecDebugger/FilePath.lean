/-
File paths, compared by their components: repeated and trailing slashes
do not count, nor does a `.` that is not first; `..` stays as it is.
-/
namespace SpecDebugger.FilePath

/-- The parts between slashes, empty ones included. -/
def segments : List Char → List (List Char)
  | [] => [[]]
  | c :: cs =>
    if c = '/' then [] :: segments cs
    else
      match segments cs with
      | [] => [[c]]
      | s :: ss => (c :: s) :: ss

/-- The components of a path. The root of an absolute path is the component
`/`. -/
def components (path : String) : List String :=
  match segments path.toList with
  | [] => []
  | first :: rest =>
    let head :=
      if first = [] then (if rest = [] then [] else [['/']]) else [first]
    (head ++ rest.filter fun s => s != [] && s != ['.']).map String.ofList

/-- Whether two paths have the same components. -/
def same (a b : String) : Bool := components a == components b

/-- Whether the components of `tail` are the last ones of `path`. -/
def endsWith (path tail : String) : Bool :=
  (components tail).isSuffixOf (components path)

/-- The path of a file in a directory. -/
def join (directory name : String) : String :=
  if directory.isEmpty || directory.toList.getLast? = some '/' then
    directory ++ name
  else s!"{directory}/{name}"

/-- The path of the components from its root, or from the first one of a
relative path. -/
def ofComponents (components : List String) : String :=
  match components with
  | "/" :: rest => "/" ++ String.intercalate "/" rest
  | components => String.intercalate "/" components

/-- A path and those of the directories above it, the nearest first. -/
def upward (path : String) : List String :=
  let cs := components path
  (List.range cs.length).reverse.map fun n => ofComponents (cs.take (n + 1))

/-- How long a name in a path may be, in bytes. -/
def nameLimit : Nat := 255

/-- A path is shorter than this, in bytes. -/
def pathLimit : Nat := 4096

@[simp]
theorem endsWith_self (path : String) : endsWith path path = true := by
  simp [endsWith]

/-- Endings are counted in whole components, not in characters. -/
theorem endsWith_iff {path tail : String} :
    endsWith path tail = true ↔ components tail <:+ components path := by
  simp [endsWith]

end SpecDebugger.FilePath
