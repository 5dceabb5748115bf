/-
The index of a generated program: its properties, checked once when the
index is built, and a table of their names. Building fails on the first
fault, property by property: a name that differs from an earlier one in
case at most, a scope that is empty or not nested, a marker outside its
scope, a memoization range outside the body.
-/
import SpecDebugger.FilePath
import SpecDebugger.GenLocation
import SpecDebugger.Index.Property
import SpecDebugger.Text.LowerCase

namespace SpecDebugger

/-- Positions in a list of properties under lower-cased names, the latest entry
first. -/
abbrev NameTable := List (String × Nat)

/-- The index of a generated program. -/
structure Index where
  /-- The generated file that line numbers refer to. -/
  filename : String
  /-- The properties, in the order they are recorded. -/
  properties : List Property
  /-- Where each of them is, by its name. -/
  names : NameTable

namespace Index

/-- Why there is no index. -/
inductive Fault where
  /-- The text is no record of an index. -/
  | malformed
  | duplicateName (name : String)
  | emptyScope (lines : LineRange) (owner : String)
  | escapingScope (lines : LineRange) (owner : String) (parent : LineRange)
  | strayMarker (line : Nat) (owner : String) (scope : LineRange)
  | strayMemoization (lines : LineRange) (name : String)
deriving DecidableEq, Repr

/-- What the user is told. -/
def Fault.message : Fault → String
  | .malformed => "malformed debug info"
  | .duplicateName name => s!"duplicate property name in debug info: {name}"
  | .emptyScope lines owner =>
    s!"scope {lines} of {owner} has an empty line range"
  | .escapingScope lines owner parent =>
    s!"scope {lines} of {owner} escapes its parent {parent}"
  | .strayMarker line owner scope =>
    s!"expression marker at line {line} of {owner} lies outside scope {scope}"
  | .strayMemoization lines name =>
    s!"memoization lookup {lines} of {name} is outside its body"

-- ==================================================== validation

/-- Refuses a range without lines. -/
def checkLines (owner : String) (lines : LineRange) : Except Fault Unit :=
  if lines.last < lines.first then .error (.emptyScope lines owner) else .ok ()

mutual

/-- Checks an event directly held by a scope on the lines `parent`. -/
def checkEvent (owner : String) (parent : LineRange) :
    Event → Except Fault Unit
  | .scope lines _ events =>
    if parent.encloses lines then do
      checkLines owner lines
      checkEvents owner lines events
    else .error (.escapingScope lines owner parent)
  | .marker m =>
    if parent.contains m.line then .ok ()
    else .error (.strayMarker m.line owner parent)

/-- Checks the events of a scope on the lines `parent`, in order. -/
def checkEvents (owner : String) (parent : LineRange) :
    List Event → Except Fault Unit
  | [] => .ok ()
  | e :: es => do
    checkEvent owner parent e
    checkEvents owner parent es

end

/-- Checks the body of a property. -/
def checkProperty (p : Property) : Except Fault Unit := do
  checkLines p.name p.lines
  checkEvents p.name p.lines p.events
  match p.memoization with
  | none => pure ()
  | some lines =>
    if p.lines.encloses lines then pure ()
    else throw (.strayMemoization lines p.name)

/-- Checks properties in order and enters them in a table, the first one under
the position `i`. A name that the table has already is refused. -/
def checkProperties (table : NameTable) (i : Nat) :
    List Property → Except Fault NameTable
  | [] => .ok table
  | p :: ps => do
    let name := Text.lower p.name
    if (table.lookup name).isSome then throw (.duplicateName p.name)
    checkProperty p
    checkProperties ((name, i) :: table) (i + 1) ps

/-- The index of a file with the given properties, if they are well formed. -/
def build (filename : String) (properties : List Property) :
    Except Fault Index := do
  let names ← checkProperties [] 0 properties
  pure { filename, properties, names }

-- ======================================================= lookups

/-- The property of a name, in any case. -/
def findByName? (ix : Index) (name : String) : Option Property := do
  let i ← ix.names.lookup (Text.lower name)
  ix.properties[i]?

/-- The first property whose body contains a line. -/
def findByLine? (ix : Index) (line : Nat) : Option Property :=
  ix.properties.find? fun p => p.lines.contains line

/-- Whether a path designates the generated file: it is the recorded one, or
one of them ends with the other. -/
def isGeneratedFile (ix : Index) (path : String) : Bool :=
  FilePath.same path ix.filename || FilePath.endsWith path ix.filename ||
    FilePath.endsWith ix.filename path

/-- A line of the generated file. -/
def location (ix : Index) (line : Nat) : GenLocation := ⟨ix.filename, line⟩

/-- What is found under a name is recorded in the index. -/
theorem mem_of_findByName? {ix : Index} {name : String} {p : Property}
    (h : ix.findByName? name = some p) : p ∈ ix.properties := by
  obtain ⟨i, -, hp⟩ := Option.bind_eq_some_iff.mp h
  exact List.mem_of_getElem? hp

end Index

end SpecDebugger
