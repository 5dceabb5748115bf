/-
A debugger in memory, for dry runs: a paused program with variables, a
table of breakpoints, and the locations that the program will go
through. Resuming follows that path to the first location with a
breakpoint; at its end the program exits.
-/
import SpecDebugger.Debugger.Basic
import SpecDebugger.Debugger.Condition
import SpecDebugger.Text.LowerCase

namespace SpecDebugger

/-- A breakpoint of the debugger in memory. -/
structure Breakpoint where
  location : GenLocation
  condition : Option String := none
  /-- Whether it is hidden from the user. -/
  internal : Bool := false
deriving DecidableEq, Repr

instance : ToString Breakpoint where
  toString b :=
    match b.condition with
    | none => s!"@{b.location}"
    | some c => s!"@{b.location} if {c}"

/-- The debugger in memory. -/
structure InMemory where
  /-- Where the program is paused; `none` when it does not run. -/
  location : Option GenLocation := none
  /-- The variables in sight by their lower-cased names, the last one set
  first. -/
  values : List (String × String) := []
  /-- The live breakpoints, in ascending order of their numbers. -/
  breakpoints : List (BreakpointId × Breakpoint) := []
  /-- The number given last. It grows without bound, and agrees with a counter
  of 32 bits as long as fewer than 2 ^ 32 breakpoints are inserted. -/
  lastId : BreakpointId := 0
  /-- Where the program goes next. -/
  path : List GenLocation := []
  /-- The code with which the program exits. -/
  exitCode : Int := 0
deriving DecidableEq, Repr

namespace InMemory

-- ================================================== the scripting

/-- Sets a variable. -/
def setVariable (h : InMemory) (name value : String) : InMemory :=
  { h with values := (Text.lower name, value) :: h.values }

/-- Appends lines of a file to the path. -/
def extendPath (h : InMemory) (file : String) (lines : List Nat) : InMemory :=
  { h with path := h.path ++ lines.map fun line => ⟨file, line⟩ }

-- ================================================= the primitives

/-- The value of a variable, in any case. -/
def value? (h : InMemory) (name : String) : Option String :=
  h.values.lookup (Text.lower name)

/-- The breakpoint of a number. -/
def breakpoint? (h : InMemory) (id : BreakpointId) : Option Breakpoint :=
  h.breakpoints.lookup id

/-- The first breakpoint at a location. -/
def breakpointAt? (h : InMemory) (location : GenLocation) :
    Option BreakpointId :=
  (h.breakpoints.find? fun b => b.2.location.same location).map (·.1)

/-- Adds a breakpoint under the next number. -/
def insert (h : InMemory) (b : Breakpoint) : BreakpointId × InMemory :=
  let id := h.lastId + 1
  (id, { h with lastId := id, breakpoints := h.breakpoints ++ [(id, b)] })

/-- The program exits. -/
def exit (h : InMemory) : StopEvent × InMemory :=
  (.exited h.exitCode, { h with location := none, path := [] })

/-- The program goes one location further, or exits at the end of its path. -/
def step (h : InMemory) : StopEvent × InMemory :=
  match h.path with
  | [] => h.exit
  | l :: ls =>
    (.stopped (some l) none, { h with location := some l, path := ls })

/-- The program follows `path` to the first location with a breakpoint. -/
def runAlong (h : InMemory) : List GenLocation → StopEvent × InMemory
  | [] => h.exit
  | l :: ls =>
    match h.breakpointAt? l with
    | some id =>
      (.stopped (some l) (some id), { h with location := some l, path := ls })
    | none => h.runAlong ls

/-- Attaches a condition to a live breakpoint. -/
def withCondition (h : InMemory) (id : BreakpointId) (condition : String) :
    InMemory :=
  let trimmed := String.ofList (Text.trim condition.toList)
  { h with
    breakpoints := h.breakpoints.map fun b =>
      if b.1 = id then (b.1, { b.2 with condition := some trimmed }) else b }

/-- Removes a breakpoint. -/
def remove (h : InMemory) (id : BreakpointId) : InMemory :=
  { h with breakpoints := h.breakpoints.filter fun b => b.1 != id }

/-- The live breakpoints that the user sees. -/
def userBreakpoints (h : InMemory) : List Breakpoint :=
  (h.breakpoints.map (·.2)).filter fun b => !b.internal

-- =================================================== the requests

/-- The complaint about a number without a breakpoint. -/
def noBreakpoint (id : BreakpointId) : HostError :=
  .command s!"No breakpoint number {id}."

/-- Runs `go` if the program runs. -/
def whileRunning (go : InMemory → StopEvent × InMemory) :
    Request InMemory StopEvent := do
  let h ← get
  if h.location.isNone then throw (.command "The program is not being run.")
  let (event, h) := go h
  set h
  pure event

/-- The value of a variable of the paused frame. -/
def read (name : String) : Request InMemory String := do
  let h ← get
  if h.location.isNone then throw (.command "No frame selected.")
  match h.value? name with
  | some value => pure value
  | none => throw (.command s!"No symbol \"{name}\" in current context.")

/-- Checks the condition, then attaches it to the breakpoint. -/
def condition (id : BreakpointId) (text : String) : Request InMemory Unit := do
  match Condition.check text with
  | .error fault => throw (.command fault.message)
  | .ok () =>
    let h ← get
    match h.breakpoint? id with
    | none => throw (noBreakpoint id)
    | some _ => set (h.withCondition id text)

/-- Removes a live breakpoint. -/
def delete (id : BreakpointId) : Request InMemory Unit := do
  let h ← get
  match h.breakpoint? id with
  | none => throw (noBreakpoint id)
  | some _ => set (h.remove id)

instance : Debugger InMemory where
  location := do return (← get).location
  readVar := read
  insertBreakpoint location internal := do
    let (id, h) := (← get).insert { location, internal }
    set h
    pure id
  setCondition := condition
  deleteBreakpoint := delete
  resume := whileRunning fun h => h.runAlong h.path
  stepInto := whileRunning step
  raw command := do
    let name := String.ofList ((Text.words command.toList).headD [])
    throw (.command s!"Undefined command: \"{name}\".  Try \"help\".")

end InMemory

end SpecDebugger
