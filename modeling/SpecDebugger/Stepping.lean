/-
Execution in steps of the specification: to the next marker, to the end
of the expression being evaluated, and into the property about to be
called. The first two let the program run to hidden breakpoints on the
lines of markers; the last one steps line by line, through code of the
runtime and through dispatchers.
-/
import SpecDebugger.Breakpoints
import SpecDebugger.StateReport

namespace SpecDebugger

/-- A step: work on the debugger alone. -/
abbrev Step (σ α : Type) := ExceptT CommandError (StateM σ) α

namespace Step

variable {σ : Type} [Debugger σ] {α : Type}

/-- Asks the debugger. -/
def ask (request : Request σ α) : Step σ α :=
  ExceptT.mk do
    let answer ← request.run
    return answer.mapError .host

/-- The snapshot of the selected frame, which has to be inside a property. -/
def snapshot (ix : Index) : Step σ Snapshot := do
  match ← ask ix.currentSnapshot? with
  | none => throw .notInProperty
  | some s => pure s

end Step

namespace Property

/-- The lines of the markers of a property, at every depth. -/
def markerLines (p : Property) : List Nat := Event.markerLinesIn p.events

/-- The lines that `next` from `line` runs to: the later markers, and the last
line of the property, by which it returns. -/
def nextLines (p : Property) (line : Nat) : List Nat :=
  p.markerLines.filter (fun l => decide (line < l)) ++ [p.lines.last]

/-- The line where the evaluation of an expression is done, at the latest the
last line of the property. -/
def doneLine (p : Property) (id : Nat) : Nat :=
  (Event.doneLineIn? id p.events).getD p.lines.last

/-- Whether a frame at `line` has not gone past the start of the body. -/
def justEntered (p : Property) (line : Nat) : Bool :=
  match p.bodyStart? with
  | none => true
  | some start => decide (line ≤ start)

end Property

namespace Stepping

variable {σ : Type} [Debugger σ]

/-- Continues until another expression of the running property starts or is
done, or until the property returns. -/
def next (ix : Index) : Step σ StopEvent := do
  let s ← Step.snapshot ix
  Step.ask
    (BreakpointGroup.runTo ix.filename (s.property.nextLines s.location.line))

/-- Continues until the expression being evaluated is done. -/
def out (ix : Index) : Step σ StopEvent := do
  let s ← Step.snapshot ix
  match s.innermost? with
  | none => throw .notEvaluating
  | some e =>
    Step.ask (BreakpointGroup.runTo ix.filename [s.property.doneLine e.id])

/-- What a stop means to someone who wants to step inside a property. -/
inductive Arrival where
  /-- The code of the runtime, or a dispatcher: to be gone through. -/
  | passing
  /-- A property was entered. -/
  | inside
  /-- The starting property goes on: there was no call to step into. -/
  | noCall
deriving DecidableEq, Repr

/-- Where a stop at `location` has arrived, having started in the property
`start`. -/
def arrival (ix : Index) (start : String) (location : GenLocation) : Arrival :=
  if ix.isGeneratedFile location.file then
    match ix.findByLine? location.line with
    | none => .passing
    | some p =>
      if p.isDispatcher then .passing
      else if p.name != start || p.justEntered location.line then .inside
      else .noCall
  else .passing

/-- Steps until a property other than `start` is entered, or `start` again from
its beginning, in `budget` steps at most. -/
def stepUntilInside (ix : Index) (start : String) : Nat → Step σ StopEvent
  | 0 => throw .stepInsideFailed
  | budget + 1 => do
    match ← Step.ask (Debugger.stepInto : Request σ StopEvent) with
    | .exited code => pure (.exited code)
    | .stopped none _ => stepUntilInside ix start budget
    | .stopped (some location) breakpoint =>
      match arrival ix start location with
      | .passing => stepUntilInside ix start budget
      | .inside => pure (.stopped (some location) breakpoint)
      | .noCall => throw .stepInsideFailed

/-- Steps into the property about to be called. -/
def stepInside (ix : Index) (budget : Nat) : Step σ StopEvent := do
  let s ← Step.snapshot ix
  stepUntilInside ix s.property.name budget

/-- The number of steps that `stepInside` takes unless told otherwise. -/
def defaultBudget : Nat := 256

end Stepping

end SpecDebugger
