/-
Creating breakpoints: one for the user, and groups of hidden ones that
last until the program stops.
-/
import SpecDebugger.Command.Work
import SpecDebugger.Resolver

namespace SpecDebugger

variable {σ : Type} [Debugger σ]

-- ============================================== user breakpoints

/-- Breaks on what the user wants, with a condition if there is one. Nothing is
created unless there is a line to break on; the breakpoint stays, without a
condition, when the debugger rejects that. -/
def breakOn (ix : Index) (spec : BreakSpec) (condition : Option String) :
    Work σ BreakpointId := do
  let location ← Work.askUser (ix.resolve spec)
  let id ← Work.ask (Debugger.insertBreakpoint location false)
  Work.say s!"Breakpoint {id} at {location}\n"
  match condition with
  | none => pure ()
  | some text =>
    Work.ask (Debugger.setCondition id text) (.conditionRejected id)
  pure id

-- ======================================================== groups

/-- Adds a number to an ascending list without repetition. -/
def insertAscending (n : Nat) : List Nat → List Nat
  | [] => [n]
  | m :: ms =>
    if n < m then n :: m :: ms
    else if n = m then m :: ms
    else m :: insertAscending n ms

/-- The distinct numbers of a list, in ascending order. -/
def ascending (ns : List Nat) : List Nat := ns.foldr insertAscending []

namespace BreakpointGroup

/-- Deletes breakpoints in order; a failure changes nothing for the others, as
the breakpoint may have gone with the program. -/
def cleanup : List BreakpointId → StateM σ Unit
  | [] => pure ()
  | id :: ids => do
    let _ ← (Debugger.deleteBreakpoint id : Request σ Unit).run
    cleanup ids

/-- Inserts a hidden breakpoint on every line, in order. `ids` are those
inserted so far; they are deleted when an insertion fails. -/
def insertAll (file : String) (ids : List BreakpointId) :
    List Nat → Request σ (List BreakpointId)
  | [] => pure ids
  | line :: lines =>
    ExceptT.mk do
      match ← (Debugger.insertBreakpoint ⟨file, line⟩ true :
          Request σ BreakpointId).run with
      | .ok id => (insertAll file (ids ++ [id]) lines).run
      | .error e =>
        cleanup ids
        return .error e

/-- Creates a group: a hidden breakpoint on every distinct line. -/
def create (file : String) (lines : List Nat) :
    Request σ (List BreakpointId) :=
  insertAll file [] (ascending lines)

/-- Lets the program run until it stops, then deletes the group. -/
def run (ids : List BreakpointId) : Request σ StopEvent :=
  ExceptT.mk do
    let event ← (Debugger.resume : Request σ StopEvent).run
    cleanup ids
    return event

/-- Lets the program run until it stops, at one of the lines at the latest. -/
def runTo (file : String) (lines : List Nat) : Request σ StopEvent := do
  run (← create file lines)

end BreakpointGroup

end SpecDebugger
