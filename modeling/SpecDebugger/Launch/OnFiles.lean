/-
A dry run of the program: its files are in memory, and the debuggers it
can start are given by their paths.
-/
import SpecDebugger.Directory
import SpecDebugger.Launch

namespace SpecDebugger.Launch

open MachineInterface

variable {π : Type}

/-- What a dry run finds around it, started at `place`. -/
def onFiles (environment : Environment) (place : List String)
    (debuggers : List (String × Connection π)) (input : List UInt8) :
    Surroundings (StateM Directory) π where
  environment := environment
  place := FilePath.ofComponents ("/" :: place)
  read path := fun d => (d.read path, d)
  makeDirectory path := fun d =>
    match d.make path with
    | .ok made => (none, made)
    | .error fault => (some fault, d)
  debugger path := pure (debuggers.lookup path)
  input := pure input

/-- What is left of a dry run: its report, and the files. -/
def runOnFiles [Program π] (environment : Environment)
    (debuggers : List (String × Connection π)) (input : List UInt8)
    (words : List String) (d : Directory) : Report π × Directory :=
  (run (onFiles environment d.place debuggers input) words).run d

end SpecDebugger.Launch
