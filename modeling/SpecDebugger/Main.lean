/-
The program. The debugger it starts is a script, the record of which is
the file that the path of the debugger names, so that a run can be
repeated exactly. All it may leave behind is the directory of the log
files.
-/
import SpecDebugger.Launch
import SpecDebugger.MachineInterface.ScriptRecord

open SpecDebugger MachineInterface

/-- The number of a failure; some parts of the system give it with its sign
changed. -/
def codeOf : IO.Error → Option UInt32
  | .noFileOrDirectory _ code _ | .inappropriateType _ code _
  | .invalidArgument _ code _
  | .permissionDenied _ code _ | .alreadyExists _ code _ =>
    some (if code < 0x80000000 then code else 0 - code)
  | _ => none

/-- What a failure says of a path. -/
def faultOf (e : IO.Error) : PathFault :=
  match codeOf e with
  | some 2 => .notFound
  | some 13 => .denied
  | some 17 => .taken
  | some 20 => .notDirectory
  | some 21 => .isDirectory
  | some 36 => .nameTooLong
  | _ => .other (toString e)

/-- The bytes of a file. -/
def readBytes (path : String) : IO (Except PathFault (List UInt8)) := do
  try
    return .ok (← IO.FS.readBinFile path).toList
  catch e => return .error (faultOf e)

/-- Makes a directory in one that is there. -/
def makeOne (path : String) : IO (Option PathFault) := do
  try
    IO.FS.createDir path
    return none
  catch e =>
    match faultOf e, ← readBytes path with
    | .taken, .error .isDirectory => return none
    | fault, _ => return some fault

/-- Makes directories, each in one that is there. -/
def makeEach : List String → IO (Option PathFault)
  | [] => return none
  | path :: rest => do
    match ← makeOne path with
    | none => makeEach rest
    | some .taken =>
      return some (if rest.isEmpty then .taken else .notDirectory)
    | some fault => return some fault

/-- The debugger whose script is in a file. -/
def openScript (path : String) : IO (Option (Connection Script)) := do
  let text := Launch.textOf (← readBytes path)
  return (text.bind Json.parse?).bind Script.ofJson?

/-- A variable with its value, as a list of variables has them. -/
def assignment? (entry : String) : Option (String × String) := do
  let cs := entry.toList
  let value ← (cs.dropWhile (· != '=')).tail?
  return (String.ofList (cs.takeWhile (· != '=')), String.ofList value)

/-- The variables that are set, as the system lists them for a running
program. -/
def currentEnvironment : IO Environment := do
  let listed ← IO.FS.readFile "/proc/self/environ"
  return (listed.splitOn "\x00").filterMap assignment?

/-- Runs with the words of the command line, and exits with the code of the
run. -/
def main (words : List String) : IO UInt32 := do
  let around : Launch.Surroundings IO Script :=
    { environment := ← currentEnvironment
      place := toString (← IO.currentDir)
      read := readBytes
      makeDirectory := fun path => makeEach (FilePath.upward path).reverse
      debugger := openScript
      input := do return (← (← IO.getStdin).readBinToEnd).toList }
  let report ← Launch.run around words
  IO.print report.output
  match report.ending with
  | .success => pure ()
  | .failure f => IO.eprintln f.message
  | .usage =>
    IO.eprintln
      ("usage: sdb --debug-info FILE [--config FILE] [--gdb FILE] " ++
        "PROGRAM [ARGS]")
  | .crash => IO.eprintln "The program gave up."
  return report.ending.exitCode.toUInt32
