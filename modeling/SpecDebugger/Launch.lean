/-
A run of the program, from its command line to its exit: the settings
are loaded first, then a place for log files is made if they ask for one,
the index is loaded, the debugger is started, and last the interactive
loop reads what the user types at a terminal. Each of these may end the
run.
-/
import SpecDebugger.CommandLine
import SpecDebugger.Index.Record
import SpecDebugger.MachineInterface.Connection
import SpecDebugger.Repl
import SpecDebugger.Settings

namespace SpecDebugger.Launch

open MachineInterface

/-- What a run finds around it, in a monad `m` in which files are read and
debuggers looked up. -/
structure Surroundings (m : Type → Type) (π : Type) where
  environment : Environment
  /-- The directory in which it is started. -/
  place : String
  /-- The bytes of a file. -/
  read : String → m (Except PathFault (List UInt8))
  /-- Makes a directory with those above it, and tells what is in the way. -/
  makeDirectory : String → m (Option PathFault)
  /-- The debugger of a path, if there is one. -/
  debugger : String → m (Option (Connection π))
  /-- All that the user goes on to type. -/
  input : m (List UInt8)

/-- Why a run failed. -/
inductive Failure where
  | readSettings (path : String)
  | loadSettings (path : String)
  | makeLogs (fault : PathFault)
  | readIndex (path : String)
  | loadIndex (path : String)
  | startDebugger (path : String)
  | channel (failure : ChannelFailure)
deriving DecidableEq, Repr

/-- What the user is told. -/
def Failure.message : Failure → String
  | .readSettings path => s!"Error: Failed to read config file: {path}"
  | .loadSettings path => s!"Error: Failed to load config file: {path}"
  | .makeLogs fault => s!"Error: {fault.message}"
  | .readIndex path => s!"Error: failed to read debug info: {path}"
  | .loadIndex path => s!"Error: failed to load debug info: {path}"
  | .startDebugger path => s!"Error: failed to start {path}"
  | .channel failure => s!"Error: {failure.message}"

/-- How a run ends. -/
inductive Ending where
  | success
  | failure (f : Failure)
  /-- The command line was refused. -/
  | usage
  /-- The program gave up: a character was torn, a variable cannot be set, or a
  log file cannot be opened. -/
  | crash
deriving DecidableEq, Repr

/-- The exit code of a run. -/
def Ending.exitCode : Ending → Nat
  | .success => 0
  | .failure _ => 1
  | .usage => 2
  | .crash => 101

/-- What a run leaves behind. -/
structure Report (π : Type) where
  ending : Ending
  /-- What was shown to the user. -/
  output : String := ""
  /-- The arguments the debugger was started with, and the conversation with
  it. -/
  debugger : Option (List String × Connection π) := none

/-- The version of the program, as it is shown. -/
def version : String := "sdb 0.0.2\n"

/-- The name of the environment file. -/
def environmentFile : String := ".env"

/-- Where log files are kept, below the directory for temporary files. -/
def logPath : String := "sdb-logs/sdb"

/-- The name of a log file, but for the day in it. -/
def logName : String := "sdb.log.0000-00-00"

/-- The terminals that cannot edit a line. Only these are sent a prompt: at any
other one the line comes from somewhere else. -/
def plainTerminals : List String := ["dumb", "cons25", "emacs"]

/-- Whether the user is sent prompts. The case of the terminal's name does not
count. -/
def isPrompted (environment : Environment) : Bool :=
  match environment.value? "TERM" with
  | none => false
  | some terminal => plainTerminals.contains (terminal.map Char.toLower)

/-- The text that was read, if it is one. -/
def textOf : Except PathFault (List UInt8) → Option String
  | .ok bytes => Text.ofBytes? bytes
  | .error _ => none

variable {m : Type → Type} [Monad m] {π : Type}

/-- The settings of a file. -/
def settingsOf (path : String) (text : Option String) :
    Except Failure Settings :=
  match text with
  | none => .error (.readSettings path)
  | some text => (Settings.parse text).mapError fun _ => .loadSettings path

/-- Loads the settings: those of a given file, or else those of the file in the
home directory, which may be missing. -/
def loadSettings (around : Surroundings m π) (environment : Environment)
    (config : Option String) :
    ExceptT Failure m Settings := do
  match config with
  | some path =>
    let bytes ← around.read path
    ExceptT.mk (pure (settingsOf path (textOf bytes)))
  | none =>
    match environment.value? "HOME" with
    | none | some "" => pure {}
    | some home =>
      let path := FilePath.join home Settings.fileName
      let bytes ← around.read path
      let isMissing :=
        match bytes with
        | .ok _ => false
        | .error fault => fault.isAbsence
      if isMissing then pure {}
      else ExceptT.mk (pure (settingsOf path (textOf bytes)))

/-- Makes the directory of the log files; a log file has to fit in it. -/
def makeLogs (around : Surroundings m π) (environment : Environment) :
    ExceptT Ending m Unit := do
  let temporary := (environment.value? "TMPDIR").getD "/tmp"
  let path := FilePath.join temporary logPath
  match ← around.makeDirectory path with
  | some fault => throw (.failure (.makeLogs fault))
  | none =>
    if FilePath.pathLimit ≤ (FilePath.join path logName).utf8ByteSize then
      throw .crash

/-- Loads the index. -/
def loadIndex (around : Surroundings m π) (path : String) :
    ExceptT Failure m Index := do
  match textOf (← around.read path) with
  | none => throw (.readIndex path)
  | some text =>
    ExceptT.mk (pure ((Index.parse text).mapError fun _ => .loadIndex path))

variable [Program π]

/-- Starts the debugger of a connection, then runs the interactive loop. -/
def converse (session : Session) (path : String) (arguments : List String)
    (connection : Connection π) (user : User) : Report π :=
  match (Connection.start : Request (Connection π) Unit).run connection with
  | (.error _, connection) =>
    { ending := .failure (.startDebugger path)
      debugger := some (arguments, connection) }
  | (.ok (), host) =>
    let (result, d) := (Repl.run session).run ⟨host, user⟩
    { ending :=
        match result with
        | .ok () => .success
        | .error .tornCharacter => .crash
        | .error failure => .failure (.channel failure)
      output := d.user.output
      debugger := some (arguments, d.host) }

/-- Runs with the options of a command line. -/
def runWith (around : Surroundings m π) (environment : Environment)
    (o : CommandLine.Options) :
    ExceptT Ending m (Report π) := do
  let settings ←
    (loadSettings around environment o.config).adapt Ending.failure
  if settings.fileLogging then makeLogs around environment
  let gdb := o.gdb.getD settings.gdbPath
  let index ← (loadIndex around o.debugInfo).adapt Ending.failure
  match ← around.debugger gdb with
  | none => throw (.failure (.startDebugger gdb))
  | some connection =>
    let session : Session :=
      { index, pre := settings.commandPrefix, limit := settings.ellipsisLimit }
    let user := User.atTerminal (isPrompted environment) (← around.input)
    pure (converse session gdb
      (Connection.startArguments o.program o.args) connection user)

/-- The environment with what the environment file adds to it: the first such
file in some directories. One that is there but cannot be read adds nothing. -/
def loadEnvironment (around : Surroundings m π) :
    List String → m (Option Environment)
  | [] => pure (some around.environment)
  | directory :: rest => do
    match ← around.read (FilePath.join directory environmentFile) with
    | .ok bytes => pure (EnvFile.load around.environment bytes)
    | .error fault =>
      if fault.isAbsence || fault = .isDirectory then
        loadEnvironment around rest
      else pure (some around.environment)

/-- Runs with the words of a command line. The environment file is looked for
from the place of the run upward. -/
def run (around : Surroundings m π) (words : List String) : m (Report π) := do
  match ← loadEnvironment around (FilePath.upward around.place) with
  | none => return { ending := .crash }
  | some environment =>
    match CommandLine.parse environment words with
    | .version => return { ending := .success, output := version }
    | .help => return { ending := .success }
    | .refused => return { ending := .usage }
    | .run o =>
      match ← (runWith around environment o).run with
      | .ok report => return report
      | .error ending => return { ending }

end SpecDebugger.Launch
