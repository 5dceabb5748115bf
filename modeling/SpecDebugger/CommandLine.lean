/-
The command line: options, the program to debug, and its arguments. From
the first argument of the program on, everything is passed on as it is.
-/
import SpecDebugger.EnvFile

namespace SpecDebugger.CommandLine

/-- What the command line asks for. -/
structure Options where
  /-- The record of the index of the program. -/
  debugInfo : String
  /-- The file of settings, instead of the one in the home directory. -/
  config : Option String := none
  /-- The debugger to run, instead of the one of the settings. -/
  gdb : Option String := none
  /-- The program to debug. -/
  program : String
  /-- The arguments of the program. -/
  args : List String := []
deriving DecidableEq, Repr

/-- What a command line leads to. -/
inductive Reading where
  | run (o : Options)
  | version
  | help
  /-- The command line makes no sense. -/
  | refused
deriving DecidableEq, Repr

-- ========================================================== words

/-- The options that take a value. -/
inductive Key where
  | debugInfo
  | config
  | gdb
deriving DecidableEq, Repr

/-- The option of a long name. -/
def Key.ofName? (name : List Char) : Option Key :=
  if name = "debug-info".toList then some .debugInfo
  else if name = "config".toList then some .config
  else if name = "gdb".toList then some .gdb
  else none

/-- What a word is. -/
inductive Word where
  /-- Two dashes: all further words are operands. -/
  | separator
  /-- An option, with its value if that is in the same word. -/
  | option (key : Key) (value : Option String)
  | version
  | help
  /-- An option that takes no value but has one. -/
  | overloaded
  /-- An option that does not exist. -/
  | unknown
  | operand
deriving DecidableEq, Repr

/-- The word of a long option, without its dashes. -/
def Word.ofLong (cs : List Char) : Word :=
  let name := cs.takeWhile (· != '=')
  let value := (cs.dropWhile (· != '=')).tail?
  match Key.ofName? name with
  | some key => .option key (value.map String.ofList)
  | none =>
    if name = "version".toList then
      (if value.isSome then .overloaded else .version)
    else if name = "help".toList then
      (if value.isSome then .overloaded else .help)
    else .unknown

/-- The word of short options, without their dash. Before the program the first
one decides; after it they are an argument unless all of them exist. -/
def Word.ofShort (afterProgram : Bool) (cs : List Char) : Word :=
  if afterProgram && !cs.all (fun c => c == 'h' || c == 'V') then .unknown
  else
    match cs.head? with
    | some 'h' => .help
    | some 'V' => .version
    | _ => .unknown

/-- What a word is, before the program or after it. -/
def Word.of (afterProgram : Bool) (word : String) : Word :=
  match word.toList with
  | ['-', '-'] => .separator
  | '-' :: '-' :: cs => .ofLong cs
  | ['-'] => .operand
  | '-' :: cs => .ofShort afterProgram cs
  | _ => .operand

-- ========================================================= reading

/-- What was read so far. -/
structure Progress where
  debugInfo : Option String := none
  config : Option String := none
  gdb : Option String := none
  program : Option String := none
  args : List String := []

/-- Takes the value of an option, which is not empty and given once. -/
def Progress.put (p : Progress) (key : Key) (value : String) :
    Except Reading Progress :=
  let given :=
    match key with
    | .debugInfo => p.debugInfo
    | .config => p.config
    | .gdb => p.gdb
  if value.isEmpty || given.isSome then .error .refused
  else
    match key with
    | .debugInfo => .ok { p with debugInfo := some value }
    | .config => .ok { p with config := some value }
    | .gdb => .ok { p with gdb := some value }

/-- Takes an operand: the program, which is not empty, then its arguments. -/
def Progress.operand (p : Progress) (word : String) :
    Except Reading Progress :=
  match p.program with
  | some _ => .ok { p with args := p.args ++ [word] }
  | none =>
    if word.isEmpty then .error .refused
    else .ok { p with program := some word }

/-- Whether a word can be the value of the option before it. After the program
an option that does not exist can. -/
def Word.isValue (afterProgram : Bool) : Word → Bool
  | .operand => true
  | .unknown => afterProgram
  | _ => false

/-- Reads words; all of them are operands once `verbatim`. -/
def scan (p : Progress) (verbatim : Bool) :
    List String → Except Reading Progress
  | [] => .ok p
  | word :: words =>
    if verbatim then do scan (← p.operand word) true words
    else
      match Word.of p.program.isSome word, words with
      | .separator, words => scan p true words
      | .option key (some value), words =>
        do scan (← p.put key value) false words
      | .option key none, value :: words =>
        let afterProgram := p.program.isSome
        if (Word.of afterProgram value).isValue afterProgram then do
          scan (← p.put key value) false words
        else .error .refused
      | .option _ none, [] => .error .refused
      | .version, _ => .error .version
      | .help, _ => .error .help
      | .overloaded, _ => .error .refused
      | .unknown, words =>
        if p.program.isSome then do scan (← p.operand word) true words
        else .error .refused
      | .operand, words => do scan (← p.operand word) p.program.isSome words

/-- Takes the value of an option that was not given from the environment. -/
def Progress.fillIn (p : Progress) (given : Option String) (key : Key)
    (value : Option String) : Except Reading Progress :=
  match given, value with
  | none, some value => p.put key value
  | _, _ => .ok p

/-- The variable that stands for the option `--debug-info`. -/
def debugInfoVariable : String := "SDB_DEBUG_INFO"

/-- The variable that stands for the option `--gdb`. -/
def gdbVariable : String := "SDB_GDB"

/-- Reads the words of a command line; the environment stands in for
options. -/
def parse (environment : Environment) (words : List String) : Reading :=
  let progress : Except Reading Progress := do
    let p ← scan {} false words
    let p ←
      p.fillIn p.debugInfo .debugInfo (environment.value? debugInfoVariable)
    p.fillIn p.gdb .gdb (environment.value? gdbVariable)
  match progress with
  | .error reading => reading
  | .ok p =>
    match p.debugInfo, p.program with
    | some debugInfo, some program =>
      .run
        { debugInfo, config := p.config, gdb := p.gdb, program
          args := p.args }
    | _, _ => .refused

end SpecDebugger.CommandLine
