/-
A conversation with a debugger program over its machine interface.
Commands carry ascending tokens. The answer to a command is the result
record with its token; output that comes before belongs to the command
as well, and so does the stop that ends the execution it started. All
else is passed over: empty lines, lines that are no records, prompts,
other notifications, and late answers to earlier commands.
-/
import SpecDebugger.Debugger.Basic
import SpecDebugger.MachineInterface.Reader
import SpecDebugger.Text.LowerCase

namespace SpecDebugger.MachineInterface

/-- A line that a program writes. -/
inductive OutputLine where
  | text (line : String)
  /-- Bytes that are no text. -/
  | garbled
deriving DecidableEq, Repr

/-- A debugger program with state `π`: it takes lines, and writes lines in
answer. -/
class Program (π : Type) where
  receive (line : String) : StateM π (List OutputLine)

/-- The end of a conversation on this side. -/
structure Connection (π : Type) where
  /-- The program at the other end. -/
  program : π
  /-- What the program wrote and nobody has read. -/
  unread : List OutputLine
  /-- The token of the last command. It grows without bound, and agrees with
  a counter of 32 bits as long as fewer than 2 ^ 32 commands are sent. -/
  token : Nat := 0

namespace Connection

-- ======================================================== reading

/-- What a line of output is to a reader. -/
inductive Reading where
  | skip
  | record (r : Record)
  | garbled

/-- A blank line, or one that is no record, is skipped. -/
def Reading.ofLine : OutputLine → Reading
  | .garbled => .garbled
  | .text line =>
    if (Text.trim line.toList).isEmpty then .skip
    else
      match Record.parse line with
      | .ok r => .record r
      | .error _ => .skip

/-- Drops the output up to a prompt. -/
def awaitPrompt : List OutputLine → Except HostError Unit × List OutputLine
  | [] => (.error .disconnected, [])
  | line :: lines =>
    match Reading.ofLine line with
    | .garbled => (.error (.io .notText), lines)
    | .record .prompt => (.ok (), lines)
    | _ => awaitPrompt lines

/-- What a command has brought so far. -/
structure Heard where
  /-- The output to the console. -/
  console : String := ""
  /-- The last stop. -/
  stop : Option StopEvent := none

-- ======================================================= the stop

/-- The location of a frame, by its full name if there is one. -/
def frameLocation? (frame : Value) : Option GenLocation := do
  let file ← ((frame.get? "fullname").or (frame.get? "file")).bind Value.text?
  let line ← (frame.get? "line").bind Value.text?
  let line ← Text.natural? Text.wordBound line.toList
  pure ⟨file, line⟩

/-- A number of 32 bits. -/
def id? (text : String) : Option BreakpointId :=
  Text.natural? Text.halfWordBound text.toList

/-- What a stop record reports: the end of the program, with its code in octal,
or a pause. -/
def stopEvent (fields : List (String × Value)) : StopEvent :=
  let reason := (textField? "reason" fields).getD ""
  if "exited".toList.isPrefixOf reason.toList then
    .exited
      ((((textField? "exit-code" fields).bind fun c =>
        Text.octal? c.toList)).getD 0)
  else
    .stopped ((Value.field? "frame" fields).bind frameLocation?)
      ((textField? "bkptno" fields).bind id?)

/-- The stop that a record reports, if it reports one. -/
def stop? : Record → Option StopEvent
  | .async .exec category fields =>
    if category = "stopped" then some (stopEvent fields) else none
  | _ => none

/-- Takes a record that is not the answer waited for. -/
def Heard.note (h : Heard) (r : Record) : Heard :=
  match r with
  | .stream .console text => { h with console := h.console ++ text }
  | r =>
    match stop? r with
    | some event => { h with stop := some event }
    | none => h

-- ===================================================== the answer

/-- Reads up to the answer to the command of `token`. -/
def awaitResult (token : Nat) (h : Heard) :
    List OutputLine →
      Except HostError (String × List (String × Value) × Heard) ×
        List OutputLine
  | [] => (.error .disconnected, [])
  | line :: lines =>
    match Reading.ofLine line with
    | .garbled => (.error (.io .notText), lines)
    | .skip => awaitResult token h lines
    | .record (.result t category fields) =>
      if t = some token then (.ok (category, fields, h), lines)
      else awaitResult token h lines
    | .record r => awaitResult token (h.note r) lines

/-- Reads up to a stop. -/
def awaitStop (h : Heard) :
    List OutputLine → Except HostError Heard × List OutputLine
  | [] => (.error .disconnected, [])
  | line :: lines =>
    match Reading.ofLine line with
    | .garbled => (.error (.io .notText), lines)
    | .skip => awaitStop h lines
    | .record r =>
      let h := h.note r
      if (stop? r).isSome then (.ok h, lines) else awaitStop h lines

/-- The answer to a command. -/
structure Response where
  fields : List (String × Value)
  console : String
  stop : Option StopEvent

/-- What a result record of some class leads to: an error, the wait for a stop
of a program that now runs, or nothing more. -/
def conclude (category : String) (fields : List (String × Value)) (h : Heard)
    (lines : List OutputLine) : Except HostError Response × List OutputLine :=
  if category = "error" then
    (.error
      (.command ((textField? "msg" fields).getD "unknown debugger error")),
      lines)
  else if category = "exit" then (.error .disconnected, lines)
  else if category = "running" ∧ h.stop.isNone then
    match awaitStop h lines with
    | (.ok h, lines) => (.ok ⟨fields, h.console, h.stop⟩, lines)
    | (.error e, lines) => (.error e, lines)
  else (.ok ⟨fields, h.console, h.stop⟩, lines)

/-- Reads the answer to the command of `token`. -/
def awaitResponse (token : Nat) (lines : List OutputLine) :
    Except HostError Response × List OutputLine :=
  match awaitResult token {} lines with
  | (.ok (category, fields, h), lines) => conclude category fields h lines
  | (.error e, lines) => (.error e, lines)

-- ======================================================= commands

variable {π : Type} [Program π]

/-- The lines of a text, of which the last one is not ended. -/
def linesOf (cs : List Char) : List (List Char) :=
  match cs with
  | [] => [[]]
  | c :: cs =>
    if c = '\n' then [] :: linesOf cs
    else
      match linesOf cs with
      | [] => [[c]]
      | l :: ls => (c :: l) :: ls

/-- Hands lines to the program, one by one, and collects what it writes. -/
def deliver : List (List Char) → StateM π (List OutputLine)
  | [] => pure []
  | line :: lines => do
    let first ← Program.receive (String.ofList line)
    let others ← deliver lines
    return first ++ others

/-- Sends a command under the next token, and reads its answer. -/
def execute (command : String) : Request (Connection π) Response :=
  ExceptT.mk fun c =>
    let token := c.token + 1
    let (written, program) :=
      deliver (linesOf s!"{token}{command}".toList) c.program
    let (response, unread) := awaitResponse token (c.unread ++ written)
    (response, { program, unread, token })

/-- Waits for the first prompt, and asks the debugger not to ask questions. -/
def start : Request (Connection π) Unit := do
  ExceptT.mk fun c =>
    let (result, unread) := awaitPrompt c.unread
    (result, { c with unread })
  let _ ← execute "-gdb-set confirm off"

/-- The arguments a debugger is started with, for a program and its
arguments. -/
def startArguments (program : String) (args : List String) : List String :=
  ["--interpreter=mi2", "--quiet", "--nx", "--args", program] ++ args

/-- Why nothing can be started with some words, the name of the debugger among
them. -/
def wordFault? (words : List String) : Option ChannelFailure :=
  if words.any fun word => word.toList.contains '\x00' then
    some .zeroCharacter
  else none

-- ======================================================= requests

/-- The location of the selected frame; a debugger that has none says so by an
error. -/
def location : Request (Connection π) (Option GenLocation) := do
  let response ←
    tryCatch (some <$> execute "-stack-info-frame") fun
      | .command _ => pure none
      | e => throw e
  pure (response.bind fun r =>
    (Value.field? "frame" r.fields).bind frameLocation?)

/-- The value of a variable; its name is written in lower case. -/
def readVar (name : String) : Request (Connection π) String := do
  let response ←
    execute s!"-data-evaluate-expression {quote (Text.lower name)}"
  match textField? "value" response.fields with
  | some value => pure value
  | none => throw (.protocol s!"no value for {name}")

/-- Creates a breakpoint, whose number the debugger tells. -/
def insertBreakpoint (location : GenLocation) :
    Request (Connection π) BreakpointId := do
  let response ← execute s!"-break-insert {quote (toString location)}"
  let number := do
    let breakpoint ← Value.field? "bkpt" response.fields
    let text ← (breakpoint.get? "number").bind Value.text?
    id? text
  match number with
  | some id => pure id
  | none => throw (.protocol "breakpoint without number")

/-- Runs the program by a command, up to its next stop. -/
def runToStop (command : String) : Request (Connection π) StopEvent := do
  let response ← execute command
  match response.stop with
  | some event => pure event
  | none => throw (.protocol s!"{command} did not stop the inferior")

instance : Debugger (Connection π) where
  location := location
  readVar := readVar
  insertBreakpoint l _ := insertBreakpoint l
  setCondition id condition := do
    let _ ← execute s!"-break-condition {id} {condition}"
  deleteBreakpoint id := do
    let _ ← execute s!"-break-delete {id}"
  resume := runToStop "-exec-continue"
  stepInto := runToStop "-exec-step"
  raw command := do
    let response ← execute s!"-interpreter-exec console {quote command}"
    pure response.console

end Connection

end SpecDebugger.MachineInterface
