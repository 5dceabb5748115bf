/-
The debugger that a session drives, as far as a session sees it: a
selected frame that can be read, a table of breakpoints, and a program
that can be resumed and stepped.
-/
import SpecDebugger.GenLocation
import SpecDebugger.PathFault

namespace SpecDebugger

/-- Why a channel gave no line. -/
inductive ChannelFailure where
  /-- The line is not UTF-8. -/
  | notText
  /-- The read was interrupted. -/
  | interrupted
  /-- The program at its other end cannot be run. -/
  | unusable (fault : PathFault)
  /-- A word for that program holds a zero character. -/
  | zeroCharacter
  /-- Erasing a part of the line would have torn a character. -/
  | tornCharacter
  | other (message : String)
deriving DecidableEq, Repr

/-- What the user is told. -/
def ChannelFailure.message : ChannelFailure → String
  | .notText => "stream did not contain valid UTF-8"
  | .interrupted => "operation interrupted"
  | .unusable fault => fault.message
  | .zeroCharacter => "nul byte found in provided data"
  | .tornCharacter => "a character was torn"
  | .other message => message

/-- Why a debugger did not do what it was asked. -/
inductive HostError where
  /-- It rejected the command; the message is its own. -/
  | command (message : String)
  /-- It answered something that makes no sense. -/
  | protocol (message : String)
  /-- It is gone. -/
  | disconnected
  /-- Talking to it failed. -/
  | io (failure : ChannelFailure)
deriving DecidableEq, Repr

/-- What the user is told. -/
def HostError.message : HostError → String
  | .command message => message
  | .protocol message => s!"unexpected debugger output: {message}"
  | .disconnected => "the debugger process is gone"
  | .io failure => s!"debugger I/O error: {failure.message}"

/-- The number a debugger gives to a breakpoint. -/
abbrev BreakpointId := Nat

/-- Why the program gave control back. -/
inductive StopEvent where
  /-- It is paused, at a location if that is known, by a breakpoint if one was
  hit. -/
  | stopped (location : Option GenLocation) (breakpoint : Option BreakpointId)
  | exited (code : Int)
deriving DecidableEq, Repr

/-- A request to a debugger with state `σ`: its answer or its error, and the
state it leaves behind in either case. -/
abbrev Request (σ α : Type) := ExceptT HostError (StateM σ) α

/-- The requests a debugger answers. -/
class Debugger (σ : Type) where
  /-- Where the selected frame is, if anything is paused. -/
  location : Request σ (Option GenLocation)
  /-- The value of a generated variable, as text. -/
  readVar (name : String) : Request σ String
  /-- Creates a breakpoint; the user does not see an internal one. -/
  insertBreakpoint (location : GenLocation) (internal : Bool) :
    Request σ BreakpointId
  /-- Attaches a condition to a breakpoint. -/
  setCondition (id : BreakpointId) (condition : String) : Request σ Unit
  deleteBreakpoint (id : BreakpointId) : Request σ Unit
  /-- Lets the program run until it stops. -/
  resume : Request σ StopEvent
  /-- Lets the program run one source line, into calls. -/
  stepInto : Request σ StopEvent
  /-- Runs a command in the debugger's own language, and returns its output. -/
  raw (command : String) : Request σ String

end SpecDebugger
