/-
What goes wrong in a command, and what the user is told.
-/
import SpecDebugger.Debugger.Basic
import SpecDebugger.SpecLocation

namespace SpecDebugger

/-- Why a command failed. -/
inductive CommandError where
  /-- Unknown flags of `state`, in ascending order. -/
  | invalidFlags (flags : List Char)
  | extraArguments (words : List String)
  | noArgumentExpected
  | missingBreakSpec
  | wrongArgumentCount
  /-- The word before the condition is not `if`. -/
  | expectedIf
  | invalidLocation (malformed : SpecLocation.Malformed)
  | noSuchProperty (name : String)
  /-- The property has no body to break in. -/
  | noCode (name : String)
  /-- No expression stands at the location. -/
  | noMatch (query : SpecLocation)
  /-- The answer to a choice is no number. -/
  | invalidChoice (answer : String)
  | choiceOutOfRange (count : Nat)
  /-- The input ended where a choice was to be made. -/
  | aborted
  | notInProperty
  | notEvaluating
  | stepInsideFailed
  /-- The breakpoint stays, without its condition. -/
  | conditionRejected (id : BreakpointId) (source : HostError)
  | host (source : HostError)
  | io (failure : ChannelFailure)
deriving DecidableEq, Repr

/-- What the user is told. -/
def CommandError.message : CommandError → String
  | .invalidFlags flags =>
    "Invalid flags: " ++ ", ".intercalate (flags.map Char.toString)
  | .extraArguments words =>
    "Invalid extra arguments: " ++ " ".intercalate words
  | .noArgumentExpected => "This command takes no argument."
  | .missingBreakSpec => "Breakpoint specification missing"
  | .wrongArgumentCount => "Invalid number of arguments"
  | .expectedIf => "Invalid arguments (second arg should be \"if\")"
  | .invalidLocation malformed =>
    s!"Invalid source location: {malformed.message}"
  | .noSuchProperty name => s!"No such property: {name}"
  | .noCode name => s!"Cannot break on {name}: it has no code"
  | .noMatch query => s!"No match for {query.display}"
  | .invalidChoice answer => s!"Invalid index choice: {answer}"
  | .choiceOutOfRange count => s!"Choice must be in range 1-{count}"
  | .aborted => "Aborting: no breakpoint created"
  | .notInProperty => "Selected frame is not in a property."
  | .notEvaluating => "Not evaluating any expression"
  | .stepInsideFailed => "Could not step inside a property"
  | .conditionRejected _ source => source.message
  | .host source => source.message
  | .io failure => s!"I/O error: {failure.message}"

end SpecDebugger
