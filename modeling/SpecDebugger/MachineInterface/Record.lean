/-
The records that a debugger writes on its machine interface, one a line.
-/
namespace SpecDebugger.MachineInterface

/-- A value in a record. -/
inductive Value where
  | const (text : String)
  | tuple (fields : List (String × Value))
  /-- The items of a list; a named item is a tuple with one field. -/
  | list (items : List Value)

/-- What an asynchronous record reports on. -/
inductive AsyncKind where
  /-- The execution of the program. -/
  | exec
  /-- The progress of an operation. -/
  | status
  /-- Anything else. -/
  | notify
deriving DecidableEq, Repr

/-- The sign in front of the record. -/
def AsyncKind.sign : AsyncKind → Char
  | .exec => '*'
  | .status => '+'
  | .notify => '='

/-- Where a piece of output comes from. -/
inductive StreamKind where
  /-- The debugger's own answer to a console command. -/
  | console
  /-- The program that is debugged. -/
  | target
  /-- The debugger's log. -/
  | log
deriving DecidableEq, Repr

/-- The sign in front of the record. -/
def StreamKind.sign : StreamKind → Char
  | .console => '~'
  | .target => '@'
  | .log => '&'

/-- One line of a debugger's output. -/
inductive Record where
  /-- The answer to the command that carried `token`. -/
  | result (token : Option Nat) (category : String)
      (fields : List (String × Value))
  /-- A notification. -/
  | async (kind : AsyncKind) (category : String)
      (fields : List (String × Value))
  /-- A piece of output. -/
  | stream (kind : StreamKind) (text : String)
  /-- The end of a batch of output. -/
  | prompt

namespace Value

/-- The first field of a name. -/
def field? (name : String) (fields : List (String × Value)) : Option Value :=
  fields.lookup name

/-- The field of a tuple. -/
def get? (key : String) : Value → Option Value
  | .tuple fields => field? key fields
  | _ => none

/-- The text of a constant. -/
def text? : Value → Option String
  | .const text => some text
  | _ => none

end Value

/-- The text of the first field of a name, if it is a constant. -/
def textField? (name : String) (fields : List (String × Value)) :
    Option String :=
  (Value.field? name fields).bind Value.text?

end SpecDebugger.MachineInterface
