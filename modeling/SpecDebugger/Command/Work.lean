/-
What a command does: requests to a debugger and questions to a user,
until one of them fails.
-/
import SpecDebugger.Command.Error
import SpecDebugger.Dialogue

namespace SpecDebugger

/-- A command's work on a debugger and a user. -/
abbrev Work (σ α : Type) := ExceptT CommandError (StateM (Dialogue σ)) α

namespace Work

variable {σ α : Type}

/-- Asks the debugger; its error is taken as `wrap` says. -/
def ask (request : Request σ α) (wrap : HostError → CommandError := .host) :
    Work σ α :=
  ExceptT.mk do
    let answer ← Dialogue.withHost request.run
    return answer.mapError wrap

/-- Asks the user. -/
def askUser (question : ExceptT CommandError (StateM User) α) : Work σ α :=
  ExceptT.mk (Dialogue.withUser question.run)

/-- Shows a text to the user. -/
def say (text : String) : Work σ Unit :=
  ExceptT.mk do
    Dialogue.withUser (User.say text)
    return .ok ()

end Work

end SpecDebugger
