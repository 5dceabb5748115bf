/-
The record of a script: a JSON object with the lines of the greeting and
the rules, each with the beginning of the commands it is for and its
replies. A line is a string, or an object with bytes in hexadecimal.
-/
import SpecDebugger.Json.Access
import SpecDebugger.Json.Parser
import SpecDebugger.MachineInterface.Script

namespace SpecDebugger.MachineInterface.Script

/-- The line that ends the output. -/
def closeMark : String := "$EOF"

/-- A line of a script. -/
def line? (j : Json) : Option ScriptLine :=
  match j.text? with
  | some text => some (if text = closeMark then .close else .text text)
  | none => do
    let hex ← (← j.member? "hex").text?
    return .bytes (← Text.hexBytes? hex.toList)

/-- A rule of a script. -/
def rule? (j : Json) : Option ScriptRule := do
  let command ← (← j.member? "cmd").text?
  let replies ← (← j.member? "replies").list? (Json.list? line?)
  return { command, replies }

/-- The conversation with a program that follows the script of a record; what
the record leaves out is empty. -/
def ofJson? (j : Json) : Option (Connection Script) := do
  let greeting ← ((j.member? "greeting").getD (.array [])).list? line?
  let rules ← ((j.member? "rules").getD (.array [])).list? rule?
  return connect greeting rules

end SpecDebugger.MachineInterface.Script
