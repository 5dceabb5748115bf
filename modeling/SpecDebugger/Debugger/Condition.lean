/-
The syntax check of breakpoint conditions: a condition is not blank, its
double quotes are paired, and its parentheses outside quotes balance.
-/
import SpecDebugger.Text.Blank

namespace SpecDebugger.Condition

/-- How a condition is wrong: its parentheses close too early, with the rest of
the text from there on, or it ends too early. -/
inductive Fault where
  | near (rest : List Char)
deriving DecidableEq, Repr

/-- What the user is told. -/
def Fault.message : Fault → String
  | .near rest =>
    s!"A syntax error in expression, near `{String.ofList rest}'."

/-- Reads a condition with `depth` open parentheses, inside quotes or not.
Returns the same at its end, or the fault of a parenthesis that closes none. -/
def scan (depth : Nat) (quoted : Bool) : List Char → Except Fault (Nat × Bool)
  | [] => .ok (depth, quoted)
  | c :: cs =>
    if c = '"' then scan depth (!quoted) cs
    else if quoted then scan depth quoted cs
    else if c = '(' then scan (depth + 1) quoted cs
    else if c = ')' then
      match depth with
      | 0 => .error (.near (c :: cs))
      | depth + 1 => scan depth quoted cs
    else scan depth quoted cs

/-- Accepts a condition that is balanced and not blank. -/
def check (condition : String) : Except Fault Unit := do
  let cs := condition.toList
  let (depth, quoted) ← scan 0 false cs
  if (Text.trim cs).isEmpty || depth != 0 || quoted then throw (.near [])

end SpecDebugger.Condition
