/-
The list of commands that `help` shows.
-/
namespace SpecDebugger.Help

/-- What is said about a command. -/
structure Topic where
  name : String
  /-- Its arguments. -/
  usage : String
  summary : String
deriving DecidableEq, Repr

/-- Every command. -/
def topics : List Topic :=
  [ ⟨"state", "[/fs] [VARIABLE]",
      "Display the state of the currently running property " ++
        "(f: no ellipsis, s: show generated variable names)"⟩,
    ⟨"break", "PROPERTY|FILE:LINE [if CONDITION]",
      "Put a breakpoint on a property or on a specification source location"⟩,
    ⟨"next", "", "Continue execution until reaching another expression"⟩,
    ⟨"out", "",
      "Continue execution until the end of the evaluation of the current " ++
        "sub-expression"⟩,
    ⟨"si", "",
      "Step inside the property about to be called, traversing dispatchers"⟩,
    ⟨"help", "", "List SDB commands"⟩ ]

/-- The lines about a command, whose name is shown with its prefix. -/
def Topic.text (pre : String) (t : Topic) : String :=
  let usage := if t.usage.isEmpty then "" else s!" {t.usage}"
  s!"  {pre}{t.name}{usage}\n      {t.summary}\n"

/-- The help text. -/
def text (pre : String) : String :=
  "SDB commands:\n" ++ String.join (topics.map (·.text pre))

end SpecDebugger.Help
