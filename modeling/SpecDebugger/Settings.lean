/-
The settings of a user, with the file they are read from.
-/
import SpecDebugger.Toml.Document

namespace SpecDebugger

/-- The settings. -/
structure Settings where
  /-- What stands in front of every command name. With the empty prefix,
  commands hide those of the debugger that have the same name. -/
  commandPrefix : String := ""
  /-- How many characters of a value are shown before it is cut. -/
  ellipsisLimit : Nat := 50
  /-- The debugger to run. -/
  gdbPath : String := "gdb"
  /-- Whether a log file is written as well. -/
  fileLogging : Bool := false
deriving DecidableEq, Repr

namespace Settings

/-- Why a text holds no settings. -/
inductive Fault where
  | malformed
  | zeroLimit
deriving DecidableEq, Repr

/-- What the user is told. -/
def Fault.message : Fault → String
  | .malformed => "Failed to parse config file as TOML"
  | .zeroLimit => "ellipsis_limit must be at least 1"

/-- Takes one setting; `none` for an unknown key and for a value of the wrong
type. -/
def set? (s : Settings) : String × Toml.Value → Option Settings
  | ("command_prefix", .string text) => some { s with commandPrefix := text }
  | ("ellipsis_limit", .integer n) =>
    if 0 ≤ n ∧ n < Text.wordBound then some { s with ellipsisLimit := n.toNat }
    else none
  | ("gdb_path", .string text) => some { s with gdbPath := text }
  | ("file_logging", .boolean b) => some { s with fileLogging := b }
  | _ => none

/-- Takes settings in order. -/
def setAll? (s : Settings) : List (String × Toml.Value) → Option Settings
  | [] => some s
  | entry :: entries => do
    let s ← s.set? entry
    s.setAll? entries

/-- The settings of a document, each key being set once at most. -/
def ofDocument? (entries : List (String × Toml.Value)) : Option Settings :=
  if (entries.map (·.1)).Nodup then ({} : Settings).setAll? entries else none

/-- Reads settings. -/
def parse (text : String) : Except Fault Settings :=
  match (Toml.parse? text).bind ofDocument? with
  | none => .error .malformed
  | some s => if s.ellipsisLimit = 0 then .error .zeroLimit else .ok s

/-- The name of the settings file in the home directory. -/
def fileName : String := ".sdb.toml"

end Settings

end SpecDebugger
