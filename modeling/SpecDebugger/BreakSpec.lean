/-
What a user may want to break on: a property by its name, or a location
in the specification, which has a colon.
-/
import SpecDebugger.SpecLocation

namespace SpecDebugger

/-- What to break on. -/
inductive BreakSpec where
  /-- A qualified property name, in any case. -/
  | property (name : String)
  | location (sloc : SpecLocation)
deriving DecidableEq, Repr

namespace BreakSpec

/-- Reads what to break on. -/
def parse (s : String) : Except SpecLocation.Malformed BreakSpec :=
  if ':' ∈ s.toList then (SpecLocation.parse s).map .location
  else .ok (.property s)

/-- The text of it. -/
def display : BreakSpec → String
  | .property name => name
  | .location sloc => sloc.display

end BreakSpec

end SpecDebugger
