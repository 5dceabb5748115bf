/-
What the generated code records about itself: scopes, the variables
bound in them, and markers for the evaluation of expressions.
-/
import SpecDebugger.LineRange
import SpecDebugger.SpecLocation

namespace SpecDebugger

/-- A variable of the specification. -/
structure Binding where
  /-- Its name in the specification. -/
  dslName : String
  /-- The generated variable that holds its value. -/
  genName : String
  /-- The generated line from which on it is bound. -/
  line : Nat
deriving DecidableEq, Repr

/-- The marker where the evaluation of an expression starts. -/
structure ExprStart where
  /-- The number shared with the marker where the evaluation is done. -/
  id : Nat
  /-- The expression as it is shown. -/
  image : String
  /-- The generated variable that holds the result. -/
  resultVar : String
  /-- Where the expression stands in the specification. -/
  sloc : Option SpecLocation
  line : Nat
deriving DecidableEq, Repr

/-- The marker where the evaluation of an expression is done. -/
structure ExprDone where
  id : Nat
  line : Nat
deriving DecidableEq, Repr

/-- A marker of the evaluation of an expression. -/
inductive Marker where
  | start (e : ExprStart)
  | done (e : ExprDone)
deriving DecidableEq, Repr

/-- The generated line of a marker. -/
def Marker.line : Marker → Nat
  | .start e => e.line
  | .done e => e.line

/-- What happens in a scope: a marker, or a nested scope with its lines, its
bindings and its own events. -/
inductive Event where
  | scope (lines : LineRange) (bindings : List Binding) (events : List Event)
  | marker (m : Marker)

/-- A nesting level of the generated code. -/
structure Scope where
  /-- The lines it covers. -/
  lines : LineRange
  /-- Its variables, in declaration order. -/
  bindings : List Binding := []
  /-- Its events, in the order they are recorded. -/
  events : List Event := []

namespace Event

mutual

/-- The start markers of an event, nested ones included, in depth-first
order. -/
def starts : Event → List ExprStart
  | .scope _ _ events => startsIn events
  | .marker (.start e) => [e]
  | .marker (.done _) => []

/-- The start markers of a list of events, in depth-first order. -/
def startsIn : List Event → List ExprStart
  | [] => []
  | e :: es => starts e ++ startsIn es

end

mutual

/-- The lines of the markers of an event, nested ones included. -/
def markerLines : Event → List Nat
  | .scope _ _ events => markerLinesIn events
  | .marker m => [m.line]

/-- The lines of the markers of a list of events. -/
def markerLinesIn : List Event → List Nat
  | [] => []
  | e :: es => markerLines e ++ markerLinesIn es

end

mutual

/-- The line of the first done marker of expression `id`, in depth-first
order. -/
def doneLine? (id : Nat) : Event → Option Nat
  | .scope _ _ events => doneLineIn? id events
  | .marker (.start _) => none
  | .marker (.done e) => if e.id = id then some e.line else none

/-- The line of the first done marker of expression `id` in a list of
events. -/
def doneLineIn? (id : Nat) : List Event → Option Nat
  | [] => none
  | e :: es =>
    match doneLine? id e with
    | some line => some line
    | none => doneLineIn? id es

end

end Event

/-- The first scope directly nested in `s`. -/
def Scope.firstNested? (s : Scope) : Option Scope :=
  s.events.findSome? fun
    | .scope lines bindings events => some ⟨lines, bindings, events⟩
    | .marker _ => none

end SpecDebugger
