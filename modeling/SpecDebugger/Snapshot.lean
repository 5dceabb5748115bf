/-
What a paused frame means in specification terms: the property it is
in, the scopes that are active, and in each of them which variables are
bound, which expressions are evaluated and which one is being evaluated.

A scope is read from its start up to the frame's line: over markers up
to that line and over nested scopes that end before it. The event after
these, if it is a nested scope around the line, is the next active
scope.
-/
import SpecDebugger.GenLocation
import SpecDebugger.Index.Basic

namespace SpecDebugger

-- ============================================== a scope at a line

/-- Whether a frame at `line` has this event behind it: a marker up to the
line, or a nested scope that ends before it. -/
def Event.isBehind (line : Nat) : Event → Bool
  | .scope lines _ _ => decide (lines.last < line)
  | .marker m => decide (m.line ≤ line)

/-- The nested scope that an event is, if it covers `line`. -/
def Event.around? (line : Nat) : Event → Option Scope
  | .scope lines bindings events =>
    if lines.contains line then some ⟨lines, bindings, events⟩ else none
  | .marker _ => none

namespace Scope

/-- The events that a frame at `line` has behind it. -/
def behind (s : Scope) (line : Nat) : List Event :=
  s.events.takeWhile (·.isBehind line)

/-- The nested scope around `line` that comes right after the events behind
it. -/
def inner? (s : Scope) (line : Nat) : Option Scope :=
  match s.events.dropWhile (·.isBehind line) with
  | [] => none
  | e :: _ => e.around? line

end Scope

/-- What the markers read so far have shown. -/
structure Evaluation where
  /-- The expressions that were started, the latest first. -/
  started : List ExprStart := []
  /-- The numbers of the expressions in flight, the latest first. -/
  inFlight : List Nat := []
  /-- The evaluated expressions, in completion order. -/
  done : List ExprStart := []

namespace Evaluation

/-- The latest start of an expression. -/
def latest? (v : Evaluation) (id : Nat) : Option ExprStart :=
  v.started.find? (·.id == id)

/-- Takes one event; what a nested scope evaluated is out of sight after it. -/
def note (v : Evaluation) : Event → Evaluation
  | .scope _ _ _ => v
  | .marker (.start e) =>
    { v with started := e :: v.started, inFlight := e.id :: v.inFlight }
  | .marker (.done e) =>
    { v with
      inFlight := v.inFlight.filter (· != e.id)
      done := v.done ++ (v.latest? e.id).toList }

/-- The latest start among the expressions in flight. -/
def current? (v : Evaluation) : Option ExprStart :=
  v.inFlight.head?.bind v.latest?

/-- Takes the events of a list in order. -/
def ofEvents (events : List Event) : Evaluation := events.foldl note {}

end Evaluation

/-- The state of one active scope. -/
structure ScopeState where
  scope : Scope
  /-- The variables that are bound, in declaration order. -/
  bindings : List Binding
  /-- The evaluated expressions, in completion order. -/
  done : List ExprStart
  /-- The innermost expression being evaluated. -/
  current : Option ExprStart

namespace ScopeState

/-- The state of a scope for a frame at `line`. -/
def analyze (s : Scope) (line : Nat) : ScopeState :=
  let v := Evaluation.ofEvents (s.behind line)
  { scope := s
    bindings := s.bindings.filter fun b => decide (b.line ≤ line)
    done := v.done
    current := v.current? }

/-- Whether there is nothing to show for the scope. -/
def isEmpty (st : ScopeState) : Bool :=
  st.bindings.isEmpty && st.done.isEmpty && st.current.isNone

end ScopeState

-- =================================================== the snapshot

mutual

/-- The scopes around `line` from an event inwards, outermost first. -/
def Event.chainAround (line : Nat) : Event → List Scope
  | .marker _ => []
  | .scope lines bindings events =>
    if lines.contains line then
      ⟨lines, bindings, events⟩ :: Event.nestedAround line events
    else []

/-- The scopes nested around `line` below a list of events, outermost first. -/
def Event.nestedAround (line : Nat) : List Event → List Scope
  | [] => []
  | e :: es =>
    if e.isBehind line then Event.nestedAround line es
    else Event.chainAround line e

end

/-- The scopes active at `line`: the scope itself, then inwards. -/
def Scope.active (s : Scope) (line : Nat) : List Scope :=
  s :: Event.nestedAround line s.events

/-- A marker that the line has not reached hides what comes after it. -/
@[simp]
theorem Event.nestedAround_marker (line : Nat) (m : Marker) (es : List Event) :
    nestedAround line (.marker m :: es) =
      if m.line ≤ line then nestedAround line es else [] := by
  simp [nestedAround, chainAround, isBehind]

/-- A scope that ends before the line is passed, one around it is
entered, and one that begins later ends the search. -/
theorem Event.nestedAround_scope (line : Nat) (lines : LineRange)
    (bindings : List Binding)
    (events es : List Event) :
    nestedAround line (.scope lines bindings events :: es) =
      if lines.last < line then nestedAround line es
      else if lines.contains line then
        ⟨lines, bindings, events⟩ :: nestedAround line events
      else [] := by
  simp [nestedAround, chainAround, isBehind]

/-- The search stops at the first event that is not behind the line. -/
theorem Event.nestedAround_eq (line : Nat) (events : List Event) :
    nestedAround line events =
      match events.dropWhile (·.isBehind line) with
      | [] => []
      | e :: _ =>
        match e.around? line with
        | none => []
        | some s => s :: nestedAround line s.events := by
  induction events with
  | nil => simp [nestedAround]
  | cons e es ih =>
    by_cases h : e.isBehind line = true
    · simp [nestedAround, h, ih]
    · cases e with
      | marker m => simp [nestedAround, chainAround, h, around?]
      | scope lines bindings events =>
        by_cases hc : lines.contains line = true
        · simp [nestedAround, chainAround, h, hc, around?]
        · simp [nestedAround, chainAround, h, hc, around?]

/-- The active scopes are a chain: each one but the first is the nested scope
of the one before that lies around the line. -/
theorem Scope.active_eq (s : Scope) (line : Nat) :
    s.active line =
      match s.inner? line with
      | none => [s]
      | some inner => s :: inner.active line := by
  unfold Scope.active Scope.inner?
  rw [Event.nestedAround_eq]
  cases s.events.dropWhile (·.isBehind line) with
  | nil => rfl
  | cons e _ =>
    cases h : e.around? line with
    | none => simp [h]
    | some inner => simp [h]

/-- What a paused frame is executing. -/
structure Snapshot where
  /-- Where the frame is paused. -/
  location : GenLocation
  property : Property
  /-- Whether a memoized result is about to be returned. -/
  memoized : Bool
  /-- The active scopes, outermost first. -/
  scopes : List ScopeState

namespace Snapshot

/-- The snapshot of a property for a frame paused at `location`. -/
def ofProperty (p : Property) (location : GenLocation) : Snapshot :=
  { location
    property := p
    memoized := p.memoization.any (·.contains location.line)
    scopes :=
      (p.toScope.active location.line).map
        (ScopeState.analyze · location.line) }

/-- The bindings in sight, outermost scope first. -/
def bindings (s : Snapshot) : List Binding := s.scopes.flatMap (·.bindings)

/-- The first binding in sight of a name. -/
def findBinding? (s : Snapshot) (name : String) : Option Binding :=
  s.bindings.find? (·.dslName == name)

/-- The innermost expression being evaluated, across all scopes. -/
def innermost? (s : Snapshot) : Option ExprStart :=
  s.scopes.reverse.findSome? (·.current)

end Snapshot

/-- The snapshot of a frame at `location`, if it is inside a property. -/
def Index.snapshotAt? (ix : Index) (location : GenLocation) :
    Option Snapshot :=
  if ix.isGeneratedFile location.file then
    (ix.findByLine? location.line).map (Snapshot.ofProperty · location)
  else none

end SpecDebugger
