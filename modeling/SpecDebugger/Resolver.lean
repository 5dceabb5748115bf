/-
From what the user wants to break on to a line of the generated code. A
property is broken on where its body starts, a location of the
specification where the expression there starts being evaluated. When
several expressions stand there the user is shown all of them, numbered
from 1, and chooses one.
-/
import SpecDebugger.BreakSpec
import SpecDebugger.Command.Error
import SpecDebugger.Dialogue
import SpecDebugger.Index.Basic

namespace SpecDebugger

/-- An expression that stands at a location asked for. -/
structure Match where
  property : Property
  /-- The location of the expression. -/
  sloc : SpecLocation
  /-- The generated line where its evaluation starts. -/
  line : Nat

namespace Property

/-- The start markers of a property at every depth, in depth-first order. -/
def starts (p : Property) : List ExprStart := Event.startsIn p.events

/-- The expressions of a property that stand at a location. -/
def matchesOf (p : Property) (query : SpecLocation) : List Match :=
  p.starts.filterMap fun e =>
    match e.sloc with
    | none => none
    | some sloc => if sloc.isMatch query then some ⟨p, sloc, e.line⟩ else none

end Property

namespace Index

/-- The expressions that stand at a location, in the order of the index. -/
def findMatches (ix : Index) (query : SpecLocation) : List Match :=
  ix.properties.flatMap (·.matchesOf query)

/-- The line where a property is broken on. -/
def resolveProperty (ix : Index) (name : String) :
    Except CommandError GenLocation :=
  match ix.findByName? name with
  | none => .error (.noSuchProperty name)
  | some p =>
    match p.bodyStart? with
    | none => .error (.noCode p.name)
    | some line => .ok (ix.location line)

-- ==================================================== the choice

/-- A text of at least `width` characters, filled up in front. -/
def padded (width : Nat) (text : String) : String :=
  String.ofList (List.replicate (width - text.length) ' ') ++ text

/-- The number of a match as it is listed. -/
def listNumber (n : Nat) : String := s!"[{n}] "

/-- The two lines that list a match under its number, in a column of
`width`. -/
def listing (ix : Index) (width number : Nat) (m : Match) : String :=
  padded width (listNumber number) ++
    s!"In {m.property.name}, {m.sloc.display}\n" ++
    padded width "" ++ s!"at {ix.location m.line}\n"

/-- The lines that list `matches` under the numbers from `number` on. -/
def listings (ix : Index) (width number : Nat) : List Match → String
  | [] => ""
  | m :: ms => ix.listing width number m ++ ix.listings width (number + 1) ms

/-- What the user is shown before the choice. -/
def menu (ix : Index) (query : SpecLocation) (found : List Match) : String :=
  s!"Multiple matches for {query.display}:\n" ++
    ix.listings (listNumber found.length).length 1 found ++
    "Please choose one of the above locations [default=1]:\n"

/-- The match that an answer chooses; a blank one chooses the first. -/
def chosen (found : List Match) (answer : String) :
    Except CommandError Match :=
  let cs := Text.trim answer.toList
  let number : Except CommandError Nat :=
    if cs.isEmpty then .ok 1
    else
      match Text.natural? Text.wordBound cs with
      | none => .error (.invalidChoice (String.ofList cs))
      | some n => .ok n
  match number with
  | .error e => .error e
  | .ok 0 => .error (.choiceOutOfRange found.length)
  | .ok (n + 1) =>
    match found[n]? with
    | none => .error (.choiceOutOfRange found.length)
    | some m => .ok m

/-- Lets the user choose one of several matches. -/
def choose (ix : Index) (query : SpecLocation) (found : List Match) :
    ExceptT CommandError (StateM User) Match := do
  User.say (ix.menu query found)
  match ← User.readLine "> " with
  | .error failure => throw (.io failure)
  | .ok none => throw .aborted
  | .ok (some answer) => ExceptT.mk (pure (chosen found answer))

/-- The line of the expression at a location; the user is asked when there are
several. -/
def resolveLocation (ix : Index) (query : SpecLocation) :
    ExceptT CommandError (StateM User) GenLocation := do
  match ix.findMatches query with
  | [] => throw (.noMatch query)
  | [m] => pure (ix.location m.line)
  | found =>
    let m ← ix.choose query found
    pure (ix.location m.line)

/-- The line to break on. -/
def resolve (ix : Index) :
    BreakSpec → ExceptT CommandError (StateM User) GenLocation
  | .property name => ExceptT.mk (pure (ix.resolveProperty name))
  | .location sloc => ix.resolveLocation sloc

end Index

end SpecDebugger
