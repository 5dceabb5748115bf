/-
The record of an index: its JSON form, read and written.

A record is an object of its fields, or an array of them in order, from
whose end fields with a default may be missing; only a property, whose
fields are those of its scope as well, has to be an object. A field may
not be given twice, other fields are ignored. What is ignored inside a
property still has to be readable; what is ignored in the index object
itself, or in the range of a memoization, only has to be JSON.

This is how serde_json reads structures with derived readers; which of
its behaviour is followed is said where JSON values are defined. All of
this module is about values (`ofJson`, `Index.toJson`): the text they are
written in is left to the reader of JSON, and only `Index.parse` is about
both.
-/
import SpecDebugger.Index.Basic
import SpecDebugger.Json.Access
import SpecDebugger.Json.Parser

namespace SpecDebugger.Index.Record

-- ======================================================== fields

/-- The values of one key. -/
def valuesOf (key : String) (members : List (Option String × Json)) :
    List Json :=
  members.filterMap fun (k, v) => if k = some key then some v else none

/-- The value of a field that is given at most once: `none` when it is given
twice. -/
def field? (key : String) (members : List (Option String × Json)) :
    Option (Option Json) :=
  match valuesOf key members with
  | [] => some none
  | [v] => some (some v)
  | _ => none

/-- The members of a record with the fields `names`, whichever form it has. -/
def members? (names : List String) :
    Json → Option (List (Option String × Json))
  | .object members => some members
  | .array items =>
    if items.length ≤ names.length then some ((names.map some).zip items)
    else none
  | _ => none

/-- Reads a field that has to be given. -/
def required {α : Type} (read : Json → Option α) (key : String)
    (members : List (Option String × Json)) : Option α := do
  let value ← field? key members
  read (← value)

/-- Reads a field that stands for `default` when it is not given. -/
def withDefault {α : Type} (read : Json → Option α) (default : α)
    (key : String)
    (members : List (Option String × Json)) : Option α := do
  match ← field? key members with
  | none => pure default
  | some value => read value

/-- Reads a value, `null` for none. -/
def nullable {α : Type} (read : Json → Option α) : Json → Option (Option α)
  | .null => some none
  | value => (read value).map some

-- ====================================================== reading

/-- A location by its text form. -/
def sloc? (j : Json) : Option SpecLocation := do
  let s ← j.text?
  (SpecLocation.parse s).toOption

/-- A range of lines. -/
def range? (j : Json) : Option LineRange := do
  let ms ← members? ["first", "last"] j
  pure
    { first := ← required Json.nat? "first" ms
      last := ← required Json.nat? "last" ms }

/-- A variable of the specification. -/
def binding? (j : Json) : Option Binding := do
  let ms ← members? ["dsl_name", "gen_name", "line_no"] j
  pure {
    dslName := ← required Json.text? "dsl_name" ms
    genName := ← required Json.text? "gen_name" ms
    line := ← required Json.nat? "line_no" ms }

/-- The marker where an evaluation starts. -/
def exprStart? (j : Json) : Option ExprStart := do
  let ms ← members? ["expr_id", "repr", "result_var", "dsl_sloc", "line_no"] j
  pure {
    id := ← required Json.nat? "expr_id" ms
    image := ← required Json.text? "repr" ms
    resultVar := ← required Json.text? "result_var" ms
    sloc := ← withDefault (nullable sloc?) none "dsl_sloc" ms
    line := ← required Json.nat? "line_no" ms }

/-- The marker where an evaluation is done. -/
def exprDone? (j : Json) : Option ExprDone := do
  let ms ← members? ["expr_id", "line_no"] j
  pure
    { id := ← required Json.nat? "expr_id" ms
      line := ← required Json.nat? "line_no" ms }

/-- A marker is an object with one member, whose key tells its kind. -/
def marker? : Json → Option Marker
  | .object [(some "start", j)] => (exprStart? j).map .start
  | .object [(some "done", j)] => (exprDone? j).map .done
  | _ => none

mutual

/-- An event is an object with one member, whose key tells its kind. -/
def event? : Json → Option Event
  | .object [(some "expr", j)] => (marker? j).map .marker
  | .object [(some "scope", j)] =>
    (scope? j).map fun s => .scope s.lines s.bindings s.events
  | _ => none

/-- A scope, whichever form it has. -/
def scope? : Json → Option Scope
  | .object ms => do
    let lines ← required range? "lines" ms
    let bindings ← withDefault (Json.list? binding?) [] "bindings" ms
    let _ ← field? "events" ms
    let events ← eventsField? ms
    pure { lines, bindings, events }
  | .array [lines] => do
    pure { lines := ← range? lines }
  | .array [lines, bindings] => do
    pure
      { lines := ← range? lines, bindings := ← Json.list? binding? bindings }
  | .array [lines, bindings, events] => do
    pure {
      lines := ← range? lines
      bindings := ← Json.list? binding? bindings
      events := ← events? events }
  | _ => none

/-- The events among the members of a scope, none when they are not given. -/
def eventsField? : List (Option String × Json) → Option (List Event)
  | [] => some []
  | (key, value) :: ms =>
    if key = some "events" then events? value else eventsField? ms

/-- A list of events. -/
def events? : Json → Option (List Event)
  | .array items => eventList? items
  | _ => none

/-- Reads every event of a list. -/
def eventList? : List Json → Option (List Event)
  | [] => some []
  | j :: js => do
    let e ← event? j
    let es ← eventList? js
    pure (e :: es)

end

/-- How deep the values of a property may be nested: an index is read to a
depth of 127, of which the index, the list of properties and the property take
one each. -/
def propertyDepth : Nat := 124

/-- A range that may hold members that are skipped, however deep: only their
keys are read. -/
def memoization? : Json → Option (Option LineRange)
  | .null => some none
  | .object ms =>
    if ms.all fun m => m.1.isSome then (range? (.object ms)).map some else none
  | j => (range? j).map some

/-- Whether a member of a property can be read. -/
def memberReadable (m : Option String × Json) : Bool :=
  m.1.isSome &&
    (m.1 == some "memoization_lookup" || m.2.readable propertyDepth)

/-- A property is an object with the fields of its scope and its own. -/
def property? : Json → Option Property
  | .object ms => do
    if !ms.all memberReadable then none
    let name ← required Json.text? "name" ms
    let sloc ← withDefault (nullable sloc?) none "dsl_sloc" ms
    let memoization ← withDefault memoization? none "memoization_lookup" ms
    let scope ← scope? (.object ms)
    pure { scope with name, sloc, memoization }
  | _ => none

/-- The file and the properties of an index. -/
def index? (j : Json) : Option (String × List Property) := do
  let ms ← members? ["filename", "properties"] j
  if !ms.all fun m => m.1.isSome then none
  let filename ← required Json.text? "filename" ms
  let properties ← withDefault (Json.list? property?) [] "properties" ms
  pure (filename, properties)

end Record

open Record

/-- The index that a JSON value records. -/
def ofJson (j : Json) : Except Fault Index :=
  match index? j with
  | none => .error .malformed
  | some (filename, properties) => build filename properties

/-- The index that a text records. -/
def parse (text : String) : Except Fault Index :=
  match Json.parse? text with
  | none => .error .malformed
  | some j => ofJson j

namespace Record

-- ====================================================== writing

/-- The record of a location, which is its text form. -/
def ofSloc : Option SpecLocation → Json :=
  Json.ofOption fun l => .text l.display

/-- The record of a range of lines. -/
def ofRange (r : LineRange) : Json :=
  .record [("first", .nat r.first), ("last", .nat r.last)]

/-- The record of a variable. -/
def ofBinding (b : Binding) : Json :=
  .record
    [("dsl_name", .text b.dslName), ("gen_name", .text b.genName),
      ("line_no", .nat b.line)]

/-- The record of a start marker. -/
def ofStart (e : ExprStart) : Json :=
  .record
    [("expr_id", .nat e.id), ("repr", .text e.image),
      ("result_var", .text e.resultVar),
    ("dsl_sloc", ofSloc e.sloc), ("line_no", .nat e.line)]

/-- The record of a done marker. -/
def ofDone (e : ExprDone) : Json :=
  .record [("expr_id", .nat e.id), ("line_no", .nat e.line)]

/-- The record of a marker, under the name of its kind. -/
def ofMarker : Marker → Json
  | .start e => .record [("start", ofStart e)]
  | .done e => .record [("done", ofDone e)]

mutual

/-- The record of an event, under the name of its kind. -/
def ofEvent : Event → Json
  | .scope lines bindings events =>
    .record [("scope", .record [("lines", ofRange lines),
      ("bindings", .array (bindings.map ofBinding)),
      ("events", .array (ofEvents events))])]
  | .marker m => .record [("expr", ofMarker m)]

/-- The records of events, in order. -/
def ofEvents : List Event → List Json
  | [] => []
  | e :: es => ofEvent e :: ofEvents es

end

/-- The record of a property, with the fields of its scope. -/
def ofProperty (p : Property) : Json :=
  .record [("name", .text p.name), ("dsl_sloc", ofSloc p.sloc),
    ("memoization_lookup", Json.ofOption ofRange p.memoization),
    ("lines", ofRange p.lines),
    ("bindings", .array (p.bindings.map ofBinding)),
    ("events", .array (ofEvents p.events))]

end Record

/-- The record of an index, with every field written. -/
def toJson (ix : Index) : Json :=
  .record
    [("filename", .text ix.filename),
      ("properties", .array (ix.properties.map ofProperty))]

end SpecDebugger.Index
