/-
The text that shows a snapshot. A report is a list of entries; some of
them show the value of a generated variable, which is read from the
debugger when its entry is written, in the order of the entries.
-/
import SpecDebugger.Debugger.Basic
import SpecDebugger.Snapshot

namespace SpecDebugger

namespace StateReport

/-- What is shown, and how. -/
structure Options where
  /-- Whether long values are cut. -/
  ellipsis : Bool := true
  /-- Whether the generated variable of a value is named. -/
  storage : Bool := false
  /-- How many characters of a value are shown when it is cut. -/
  limit : Nat := 50
  /-- The one variable that is shown, instead of everything. -/
  only : Option String := none
deriving DecidableEq, Repr

/-- An entry of a report. -/
inductive Entry where
  | notInProperty
  | noBinding (name : String)
  | running (property : String)
  | origin (sloc : SpecLocation)
  | memoized
  /-- The empty line before a scope. -/
  | gap
  | binding (b : Binding)
  /-- An evaluated expression. -/
  | result (e : ExprStart)
  | evaluating (image : String)
deriving DecidableEq, Repr

-- ==================================================== the entries

/-- The place in the specification, if it is known. -/
def originOf (sloc : Option SpecLocation) : List Entry :=
  (sloc.map Entry.origin).toList

/-- The entries of the expression being evaluated, if there is one. -/
def evaluatingEntries : Option ExprStart → List Entry
  | none => []
  | some e => .evaluating e.image :: originOf e.sloc

/-- The entries of an active scope, none when there is nothing to show for
it. -/
def scopeEntries (st : ScopeState) : List Entry :=
  if st.isEmpty then []
  else
    .gap ::
      (st.bindings.map .binding ++ st.done.map .result ++
        evaluatingEntries st.current)

/-- The entries that show everything. -/
def fullEntries (s : Snapshot) : List Entry :=
  .running s.property.name :: (originOf s.property.sloc ++
    (if s.memoized then [.memoized] else []) ++ s.scopes.flatMap scopeEntries)

/-- The entries of a report. -/
def entries (o : Options) : Option Snapshot → List Entry
  | none => [.notInProperty]
  | some s =>
    match o.only with
    | none => fullEntries s
    | some name =>
      match s.findBinding? name with
      | none => [.noBinding name]
      | some b => [.binding b]

-- ======================================================= the text

/-- The generated variable whose value an entry shows. -/
def Entry.genVar? : Entry → Option String
  | .binding b => some b.genName
  | .result e => some e.resultVar
  | _ => none

/-- The name of a generated variable, if it is to be shown. -/
def storageImage (o : Options) (name : String) : String :=
  if o.storage then s!" ({name})" else ""

/-- The text of an entry that shows `value`. -/
def Entry.text (o : Options) (value : String) : Entry → String
  | .notInProperty => "Selected frame is not in a property."
  | .noBinding name => s!"No binding called {name}"
  | .running property => s!"Running {property}"
  | .origin sloc => s!"from {sloc.display}"
  | .memoized => "About to return a memoized result..."
  | .gap => ""
  | .binding b => s!"{b.dslName}{storageImage o b.genName} = {value}"
  | .result e => s!"{e.image}{storageImage o e.resultVar} -> {value}"
  | .evaluating image => s!"Currently evaluating {image}"

/-- Cuts a value to `limit` characters, and marks it when something was cut. -/
def truncate (value : String) (limit : Nat) : String :=
  let cs := value.toList
  if limit < cs.length then String.ofList (cs.take limit) ++ "..." else value

/-- What is shown for the answer to a reading. -/
def valueImage (o : Options) : Except HostError String → String
  | .ok value => if o.ellipsis then truncate value o.limit else value
  | .error e => s!"<unavailable: {e.message}>"

variable {σ : Type} [Debugger σ]

/-- The text of an entry and the end of its line; a value is read for it if it
shows one. -/
def writeEntry (o : Options) (e : Entry) : StateM σ String := do
  match e.genVar? with
  | none => return e.text o "" ++ "\n"
  | some name =>
    let answer ← (Debugger.readVar name : Request σ String).run
    return e.text o (valueImage o answer) ++ "\n"

/-- The text of the entries, in order. -/
def writeEntries (o : Options) : List Entry → StateM σ String
  | [] => pure ""
  | e :: es => do
    let first ← writeEntry o e
    let others ← writeEntries o es
    return first ++ others

/-- The report on a snapshot, `none` being a frame outside every property. -/
def write (o : Options) (s : Option Snapshot) : StateM σ String :=
  writeEntries o (entries o s)

end StateReport

/-- The snapshot of the selected frame, if it is inside a property. -/
def Index.currentSnapshot? {σ : Type} [Debugger σ] (ix : Index) :
    Request σ (Option Snapshot) := do
  match ← (Debugger.location : Request σ (Option GenLocation)) with
  | none => pure none
  | some location => pure (ix.snapshotAt? location)

end SpecDebugger
