/-
Positions in the specification a program was generated from, and their
text form `file:line[:column][#discriminator]`.

The text form is read from its end, so that a file name may hold colons:
the discriminator follows the last `#`, then the last colon is looked
for, and the part before it gives the line as well when it ends in a
colon and digits.
-/
import SpecDebugger.FilePath
import SpecDebugger.Text.Blank
import SpecDebugger.Text.Cut
import SpecDebugger.Text.Number
import SpecDebugger.Text.Quoted

namespace SpecDebugger

/-- A position in the specification. The discriminator tells apart constructs
that share a line and a column. -/
structure SpecLocation where
  file : String
  line : Nat
  column : Option Nat := none
  discriminator : Option Nat := none
deriving DecidableEq, Repr

namespace SpecLocation

-- ================================================= the text form

/-- A number of the text form. -/
inductive Part where
  | line
  | column
  | discriminator
deriving DecidableEq, Repr

/-- The name of a part in messages. -/
def Part.name : Part → String
  | .line => "line"
  | .column => "column"
  | .discriminator => "discriminator"

/-- Why a text is no location. `input` is the text without the white space
around it. -/
inductive Malformed where
  | missingFile (input : String)
  | missingLine (input : String)
  | invalidNumber (part : Part) (text input : String)
deriving DecidableEq, Repr

/-- What the user is told. -/
def Malformed.message : Malformed → String
  | .missingFile input => s!"missing file name in source location: {input}"
  | .missingLine input => s!"missing line number in source location: {input}"
  | .invalidNumber part text input =>
    s!"invalid {part.name} in source location {input}: {Text.quoted text}"

/-- Reads one number of the location `input`; white space around it is
allowed. -/
def readPart (part : Part) (cs input : List Char) : Except Malformed Nat :=
  match Text.natural? Text.wordBound (Text.trim cs) with
  | some n => .ok n
  | none =>
    .error (.invalidNumber part (String.ofList cs) (String.ofList input))

/-- Reads the discriminator: what is left of it, and its number if there is
one. -/
def readDiscriminator (input : List Char) :
    Except Malformed (List Char × Option Nat) :=
  match Text.cutAtLast '#' input with
  | none => .ok (input, none)
  | some (rest, ds) => do
    let n ← readPart .discriminator ds input
    pure (rest, some n)

/-- Reads the line, and the column if there is one, at the end of `rest`: what
is left is the file. -/
def readLine (rest input : List Char) :
    Except Malformed (List Char × Nat × Option Nat) :=
  match Text.cutAtLast ':' rest with
  | none => .error (.missingLine (String.ofList input))
  | some (head, last) =>
    let withoutColumn : Except Malformed (List Char × Nat × Option Nat) := do
      let line ← readPart .line last input
      pure (head, line, none)
    match Text.cutAtLast ':' head with
    | none => withoutColumn
    | some (file, middle) =>
      if Text.isDigits middle then do
        let line ← readPart .line middle input
        let column ← readPart .column last input
        pure (file, line, some column)
      else withoutColumn

/-- Reads a location from its text form. -/
def parse (s : String) : Except Malformed SpecLocation := do
  let input := Text.trim s.toList
  let (rest, discriminator) ← readDiscriminator input
  let (file, line, column) ← readLine rest input
  if file = [] then throw (.missingFile (String.ofList input))
  pure { file := String.ofList file, line, column, discriminator }

/-- The text form of a location. -/
def display (l : SpecLocation) : String :=
  let column := match l.column with
    | none => ""
    | some c => s!":{c}"
  let discriminator := match l.discriminator with
    | none => ""
    | some d => s!"#{d}"
  s!"{l.file}:{l.line}{column}{discriminator}"

instance : ToString SpecLocation := ⟨display⟩

-- ====================================================== matching

/-- Whether a recorded file is the one a query names: the same text, or a path
that ends with the query. -/
def fileMatches (recorded query : String) : Bool :=
  recorded == query || FilePath.endsWith recorded query

/-- Whether an absent part of a query, or an equal one, stands for the recorded
part. -/
def partMatches (recorded query : Option Nat) : Bool :=
  match query with
  | none => true
  | some n => recorded == some n

/-- Whether the recorded location `l` is one that `query` asks for. The column
and the discriminator stand for any when the query leaves them out. -/
def isMatch (l query : SpecLocation) : Bool :=
  fileMatches l.file query.file && l.line == query.line &&
    partMatches l.column query.column &&
    partMatches l.discriminator query.discriminator

-- ========================================================= order

/-- Locations in order: by file, line, column and discriminator, an absent
number before any other. -/
def compare (a b : SpecLocation) : Ordering :=
  (Ord.compare a.file b.file).then <|
  (Ord.compare a.line b.line).then <|
  (Ord.compare a.column b.column).then <|
  Ord.compare a.discriminator b.discriminator

end SpecLocation

end SpecDebugger
