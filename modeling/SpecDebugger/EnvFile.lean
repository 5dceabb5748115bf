/-
Environment files: lines `KEY=value` that add to the environment what it
does not have. A value may be quoted, may go over several lines inside
quotes, and may refer to other variables by `$KEY` or `${KEY}`. The file
is taken up to the first line that makes no sense.
-/
import SpecDebugger.Text.Alphanumeric
import SpecDebugger.Text.Lines

namespace SpecDebugger

/-- Variables with their values, the first one of a name being the one that
counts. -/
abbrev Environment := List (String × String)

/-- The value of a variable. A variable is kept as its name, an equals sign and
its value, so that of a name with an equals sign in it the value is what such
an entry goes on with. No variable has the empty name. -/
def Environment.value? (environment : Environment) (name : String) :
    Option String :=
  if name.isEmpty then none
  else
    environment.findSome? fun (key, value) =>
      ((name.toList ++ ['=']).isPrefixOf?
        (key.toList ++ '=' :: value.toList)).map String.ofList

namespace EnvFile

-- ================================================= logical lines

/-- What surrounds a place in a line. -/
inductive Context where
  | plain
  | escape
  | doubleQuotes
  | doubleQuotesEscape
  | singleQuotes
  | singleQuotesEscape
  /-- White space, after which a comment may start. -/
  | space
  | comment
deriving DecidableEq, Repr

/-- The context outside quotes after a character that is not white space. -/
def Context.opened (c : Char) : Context :=
  if c = '\\' then .escape
  else if c = '"' then .doubleQuotes
  else if c = '\'' then .singleQuotes
  else .plain

/-- The context after a character. -/
def Context.after (context : Context) (c : Char) : Context :=
  match context with
  | .plain =>
    if Text.isBlank c && c != '\n' && c != '\r' then .space else .opened c
  | .space => if c = '#' then .comment else .opened c
  | .escape => .plain
  | .doubleQuotes =>
    if c = '\\' then .doubleQuotesEscape
    else if c = '"' then .plain else .doubleQuotes
  | .doubleQuotesEscape => .doubleQuotes
  | .singleQuotes =>
    if c = '\\' then .singleQuotesEscape
    else if c = '\'' then .plain else .singleQuotes
  | .singleQuotesEscape => .singleQuotes
  | .comment => .comment

/-- Reads a line up to a comment: what comes before it, and the context at the
end. -/
def scan (context : Context) : List Char → List Char × Context
  | [] => ([], context)
  | c :: cs =>
    match context.after c with
    | .comment => ([], .comment)
    | context =>
      let (kept, last) := scan context cs
      (c :: kept, last)

/-- Joins lines whose quotes are open with the ones that follow; `begun` is
what was read of the line at hand. A `none` stands for lines that make no
sense, and ends the list. -/
def logicalLines (begun : List Char) (context : Context) :
    List (Option String) → List (Option (List Char))
  | [] => if context = .plain then [] else [none]
  | none :: _ => [none]
  | some line :: rest =>
    let all := begun ++ line.toList
    if ['#'].isPrefixOf (Text.trimStart all) then logicalLines [] .plain rest
    else
      match scan context line.toList with
      | (_, .plain) =>
        some (Text.dropLineEnd all) :: logicalLines [] .plain rest
      | (kept, .comment) => some (begun ++ kept) :: logicalLines [] .plain rest
      | (_, context) => logicalLines all context rest

-- ========================================================= values

/-- Which reference to a variable is being read. -/
inductive Reference where
  | none
  /-- After a dollar sign. -/
  | bare
  /-- After a dollar sign and a brace. -/
  | braced
deriving DecidableEq, Repr

/-- How far a value was read. Both texts are in reverse. -/
structure Progress where
  singleQuotes : Bool := false
  doubleQuotes : Bool := false
  escaped : Bool := false
  /-- Whether only white space or a comment may follow. -/
  ending : Bool := false
  reference : Reference := .none
  name : List Char := []
  value : List Char := []

namespace Progress

/-- Adds a character to the value. -/
def push (p : Progress) (c : Char) : Progress :=
  { p with value := c :: p.value }

/-- Replaces the name that was read by the value of the variable. -/
def resolve (environment : Environment) (p : Progress) : Progress :=
  let value := (environment.value? (String.ofList p.name.reverse)).getD ""
  { p with name := [], value := value.toList.reverse ++ p.value }

/-- Takes a character of a reference that cannot be part of a bare name. -/
def endReference (environment : Environment) (p : Progress) (c : Char) :
    Progress :=
  match p.reference with
  | .braced =>
    if c = '\x7d' then { p with reference := .none }.resolve environment
    else { p with name := c :: p.name }
  | _ =>
    if c = '\x7b' && p.name.isEmpty then { p with reference := .braced }
    else
      let p := p.resolve environment
      if c = '$' then { p with reference := .bare }
      else { p with reference := .none }.push c

/-- Takes a character; `none` when it makes no sense. -/
def take (environment : Environment) (p : Progress) (c : Char) :
    Option Progress :=
  if p.ending then (if c = ' ' || c = '\t' then some p else none)
  else if p.escaped then
    let p := { p with escaped := false }
    if c = '\\' || c = '\'' || c = '"' || c = '$' || c = ' ' then
      some (p.push c)
    else if c = 'n' then some (p.push '\n')
    else none
  else if p.singleQuotes then
    some (if c = '\'' then { p with singleQuotes := false } else p.push c)
  else if p.reference != .none then
    some (if Text.isAlphanumeric c then { p with name := c :: p.name }
      else p.endReference environment c)
  else if c = '$' then some { p with reference := .bare }
  else if p.doubleQuotes then
    some (if c = '"' then { p with doubleQuotes := false }
      else if c = '\\' then { p with escaped := true } else p.push c)
  else if c = '\'' then some { p with singleQuotes := true }
  else if c = '"' then some { p with doubleQuotes := true }
  else if c = '\\' then some { p with escaped := true }
  else if c = ' ' || c = '\t' then some { p with ending := true }
  else some (p.push c)

/-- The value at the end of its text; `none` when something is still open. -/
def finish (environment : Environment) (p : Progress) : Option String :=
  if p.reference = .braced || p.singleQuotes || p.doubleQuotes then none
  else some (String.ofList (p.resolve environment).value.reverse)

end Progress

/-- Reads a value up to its end, or to a comment after white space. -/
def readValue (environment : Environment) (p : Progress) :
    List Char → Option String
  | [] => p.finish environment
  | c :: cs =>
    if p.ending && c = '#' then p.finish environment
    else (p.take environment c).bind fun p => readValue environment p cs

-- ==================================================== assignments

/-- A key: a letter or underscore, then letters, digits, underscores and
dots. -/
def readKey? (cs : List Char) : Option (List Char × List Char) :=
  match cs with
  | [] => none
  | c :: _ =>
    if c.isAlpha || c = '_' then
      let isKeyChar := fun c : Char => c.isAlphanum || c = '_' || c = '.'
      some (cs.takeWhile isKeyChar, cs.dropWhile isKeyChar)
    else none

/-- Takes an equals sign, white space in front of it being allowed. -/
def readEquals? (cs : List Char) : Option (List Char) :=
  ['='].isPrefixOf? (Text.trimStart cs)

/-- A key and its equals sign, `export` in front being allowed. -/
def readTarget? (cs : List Char) : Option (List Char × List Char) := do
  let (key, rest) ← readKey? cs
  match readEquals? rest with
  | some rest => pure (key, rest)
  | none =>
    if key = "export".toList then
      let (key, rest) ← readKey? (Text.trimStart rest)
      pure (key, ← readEquals? rest)
    else none

/-- What a logical line assigns, if anything: the outer `none` stands for a
line that makes no sense. -/
def readLine (environment : Environment) (line : List Char) :
    Option (Option (String × String)) :=
  let cs := Text.trimStart (Text.trimEnd line)
  if cs.isEmpty || ['#'].isPrefixOf cs then some none
  else do
    let (key, rest) ← readTarget? cs
    let rest := Text.trimStart rest
    if rest.isEmpty || ['#'].isPrefixOf rest then
      pure (some (String.ofList key, ""))
    else pure (some (String.ofList key, ← readValue environment {} rest))

/-- Adds what logical lines assign to variables that have no value yet; `none`
when such a value holds a zero character, which no variable can. -/
def assign (environment : Environment) :
    List (Option (List Char)) → Option Environment
  | [] => some environment
  | none :: _ => some environment
  | some line :: rest =>
    match readLine environment line with
    | none => some environment
    | some none => assign environment rest
    | some (some (key, value)) =>
      if (environment.value? key).isSome then assign environment rest
      else if value.toList.contains '\x00' then none
      else assign (environment ++ [(key, value)]) rest

/-- Drops a byte-order mark. -/
def dropMark (bytes : List UInt8) : List UInt8 :=
  match bytes with
  | 0xEF :: 0xBB :: 0xBF :: rest => rest
  | bytes => bytes

/-- The environment with what a file adds to it, if it can be added. -/
def load (environment : Environment) (file : List UInt8) :
    Option Environment :=
  assign environment (logicalLines [] .plain (Text.lines (dropMark file)))

end EnvFile

end SpecDebugger
