/-
Documents of settings: TOML text made of lines `key = value` and
comments, where a value is a string, an integer or a boolean. Tables,
arrays, dotted keys and all other values have no place in such a
document, and a text with one of them is refused as a whole.

Settings are read with the package toml. What is followed of it is what
it documents:

- numbers: integers of 64 bits, decimal with a sign and without leading
  zeros, or hexadecimal, octal or binary without a sign, with single
  underscores between digits (`integer?`, `Settings.set?`);
- keys: a key that is set twice is an error, however it is written
  (`Settings.ofDocument?`);
- strings: the four kinds of TOML, with the escapes of its version 1.1;
- nesting: none, as no setting has a value with others in it.
-/
import SpecDebugger.Text.Number
import SpecDebugger.Toml.Text

namespace SpecDebugger.Toml

/-- A value of a setting. -/
inductive Value where
  | string (text : String)
  | integer (n : Int)
  | boolean (b : Bool)
deriving DecidableEq, Repr

-- ======================================================== numbers

/-- The value of a digit in a base. -/
def digit? (base : Nat) (c : Char) : Option Nat :=
  (Text.hexDigit? c).filter fun d => decide (d < base)

/-- The number of digits in front, single underscores between digits left
out. -/
def digits? (base : Nat) (n : Nat) : List Char → Option (Nat × List Char)
  | [] => some (n, [])
  | '_' :: c :: cs =>
    match digit? base c with
    | some d => digits? base (base * n + d) cs
    | none => none
  | c :: cs =>
    match digit? base c with
    | some d => digits? base (base * n + d) cs
    | none => some (n, c :: cs)

/-- A number that starts with a digit of the base. -/
def number? (base : Nat) : List Char → Option (Nat × List Char)
  | [] => none
  | c :: cs => do
    let d ← digit? base c
    digits? base d cs

/-- A decimal number without leading zeros. -/
def decimal? : List Char → Option (Nat × List Char)
  | '0' :: c :: cs => if c.isDigit || c == '_' then none else some (0, c :: cs)
  | cs => number? 10 cs

/-- An integer: decimal with an optional sign, or in another base without
one. -/
def integer? : List Char → Option (Int × List Char)
  | '0' :: 'x' :: cs => (number? 16 cs).map fun (n, rest) => (n, rest)
  | '0' :: 'o' :: cs => (number? 8 cs).map fun (n, rest) => (n, rest)
  | '0' :: 'b' :: cs => (number? 2 cs).map fun (n, rest) => (n, rest)
  | '-' :: cs => (decimal? cs).map fun (n, rest) => (-n, rest)
  | '+' :: cs => (decimal? cs).map fun (n, rest) => (n, rest)
  | cs => (decimal? cs).map fun (n, rest) => (n, rest)

-- ========================================================== lines

/-- A value. -/
def value? (cs : List Char) : Option (Value × List Char) :=
  match cs with
  | '"' :: _ | '\'' :: _ =>
    (string? cs).map fun (s, rest) => (.string (String.ofList s), rest)
  | 't' :: 'r' :: 'u' :: 'e' :: rest => some (.boolean true, rest)
  | 'f' :: 'a' :: 'l' :: 's' :: 'e' :: rest => some (.boolean false, rest)
  | _ => (integer? cs).map fun (n, rest) => (.integer n, rest)

/-- A character of a key without quotes. -/
def isKeyChar (c : Char) : Bool := c.isAlphanum || c == '-' || c == '_'

/-- A key: without quotes, or a string on one line. -/
def key? (cs : List Char) : Option (List Char × List Char) :=
  match cs with
  | '"' :: rest => basic? cs.length rest
  | '\'' :: rest => literal? rest
  | _ =>
    match cs.takeWhile isKeyChar with
    | [] => none
    | key => some (key, cs.dropWhile isKeyChar)

/-- The end of a line, after an optional comment: what follows it. -/
def endOfLine? (cs : List Char) : Option (List Char) :=
  let cs := cs.dropWhile isSpace
  let cs := match cs with
    | '#' :: cs => cs.dropWhile isPlain
    | cs => cs
  match cs with
  | [] => some []
  | cs => lineEnd? cs

/-- A line that sets a key to a value, up to its end. -/
def setting? (cs : List Char) : Option ((String × Value) × List Char) := do
  let (key, rest) ← key? cs
  match rest.dropWhile isSpace with
  | '=' :: rest => do
    let (value, rest) ← value? (rest.dropWhile isSpace)
    let rest ← endOfLine? rest
    pure ((String.ofList key, value), rest)
  | _ => none

/-- The settings of a text, in order. Every line takes at least one character,
so that the length of the text bounds the rounds. -/
def settings? : Nat → List Char → Option (List (String × Value))
  | 0, cs => if cs.isEmpty then some [] else none
  | rounds + 1, cs =>
    if cs.isEmpty then some []
    else
      match endOfLine? cs with
      | some rest => settings? rounds rest
      | none => do
        let (setting, rest) ← setting? (cs.dropWhile isSpace)
        let others ← settings? rounds rest
        pure (setting :: others)

/-- The settings of a document, which a byte-order mark may precede; `none`
when the text is no such document. -/
def parse? (s : String) : Option (List (String × Value)) :=
  let cs := match s.toList with
    | '\uFEFF' :: cs => cs
    | cs => cs
  settings? cs.length cs

end SpecDebugger.Toml
