/-
Strings of TOML: basic ones, with escapes, and literal ones, both on one
line or on several. A string takes at least one character a round, so
that the length of the text bounds the rounds.
-/
import SpecDebugger.Text.Hex

namespace SpecDebugger.Toml

/-- A character that may stand for itself: no control character but the tab. -/
def isPlain (c : Char) : Bool :=
  c == '\t' || (decide (0x20 ≤ c.toNat) && c.toNat != 0x7F)

/-- White space within a line. -/
def isSpace (c : Char) : Bool := c == ' ' || c == '\t'

/-- What follows a line end, if one stands in front. -/
def lineEnd? : List Char → Option (List Char)
  | '\n' :: cs => some cs
  | '\r' :: '\n' :: cs => some cs
  | _ => none

/-- The number of `count` hexadecimal digits in front, given the number so
far. -/
def hex? : Nat → Nat → List Char → Option (Nat × List Char)
  | 0, n, cs => some (n, cs)
  | _ + 1, _, [] => none
  | count + 1, n, c :: cs => do
    let d ← Text.hexDigit? c
    hex? count (16 * n + d) cs

/-- The character of a code point, surrogates and what lies beyond Unicode
excluded. -/
def char? (n : Nat) : Option Char :=
  if n.isValidChar then some (Char.ofNat n) else none

/-- The character that an escape stands for, after its backslash. -/
def escape? : List Char → Option (Char × List Char)
  | 'b' :: cs => some (Char.ofNat 8, cs)
  | 't' :: cs => some ('\t', cs)
  | 'n' :: cs => some ('\n', cs)
  | 'f' :: cs => some (Char.ofNat 12, cs)
  | 'r' :: cs => some ('\r', cs)
  | 'e' :: cs => some (Char.ofNat 27, cs)
  | '"' :: cs => some ('"', cs)
  | '\\' :: cs => some ('\\', cs)
  | c :: cs => do
    let count ←
      if c = 'x' then some 2 else if c = 'u' then some 4
      else if c = 'U' then some 8 else none
    let (n, rest) ← hex? count 0 cs
    pure (← char? n, rest)
  | [] => none

/-- Puts a character in front of the text that was read. -/
def prepend (c : Char) : List Char × List Char → List Char × List Char
  | (text, rest) => (c :: text, rest)

/-- A basic string on one line, after its opening quote. -/
def basic? : Nat → List Char → Option (List Char × List Char)
  | 0, _ => none
  | _, [] => none
  | rounds + 1, c :: cs =>
    if c = '"' then some ([], cs)
    else if c = '\\' then do
      let (e, rest) ← escape? cs
      (basic? rounds rest).map (prepend e)
    else if isPlain c then (basic? rounds cs).map (prepend c)
    else none

/-- A literal string on one line, after its opening quote. -/
def literal? : List Char → Option (List Char × List Char)
  | [] => none
  | c :: cs =>
    if c = '\'' then some ([], cs)
    else if isPlain c then (literal? cs).map (prepend c)
    else none

/-- The end of a string on several lines: three quotes, of which the last one,
two or three of a run of up to five are meant. -/
def close? (quote : Char) (cs : List Char) : Option (List Char × List Char) :=
  let run := (cs.takeWhile (· == quote)).length
  if run < 3 then none
  else
    let kept := min (run - 3) 2
    some (List.replicate kept quote, cs.drop (kept + 3))

/-- What follows a backslash at the end of a line: the next character that is
neither white space nor a line end. -/
def continuation? (cs : List Char) : Option (List Char) :=
  let rec skip : Nat → List Char → List Char
    | 0, cs => cs
    | rounds + 1, cs =>
      match lineEnd? (cs.dropWhile isSpace) with
      | some rest => skip rounds rest
      | none => cs.dropWhile isSpace
  (lineEnd? (cs.dropWhile isSpace)).map fun rest => skip rest.length rest

/-- A basic string on several lines. -/
def basicLines? : Nat → List Char → Option (List Char × List Char)
  | 0, _ => none
  | rounds + 1, cs =>
    match close? '"' cs with
    | some result => some result
    | none =>
      match lineEnd? cs, cs with
      | some rest, '\r' :: _ =>
        (basicLines? rounds rest).map fun r => prepend '\r' (prepend '\n' r)
      | some rest, _ => (basicLines? rounds rest).map (prepend '\n')
      | none, '\\' :: rest =>
        match continuation? rest with
        | some rest => basicLines? rounds rest
        | none => do
          let (e, rest) ← escape? rest
          (basicLines? rounds rest).map (prepend e)
      | none, c :: rest =>
        if isPlain c then (basicLines? rounds rest).map (prepend c) else none
      | none, [] => none

/-- A literal string on several lines. -/
def literalLines? : Nat → List Char → Option (List Char × List Char)
  | 0, _ => none
  | rounds + 1, cs =>
    match close? '\'' cs with
    | some result => some result
    | none =>
      match lineEnd? cs, cs with
      | some rest, '\r' :: _ =>
        (literalLines? rounds rest).map fun r => prepend '\r' (prepend '\n' r)
      | some rest, _ => (literalLines? rounds rest).map (prepend '\n')
      | none, c :: rest =>
        if isPlain c then (literalLines? rounds rest).map (prepend c) else none
      | none, [] => none

/-- Drops the line end right after the opening quotes. -/
def dropFirstLineEnd (cs : List Char) : List Char := (lineEnd? cs).getD cs

/-- A string of any kind, with its quotes. -/
def string? (cs : List Char) : Option (List Char × List Char) :=
  match cs with
  | '"' :: '"' :: '"' :: rest => basicLines? cs.length (dropFirstLineEnd rest)
  | '\'' :: '\'' :: '\'' :: rest =>
    literalLines? cs.length (dropFirstLineEnd rest)
  | '"' :: rest => basic? cs.length rest
  | '\'' :: rest => literal? rest
  | _ => none

end SpecDebugger.Toml
