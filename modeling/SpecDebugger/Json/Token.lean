/-
The tokens of JSON text, as serde_json reads them: numerals have no
leading zeros, no sign but a minus, and a digit on either side of a point;
white space is of four kinds.
-/
import SpecDebugger.Json.Numeral
import SpecDebugger.Text.Hex

namespace SpecDebugger.Json

/-- A token of JSON text. -/
inductive Token where
  | openArray
  | closeArray
  | openObject
  | closeObject
  | colon
  | comma
  | null
  | bool (b : Bool)
  | number (n : Numeral)
  | string (text : Option String)
deriving DecidableEq, Repr

namespace Token

/-- White space between tokens. -/
def isSpace (c : Char) : Bool :=
  c == ' ' || c == '\n' || c == '\t' || c == '\r'

/-- The number written by four hexadecimal digits. -/
def hex4? (a b c d : Char) : Option Nat := do
  let a ← Text.hexDigit? a
  let b ← Text.hexDigit? b
  let c ← Text.hexDigit? c
  let d ← Text.hexDigit? d
  pure (((a * 16 + b) * 16 + c) * 16 + d)

/-- The first half of a surrogate pair. -/
def isHigh (u : Nat) : Bool := decide (0xD800 ≤ u) && decide (u ≤ 0xDBFF)

/-- The second half of a surrogate pair. -/
def isLow (u : Nat) : Bool := decide (0xDC00 ≤ u) && decide (u ≤ 0xDFFF)

/-- The character that a backslash and `c` stand for, `u` apart. -/
def escape? : Char → Option Char
  | '"' => some '"'
  | '\\' => some '\\'
  | '/' => some '/'
  | 'b' => some (Char.ofNat 8)
  | 'f' => some (Char.ofNat 12)
  | 'n' => some '\n'
  | 'r' => some '\r'
  | 't' => some '\t'
  | _ => none

/-- Reads a string after its opening quote. `seen` holds the characters read,
the last one first, or `none` once half of a surrogate pair stood alone.
Returns the text and what follows the closing quote. -/
def stringBody (seen : Option (List Char)) :
    List Char → Option (Option String × List Char)
  | [] => none
  | '"' :: rest => some (seen.map fun cs => String.ofList cs.reverse, rest)
  | '\\' :: 'u' :: a :: b :: c :: d ::
      '\\' :: 'u' :: a' :: b' :: c' :: d' :: rest =>
    match hex4? a b c d with
    | none => none
    | some u =>
      if isHigh u then
        match hex4? a' b' c' d' with
        | none => none
        | some v =>
          if isLow v then
            let code := 0x10000 + (u - 0xD800) * 0x400 + (v - 0xDC00)
            stringBody (seen.map (Char.ofNat code :: ·)) rest
          else stringBody none ('\\' :: 'u' :: a' :: b' :: c' :: d' :: rest)
      else
        let seen := if isLow u then none else seen.map (Char.ofNat u :: ·)
        stringBody seen ('\\' :: 'u' :: a' :: b' :: c' :: d' :: rest)
  | '\\' :: 'u' :: a :: b :: c :: d :: rest =>
    match hex4? a b c d with
    | none => none
    | some u =>
      let seen :=
        if isHigh u || isLow u then none else seen.map (Char.ofNat u :: ·)
      stringBody seen rest
  | '\\' :: c :: rest =>
    match escape? c with
    | none => none
    | some e => stringBody (seen.map (e :: ·)) rest
  | c :: rest =>
    if c.toNat < 0x20 then none else stringBody (seen.map (c :: ·)) rest

/-- Splits off the leading digits. -/
def splitDigits (cs : List Char) : List Char × List Char :=
  (cs.takeWhile Char.isDigit, cs.dropWhile Char.isDigit)

/-- The exponent of a numeral, if one stands in front, and what follows. -/
def exponent? : List Char → Option (Option (Bool × List Char) × List Char)
  | c :: cs =>
    if c == 'e' || c == 'E' then
      let (negative, cs) :=
        match cs with
        | '+' :: cs => (false, cs)
        | '-' :: cs => (true, cs)
        | cs => (false, cs)
      match splitDigits cs with
      | ([], _) => none
      | (ds, rest) => some (some (negative, ds), rest)
    else some (none, c :: cs)
  | [] => some (none, [])

/-- The digits after the point, if a point stands in front, and what
follows. -/
def fraction? : List Char → Option (List Char × List Char)
  | '.' :: cs =>
    match splitDigits cs with
    | ([], _) => none
    | (ds, rest) => some (ds, rest)
  | cs => some ([], cs)

/-- Reads a numeral: no digit precedes or follows a leading zero. -/
def numeral? (cs : List Char) : Option (Numeral × List Char) := do
  let (negative, cs) :=
    match cs with
    | '-' :: cs => (true, cs)
    | cs => (false, cs)
  let (whole, rest) ←
    match cs with
    | '0' :: rest => some (['0'], rest)
    | cs =>
      match splitDigits cs with
      | ([], _) => none
      | (ds, rest) => some (ds, rest)
  let (fraction, rest) ← fraction? rest
  let (exponent, rest) ← exponent? rest
  pure (⟨negative, whole, fraction, exponent⟩, rest)

/-- Reads the token that starts with `c`. -/
def next? (c : Char) (cs : List Char) : Option (Token × List Char) :=
  match c with
  | '[' => some (.openArray, cs)
  | ']' => some (.closeArray, cs)
  | '{' => some (.openObject, cs)
  | '}' => some (.closeObject, cs)
  | ':' => some (.colon, cs)
  | ',' => some (.comma, cs)
  | '"' => (stringBody (some []) cs).map fun (s, rest) => (.string s, rest)
  | 'n' => (['u', 'l', 'l'].isPrefixOf? cs).map fun rest => (.null, rest)
  | 't' => (['r', 'u', 'e'].isPrefixOf? cs).map fun rest => (.bool true, rest)
  | 'f' =>
    (['a', 'l', 's', 'e'].isPrefixOf? cs).map fun rest => (.bool false, rest)
  | c => (numeral? (c :: cs)).map fun (n, rest) => (.number n, rest)

/-- Splits `cs` into tokens, given the tokens `seen`, the last one first.
Every token takes at least one character, so `cs.length` rounds are enough. -/
def scan : Nat → List Token → List Char → Option (List Token)
  | 0, seen, cs => if cs.all isSpace then some seen.reverse else none
  | rounds + 1, seen, cs =>
    match cs.dropWhile isSpace with
    | [] => some seen.reverse
    | c :: rest =>
      match next? c rest with
      | none => none
      | some (token, rest) => scan rounds (token :: seen) rest

/-- The tokens of a text, or `none` when it is not made of tokens. -/
def ofText? (cs : List Char) : Option (List Token) := scan cs.length [] cs

end Token

end SpecDebugger.Json
