/-
White space: which characters are blank, trimming, and the cuts that
commands are made of (at the first blank, into words).
-/
import SpecDebugger.Text.Table

namespace SpecDebugger.Text

/-- The characters with the property White_Space beyond ASCII. -/
def blanks : Table :=
  [(0x85, 0x85), (0xA0, 0xA0), (0x1680, 0x1680), (0x2000, 0x200A),
   (0x2028, 0x2029), (0x202F, 0x202F), (0x205F, 0x205F), (0x3000, 0x3000)]

/-- White space: space, tab to carriage return, and the blanks beyond ASCII. -/
def isBlank (c : Char) : Bool :=
  c == ' ' || (decide (9 ≤ c.toNat) && decide (c.toNat ≤ 13)) || blanks.has c

/-- Drops the leading white space. -/
def trimStart (cs : List Char) : List Char := cs.dropWhile isBlank

/-- Drops the trailing characters that satisfy `p`. -/
def dropEndWhile (p : Char → Bool) (cs : List Char) : List Char :=
  (cs.reverse.dropWhile p).reverse

/-- Drops the trailing white space. -/
def trimEnd (cs : List Char) : List Char := dropEndWhile isBlank cs

/-- Drops the white space at both ends. -/
def trim (cs : List Char) : List Char := trimEnd (trimStart cs)

/-- The text before the first blank and the text after that blank; all of it
and nothing when there is none. -/
def cutAtBlank (cs : List Char) : List Char × List Char :=
  (cs.takeWhile (!isBlank ·), (cs.dropWhile (!isBlank ·)).drop 1)

/-- The maximal runs of characters that are not white space, in order. -/
def words : List Char → List (List Char)
  | [] => []
  | c :: cs =>
    if isBlank c then words cs
    else
      match cs, words cs with
      | d :: _, w :: ws => if isBlank d then [c] :: w :: ws else (c :: w) :: ws
      | _, ws => [c] :: ws

/-- Splits `cs` into at most `limit` words, the last of which is all that is
left, inner white space included. -/
def splitWords : Nat → List Char → List (List Char)
  | 0, _ => []
  | limit + 1, cs =>
    match trimStart cs with
    | [] => []
    | c :: rest =>
      if limit = 0 then [trimEnd (c :: rest)]
      else
        (c :: rest.takeWhile (!isBlank ·)) ::
          splitWords limit (rest.dropWhile (!isBlank ·))

/-- A text without a single blank. -/
def isSolid (cs : List Char) : Bool := cs.all (!isBlank ·)

end SpecDebugger.Text
