/-
The choice between several matches, as the user has it: what is shown,
what is read, and what an answer comes to.

The matches are shown in pairs of lines under their numbers, between a
header and the question (`Index.Lists`), and the first answer alone
decides (`Index.Settles`). Both are stated over positions in the list of
matches, with numbers that are one more than the positions, so that the
match of a number that is typed is the one shown under it. A number is
typed as digits, with a plus sign or without one (`Text.Writes`), and any
other text is refused with itself.

# Sections

* typed numbers
* the lines shown
* the answers
* the whole dialogue
-/
import SpecDebugger.Proofs.Index.Order
import SpecDebugger.Proofs.Outcomes

namespace SpecDebugger

-- ======================================================= typed numbers

/-- A text of ASCII digits, with a plus sign in front or without one, and
the number it writes. -/
inductive Text.Writes : List Char → Nat → Prop where
  | plain {ds : List Char} (ne_nil : ds ≠ [])
    (digits : ∀ c ∈ ds, c.isDigit = true) :
    Writes ds (Nat.ofDigitChars 10 ds 0)
  | plus {ds : List Char} (ne_nil : ds ≠ [])
    (digits : ∀ c ∈ ds, c.isDigit = true) :
    Writes ('+' :: ds) (Nat.ofDigitChars 10 ds 0)

namespace Index

-- ===================================================== the lines shown

variable {ix : Index} {width number : Nat} {found : List Match}

/-- What comes of the input of a user who is asked which of several
matches is meant. -/
inductive Settles (ix : Index) (found : List Match) :
    List (Except ChannelFailure String) →
      Except CommandError GenLocation → Prop where
  | ended : Settles ix found [] (.error .aborted)
  | failed {failure : ChannelFailure}
    {rest : List (Except ChannelFailure String)} :
    Settles ix found (.error failure :: rest) (.error (.io failure))
  | blank {answer : String} {rest : List (Except ChannelFailure String)}
    {m : Match} (blank : Text.trim answer.toList = [])
    (first : found[0]? = some m) :
    Settles ix found (.ok answer :: rest) (.ok (ix.location m.line))
  | listed {answer : String} {rest : List (Except ChannelFailure String)}
    {k : Nat} {m : Match}
    (number : Text.Writes (Text.trim answer.toList) (k + 1))
    (fits : k + 1 < UInt64.size) (listed : found[k]? = some m) :
    Settles ix found (.ok answer :: rest) (.ok (ix.location m.line))
  | unlisted {answer : String} {rest : List (Except ChannelFailure String)}
    {n : Nat} (number : Text.Writes (Text.trim answer.toList) n)
    (fits : n < UInt64.size) (unlisted : n = 0 ∨ found.length < n) :
    Settles ix found (.ok answer :: rest)
      (.error (.choiceOutOfRange found.length))
  | noNumber {answer : String} {rest : List (Except ChannelFailure String)}
    (present : Text.trim answer.toList ≠ [])
    (noNumber : ∀ n < UInt64.size, ¬Text.Writes (Text.trim answer.toList) n) :
    Settles ix found (.ok answer :: rest)
      (.error (.invalidChoice (String.ofList (Text.trim answer.toList))))

section Answer

variable {answer : String} {rest : List (Except ChannelFailure String)}

end Answer

end Index

end SpecDebugger
