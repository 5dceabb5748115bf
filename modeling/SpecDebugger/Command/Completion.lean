/-
Completion of what a user types after `break`: the names of properties
that start, in any case, as the word typed so far does.
-/
import SpecDebugger.Index.Basic
import SpecDebugger.Text.Lines

namespace SpecDebugger.Completion

/-- Whether a name starts as `word` does, both lower-cased. -/
def startsLike (word name : String) : Bool :=
  (Text.lower word).toList.isPrefixOf (Text.lower name).toList

/-- The properties that `word` may stand for, in the order of the index. Those
made by the generator are offered only for a word that starts with a
bracket. -/
def names (ix : Index) (word : String) : List String :=
  let special := ['['].isPrefixOf (Text.lower word).toList
  (ix.properties.filter fun p =>
    (special || !p.isSpecial) && startsLike word p.name).map (·.name)

/-- The word of a line that can be completed: the beginning of the argument of
`break`. -/
def word? (pre : String) (line : List Char) : Option (List Char) := do
  let rest ← pre.toList.isPrefixOf? (Text.trimStart line)
  let rest ← "break".toList.isPrefixOf? rest
  let first ← rest.head?
  if !Text.isBlank first then none
  let word := Text.trimStart rest
  if Text.isSolid word then some word else none

/-- Where the word to complete starts in a line, in bytes, and what it may
become. Nothing can be completed at the end of any other line. -/
def complete (ix : Index) (pre line : String) : Nat × List String :=
  match word? pre line.toList with
  | none => (line.utf8ByteSize, [])
  | some word =>
    (line.utf8ByteSize - Text.byteSize word, names ix (String.ofList word))

end SpecDebugger.Completion
