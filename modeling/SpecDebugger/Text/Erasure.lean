/-
Lines that were typed with backspaces in them: a backspace that is a
cluster of its own erases the cluster before it. The size of a cluster
is remembered in one byte, so that of a cluster of 256 bytes or more
only a part is erased; when that part would end inside a character there
is no result. Main statement: a line without backspaces is kept as it is.
-/
import SpecDebugger.Text.Cluster
import SpecDebugger.Text.Lines

namespace SpecDebugger.Text

/-- The cluster that erases. -/
def backspace : List Char := ['\x08']

/-- What was kept of a typed line. -/
structure Draft where
  /-- Its characters, the last one first. -/
  text : List Char := []
  /-- How many bytes the next backspaces erase, the next one first. -/
  sizes : List Nat := []
deriving DecidableEq, Repr

namespace Draft

/-- The size that is remembered of a cluster. -/
def rememberedSize (cluster : List Char) : Nat := byteSize cluster % 256

/-- Drops a number of bytes from the front of a text, unless that tears a
character. -/
def dropBytes? : Nat → List Char → Option (List Char)
  | 0, cs => some cs
  | _ + 1, [] => none
  | n + 1, c :: cs =>
    if c.utf8Size ≤ n + 1 then dropBytes? (n + 1 - c.utf8Size) cs else none

/-- Erases a cluster, if there is one. -/
def erase? (d : Draft) : Option Draft :=
  match d.sizes with
  | [] => some d
  | size :: sizes => (dropBytes? size d.text).map fun text => { text, sizes }

/-- Adds a cluster. -/
def add (d : Draft) (cluster : List Char) : Draft :=
  { text := cluster.reverse ++ d.text
    sizes := rememberedSize cluster :: d.sizes }

/-- Takes a cluster that was typed. -/
def take? (d : Draft) (cluster : List Char) : Option Draft :=
  if cluster = backspace then d.erase? else some (d.add cluster)

/-- Takes clusters in order. -/
def takeAll? (d : Draft) : List (List Char) → Option Draft
  | [] => some d
  | cluster :: rest => do
    let d ← d.take? cluster
    d.takeAll? rest

end Draft

/-- What is left of a typed line; `none` when a character would be torn. -/
def erased? (line : List Char) : Option (List Char) :=
  (Draft.takeAll? {} (clusters line)).map fun d => d.text.reverse

end SpecDebugger.Text
