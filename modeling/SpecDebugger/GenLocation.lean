/-
Positions in the generated code.
-/
import SpecDebugger.FilePath

namespace SpecDebugger

/-- A line of a generated source file. -/
structure GenLocation where
  file : String
  line : Nat
deriving DecidableEq, Repr

namespace GenLocation

instance : ToString GenLocation where
  toString l := s!"{l.file}:{l.line}"

/-- Whether two locations are the same line of the same file, files being
compared as paths. -/
def same (a b : GenLocation) : Bool :=
  FilePath.same a.file b.file && a.line == b.line

end GenLocation

end SpecDebugger
