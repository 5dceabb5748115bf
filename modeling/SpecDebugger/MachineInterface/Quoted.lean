/-
Quoted text of the machine interface, written and read. Written are
three escapes; read are two more, and a backslash before any other
character stands for that character.
-/
namespace SpecDebugger.MachineInterface

/-- A character inside quotes. -/
def quoteChar (c : Char) : List Char :=
  if c = '"' ∨ c = '\\' then ['\\', c]
  else if c = '\n' then ['\\', 'n']
  else [c]

/-- The quoted form of a list of characters. -/
def quoteChars (cs : List Char) : List Char :=
  '"' :: (cs.flatMap quoteChar ++ ['"'])

/-- The quoted form of a text. -/
def quote (s : String) : String := String.ofList (quoteChars s.toList)

/-- The character that stands after a backslash. -/
def unescape (c : Char) : Char :=
  if c = 'n' then '\n' else if c = 't' then '\t'
  else if c = 'r' then '\r' else c

/-- Reads up to the closing quote: the text, and what follows; `none` when the
quote is missing. -/
def unquote? : List Char → Option (List Char × List Char)
  | [] => none
  | '"' :: rest => some ([], rest)
  | ['\\'] => none
  | '\\' :: c :: rest =>
    (unquote? rest).map fun (cs, rest) => (unescape c :: cs, rest)
  | c :: rest => (unquote? rest).map fun (cs, rest) => (c :: cs, rest)

end SpecDebugger.MachineInterface
