/-
Lines of a stream of bytes. A line ends with its line feed, which it
keeps, or at the end of the stream; it is text only if its bytes are
UTF-8.
-/
import SpecDebugger.Text.Blank

namespace SpecDebugger.Text

/-- Cuts bytes after every line feed; `line` holds the bytes of the line so
far, the last one first. -/
def cutLines (line : List UInt8) : List UInt8 → List (List UInt8)
  | [] => if line.isEmpty then [] else [line.reverse]
  | b :: bs =>
    if b = 10 then (b :: line).reverse :: cutLines [] bs
    else cutLines (b :: line) bs

/-- The text of some bytes, if they are UTF-8. -/
def ofBytes? (bytes : List UInt8) : Option String :=
  String.fromUTF8? ⟨bytes.toArray⟩

/-- The lines of a stream, `none` for one that is no text. -/
def lines (bytes : List UInt8) : List (Option String) :=
  (cutLines [] bytes).map ofBytes?

/-- The bytes of a text. -/
def bytesOf (s : String) : List UInt8 := s.toUTF8.toList

/-- The size of a text in bytes. -/
def byteSize : List Char → Nat
  | [] => 0
  | c :: cs => c.utf8Size + byteSize cs

/-- Drops the carriage returns and line feeds at the end. -/
def chomp (s : String) : String :=
  String.ofList (dropEndWhile (fun c => c == '\r' || c == '\n') s.toList)

/-- Drops one line end: a line feed, with the carriage return before it. -/
def dropLineEnd (cs : List Char) : List Char :=
  match cs.reverse with
  | '\n' :: '\r' :: rest => rest.reverse
  | '\n' :: rest => rest.reverse
  | _ => cs

/-- The size is that of the text as a string. -/
@[simp]
theorem byteSize_toList (s : String) : byteSize s.toList = s.utf8ByteSize := by
  have h (cs : List Char) :
      byteSize cs = (String.ofList cs).utf8ByteSize := by
    induction cs with
    | nil => rfl
    | cons c cs ih =>
      have hsplit : String.ofList (c :: cs) =
          String.singleton c ++ String.ofList cs := by
        rw [String.singleton_eq_ofList, ← String.ofList_append]
        rfl
      rw [hsplit, String.utf8ByteSize_append, String.utf8ByteSize_singleton,
        ← ih]
      rfl
  rw [h, String.ofList_toList]

end SpecDebugger.Text
