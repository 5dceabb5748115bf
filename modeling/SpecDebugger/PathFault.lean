/-
Why a path cannot be used, as the system tells it.
-/
namespace SpecDebugger

/-- Why a path cannot be used. -/
inductive PathFault where
  /-- Nothing is there. -/
  | notFound
  /-- What is there may not be used so. -/
  | denied
  /-- Something is there already. -/
  | taken
  /-- A file stands on the way. -/
  | notDirectory
  | isDirectory
  /-- The path, or a name in it, is too long. -/
  | nameTooLong
  | other (message : String)
deriving DecidableEq, Repr

namespace PathFault

/-- What the user is told. -/
def message : PathFault → String
  | .notFound => "No such file or directory (os error 2)"
  | .denied => "Permission denied (os error 13)"
  | .taken => "File exists (os error 17)"
  | .notDirectory => "Not a directory (os error 20)"
  | .isDirectory => "Is a directory (os error 21)"
  | .nameTooLong => "File name too long (os error 36)"
  | .other message => message

/-- Whether nothing can be at the path. -/
def isAbsence : PathFault → Bool
  | .notFound | .notDirectory | .nameTooLong => true
  | _ => false

end PathFault

end SpecDebugger
