/-
Properties: the named units of specification-level logic. A property is
the outermost scope of its generated body.
-/
import SpecDebugger.Index.Scope

namespace SpecDebugger

/-- A property of the specification, with the scope that is its generated
body. -/
structure Property extends Scope where
  /-- Its qualified name; the name of one made by the generator starts with its
  kind between brackets. -/
  name : String
  /-- Where the specification declares it. -/
  sloc : Option SpecLocation := none
  /-- The lines on which a memoized result is returned without evaluation. -/
  memoization : Option LineRange := none

namespace Property

/-- The line where the body starts, after the setup of arguments and local
variables: that of the first nested scope. A property without code has none. -/
def bodyStart? (p : Property) : Option Nat :=
  p.toScope.firstNested?.map (·.lines.first)

/-- Whether the generator made the property. -/
def isSpecial (p : Property) : Bool := ['['].isPrefixOf p.name.toList

/-- Whether the property only passes a call on to other properties. -/
def isDispatcher (p : Property) : Bool :=
  "[dispatcher]".toList.isPrefixOf p.name.toList

end Property

end SpecDebugger
