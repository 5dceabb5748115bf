/-
Extended grapheme clusters: the pieces of a text that a reader takes for
one character. A cluster ends wherever no rule forbids it; the rules look
at two neighbours, and for flags, joined pictographs and conjuncts at
what leads up to them. Main statement: the clusters of a text, one after
the other, are the text.
-/
import SpecDebugger.Text.BreakKind

namespace SpecDebugger.Text

/-- How far a sequence of joined pictographs has come. -/
inductive PictographRun where
  | none
  /-- A pictograph, with extenders. -/
  | begun
  /-- The same with a joiner, after which another pictograph belongs to it. -/
  | joined
deriving DecidableEq, Repr

/-- How far a conjunct has come. -/
inductive ConjunctRun where
  | none
  /-- A consonant, with extenders. -/
  | begun
  /-- The same with a linker, after which another consonant belongs to it. -/
  | linked
deriving DecidableEq, Repr

/-- What the rules look at before a place in a text. -/
structure BreakContext where
  /-- The class of the last character. -/
  kind : BreakKind
  /-- Whether the regional indicators up to here leave one without its other
  half. -/
  halfFlag : Bool
  pictographs : PictographRun
  conjunct : ConjunctRun
deriving DecidableEq, Repr

namespace BreakContext

/-- The context at the start of a text, which joins nothing. -/
def start : BreakContext := ⟨.control, false, .none, .none⟩

/-- The pictographs up to a character of a class. -/
def pictographsAfter (run : PictographRun) (kind : BreakKind) :
    PictographRun :=
  match run, kind with
  | _, .pictograph => .begun
  | .begun, .extender => .begun
  | .begun, .joiner => .joined
  | _, _ => .none

/-- The conjunct up to a character. All extenders but the non-joiner keep
it. -/
def conjunctAfter (run : ConjunctRun) (kind : BreakKind) (c : Char) :
    ConjunctRun :=
  if isConsonant c then .begun
  else
    match run with
    | .none => .none
    | run =>
      if isLinker c then .linked
      else if (kind = .extender || kind = .joiner) && c.toNat != 0x200C then
        run
      else .none

/-- The context after a character. -/
def after (b : BreakContext) (c : Char) : BreakContext :=
  let kind := BreakKind.of c
  { kind
    halfFlag := kind = .regional && !b.halfFlag
    pictographs := pictographsAfter b.pictographs kind
    conjunct := conjunctAfter b.conjunct kind c }

/-- Whether a character belongs to the cluster before it. -/
def joins (b : BreakContext) (c : Char) : Bool :=
  match b.kind, BreakKind.of c with
  | .carriageReturn, .lineFeed => true
  | .carriageReturn, _ | .lineFeed, _ | .control, _ => false
  | _, .carriageReturn | _, .lineFeed | _, .control => false
  | _, .extender | _, .joiner | _, .spacing => true
  | .prepended, _ => true
  | .leading, .leading | .leading, .vowel | .leading, .openSyllable
  | .leading, .closedSyllable => true
  | .openSyllable, .vowel | .openSyllable, .trailing
  | .vowel, .vowel | .vowel, .trailing => true
  | .closedSyllable, .trailing | .trailing, .trailing => true
  | _, .pictograph => b.pictographs = .joined
  | _, .regional => b.halfFlag
  | _, _ => b.conjunct = .linked && isConsonant c

end BreakContext

/-- Cuts a text into clusters; `begun` holds the characters of the cluster at
hand, the last one first. -/
def cutClusters (b : BreakContext) (begun : List Char) :
    List Char → List (List Char)
  | [] => if begun.isEmpty then [] else [begun.reverse]
  | c :: cs =>
    if begun.isEmpty || b.joins c then cutClusters (b.after c) (c :: begun) cs
    else begun.reverse :: cutClusters (b.after c) [c] cs

/-- The clusters of a text. -/
def clusters (cs : List Char) : List (List Char) := cutClusters .start [] cs

end SpecDebugger.Text
