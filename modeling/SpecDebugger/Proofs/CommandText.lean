/-
The lines that give a command. Every command that a line can give has
one written form, and is read back from it; which commands those are is
said of the command alone (`Command.Typeable`). What may stand in a
command is decided by the three ways in which its line is cut: the name
goes up to the first blank, so the prefix has none; a variable and what
to break on are words; a condition is all that is left, which is trimmed
and may hold anything else.

# Sections

* what to break on
* written forms
* reading: what a line can give
* reading a written form
-/
import Mathlib.Data.List.Basic
import SpecDebugger.Command.Basic
import SpecDebugger.Proofs.LocationText
import SpecDebugger.Proofs.Words

namespace SpecDebugger

-- ================================================== what to break on

namespace BreakSpec

/-- What to break on, when a word can say it: a name is told from a
location by its lack of colons, a location has to be read back from its
text form. -/
def Typeable : BreakSpec → Prop
  | .property name => Text.IsWord name.toList ∧ ':' ∉ name.toList
  | .location l =>
    Text.isSolid l.file.toList = true ∧ SpecLocation.parse l.display = .ok l

/-- What a word is read as can be typed. -/
theorem typeable_of_parse {s : String} {spec : BreakSpec}
    (word : Text.IsWord s.toList) (h : parse s = .ok spec) :
    spec.Typeable := by
  unfold parse at h
  split at h
  next =>
    obtain ⟨l, hl, rfl⟩ := map_eq_ok.mp h
    obtain ⟨ending, hfile⟩ := SpecLocation.exists_trim_of_parse hl
    rw [word.isTrimmed.trim_eq] at hfile
    refine ⟨(Text.isSolid_append.mp (hfile ▸ word.solid)).1, ?_⟩
    exact SpecLocation.parse_display (SpecLocation.fits_of_parse hl)
      (SpecLocation.separable_of_parse hl)
  next hcolon =>
    cases h
    exact ⟨word, hcolon⟩

/-- What can be typed is shown as one word. -/
theorem isWord_display {spec : BreakSpec} (h : spec.Typeable) :
    Text.IsWord spec.display.toList := by
  cases spec with
  | property name => exact h.1
  | location l =>
      refine ⟨by simp [display, SpecLocation.toList_display], ?_⟩
      refine Text.isSolid_iff.mpr fun c hc => ?_
      rcases SpecLocation.mem_display hc with hfile | rfl | rfl | hdigit
      · exact Text.isSolid_iff.mp h.1 c hfile
      · decide
      · decide
      · exact Text.not_isBlank_of_isDigit hdigit

theorem parse_display {spec : BreakSpec} (h : spec.Typeable) :
    parse spec.display = .ok spec := by
  unfold parse
  cases spec with
  | property name => exact if_neg h.2
  | location l =>
      have hcolon : ':' ∈ l.display.toList := by
        simp [SpecLocation.toList_display]
      show (if ':' ∈ l.display.toList then _ else _) = _
      rw [if_pos hcolon]
      show (SpecLocation.parse l.display).map _ = _
      rw [h.2]
      rfl

end BreakSpec

namespace Command

-- ===================================================== written forms

/-- The flags of `state`: `f` for no ellipsis, `s` for storage. -/
def flags (ellipsis storage : Bool) : String :=
  (if ellipsis then "" else "f") ++ if storage then "s" else ""

/-- The line that gives a command, in one spelling. -/
def display (pre : String) : Command → String
  | .state ellipsis storage only =>
    pre ++ "state /" ++ flags ellipsis storage ++ only.elim "" (" " ++ ·)
  | .breakOn spec condition =>
    pre ++ "break " ++ spec.display ++ condition.elim "" (" if " ++ ·)
  | .next => pre ++ "next"
  | .out => pre ++ "out"
  | .stepInside => pre ++ "si"
  | .help => pre ++ "help"

/-- The commands that some line gives. -/
def Typeable : Command → Prop
  | .state _ _ only => ∀ name ∈ only, Text.IsWord name.toList
  | .breakOn spec condition =>
    spec.Typeable ∧ ∀ text ∈ condition, Text.IsTrimmed text.toList
  | .next => True
  | .out => True
  | .stepInside => True
  | .help => True

-- ======================================== reading: what a line can give

theorem typeable_of_withoutArgument {arg : List Char} {c d : Command}
    (typeable : c.Typeable) (h : withoutArgument arg c = .ok d) :
    d.Typeable := by
  unfold withoutArgument at h
  split at h
  next => cases h; exact typeable
  next => cases h

theorem typeable_of_stateOf {flags : Bool × Bool}
    {args : List (List Char)} {c : Command}
    (words : ∀ w ∈ args, Text.IsWord w) (h : stateOf flags args = .ok c) :
    c.Typeable := by
  unfold stateOf at h
  split at h
  next => cases h; simp [Typeable]
  next name =>
    cases h
    rintro _ ⟨⟩
    rw [String.toList_ofList]
    exact words name List.mem_cons_self
  next => cases h

/-- Whatever follows `state`, what it is read as can be typed. -/
theorem typeable_of_parseState {arg : List Char} {c : Command}
    (h : parseState arg = .ok c) : c.Typeable := by
  have hwords : ∀ w ∈ Text.words arg, Text.IsWord w :=
    fun w hw => Text.isWord_of_mem_words hw
  unfold parseState at h
  split at h
  next typed rest heq =>
    rw [heq] at hwords
    obtain ⟨flags, -, h⟩ := bind_eq_ok.mp h
    exact typeable_of_stateOf
      (fun w hw => hwords w (List.mem_cons_of_mem _ hw)) h
  next => exact typeable_of_stateOf hwords h

theorem typeable_of_parseSpec {cs : List Char} {spec : BreakSpec}
    (word : Text.IsWord cs) (h : parseSpec cs = .ok spec) :
    spec.Typeable := by
  refine BreakSpec.typeable_of_parse ?_ (mapError_eq_ok.mp h)
  rwa [String.toList_ofList]

/-- Whatever follows `break`, what it is read as can be typed. -/
theorem typeable_of_parseBreak {arg : List Char} {c : Command}
    (h : parseBreak arg = .ok c) : c.Typeable := by
  unfold parseBreak at h
  split at h
  next => cases h
  next spec heq =>
    obtain ⟨hzero, -⟩ | ⟨-, hword, -⟩ := Text.splitWords_eq_cons heq
    · cases hzero
    obtain ⟨s, hspec, rfl⟩ := map_eq_ok.mp h
    exact ⟨typeable_of_parseSpec hword hspec, by simp⟩
  next spec condition heq =>
    obtain ⟨hzero, -⟩ | ⟨-, hword, rest, hif⟩ :=
      Text.splitWords_eq_cons heq
    · cases hzero
    obtain ⟨hzero, -⟩ | ⟨-, -, rest, hlast⟩ :=
      Text.splitWords_eq_cons hif.symm
    · cases hzero
    obtain ⟨-, htrimmed⟩ | ⟨hpos, -⟩ :=
      Text.splitWords_eq_cons hlast.symm
    · obtain ⟨s, hspec, rfl⟩ := map_eq_ok.mp h
      refine ⟨typeable_of_parseSpec hword hspec, ?_⟩
      rintro _ ⟨⟩
      rwa [String.toList_ofList]
    · cases hpos
  next => cases h
  next => cases h

/-- Every command that is read from a name and its argument can be typed. -/
theorem typeable_of_ofName? {name arg : List Char} {c : Command}
    (h : ofName? name arg = some (.ok c)) : c.Typeable := by
  have hplain : ∀ {d}, d.Typeable →
      some (withoutArgument arg d) = some (.ok c) → c.Typeable :=
    fun hd h => typeable_of_withoutArgument hd (Option.some.inj h)
  unfold ofName? at h
  split at h
  · exact typeable_of_parseState (Option.some.inj h)
  split at h
  · exact typeable_of_parseBreak (Option.some.inj h)
  split at h
  · exact hplain (d := .next) trivial h
  split at h
  · exact hplain (d := .out) trivial h
  split at h
  · exact hplain (d := .stepInside) trivial h
  split at h
  · exact hplain (d := .help) trivial h
  · cases h

/-- A line is taken for a command only after a prefix without blanks: a
name is looked for in the text before the first blank. -/
theorem exists_ofName?_of_parse? {pre line : String}
    {result : Except CommandError Command}
    (h : parse? pre line = some result) :
    Text.isSolid pre.toList = true ∧
      ∃ name arg, ofName? name arg = some result := by
  unfold parse? at h
  rcases hcut : Text.cutAtBlank (Text.trim line.toList) with ⟨word, arg⟩
  rw [hcut] at h
  dsimp only at h
  split at h
  next => cases h
  next name hname =>
    have hword : Text.isSolid word = true := by
      have := Text.isSolid_takeWhile (Text.trim line.toList)
      rw [Text.cutAtBlank] at hcut
      rwa [(Prod.mk.inj hcut).1] at this
    rw [← List.isPrefixOf?_eq_some_iff_append_eq.mp hname] at hword
    exact ⟨(Text.isSolid_append.mp hword).1, name, arg, h⟩

/-- A line gives a command only after a prefix without blanks, and only a
command that can be typed. -/
theorem typeable_of_parse? {pre line : String} {c : Command}
    (h : parse? pre line = some (.ok c)) :
    Text.isSolid pre.toList = true ∧ c.Typeable := by
  obtain ⟨solid, name, arg, hname⟩ := exists_ofName?_of_parse? h
  exact ⟨solid, typeable_of_ofName? hname⟩

-- ============================================ reading a written form

/-- A line that starts with the prefix and a word gives the command of
that name, if there is one; white space around the line does not count. -/
theorem parse?_eq_ofName? {pre line : String}
    {front name rest : List Char}
    (blank : ∀ c ∈ front, Text.isBlank c = true)
    (solid : Text.isSolid pre.toList = true) (word : Text.IsWord name)
    (stop : ∀ c ∈ rest.head?, Text.isBlank c = true)
    (hline : line.toList = front ++ (pre.toList ++ name) ++ rest) :
    parse? pre line = ofName? name ((Text.trimEnd rest).drop 1) := by
  have hname : Text.IsWord (pre.toList ++ name) :=
    ⟨by simp [word.ne_nil], Text.isSolid_append.mpr ⟨solid, word.solid⟩⟩
  have hstop : ∀ c ∈ (Text.trimEnd rest).head?, Text.isBlank c = true :=
    fun c hc => stop c (Text.mem_head?_trimEnd hc)
  unfold parse?
  rw [hline, Text.trim_append blank hname,
    Text.cutAtBlank_append hname.solid hstop]
  dsimp only
  rw [List.isPrefixOf?_eq_some_iff_append_eq.mpr rfl]

/-- A name alone gives its command without arguments. -/
theorem parse?_name {pre : String} (name : String)
    (solid : Text.isSolid pre.toList = true) (word : Text.IsWord name.toList) :
    parse? pre (pre ++ name) = ofName? name.toList [] := by
  have hline : (pre ++ name).toList =
      [] ++ (pre.toList ++ name.toList) ++ [] := by simp
  rw [parse?_eq_ofName? (by simp) solid word (by simp) hline]
  rfl

/-- What stands after a name and a blank are its arguments. -/
theorem parse?_arguments {pre name args : String}
    (solid : Text.isSolid pre.toList = true) (word : Text.IsWord name.toList)
    (trimmed : Text.IsTrimmed args.toList) :
    parse? pre (pre ++ name ++ " " ++ args) =
      ofName? name.toList args.toList := by
  have hline : (pre ++ name ++ " " ++ args).toList =
      [] ++ (pre.toList ++ name.toList) ++ ([' '] ++ args.toList) := by simp
  have hblank : ∀ c ∈ ([' '] ++ args.toList).head?,
      Text.isBlank c = true := by
    rintro _ ⟨⟩
    decide
  rw [parse?_eq_ofName? (by simp) solid word hblank hline,
    Text.trimEnd_append _ trimmed]
  rfl

/-- A trimmed text with another one after it, if there is one, is
trimmed. -/
theorem isTrimmed_elim {front : String} {more : Option String}
    (sep : String) (hfront : Text.IsTrimmed front.toList)
    (hmore : ∀ text ∈ more, Text.IsTrimmed text.toList) :
    Text.IsTrimmed (front ++ more.elim "" (sep ++ ·)).toList := by
  cases more with
  | none => simpa using hfront
  | some text => simpa using hfront.append (hmore text rfl) sep.toList

/-- Flags are read back from how they are written. -/
@[simp]
theorem readFlags_flags (ellipsis storage : Bool) :
    readFlags (flags ellipsis storage).toList = .ok (ellipsis, storage) := by
  cases ellipsis <;> cases storage <;> rfl

theorem isWord_flags (ellipsis storage : Bool) :
    Text.IsWord ("/" ++ flags ellipsis storage).toList := by
  cases ellipsis <;> cases storage <;> exact ⟨by decide, by decide⟩

/-- A report is read back from its flags and its name. -/
theorem parseState_display (ellipsis storage : Bool) {only : Option String}
    (h : ∀ name ∈ only, Text.IsWord name.toList) :
    parseState
        ("/" ++ flags ellipsis storage ++ only.elim "" (" " ++ ·)).toList =
      .ok (.state ellipsis storage only) := by
  have hflags := isWord_flags ellipsis storage
  have hwords : ∃ args,
      Text.words
          ("/" ++ flags ellipsis storage ++ only.elim "" (" " ++ ·)).toList =
        ('/' :: (flags ellipsis storage).toList) :: args ∧
      stateOf (ellipsis, storage) args =
        .ok (.state ellipsis storage only) := by
    cases only with
    | none =>
        refine ⟨[], ?_, rfl⟩
        simpa using Text.words_of_isWord hflags
    | some name =>
        have hblank : Text.isBlank ' ' = true := by decide
        have hcut : Text.words (("/" ++ flags ellipsis storage).toList ++
              ' ' :: name.toList) =
            ("/" ++ flags ellipsis storage).toList :: [name.toList] := by
          rw [Text.words_append hflags (by simpa using hblank),
            Text.words_cons_blank hblank, Text.words_of_isWord (h name rfl)]
        refine ⟨[name.toList], ?_, by simp [stateOf]⟩
        simpa using hcut
  obtain ⟨args, hwords, hstate⟩ := hwords
  unfold parseState
  rw [hwords]
  show (readFlags _ >>= _) = _
  rw [readFlags_flags]
  exact hstate

/-- A place that can be typed is read back where an argument is. -/
theorem parseSpec_display {spec : BreakSpec} (h : spec.Typeable) :
    parseSpec spec.display.toList = .ok spec := by
  unfold parseSpec
  rw [String.ofList_toList, BreakSpec.parse_display h]
  rfl

/-- What to break on comes first; what comes after `if` is the
condition. -/
theorem parseBreak_display {spec : BreakSpec} {condition : Option String}
    (h : spec.Typeable)
    (trimmed : ∀ text ∈ condition, Text.IsTrimmed text.toList) :
    parseBreak (spec.display ++ condition.elim "" (" if " ++ ·)).toList =
      .ok (.breakOn spec condition) := by
  have hspec := BreakSpec.isWord_display h
  cases condition with
  | none =>
      have hwords : Text.splitWords 3
          (spec.display ++ Option.elim none "" (" if " ++ ·)).toList =
            [spec.display.toList] := by
        simpa using Text.splitWords_of_isWord hspec 1
      unfold parseBreak
      rw [hwords]
      dsimp only
      rw [parseSpec_display h]
      rfl
  | some text =>
      have hblank : Text.isBlank ' ' = true := by decide
      have hif : Text.IsWord ['i', 'f'] := ⟨by decide, by decide⟩
      have hline :
          (spec.display ++ Option.elim (some text) "" (" if " ++ ·)).toList =
            spec.display.toList ++
              ([' '] ++ (['i', 'f'] ++ ([' '] ++ text.toList))) := by
        simp
      have hwords : Text.splitWords 3
          (spec.display ++ Option.elim (some text) "" (" if " ++ ·)).toList =
            [spec.display.toList, ['i', 'f'], text.toList] := by
        rw [hline, Text.splitWords_append hspec (by simpa using hblank),
          Text.splitWords_append_blanks (by simpa using hblank),
          Text.splitWords_append hif (by simpa using hblank),
          Text.splitWords_append_blanks (by simpa using hblank),
          Text.splitWords_one (trimmed text rfl)]
      unfold parseBreak
      rw [hwords]
      show (parseSpec spec.display.toList).map _ = _
      rw [parseSpec_display h, String.ofList_toList]
      rfl

/-- White space in front of an argument does not count. -/
theorem parseBreak_append_blanks {blanks arg : List Char}
    (blank : ∀ c ∈ blanks, Text.isBlank c = true) :
    parseBreak (blanks ++ arg) = parseBreak arg := by
  unfold parseBreak
  rw [Text.splitWords_append_blanks blank]

/-- A command that can be typed is read back from its written form. -/
theorem parse?_display {pre : String} {c : Command}
    (solid : Text.isSolid pre.toList = true) (h : c.Typeable) :
    parse? pre (c.display pre) = some (.ok c) := by
  cases c with
  | state ellipsis storage only =>
      have hline : display pre (.state ellipsis storage only) =
          pre ++ "state" ++ " " ++
            ("/" ++ flags ellipsis storage ++ only.elim "" (" " ++ ·)) := by
        rw [← String.toList_inj]
        simp [display]
      have htrimmed := isTrimmed_elim " "
        (isWord_flags ellipsis storage).isTrimmed
        fun name hn => (h name hn).isTrimmed
      rw [hline, parse?_arguments solid ⟨by decide, by decide⟩ htrimmed]
      exact congrArg some (parseState_display ellipsis storage h)
  | breakOn spec condition =>
      have hline : display pre (.breakOn spec condition) =
          pre ++ "break" ++ " " ++
            (spec.display ++ condition.elim "" (" if " ++ ·)) := by
        rw [← String.toList_inj]
        simp [display]
      have htrimmed :=
        isTrimmed_elim " if " (BreakSpec.isWord_display h.1).isTrimmed h.2
      rw [hline, parse?_arguments solid ⟨by decide, by decide⟩ htrimmed]
      exact congrArg some (parseBreak_display h.1 h.2)
  | next => exact parse?_name "next" solid ⟨by decide, by decide⟩
  | out => exact parse?_name "out" solid ⟨by decide, by decide⟩
  | stepInside => exact parse?_name "si" solid ⟨by decide, by decide⟩
  | help => exact parse?_name "help" solid ⟨by decide, by decide⟩

/-- The commands that some line gives are those that can be typed after a
prefix without blanks, and each of them is given by its written form. -/
theorem exists_line_iff (pre : String) (c : Command) :
    ((∃ line, parse? pre line = some (.ok c)) ↔
        Text.isSolid pre.toList = true ∧ c.Typeable) ∧
      (parse? pre (c.display pre) = some (.ok c) ↔
        Text.isSolid pre.toList = true ∧ c.Typeable) := by
  have hread : ∀ {line}, parse? pre line = some (.ok c) →
      Text.isSolid pre.toList = true ∧ c.Typeable := typeable_of_parse?
  refine ⟨⟨?_, ?_⟩, hread, fun h => parse?_display h.1 h.2⟩
  · rintro ⟨line, h⟩
    exact hread h
  · rintro ⟨solid, h⟩
    exact ⟨_, parse?_display solid h⟩

end Command

end SpecDebugger
