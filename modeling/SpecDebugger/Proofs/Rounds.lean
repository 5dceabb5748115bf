/-
What the interactive loop makes of its input, read off the input alone.

The loop goes in rounds. A round takes a line at the prompt, and a line
that asks the user where to break takes a second item as the answer. What
a round is, and which items it takes, is decided by the items and by the
session (`Takes`), and so is what ends the last one (`Ends`). The
debugger has no part in it. So every input has its rounds before anything
is run (`exists_reads`), and they tell what the loop comes to: a read
that fails for good is the last one, and if there is none the user quits
or the input ends (`Reads.exists_taken`).
-/
import SpecDebugger.Proofs.Outcomes

namespace SpecDebugger.Repl

-- ================================================ statement vocabulary

/-- What a read gives: a line, or the failure of the channel. -/
abbrev Item := Except ChannelFailure String

/-- A line without the white space around it. -/
def trimmed (text : String) : String := String.ofList (Text.trim text.toList)

/-- The words that end the loop at the prompt. -/
def quits : List String := ["quit", "q", "exit"]

/-- A round that does not end the loop. -/
inductive Round where
  /-- The read at the prompt is interrupted. -/
  | interrupted
  | blank
  /-- A line is carried out as a command. -/
  | command (line : String)
  /-- A command is given up, as its question to the user is interrupted. -/
  | abandoned (line : String)
  /-- A line that is no command is handed to the debugger. -/
  | forwarded (line : String)

/-- The line that a round hands to the debugger. -/
def Round.forwarded? : Round → Option String
  | .forwarded line => some line
  | _ => none

/-- A round that ends the loop. -/
inductive Ending where
  | quit
  | endOfInput
  /-- The read at the prompt fails. -/
  | unread (failure : ChannelFailure)
  /-- The read for the answer to a command's question fails. -/
  | unanswered (line : String) (failure : ChannelFailure)

/-- What the loop comes to. -/
def Ending.result : Ending → Except ChannelFailure Unit
  | .quit | .endOfInput => .ok ()
  | .unread failure | .unanswered _ failure => .error failure

/-- Whether a text at the prompt is a line to be handled: it is not blank,
and does not end the loop. -/
structure Handles (text line : String) : Prop where
  trimmed : trimmed text = line
  not_blank : line ≠ ""
  not_quit : line ∉ quits

/-- Which items of an input a round takes, and which it leaves. -/
inductive Takes (s : Session) : Round → List Item → List Item → Prop where
  | interrupted {rest : List Item} :
    Takes s .interrupted (.error .interrupted :: rest) rest
  | blank {text : String} {rest : List Item} (empty : trimmed text = "") :
    Takes s .blank (.ok text :: rest) rest
  /-- A command that has nothing to ask takes its line only. -/
  | unasked {text line : String} {rest : List Item}
    (typed : Handles text line)
    (recognized : (Command.parse? s.pre line).isSome = true)
    (quiet : ∀ query, ¬s.Asks line query) :
    Takes s (.command line) (.ok text :: rest) rest
  /-- Whatever is answered, be it `quit`, belongs to the command. -/
  | answered {text line answer : String} {query : SpecLocation}
    {rest : List Item} (typed : Handles text line)
    (asks : s.Asks line query) :
    Takes s (.command line) (.ok text :: .ok answer :: rest) rest
  /-- The end of input at a question is met again at the prompt. -/
  | aborted {text line : String} {query : SpecLocation}
    (typed : Handles text line) (asks : s.Asks line query) :
    Takes s (.command line) [.ok text] []
  | abandoned {text line : String} {query : SpecLocation}
    {rest : List Item} (typed : Handles text line)
    (asks : s.Asks line query) :
    Takes s (.abandoned line) (.ok text :: .error .interrupted :: rest) rest
  | forwarded {text line : String} {rest : List Item}
    (typed : Handles text line)
    (unknown : Command.parse? s.pre line = none) :
    Takes s (.forwarded line) (.ok text :: rest) rest

/-- Which items of an input the last round takes, and which it leaves. -/
inductive Ends (s : Session) : Ending → List Item → List Item → Prop where
  | quit {text : String} {rest : List Item} (word : trimmed text ∈ quits) :
    Ends s .quit (.ok text :: rest) rest
  | endOfInput : Ends s .endOfInput [] []
  | unread {failure : ChannelFailure} {rest : List Item}
    (fatal : failure ≠ .interrupted) :
    Ends s (.unread failure) (.error failure :: rest) rest
  | unanswered {text line : String} {query : SpecLocation}
    {failure : ChannelFailure} {rest : List Item}
    (typed : Handles text line) (asks : s.Asks line query)
    (fatal : failure ≠ .interrupted) :
    Ends s (.unanswered line failure) (.ok text :: .error failure :: rest) rest

/-- The rounds of an input, the last of them, and what is left of it. -/
inductive Reads (s : Session) :
    List Item → List Round → Ending → List Item → Prop where
  | last {input left : List Item} {last : Ending}
    (ends : Ends s last input left) : Reads s input [] last left
  | round {input rest left : List Item} {r : Round} {rounds : List Round}
    {last : Ending} (takes : Takes s r input rest)
    (others : Reads s rest rounds last left) :
    Reads s input (r :: rounds) last left

/-- Whether no read among some has failed but by an interruption. -/
def Harmless (items : List Item) : Prop :=
  ∀ failure, .error failure ∈ items → failure = .interrupted

/-- How the items taken settle what the loop comes to: it fails as a read
fails that is not just interrupted, which is then the last one. -/
structure Settles (taken : List Item) (result : Except ChannelFailure Unit) :
    Prop where
  fails_iff : ∀ failure, result = .error failure ↔
    failure ≠ .interrupted ∧ .error failure ∈ taken
  last : ∀ failure, result = .error failure →
    taken.getLast? = some (.error failure)

-- ========================================================= the reading

/-- Whatever is read, a round takes it, or it ends the loop. -/
theorem takes_or_ends (s : Session) (input : List Item) :
    (∃ r rest, Takes s r input rest) ∨
      ∃ last left, Ends s last input left := by
  rcases input with _ | ⟨failure | text, rest⟩
  · exact .inr ⟨_, _, .endOfInput⟩
  · by_cases hfatal : failure = .interrupted
    · subst hfatal
      exact .inl ⟨_, _, .interrupted⟩
    · exact .inr ⟨_, _, .unread hfatal⟩
  · by_cases hblank : trimmed text = ""
    · exact .inl ⟨_, _, .blank hblank⟩
    by_cases hquit : trimmed text ∈ quits
    · exact .inr ⟨_, _, .quit hquit⟩
    have typed : Handles text (trimmed text) := ⟨rfl, hblank, hquit⟩
    by_cases hasks : ∃ query, s.Asks (trimmed text) query
    · obtain ⟨query, asks⟩ := hasks
      rcases rest with _ | ⟨failure | answer, rest⟩
      · exact .inl ⟨_, _, .aborted typed asks⟩
      · by_cases hfatal : failure = .interrupted
        · subst hfatal
          exact .inl ⟨_, _, .abandoned typed asks⟩
        · exact .inr ⟨_, _, .unanswered typed asks hfatal⟩
      · exact .inl ⟨_, _, .answered typed asks⟩
    · rcases hparse : Command.parse? s.pre (trimmed text) with _ | parsed
      · exact .inl ⟨_, _, .forwarded typed hparse⟩
      · have recognized : (Command.parse? s.pre (trimmed text)).isSome := by
          rw [hparse]
          rfl
        exact .inl ⟨_, _, .unasked typed recognized
          fun query asks => hasks ⟨query, asks⟩⟩

/-- A round takes something, and what it takes is harmless. -/
theorem Takes.exists_items {s : Session} {r : Round} {input rest : List Item}
    (takes : Takes s r input rest) :
    ∃ items, items ≠ [] ∧ input = items ++ rest ∧ Harmless items := by
  cases takes with
  | interrupted => exact ⟨[_], by simp, rfl, by simp [Harmless]⟩
  | blank => exact ⟨[_], by simp, rfl, by simp [Harmless]⟩
  | unasked => exact ⟨[_], by simp, rfl, by simp [Harmless]⟩
  | answered => exact ⟨[_, _], by simp, rfl, by simp [Harmless]⟩
  | aborted => exact ⟨[_], by simp, rfl, by simp [Harmless]⟩
  | abandoned => exact ⟨[_, _], by simp, rfl, by simp [Harmless]⟩
  | forwarded => exact ⟨[_], by simp, rfl, by simp [Harmless]⟩

/-- A round takes at least one item of the input. -/
theorem Takes.length_lt {s : Session} {r : Round} {input rest : List Item}
    (takes : Takes s r input rest) : rest.length < input.length := by
  obtain ⟨items, hne, rfl, -⟩ := takes.exists_items
  have := List.length_pos_of_ne_nil hne
  rw [List.length_append]
  omega

/-- Every input has its rounds. -/
theorem exists_reads (s : Session) (input : List Item) :
    ∃ rounds last left, Reads s input rounds last left := by
  rcases takes_or_ends s input with ⟨r, rest, takes⟩ | ⟨last, left, ends⟩
  · have hlt := takes.length_lt
    obtain ⟨rounds, last, left, others⟩ := exists_reads s rest
    exact ⟨_, _, _, .round takes others⟩
  · exact ⟨_, _, _, .last ends⟩
termination_by input.length

namespace Settles

/-- Items that do no harm settle nothing: the loop ends well. -/
theorem ok {taken : List Item} (harmless : Harmless taken) :
    Settles taken (.ok ()) where
  fails_iff failure := by
    constructor
    · exact nofun
    · intro h
      exact absurd (harmless failure h.2) h.1
  last _ := nofun

/-- A read that fails for good settles how the loop ends. -/
theorem error {failure : ChannelFailure} (fatal : failure ≠ .interrupted) :
    Settles [.error failure] (.error failure) where
  fails_iff k := by
    rw [List.mem_singleton, Except.error.injEq, Except.error.injEq]
    constructor
    · intro heq
      exact ⟨heq ▸ fatal, heq.symm⟩
    · intro h
      exact h.2.symm
  last k heq := by
    rw [Except.error.inj heq]
    rfl

/-- What is harmless before that changes nothing. -/
theorem append {taken : List Item} {result : Except ChannelFailure Unit}
    (h : Settles taken result) {items : List Item}
    (harmless : Harmless items) : Settles (items ++ taken) result where
  fails_iff failure := by
    rw [h.fails_iff, List.mem_append]
    apply and_congr_right
    intro fatal
    have hfree : .error failure ∉ items := fun hmem =>
      fatal (harmless failure hmem)
    exact (or_iff_right hfree).symm
  last failure hresult := by
    rw [List.getLast?_append, h.last failure hresult]
    rfl

end Settles

/-- The last round takes what settles its result. -/
theorem Ends.exists_items {s : Session} {last : Ending}
    {input left : List Item} (ends : Ends s last input left) :
    ∃ items, input = items ++ left ∧ Settles items last.result := by
  cases ends with
  | @quit text => exact ⟨[.ok text], rfl, .ok (by simp [Harmless])⟩
  | endOfInput => exact ⟨[], rfl, .ok (by simp [Harmless])⟩
  | unread fatal => exact ⟨[_], rfl, .error fatal⟩
  | @unanswered text _ _ _ _ _ _ fatal =>
      have harmless : Harmless [.ok text] := by simp [Harmless]
      exact ⟨[.ok text, _], rfl, (Settles.error fatal).append harmless⟩

/-- What is read of an input settles what the loop comes to. -/
theorem Reads.exists_taken {s : Session} {input left : List Item}
    {rounds : List Round} {last : Ending}
    (reads : Reads s input rounds last left) :
    ∃ taken, input = taken ++ left ∧ Settles taken last.result := by
  induction reads with
  | last ends => exact ends.exists_items
  | round takes others ih =>
      obtain ⟨items, -, rfl, harmless⟩ := takes.exists_items
      obtain ⟨taken, rfl, hsettles⟩ := ih
      exact ⟨items ++ taken, (List.append_assoc _ _ _).symm,
        hsettles.append harmless⟩

end SpecDebugger.Repl
