/-
How a line ends, and what it reads from the user on the way.

A line that is a command fails as it is read or as it is carried out
(`Session.failure?`), and what it fails with is reported: a failure of
the channel ends the session, every other one is told to the user
(`Session.execute_ends`). Failures are told apart by what they say about
the command: it could not be read (`CommandError.IsMalformed`), nothing
was asked of the debugger yet (`CommandError.IsEarly`), or the user is
still there to be told (`CommandError.IsTold`).

A command reads from the user at most once, and only as a `break` on a
location at which several expressions stand (`Session.input_execute`).
Everything else that a session does to a user is to show a text, which
leaves the input as it is (`SameInput`).
-/
import SpecDebugger.Proofs.Choice
import SpecDebugger.Proofs.SessionMoves

namespace SpecDebugger

variable {σ α β : Type}

-- ============================================================ the end

/-- Reporting a failure reads nothing. -/
@[simp]
theorem CommandError.input_report (e : CommandError) (d : Dialogue σ) :
    (e.report d).2.user.input = d.user.input := by
  cases e <;> rfl

namespace Session

variable [Debugger σ]

/-- How a line fails, if it is a command that fails: as it is read, or as
it is carried out. -/
def failure? (s : Session) (line : String) (d : Dialogue σ) :
    Option CommandError :=
  match Command.parse? s.pre line with
  | none => none
  | some (.error e) => some e
  | some (.ok c) =>
    match ((s.run c).run d).1 with
    | .ok _ => none
    | .error e => some e

/-- A line that does not fail is done, or is no command; a failure is
reported where it leaves off. -/
theorem execute_ends (s : Session) (line : String) (d : Dialogue σ) :
    let ran := (s.execute line).run d
    (s.failure? line d = none ∧
        ran.1 = .ok (Command.parse? s.pre line).isSome) ∨
      ∃ e left, s.failure? line d = some e ∧ ran = e.report left := by
  intro ran
  have hran : ran = _ := s.run_execute line d
  rw [hran]
  unfold failure?
  rcases Command.parse? s.pre line with _ | e | c
  · exact .inl ⟨rfl, rfl⟩
  · exact .inr ⟨e, d, rfl, rfl⟩
  · dsimp only
    rcases (s.run c).run d with ⟨e | _, left⟩
    · exact .inr ⟨e, left, rfl, rfl⟩
    · exact .inl ⟨rfl, rfl⟩

end Session

-- ==================================================== kinds of failures

/-- Whether a failure is one of reading a command. -/
def CommandError.IsMalformed : CommandError → Prop
  | .invalidFlags _ | .extraArguments _ | .noArgumentExpected => True
  | .missingBreakSpec | .wrongArgumentCount | .expectedIf => True
  | .invalidLocation _ => True
  | _ => False

/-- Whether a failure is one of settling where to break, apart from those
of the channel. -/
def CommandError.IsUnsettled : CommandError → Prop
  | .noSuchProperty _ | .noCode _ | .noMatch _ => True
  | .invalidChoice _ | .choiceOutOfRange _ | .aborted => True
  | _ => False

/-- Whether a failure comes before anything is asked of the debugger:
while a command is read, or while it is settled where to break. -/
def CommandError.IsEarly : CommandError → Prop
  | .notInProperty | .notEvaluating | .stepInsideFailed => False
  | .conditionRejected _ _ | .host _ => False
  | _ => True

/-- Whether the user is told of a failure: it is not one of the channel
to the user. -/
def CommandError.IsTold (e : CommandError) : Prop :=
  ∀ failure, e ≠ .io failure

namespace CommandError.IsMalformed

variable {e : CommandError} (h : e.IsMalformed)
include h

/-- A malformed command is refused before anything is done. -/
theorem isEarly : e.IsEarly := by
  cases e <;> trivial

/-- A malformed command is told to the user. -/
theorem isTold : e.IsTold := by
  intro failure heq
  rw [heq] at h
  exact h

end CommandError.IsMalformed

/-- A place that is not settled is refused before anything is done. -/
theorem CommandError.IsUnsettled.isEarly {e : CommandError}
    (h : e.IsUnsettled) : e.IsEarly := by
  cases e <;> trivial

/-- Whether a result, if it is a failure, is one of some kind. -/
def FailsWith (P : CommandError → Prop) (x : Except CommandError α) : Prop :=
  ∀ e, x = .error e → P e

namespace FailsWith

variable {P : CommandError → Prop}

theorem ok (a : α) : FailsWith P (.ok a) := nofun

theorem error {e : CommandError} (h : P e) :
    FailsWith P (.error e : Except CommandError α) := by
  intro k heq
  rw [← Except.error.inj heq]
  exact h

theorem imp {Q : CommandError → Prop} {x : Except CommandError α}
    (hx : FailsWith P x) (h : ∀ e, P e → Q e) : FailsWith Q x :=
  fun e he => h e (hx e he)

/-- Checks that fail in some way do so one after the other. -/
theorem bind {x : Except CommandError α} {f : α → Except CommandError β}
    (hx : FailsWith P x) (hf : ∀ a, FailsWith P (f a)) :
    FailsWith P (x >>= f) := by
  cases x with
  | error e => exact error (hx e rfl)
  | ok a => exact hf a

theorem map {x : Except CommandError α} (hx : FailsWith P x) (f : α → β) :
    FailsWith P (x.map f) := by
  cases x with
  | error e => exact error (hx e rfl)
  | ok a => exact ok (f a)

/-- A failure that is named anew is as it is named. -/
theorem mapError {ε : Type} {wrap : ε → CommandError} (h : ∀ e, P (wrap e))
    (x : Except ε α) : FailsWith P (x.mapError wrap) := by
  cases x with
  | error e => exact error (h e)
  | ok a => exact ok a

end FailsWith

namespace Command

open CommandError (IsMalformed)

theorem failsWith_withoutArgument (arg : List Char) (c : Command) :
    FailsWith IsMalformed (withoutArgument arg c) := by
  unfold withoutArgument
  split
  · exact .ok c
  · exact .error trivial

/-- A report can only be malformed. -/
theorem failsWith_stateOf (flags : Bool × Bool) (ws : List (List Char)) :
    FailsWith IsMalformed (stateOf flags ws) := by
  rcases ws with _ | ⟨name, _ | ⟨extra, others⟩⟩
  · exact .ok _
  · exact .ok _
  · exact .error trivial

theorem failsWith_parseState (arg : List Char) :
    FailsWith IsMalformed (parseState arg) := by
  have hflags : ∀ flags, FailsWith IsMalformed (readFlags flags) := by
    intro flags
    unfold readFlags
    dsimp only
    split
    · exact .ok _
    · exact .error trivial
  unfold parseState
  split
  · exact (hflags _).bind fun flags => failsWith_stateOf flags _
  · exact failsWith_stateOf _ _

theorem failsWith_parseBreak (arg : List Char) :
    FailsWith IsMalformed (parseBreak arg) := by
  have hspec : ∀ cs, FailsWith IsMalformed (parseSpec cs) := by
    intro cs
    unfold parseSpec
    cases BreakSpec.parse (String.ofList cs) with
    | error malformed => exact .error trivial
    | ok spec => exact .ok spec
  unfold parseBreak
  split
  · exact .error trivial
  · exact (hspec _).map _
  · exact (hspec _).map _
  · exact .error trivial
  · exact .error trivial

/-- A line that is no proper command fails as it is read. -/
theorem isMalformed_of_parse? {pre line : String} {e : CommandError}
    (h : parse? pre line = some (.error e)) : e.IsMalformed := by
  have hname : ∀ name arg parsed, ofName? name arg = some parsed →
      FailsWith IsMalformed parsed := by
    intro name arg parsed hparsed
    unfold ofName? at hparsed
    repeat' split at hparsed
    all_goals cases hparsed
    · exact failsWith_parseState arg
    · exact failsWith_parseBreak arg
    all_goals exact failsWith_withoutArgument arg _
  unfold parse? at h
  dsimp only at h
  split at h
  · cases h
  · exact hname _ _ _ h e rfl

/-- A line that is no command with its arguments is refused early. -/
theorem isEarly_of_parse? {pre line : String} {e : CommandError}
    (h : parse? pre line = some (.error e)) : e.IsEarly :=
  (isMalformed_of_parse? h).isEarly

end Command

namespace Index

/-- A property that cannot be broken on leaves the place unsettled. -/
theorem failsWith_resolveProperty (ix : Index) (name : String) :
    FailsWith CommandError.IsUnsettled (ix.resolveProperty name) := by
  unfold resolveProperty
  rcases ix.findByName? name with _ | p
  · exact .error trivial
  · dsimp only
    rcases p.bodyStart? with _ | line
    · exact .error trivial
    · exact .ok _

/-- An answer that chooses nothing leaves the place unsettled. -/
theorem failsWith_chosen (found : List Match) (answer : String) :
    FailsWith CommandError.IsUnsettled (chosen found answer) := by
  unfold chosen
  dsimp only
  split
  next e hnumber =>
    -- the answer is not blank and no number
    split at hnumber
    · cases hnumber
    · split at hnumber
      · cases hnumber
        exact .error trivial
      · cases hnumber
  next => exact .error trivial
  next n _ =>
    rcases found[n]? with _ | m
    · exact .error trivial
    · exact .ok m

end Index

-- ========================================================== the input

/-- Whether nothing is read from the user of a dialogue. -/
def SameInput (d d' : Dialogue σ) : Prop := d'.user.input = d.user.input

instance : IsPreorder (Dialogue σ) SameInput where
  refl _ := rfl
  trans _ _ _ h h' := Eq.trans h' h

namespace SameInput

theorem withHost (act : StateM σ α) :
    Moves SameInput (Dialogue.withHost act) := fun _ => rfl

theorem ask (request : Request σ α) (wrap : HostError → CommandError) :
    Moves SameInput (Work.ask request wrap).run := fun _ => rfl

theorem say (text : String) :
    Moves SameInput (Work.say text : Work σ Unit).run := fun _ => rfl

variable [Debugger σ]

/-- Showing the state reads nothing the user has typed. -/
theorem showState (s : Session) (o : StateReport.Options) :
    Moves SameInput (s.showState o : Work σ Unit).run := by
  apply (ask s.index.currentSnapshot? _).bindE
  intro snapshot
  exact Moves.bindE (withHost (StateReport.write o snapshot)) fun text =>
    say text

theorem step (s : Session) (go : Step σ StopEvent) :
    Moves SameInput (s.step go : Work σ Unit).run := by
  apply Moves.bindE (withHost go.run)
  intro event
  cases event with
  | stopped location breakpoint => exact showState s _
  | exited code => exact say _

/-- Every command that does not break leaves the input alone. -/
theorem run (s : Session) {c : Command}
    (quiet : ∀ spec condition, c ≠ .breakOn spec condition) :
    Moves SameInput (s.run c : Work σ Unit).run := by
  cases c with
  | state ellipsis storage only => exact showState s _
  | breakOn spec condition => exact absurd rfl (quiet spec condition)
  | next => exact step s _
  | out => exact step s _
  | stepInside => exact step s _
  | help => exact say _

end SameInput

-- ======================================================= the question

/-- At the end of input there is nothing left to read. -/
theorem Index.asked_at_end (ix : Index) (query : SpecLocation)
    (found : List Match) {u : User} (ended : u.input = []) :
    { ix.asked query found u with input := [] } = ix.asked query found u := by
  have hasked : (ix.asked query found u).input = [] := ended
  rw [← hasked]

/-- Resolving a location at which several expressions stand reads one
line, and fails when there is none. -/
theorem Index.run_resolve_several (ix : Index) {query : SpecLocation}
    (several : 2 ≤ (ix.findMatches query).length) (u : User) :
    (ix.resolve (.location query)).run u =
      (match u.input with
        | [] => .error .aborted
        | .error failure :: _ => .error (.io failure)
        | .ok answer :: _ =>
          (chosen (ix.findMatches query) answer).map (ix.location ·.line),
       { ix.asked query (ix.findMatches query) u with
          input := u.input.tail }) := by
  show (ix.resolveLocation query).run u = _
  unfold resolveLocation
  revert several
  rcases ix.findMatches query with _ | ⟨m, _ | ⟨m', ms⟩⟩
  · intro several
    simp at several
  · intro several
    simp at several
  · intro _
    dsimp only
    rw [run_bind, run_choose]
    rcases hinput : u.input with _ | ⟨failure | answer, rest⟩
    · rw [List.tail_nil, ix.asked_at_end _ _ hinput]
    · rfl
    · dsimp only
      cases chosen (m :: m' :: ms) answer <;> rfl

/-- Resolving a location with one expression or none is not a matter for
the user. -/
theorem Index.run_resolve_few (ix : Index) {query : SpecLocation}
    (few : (ix.findMatches query).length < 2) (u : User) :
    (ix.resolve (.location query)).run u =
      (match ix.findMatches query with
        | [] => .error (.noMatch query)
        | m :: _ => .ok (ix.location m.line), u) := by
  show (ix.resolveLocation query).run u = _
  unfold resolveLocation
  revert few
  rcases ix.findMatches query with _ | ⟨m, _ | ⟨m', ms⟩⟩
  · exact fun _ => rfl
  · exact fun _ => rfl
  · intro few
    simp only [List.length_cons] at few
    omega

/-- Settling where to break fails for want of a place, or at the read for
the choice among several. -/
theorem Index.failsWith_resolve (ix : Index) (spec : BreakSpec) (u : User) :
    FailsWith (fun e => e.IsUnsettled ∨ ∃ failure, e = .io failure ∧
        (∃ query, spec = .location query ∧ 2 ≤ (ix.findMatches query).length) ∧
        u.input.head? = some (.error failure))
      ((ix.resolve spec).run u).1 := by
  cases spec with
  | property name =>
      exact (ix.failsWith_resolveProperty name).imp fun _ h => .inl h
  | location query =>
      by_cases several : 2 ≤ (ix.findMatches query).length
      · rw [ix.run_resolve_several several]
        rcases u.input with _ | ⟨failure | answer, rest⟩
        · exact .error (.inl trivial)
        · exact .error (.inr ⟨failure, rfl, ⟨query, rfl, several⟩, rfl⟩)
        · have hchosen := failsWith_chosen (ix.findMatches query) answer
          exact (hchosen.map _).imp fun _ h => .inl h
      · rw [ix.run_resolve_few (Nat.not_le.mp several)]
        rcases ix.findMatches query with _ | ⟨m, ms⟩
        · exact .error (.inl trivial)
        · exact .ok _

/-- A place that is not resolved is a failure before the debugger is asked. -/
theorem Index.failsEarly_resolve (ix : Index) (spec : BreakSpec) (u : User) :
    FailsWith CommandError.IsEarly ((ix.resolve spec).run u).1 := by
  refine (ix.failsWith_resolve spec u).imp ?_
  intro e he
  rcases he with hunsettled | ⟨failure, rfl, -⟩
  · exact hunsettled.isEarly
  · trivial

variable [Debugger σ]

/-- Nothing is asked of the debugger when there is no line to break
on. -/
theorem run_breakOn_of_error {ix : Index} {spec : BreakSpec} {e : CommandError}
    {user : User} {d : Dialogue σ}
    (unresolved : (ix.resolve spec).run d.user = (.error e, user))
    (condition : Option String) :
    (breakOn ix spec condition : Work σ BreakpointId).run d =
      (.error e, { d with user }) := by
  unfold breakOn
  rw [run_bind, Work.run_askUser, unresolved]

/-- The `break` command reads what resolving reads. -/
theorem input_breakOn (ix : Index) (spec : BreakSpec)
    (condition : Option String) (d : Dialogue σ) :
    ((breakOn ix spec condition : Work σ BreakpointId).run d).2.user.input =
      ((ix.resolve spec).run d.user).2.input := by
  rcases hresolve : (ix.resolve spec).run d.user with ⟨e | location, user⟩
  · rw [run_breakOn_of_error hresolve]
  · unfold breakOn
    rw [run_bind, Work.run_askUser, hresolve]
    -- whatever follows is between the session and the debugger
    show SameInput ⟨d.host, user⟩ _
    refine Moves.bindE (SameInput.ask _ _) (fun id => ?_) _
    apply (SameInput.say _).bindE
    intro _
    cases condition with
    | none => exact Moves.pure _
    | some text => exact (SameInput.ask _ _).bindE fun _ => Moves.pure _

namespace Session

/-- Whether a line is a `break` command on a location at which several
expressions stand. -/
def Asks (s : Session) (line : String) (query : SpecLocation) : Prop :=
  (∃ condition, Command.parse? s.pre line =
    some (.ok (.breakOn (.location query) condition))) ∧
    2 ≤ (s.index.findMatches query).length

/-- What a line leaves of the input is what its command leaves of it. -/
theorem input_run_execute (s : Session) (line : String) (d : Dialogue σ) :
    ((s.execute line).run d).2.user.input =
      match Command.parse? s.pre line with
      | some (.ok c) => ((s.run c).run d).2.user.input
      | _ => d.user.input := by
  rw [run_execute]
  rcases Command.parse? s.pre line with _ | e | c
  · rfl
  · exact e.input_report d
  · dsimp only
    rcases (s.run c).run d with ⟨e | _, left⟩
    · exact e.input_report left
    · rfl

/-- Breaking, as a command, shows nothing and keeps the session. -/
theorem run_breakOn (s : Session) (spec : BreakSpec)
    (condition : Option String) (d : Dialogue σ) :
    (s.run (.breakOn spec condition)).run d =
      let broke := (breakOn s.index spec condition).run d
      (broke.1.map fun _ => (), broke.2) := by
  show (breakOn s.index spec condition >>= fun _ => pure ()).run d = _
  rw [run_bind]
  rcases (breakOn s.index spec condition).run d with ⟨e | id, left⟩ <;> rfl

/-- A line fails as the command it stands for. -/
theorem failure?_of_parse {s : Session} {line : String} {c : Command}
    (parse : Command.parse? s.pre line = some (.ok c)) {d : Dialogue σ}
    {e : CommandError} :
    s.failure? line d = some e ↔ ((s.run c).run d).1 = .error e := by
  unfold failure?
  rw [parse]
  dsimp only
  rcases ((s.run c).run d).1 with e' | _
  · simp
  · simp

/-- A line that asks shows the choice and reads exactly one line of the
input. When there is none it ends there: after one prompt, with the
failure of that reading. Every other line reads nothing. -/
theorem input_execute (s : Session) (line : String) (d : Dialogue σ) :
    let ran := (s.execute line).run d
    (∀ query, s.Asks line query →
      let asked := s.index.asked query (s.index.findMatches query) d.user
      ran.2.user.input = d.user.input.tail ∧
      (d.user.input = [] →
        ran = CommandError.aborted.report { d with user := asked }) ∧
      ∀ failure rest, d.user.input = .error failure :: rest →
        ran = (CommandError.io failure).report
          { d with user := { asked with input := rest } }) ∧
    ((∀ query, ¬s.Asks line query) → ran.2.user.input = d.user.input) := by
  intro ran
  have hinput : ran.2.user.input = _ := s.input_run_execute line d
  constructor
  · intro query asks asked
    obtain ⟨⟨condition, hparse⟩, several⟩ := asks
    have hresolve := s.index.run_resolve_several several d.user
    -- the command ends where the question does, and reports its failure
    have hfails : ∀ e user, (s.index.resolve (.location query)).run d.user =
        (.error e, user) → ran = e.report { d with user } := by
      intro e user unresolved
      have hran : ran = _ := s.run_execute line d
      rw [hran, hparse]
      dsimp only
      rw [run_breakOn, run_breakOn_of_error unresolved]
      rfl
    refine ⟨?_, ?_, ?_⟩
    · rw [hinput, hparse]
      dsimp only
      rw [run_breakOn, input_breakOn, hresolve]
    · intro hend
      rw [hend, List.tail_nil, Index.asked_at_end _ _ _ hend] at hresolve
      exact hfails _ _ hresolve
    · intro failure rest hfailure
      rw [hfailure] at hresolve
      exact hfails _ _ hresolve
  · intro quiet
    rw [hinput]
    rcases hparse : Command.parse? s.pre line with _ | e | c
    · rfl
    · rfl
    · dsimp only
      -- of all commands only `break` looks at the input
      by_cases hbreak : ∃ spec condition, c = .breakOn spec condition
      · obtain ⟨spec, condition, rfl⟩ := hbreak
        rw [run_breakOn, input_breakOn]
        cases spec with
        | property name => rfl
        | location query =>
            have few : (s.index.findMatches query).length < 2 := by
              by_contra hseveral
              exact quiet query ⟨⟨condition, hparse⟩, Nat.not_lt.mp hseveral⟩
            rw [s.index.run_resolve_few few]
      · exact SameInput.run s
          (fun spec condition hc => hbreak ⟨spec, condition, hc⟩) d

end Session

end SpecDebugger
