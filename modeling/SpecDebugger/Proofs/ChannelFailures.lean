/-
When a line fails with a failure of the channel to the user.

Reading a command, asking the debugger and showing a text fail only with
what the user can be told (`Tells`), and so does everything that is put
together from them: the reports, the steps, and breaking once the line
is settled. What is left is the question that settles it. So a line ends
in a failure of the channel just when it asks that question and the read
for the answer fails (`Session.execute_eq_error_iff`), whatever the
debugger does.
-/
import SpecDebugger.Proofs.Outcomes

namespace SpecDebugger

variable {σ α β : Type}

-- ============================================== failures that are told

/-- Whether whatever a computation fails with is something that the user
is told. -/
def Tells (x : ExceptT CommandError (StateM σ) α) : Prop :=
  ∀ s, FailsWith CommandError.IsTold (x.run s).1

namespace Tells

theorem pure (a : α) :
    Tells (Pure.pure a : ExceptT CommandError (StateM σ) α) :=
  fun _ => .ok a

/-- A failure that is told is not one of the channel. -/
theorem throw {e : CommandError} (told : e.IsTold) :
    Tells (MonadExcept.throw e : ExceptT CommandError (StateM σ) α) :=
  fun _ => .error told

theorem lift (m : StateM σ α) :
    Tells (ExceptT.lift m : ExceptT CommandError (StateM σ) α) :=
  fun s => .ok (m s).1

/-- Two computations that fail in words the user is told do so in turn. -/
theorem bind {x : ExceptT CommandError (StateM σ) α}
    {f : α → ExceptT CommandError (StateM σ) β} (hx : Tells x)
    (hf : ∀ a, Tells (f a)) : Tells (x >>= f) := by
  intro s
  have hs := hx s
  rw [run_bind]
  rcases hrun : x.run s with ⟨e | a, t⟩
  · rw [hrun] at hs
    exact .error (hs e rfl)
  · exact hf a t

/-- What the debugger fails with is told. -/
theorem stepAsk (request : Request σ α) : Tells (Step.ask request) :=
  fun s => .mapError (fun _ _ => nofun) (request.run s).1

/-- A question to the debugger fails as it is wrapped. -/
theorem ask (request : Request σ α) (wrap : HostError → CommandError)
    (told : ∀ e, (wrap e).IsTold) : Tells (Work.ask request wrap) :=
  fun d => .mapError told (request.run d.host).1

theorem say (text : String) : Tells (Work.say text : Work σ Unit) :=
  fun _ => .ok ()

end Tells

-- ============================================================ the steps

namespace Tells

variable [Debugger σ]

theorem snapshot (ix : Index) :
    Tells (Step.snapshot ix : Step σ Snapshot) := by
  apply (stepAsk _).bind
  intro s
  cases s with
  | none => exact throw fun _ => nofun
  | some s => exact pure s

theorem next (ix : Index) : Tells (Stepping.next ix : Step σ StopEvent) :=
  (snapshot ix).bind fun _ => stepAsk _

theorem out (ix : Index) : Tells (Stepping.out ix : Step σ StopEvent) := by
  apply (snapshot ix).bind
  intro s
  cases s.innermost? with
  | none => exact throw fun _ => nofun
  | some e => exact stepAsk _

/-- Steps that are repeated fail so, however often they are taken. -/
theorem stepUntilInside (ix : Index) (start : String) (budget : Nat) :
    Tells (Stepping.stepUntilInside ix start budget : Step σ StopEvent) := by
  induction budget with
  | zero => exact throw fun _ => nofun
  | succ budget ih =>
      apply (stepAsk _).bind
      intro event
      rcases event with ⟨_ | l, breakpoint⟩ | code
      · exact ih
      · dsimp only
        cases Stepping.arrival ix start l with
        | passing => exact ih
        | inside => exact pure _
        | noCall => exact throw fun _ => nofun
      · exact pure _

theorem stepInside (ix : Index) (budget : Nat) :
    Tells (Stepping.stepInside ix budget : Step σ StopEvent) :=
  (snapshot ix).bind fun _ => stepUntilInside ix _ budget

-- ========================================================= the commands

/-- Showing the state fails only when the debugger does. -/
theorem showState (s : Session) (o : StateReport.Options) :
    Tells (s.showState o : Work σ Unit) := by
  apply (ask _ .host fun _ _ => nofun).bind
  intro snapshot
  exact (lift _).bind fun text => say text

theorem step (s : Session) {go : Step σ StopEvent} (h : Tells go) :
    Tells (s.step go : Work σ Unit) := by
  have hgo : Tells (ExceptT.mk (Dialogue.withHost go.run) :
      Work σ StopEvent) := fun d => h d.host
  apply hgo.bind
  intro event
  cases event with
  | stopped location breakpoint => exact showState s _
  | exited code => exact say _

/-- Every command that does not break tells the user how it fails. -/
theorem run (s : Session) {c : Command}
    (quiet : ∀ spec condition, c ≠ .breakOn spec condition) :
    Tells (s.run c : Work σ Unit) := by
  cases c with
  | state ellipsis storage only => exact showState s _
  | breakOn spec condition => exact absurd rfl (quiet spec condition)
  | next => exact step s (next s.index)
  | out => exact step s (out s.index)
  | stepInside => exact step s (stepInside s.index s.budget)
  | help => exact say _

end Tells

-- ============================================================ breaking

variable [Debugger σ]

/-- Once it is settled where to break, breaking tells the user how it
fails. -/
theorem tells_breakOn {ix : Index} {spec : BreakSpec} {d : Dialogue σ}
    {location : GenLocation} {user : User}
    (settled : (ix.resolve spec).run d.user = (.ok location, user))
    (condition : Option String) :
    FailsWith CommandError.IsTold
      ((breakOn ix spec condition : Work σ BreakpointId).run d).1 := by
  unfold breakOn
  rw [run_bind, Work.run_askUser, settled]
  refine (Tells.ask _ .host fun _ _ => nofun).bind (fun id => ?_) _
  apply (Tells.say _).bind
  intro _
  cases condition with
  | none => exact Tells.pure _
  | some text =>
      refine (Tells.ask _ (.conditionRejected id) ?_).bind fun _ =>
        Tells.pure _
      exact fun _ _ => nofun

namespace Session

/-- A line fails with a failure of the channel only as it asks where to
break, at the read for the answer. -/
theorem asks_of_failure? {s : Session} {line : String} {d : Dialogue σ}
    {failure : ChannelFailure}
    (failed : s.failure? line d = some (.io failure)) :
    (∃ query, s.Asks line query) ∧
      d.user.input.head? = some (.error failure) := by
  rcases hparse : Command.parse? s.pre line with _ | e | c
  · unfold failure? at failed
    rw [hparse] at failed
    cases failed
  · unfold failure? at failed
    rw [hparse] at failed
    cases failed
    exact absurd rfl ((Command.isMalformed_of_parse? hparse).isTold failure)
  · have hfailed := (failure?_of_parse hparse).mp failed
    by_cases hbreak : ∃ spec condition, c = .breakOn spec condition
    · obtain ⟨spec, condition, rfl⟩ := hbreak
      rw [run_breakOn] at hfailed
      rcases hresolve : (s.index.resolve spec).run d.user
        with ⟨e | location, user⟩
      · rw [run_breakOn_of_error hresolve] at hfailed
        cases hfailed
        have hfails := s.index.failsWith_resolve spec d.user (.io failure)
        rw [hresolve] at hfails
        rcases hfails rfl with
          hunsettled | ⟨_, heq, ⟨query, rfl, several⟩, hread⟩
        · cases hunsettled
        · cases heq
          exact ⟨⟨query, ⟨condition, hparse⟩, several⟩, hread⟩
      · have htold := (tells_breakOn hresolve condition).map fun _ => ()
        exact absurd rfl (htold _ hfailed failure)
    · have htold := Tells.run s
        (fun spec condition hc => hbreak ⟨spec, condition, hc⟩) d
      exact absurd rfl (htold _ hfailed failure)

/-- A line fails just when it asks where to break and the read for the
answer fails, and it fails as that read does. -/
theorem execute_eq_error_iff {s : Session} {line : String} {d : Dialogue σ}
    {failure : ChannelFailure} :
    ((s.execute line).run d).1 = .error failure ↔
      (∃ query, s.Asks line query) ∧
        d.user.input.head? = some (.error failure) := by
  constructor
  · intro h
    rcases s.execute_ends line d with ⟨-, hdone⟩ | ⟨e, left, hfailed, hran⟩
    · rw [hdone] at h
      cases h
    · rw [hran] at h
      cases e <;> cases h
      exact asks_of_failure? hfailed
  · intro h
    obtain ⟨⟨query, asks⟩, hread⟩ := h
    obtain ⟨rest, hinput⟩ := List.head?_eq_some_iff.mp hread
    obtain ⟨-, -, hran⟩ := (s.input_execute line d).1 query asks
    rw [hran failure rest hinput]
    rfl

/-- A line that does not fail tells whether it is a command. -/
theorem execute_eq_ok {s : Session} {line : String} {d : Dialogue σ} {b : Bool}
    (h : ((s.execute line).run d).1 = .ok b) :
    b = (Command.parse? s.pre line).isSome := by
  rcases s.execute_ends line d with ⟨-, hdone⟩ | ⟨e, left, hfailed, hran⟩
  · rw [hdone] at h
    exact (Except.ok.inj h).symm
  · unfold failure? at hfailed
    rcases hparse : Command.parse? s.pre line with _ | parsed
    · rw [hparse] at hfailed
      cases hfailed
    · rw [hran] at h
      cases e <;> cases h <;> rfl

end Session

end SpecDebugger
