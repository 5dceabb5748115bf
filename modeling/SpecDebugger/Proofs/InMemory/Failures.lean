/-
What a failing command leaves of the debugger in memory.

Most failures leave it exactly as it was, as nothing that changes it has
been asked by then. Two leave a residue (`CommandError.Leaves`): a
condition that is rejected leaves the breakpoint it was for, without a
condition, and a step inside that fails leaves the program where it
arrived. No other failure occurs here. The debugger in memory always
says where the program is and always inserts; a report shows what it
cannot read as unavailable; and a step only lets the program run from
where it is paused, when it can.

# The shape of the argument

One lemma for each kind of work says when it fails and what it leaves:
reports and stops not at all (`run_showState`), steps to lines before
they insert anything (`toLines_fails`), a step inside after some of the
path (`stepUntilInside_fails`), breaking before it inserts or at the
condition (`breakOn_fails`).
-/
import SpecDebugger.Proofs.InMemory.Breakpoints
import SpecDebugger.Proofs.InMemory.Reports
import SpecDebugger.Proofs.InMemory.Running
import SpecDebugger.Proofs.Outcomes

namespace SpecDebugger

/-- What a failure leaves of the debugger in memory it is a failure on:
one visible breakpoint without a condition more, the program further on
its path, or what was there before. -/
def CommandError.Leaves (ix : Index) (before after : InMemory) :
    CommandError → Prop
  | .conditionRejected id _ =>
    id = before.lastId + 1 ∧ ∃ line,
      after = { before with
        lastId := id
        breakpoints := before.breakpoints ++
          [(id, { location := ix.location line, condition := none,
                  internal := false })] }
  | .stepInsideFailed =>
    ∃ gone rest, before.path = gone ++ rest ∧
      after = { before with
        location := gone.getLast?.or before.location
        path := rest }
  | .host _ => False
  | _ => after = before

/-- An early failure leaves the debugger as it is. -/
theorem CommandError.IsEarly.leaves {e : CommandError} (h : e.IsEarly)
    (ix : Index) (host : InMemory) : e.Leaves ix host host := by
  cases e <;> first | rfl | cases h

namespace InMemory

-- ============================================================= reports

/-- Decoding a frame never fails in memory, and changes nothing. -/
@[simp]
theorem run_frame (ix : Index) (h : InMemory) :
    (ix.currentSnapshot? : Request InMemory (Option Snapshot)).run h =
      (.ok (h.location.bind ix.snapshotAt?), h) := by
  simp [Index.run_currentSnapshot?, Except.map]

/-- A report is always given, and changes nothing. -/
theorem run_showState (s : Session) (o : StateReport.Options)
    (d : Dialogue InMemory) :
    ((s.showState o).run d).1 = .ok () ∧
      ((s.showState o).run d).2.host = d.host := by
  unfold Session.showState
  rw [run_bind, Work.run_ask, run_frame]
  exact ⟨rfl, congrArg Prod.snd (run_writeEntries o _ d.host)⟩

theorem run_showStop (s : Session) (event : StopEvent)
    (d : Dialogue InMemory) : ((s.showStop event).run d).1 = .ok () := by
  cases event with
  | stopped location breakpoint => exact (run_showState s _ d).1
  | exited code => rfl

/-- A step command fails as its step fails. -/
theorem step_fails {s : Session} {go : SpecDebugger.Step InMemory StopEvent}
    {d left : Dialogue InMemory} {e : CommandError}
    (failed : (s.step go).run d = (.error e, left)) :
    go.run d.host = (.error e, left.host) := by
  unfold Session.step at failed
  have hwork : (ExceptT.mk (Dialogue.withHost go.run) :
      Work InMemory StopEvent).run d =
      ((go.run d.host).1, { d with host := (go.run d.host).2 }) := rfl
  rw [run_bind, hwork] at failed
  rcases hgo : go.run d.host with ⟨e' | event, host⟩
  · rw [hgo] at failed
    cases failed
    rfl
  · rw [hgo] at failed
    have hshown := run_showStop s event { d with host }
    dsimp only at failed
    rw [failed] at hshown
    cases hshown

-- ======================================================= steps to lines

/-- A step to lines fails only before it inserts anything. -/
theorem toLines_fails {ix : Index} {aims : Snapshot → Option (List Nat)}
    {h h' : InMemory} {e : CommandError}
    (failed : (Stepping.toLines ix aims).run h = (.error e, h')) :
    (e = .notInProperty ∨ e = .notEvaluating) ∧ h' = h := by
  rw [Stepping.run_toLines, run_location] at failed
  dsimp only at failed
  rcases hsnap : h.location.bind ix.snapshotAt? with _ | snap
  · rw [hsnap] at failed
    cases failed
    exact ⟨.inl rfl, rfl⟩
  · rw [hsnap] at failed
    dsimp only at failed
    rcases haims : aims snap with _ | lines
    · rw [haims] at failed
      cases failed
      exact ⟨.inr rfl, rfl⟩
    · -- the program is paused, so that it runs to the lines
      rw [haims] at failed
      dsimp only at failed
      obtain ⟨l, hl, -⟩ := Option.bind_eq_some_iff.mp hsnap
      rw [Step.run_ask, run_runTo,
        resumed_of_paused (h := h.arm ix.filename (ascending lines)) hl]
        at failed
      cases failed

-- ========================================================= steps inside

/-- Stepping until a property is entered fails somewhere on the path, at
the last location gone to. -/
theorem stepUntilInside_fails {ix : Index} {start : String} {budget : Nat}
    {h h' : InMemory} {l : GenLocation} {e : CommandError}
    (paused : h.location = some l)
    (failed : (Stepping.stepUntilInside ix start budget).run h =
      (.error e, h')) :
    e = .stepInsideFailed ∧ ∃ gone rest, h.path = gone ++ rest ∧
      h' = { h with
        location := gone.getLast?.or h.location
        path := rest } := by
  induction budget generalizing h l with
  | zero =>
      cases failed
      exact ⟨rfl, [], _, rfl, rfl⟩
  | succ budget ih =>
      obtain ⟨location, values, breakpoints, lastId, path, exitCode⟩ := h
      obtain rfl : location = some l := paused
      cases path with
      | nil => cases failed  -- the program exits, and that is no failure
      | cons next rest =>
          rw [run_stepUntilInside_cons rfl rfl] at failed
          cases harrival : Stepping.arrival ix start next with
          | passing =>
              rw [harrival] at failed
              obtain ⟨he, gone, left, hpath, hend⟩ := ih rfl failed
              refine ⟨he, next :: gone, left, congrArg (next :: ·) hpath, ?_⟩
              rw [hend, List.getLast?_cons]
              cases gone.getLast? <;> rfl
          | inside =>
              rw [harrival] at failed
              cases failed
          | noCall =>
              rw [harrival] at failed
              cases failed
              exact ⟨rfl, [next], rest, rfl, rfl⟩

/-- How a step inside may fail, and what each failure leaves. -/
theorem stepInside_fails {ix : Index} {budget : Nat} {h h' : InMemory}
    {e : CommandError}
    (failed : (Stepping.stepInside ix budget).run h = (.error e, h')) :
    e.Leaves ix h h' := by
  unfold Stepping.stepInside at failed
  rw [run_bind, Step.run_snapshot, run_location] at failed
  dsimp only at failed
  rcases hsnap : h.location.bind ix.snapshotAt? with _ | snap
  · rw [hsnap] at failed
    cases failed
    rfl
  · rw [hsnap] at failed
    obtain ⟨l, hl, -⟩ := Option.bind_eq_some_iff.mp hsnap
    obtain ⟨rfl, hleft⟩ := stepUntilInside_fails hl failed
    exact hleft

-- ============================================================= breaking

/-- A condition that is not attached changes nothing. -/
theorem setCondition_fails {id : BreakpointId} {text : String}
    {h h' : InMemory} {source : HostError}
    (failed : (Debugger.setCondition id text : Request InMemory Unit).run h =
      (.error source, h')) : h' = h := by
  rw [run_setCondition] at failed
  rcases hcheck : Condition.check text with fault | _
  · rw [hcheck] at failed
    cases failed
    rfl
  · rcases hfound : h.breakpoint? id with _ | b
    · rw [hcheck, hfound] at failed
      cases failed
      rfl
    · rw [hcheck, hfound] at failed
      cases failed

/-- Breaking fails before there is a breakpoint, or with one that has no
condition. -/
theorem breakOn_fails {ix : Index} {spec : BreakSpec}
    {condition : Option String} {d left : Dialogue InMemory} {e : CommandError}
    (failed : (breakOn ix spec condition).run d = (.error e, left)) :
    e.Leaves ix d.host left.host := by
  rcases hresolve : (ix.resolve spec).run d.user with ⟨e' | loc, user⟩
  · rw [run_breakOn_of_error hresolve] at failed
    cases failed
    have hearly := ix.failsEarly_resolve spec d.user e
    rw [hresolve] at hearly
    exact (hearly rfl).leaves ix d.host
  · obtain ⟨line, rfl⟩ := Index.resolve_eq_ok hresolve
    unfold breakOn at failed
    rw [run_bind, Work.run_askUser, hresolve] at failed
    cases condition with
    | none => cases failed
    | some text =>
        -- the insertion succeeds, so only the condition can fail
        change (Work.ask (Debugger.setCondition (d.host.lastId + 1) text)
          (.conditionRejected (d.host.lastId + 1)) >>= fun _ => pure _ :
            Work InMemory BreakpointId).run
          ⟨(d.host.insert { location := ix.location line }).2, _⟩ = _ at failed
        rw [run_bind, Work.run_ask] at failed
        dsimp only at failed
        rcases hcondition : (Debugger.setCondition (d.host.lastId + 1) text :
          Request InMemory Unit).run
            (d.host.insert { location := ix.location line }).2
          with ⟨source | _, host⟩
        · rw [hcondition] at failed
          cases failed
          exact ⟨rfl, line, setCondition_fails hcondition⟩
        · rw [hcondition] at failed
          cases failed

-- ======================================================== the commands

/-- What a command leaves of the debugger when it fails. -/
theorem run_fails {s : Session} {c : Command} {d left : Dialogue InMemory}
    {e : CommandError} (failed : (s.run c).run d = (.error e, left)) :
    e.Leaves s.index d.host left.host := by
  -- `next` and `out` are steps to lines, each with aims of its own
  have hlines : ∀ {aims}, (s.step (Stepping.toLines s.index aims)).run d =
      (.error e, left) → e.Leaves s.index d.host left.host := by
    intro aims hstep
    obtain ⟨rfl | rfl, hkept⟩ := toLines_fails (step_fails hstep)
    · exact hkept
    · exact hkept
  cases c with
  | state ellipsis storage only =>
      have hshown := (run_showState s
        { ellipsis, storage, limit := s.limit, only } d).1
      change (s.showState _).run d = _ at failed
      rw [failed] at hshown
      cases hshown
  | breakOn spec condition =>
      rw [s.run_breakOn] at failed
      rcases hbroke : (breakOn s.index spec condition).run d with ⟨e' | id, t⟩
      · rw [hbroke] at failed
        cases failed
        exact breakOn_fails hbroke
      · rw [hbroke] at failed
        cases failed
  | next =>
      change (s.step (Stepping.next s.index)).run d = _ at failed
      rw [Stepping.next_eq_toLines] at failed
      exact hlines failed
  | out =>
      change (s.step (Stepping.out s.index)).run d = _ at failed
      rw [Stepping.out_eq_toLines] at failed
      exact hlines failed
  | stepInside => exact stepInside_fails (step_fails failed)
  | help => cases failed

/-- A line that fails, in any session on the debugger in memory, in any
state of it and with any user: the failure is reported, and leaves of the
debugger what failures of its kind leave; in particular no failure is
one of the debugger itself. A line that does not fail is done, or is no
command. The commands that only show something leave the debugger as it
is, and the user is asked by a `break` command on several expressions
alone, and then once. -/
theorem failures_leave (s : Session) (line : String) (d : Dialogue InMemory) :
    let ran := (s.execute line).run d
    (∀ e, s.failure? line d = some e →
      (∃ left, ran = e.report left) ∧ e.Leaves s.index d.host ran.2.host) ∧
    (s.failure? line d = none →
      ran.1 = .ok (Command.parse? s.pre line).isSome) ∧
    (∀ c, Command.parse? s.pre line = some (.ok c) →
      (c = .help ∨ ∃ ellipsis storage only, c = .state ellipsis storage only) →
      ran.2.host = d.host) ∧
    (∀ query, s.Asks line query →
      let asked := s.index.asked query (s.index.findMatches query) d.user
      ran.2.user.input = d.user.input.tail ∧
      (d.user.input = [] →
        ran = CommandError.aborted.report { d with user := asked }) ∧
      ∀ failure rest, d.user.input = .error failure :: rest →
        ran = (CommandError.io failure).report
          { d with user := { asked with input := rest } }) ∧
    ((∀ query, ¬s.Asks line query) → ran.2.user.input = d.user.input) := by
  intro ran
  refine ⟨?_, ?_, ?_, s.input_execute line d⟩
  · intro e hfailure
    have hreported : ∃ left, ran = e.report left := by
      rcases s.execute_ends line d with ⟨hnone, -⟩ | ⟨e', left, he', hran⟩
      · rw [hfailure] at hnone
        cases hnone
      · rw [hfailure] at he'
        cases he'
        exact ⟨left, hran⟩
    refine ⟨hreported, ?_⟩
    show e.Leaves s.index d.host ((s.execute line).run d).2.host
    rw [s.host_execute]
    rcases hparse : Command.parse? s.pre line with _ | e' | c
    · unfold Session.failure? at hfailure
      rw [hparse] at hfailure
      cases hfailure
    · unfold Session.failure? at hfailure
      rw [hparse] at hfailure
      cases hfailure
      exact (Command.isEarly_of_parse? hparse).leaves s.index d.host
    · have hfailed := (Session.failure?_of_parse hparse).mp hfailure
      exact run_fails (Prod.ext hfailed rfl)
  · intro hnone
    rcases s.execute_ends line d with ⟨-, hdone⟩ | ⟨e, left, he, -⟩
    · exact hdone
    · rw [hnone] at he
      cases he
  · intro c hparse hshows
    show ((s.execute line).run d).2.host = d.host
    rw [s.host_execute, hparse]
    rcases hshows with rfl | ⟨ellipsis, storage, only, rfl⟩
    · rfl
    · exact (run_showState s _ d).2

example : ({ index := .specimen } : Session).failure?
    "break Node.p_eval if (" ⟨specimen, {}⟩ =
      some
        (.conditionRejected 2 (.command (Condition.Fault.near []).message)) :=
  rfl

end InMemory

end SpecDebugger
