/-
What a session leaves of the breakpoints of the debugger in memory.

No line that is typed removes or changes a breakpoint, and none leaves a
hidden one behind. Every command but `break` leaves the table as it was:
the only ones that write to it make a group run, and a group run deletes
what it has made. The `break` command adds at most one breakpoint, a
visible one on the line that resolving answers; if a condition is given
it is attached to that entry alone, as no other one has its number.

The number of the new breakpoint is above all numbers that were ever
handed out: those of breakpoints that are gone, and those that the group
runs took on the way.
-/
import SpecDebugger.Proofs.InMemory.History
import SpecDebugger.Proofs.Index.Order
import SpecDebugger.Proofs.Outcomes

namespace SpecDebugger

-- ============================================================ the turns

/-- The debugger after a line was given to a session. -/
def Session.turn {σ : Type} [Debugger σ] (s : Session) (host : σ)
    (typed : String × User) : σ :=
  ((s.execute typed.1).run ⟨host, typed.2⟩).2.host

/-- The debugger after lines were given to a session one after the
other. -/
def Session.turns {σ : Type} [Debugger σ] (s : Session) (host : σ)
    (typed : List (String × User)) : σ :=
  typed.foldl s.turn host

/-- Every breakpoint is on a line of the generated file. -/
theorem Index.resolve_eq_ok {ix : Index} {spec : BreakSpec} {u u' : User}
    {loc : GenLocation} (h : (ix.resolve spec).run u = (.ok loc, u')) :
    ∃ line, loc = ix.location line := by
  cases spec with
  | property name =>
      have hname : ix.resolveProperty name = .ok loc := congrArg Prod.fst h
      obtain ⟨p, n, -, -, hloc⟩ := resolveProperty_eq_ok.mp hname
      exact ⟨_, hloc⟩
  | location query =>
      obtain ⟨k, m, -, -, hloc⟩ := resolveLocation_eq_ok h
      exact ⟨_, hloc⟩

namespace InMemory

-- ==================================================== the quiet commands

/-- Whether a table that is in order is kept as it is, and in order. -/
def Keeps (h h' : InMemory) : Prop :=
  h.Numbered → h'.breakpoints = h.breakpoints ∧ h'.Numbered

instance : IsPreorder InMemory Keeps where
  refl _ := fun numbered => ⟨rfl, numbered⟩
  trans _ _ _ := fun keeps keeps' numbered =>
    have hmid := keeps numbered
    have hend := keeps' hmid.2
    ⟨hend.1.trans hmid.1, hend.2⟩

theorem SameTable.keeps {h h' : InMemory} (same : SameTable h h') :
    Keeps h h' :=
  fun numbered => ⟨same.1, numbered.of_sameTable same⟩

/-- A table in order is kept by all that the quiet commands ask for, a
group run included. -/
theorem walks_keeps : Walks Keeps where
  location h := fun numbered => ⟨rfl, numbered⟩
  readVar name h := by
    show Keeps h ((Debugger.readVar name : Request InMemory String).run h).2
    rw [state_readVar]
    exact fun numbered => ⟨rfl, numbered⟩
  stepInto h := h.sameTable_stepInto.keeps
  runTo file lines h := by
    intro numbered
    obtain ⟨hbreakpoints, hlast⟩ := table_runTo numbered file lines
    refine ⟨hbreakpoints, ?_, ?_⟩
    · exact hbreakpoints ▸ numbered.ascending
    · intro b hb
      have hold : b ∈ h.breakpoints := hbreakpoints ▸ hb
      exact Nat.le_trans (numbered.bounded b hold)
        (hlast ▸ Nat.le_add_right _ _)

-- ===================================================== the break command

/-- A condition for the entry inserted last is attached to it alone. -/
theorem breakpoints_withCondition {h : InMemory} (numbered : h.Numbered)
    (b : Breakpoint) (text : String) :
    ((h.insert b).2.withCondition (h.lastId + 1) text).breakpoints =
      h.breakpoints ++ [(h.lastId + 1, { b with
        condition := some (String.ofList (Text.trim text.toList)) })] := by
  have hold : h.breakpoints.map (fun entry =>
      if entry.1 = h.lastId + 1 then
        (entry.1, { entry.2 with
          condition := some (String.ofList (Text.trim text.toList)) })
      else entry) = h.breakpoints := by
    refine (List.map_congr_left ?_).trans (List.map_id _)
    intro entry hentry
    have hle := numbered.bounded entry hentry
    apply if_neg
    intro heq
    rw [heq] at hle
    exact Nat.not_succ_le_self _ hle
  show List.map _ (h.breakpoints ++ [(h.lastId + 1, b)]) = _
  rw [List.map_append, hold]
  exact congrArg (fun entry => h.breakpoints ++ [entry]) (if_pos rfl)

/-- Where breaking leads once its place is resolved: to an insertion,
and to the condition for what was inserted. -/
theorem host_breakOn {d : Dialogue InMemory} {ix : Index} {spec : BreakSpec}
    {loc : GenLocation} {user : User}
    (resolved : (ix.resolve spec).run d.user = (.ok loc, user))
    (condition : Option String) :
    ((breakOn ix spec condition).run d).2.host =
      match condition with
      | none => (d.host.insert { location := loc }).2
      | some text =>
        ((Debugger.setCondition (d.host.lastId + 1) text :
          Request InMemory Unit).run
            (d.host.insert { location := loc }).2).2 := by
  unfold breakOn
  rw [run_bind, Work.run_askUser, resolved]
  cases condition with
  | none => rfl
  | some text =>
      exact congrArg Dialogue.host (state_bind_pure
        (Work.ask (Debugger.setCondition _ text) (.conditionRejected _)) _ _)

/-- Breaking adds nothing, or one visible breakpoint on the line that
resolving answers. -/
theorem breakpoints_breakOn {d : Dialogue InMemory}
    (numbered : d.host.Numbered) (ix : Index) (spec : BreakSpec)
    (condition : Option String) :
    let after := ((breakOn ix spec condition).run d).2.host
    after.breakpoints = d.host.breakpoints ∨
      ∃ b user, (ix.resolve spec).run d.user = (.ok b.location, user) ∧
        b.internal = false ∧
        after.breakpoints =
          d.host.breakpoints ++ [(d.host.lastId + 1, b)] := by
  intro after
  rcases hresolve : (ix.resolve spec).run d.user with ⟨e | loc, user⟩
  · left
    have hafter : after = d.host := by
      show ((breakOn ix spec condition).run d).2.host = d.host
      rw [run_breakOn_of_error hresolve]
    rw [hafter]
  · right
    have hafter : after = _ := host_breakOn hresolve condition
    cases condition with
    | none => exact ⟨{ location := loc }, user, rfl, rfl, by rw [hafter]; rfl⟩
    | some text =>
        simp only [state_setCondition] at hafter
        split at hafter
        · have hadded :=
            breakpoints_withCondition numbered { location := loc } text
          exact ⟨_, user, rfl, rfl, by rw [hafter]; exact hadded⟩
        · exact ⟨{ location := loc }, user, rfl, rfl, by rw [hafter]; rfl⟩

-- ============================================================ the turns

/-- A line leaves the table as it is, or it is a `break` command that
adds a visible breakpoint, under the next number, on the line that
resolving answers. -/
theorem breakpoints_turn {h : InMemory} (numbered : h.Numbered) (s : Session)
    (line : String) (user : User) :
    (s.turn h (line, user)).breakpoints = h.breakpoints ∨
      ∃ spec condition b user',
        Command.parse? s.pre line = some (.ok (.breakOn spec condition)) ∧
        (s.index.resolve spec).run user = (.ok b.location, user') ∧
        b.internal = false ∧
        (s.turn h (line, user)).breakpoints =
          h.breakpoints ++ [(h.lastId + 1, b)] := by
  unfold Session.turn
  rw [s.host_execute]
  rcases Command.parse? s.pre line with _ | _ | c
  · exact .inl rfl
  · exact .inl rfl
  · show ((s.run c).run ⟨h, user⟩).2.host.breakpoints = _ ∨ _
    by_cases hbreak : ∃ spec condition, c = .breakOn spec condition
    · obtain ⟨spec, condition, rfl⟩ := hbreak
      have hrun : ((s.run (.breakOn spec condition)).run
          (⟨h, user⟩ : Dialogue InMemory)).2 =
          ((breakOn s.index spec condition).run ⟨h, user⟩).2 :=
        state_bind_pure _ _ _
      have hbroke := breakpoints_breakOn (d := ⟨h, user⟩) numbered s.index
        spec condition
      rw [← hrun] at hbroke
      rcases hbroke with hsame | ⟨b, user', hresolve, hvisible, hadded⟩
      · exact .inl hsame
      · exact .inr ⟨spec, condition, b, user', rfl, hresolve, hvisible, hadded⟩
    · have hkeeps := walks_keeps.run s
        (fun spec condition hc => hbreak ⟨spec, condition, hc⟩) ⟨h, user⟩
      exact .inl (hkeeps numbered).1

/-- A line leads the debugger on, and hands out numbers at most. -/
theorem grows_turn (h : InMemory) (s : Session) (typed : String × User) :
    Grows h (s.turn h typed) := by
  unfold Session.turn
  rw [s.host_execute]
  split
  next c _ => exact obeys_grows.run s c ⟨h, typed.2⟩
  next => exact refl_of Grows h

/-- Any number of lines lead it on, whatever they are. -/
theorem grows_turns (h : InMemory) (s : Session)
    (typed : List (String × User)) : Grows h (s.turns h typed) := by
  induction typed generalizing h with
  | nil => exact refl_of Grows h
  | cons t ts ih => exact trans_of Grows (grows_turn h s t) (ih (s.turn h t))

/-- Lines leave all breakpoints as they are, and add visible ones on
lines of the generated file. -/
theorem breakpoints_turns {h : InMemory} (numbered : h.Numbered) (s : Session)
    (typed : List (String × User)) :
    ∃ added, (s.turns h typed).breakpoints = h.breakpoints ++ added ∧
      ∀ b ∈ added, b.2.internal = false ∧
        ∃ line, b.2.location = s.index.location line := by
  induction typed generalizing h with
  | nil => exact ⟨[], (List.append_nil _).symm, by simp⟩
  | cons t ts ih =>
      obtain ⟨ids, trace⟩ := grows_turn h s t
      obtain ⟨added, hadded, hvisible⟩ := ih (trace.numbered numbered)
      show ∃ added, (s.turns (s.turn h t) ts).breakpoints = _ ∧ _
      rw [hadded]
      rcases breakpoints_turn numbered s t.1 t.2 with
        hsame | ⟨spec, condition, b, user', -, hresolve, hb, hnew⟩
      · exact ⟨added, by rw [hsame], hvisible⟩
      · -- what this line adds comes before what the later ones add
        refine ⟨(h.lastId + 1, b) :: added, ?_, ?_⟩
        · rw [hnew, List.append_assoc]
          rfl
        · refine List.forall_mem_cons.mpr ⟨⟨hb, ?_⟩, hvisible⟩
          exact Index.resolve_eq_ok hresolve

/-- Adding breakpoints that are not hidden adds them to what the user
sees, in their order. -/
theorem userBreakpoints_of_append {h h' : InMemory}
    {added : List (BreakpointId × Breakpoint)}
    (hadded : h'.breakpoints = h.breakpoints ++ added)
    (visible : ∀ b ∈ added, b.2.internal = false) :
    h'.userBreakpoints = h.userBreakpoints ++ added.map (·.2) := by
  have hall : (added.map (·.2)).filter (fun b => !b.internal) =
      added.map (·.2) := by
    rw [List.filter_eq_self]
    intro b hb
    obtain ⟨entry, hentry, rfl⟩ := List.mem_map.mp hb
    simp [visible entry hentry]
  rw [userBreakpoints, hadded, List.map_append, List.filter_append, hall,
    userBreakpoints]

/-- The user keeps seeing what there was to see, and sees all that lines
have added to the table. -/
theorem userBreakpoints_turns {h : InMemory} (numbered : h.Numbered)
    (s : Session) (typed : List (String × User)) :
    ∃ added, (s.turns h typed).userBreakpoints = h.userBreakpoints ++ added ∧
      (s.turns h typed).breakpoints.map (·.2) =
        h.breakpoints.map (·.2) ++ added := by
  obtain ⟨added, hadded, hvisible⟩ := breakpoints_turns numbered s typed
  refine ⟨added.map (·.2), ?_, ?_⟩
  · exact userBreakpoints_of_append hadded fun b hb => (hvisible b hb).1
  · rw [hadded, List.map_append]

theorem numbered_start (l : Option GenLocation) :
    ({ location := l } : InMemory).Numbered :=
  .of_clear rfl

/-- Whatever was done to a debugger in memory, and whatever lines a
session was given since then: the next line leaves every breakpoint as
it is and no hidden one behind. It adds one breakpoint at most, and only
as a `break` command: a visible one on the line that resolving answers,
under a number above all that were ever handed out. -/
theorem session_keeps_breakpoints {l : Option GenLocation} {start : InMemory}
    {issued : List BreakpointId}
    (reached : Trace { location := l } issued start) (s : Session)
    (typed : List (String × User)) (line : String) (user : User) :
    let before := s.turns start typed
    let after := s.turn before (line, user)
    (∃ added, before.breakpoints = start.breakpoints ++ added ∧
      ∀ b ∈ added, b.2.internal = false ∧
        ∃ n, b.2.location = s.index.location n) ∧
    before.breakpoints.Pairwise (fun a b => a.1 < b.1) ∧
    ∃ more, Trace start more before ∧
      (after.breakpoints = before.breakpoints ∨
        ∃ spec condition id b user',
          Command.parse? s.pre line = some (.ok (.breakOn spec condition)) ∧
          after.breakpoints = before.breakpoints ++ [(id, b)] ∧
          b.internal = false ∧
          (s.index.resolve spec).run user = (.ok b.location, user') ∧
          (∃ n, b.location = s.index.location n) ∧
          ∀ i ∈ issued ++ more, i < id) := by
  intro before after
  have hstart := reached.numbered (numbered_start l)
  obtain ⟨more, trace⟩ := grows_turns start s typed
  have hbefore := trace.numbered hstart
  refine ⟨breakpoints_turns hstart s typed, hbefore.ascending, more, trace, ?_⟩
  rcases breakpoints_turn hbefore s line user with
    hsame | ⟨spec, condition, b, user', hparse, hresolve, hb, hnew⟩
  · exact .inl hsame
  · right
    refine ⟨spec, condition, _, b, user', hparse, hnew, hb, hresolve,
      Index.resolve_eq_ok hresolve, ?_⟩
    intro i hi
    exact Nat.lt_succ_of_le ((reached.append trace).le_lastId hi)

/-- A debugger paused in the specimen, with a breakpoint on its last line
and one step to go. -/
def specimen : InMemory where
  location := some ⟨"gen.adb", 24⟩
  breakpoints := [(1, { location := ⟨"gen.adb", 50⟩ })]
  lastId := 1
  path := [⟨"gen.adb", 26⟩]

theorem trace_specimen :
    Trace { location := some ⟨"gen.adb", 24⟩ } [1] specimen :=
  ((Trace.nil { location := some ⟨"gen.adb", 24⟩ }).snoc
    (@Step.insertBreakpoint _ _ ⟨"gen.adb", 50⟩ false _ rfl)).snoc
      (.extendPath _ "gen.adb" [26])

/-- After a step in the specimen, a `break` command adds one visible
breakpoint, under a number that not even the step has used. -/
theorem session_keeps_breakpoints_specimen :
    let s : Session := { index := .specimen }
    let before := s.turns specimen [("next", {})]
    let after := s.turn before ("break Node.p_eval", {})
    ∃ more, Trace specimen more before ∧
      ∃ id b, after.breakpoints = before.breakpoints ++ [(id, b)] ∧
        b.internal = false ∧ ∀ i ∈ [1] ++ more, i < id := by
  intro s before after
  obtain ⟨-, -, more, trace, hafter⟩ := session_keeps_breakpoints
    trace_specimen s [("next", {})] "break Node.p_eval" {}
  rcases hafter with hsame | ⟨-, -, id, b, -, -, hnew, hvisible, -, -, habove⟩
  · have hadded : after.breakpoints ≠ before.breakpoints := by decide +kernel
    exact absurd hsame hadded
  · exact ⟨more, trace, id, b, hnew, hvisible, habove⟩

end InMemory

end SpecDebugger
