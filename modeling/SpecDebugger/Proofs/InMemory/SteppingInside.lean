/-
Where a step into a property ends, from any state of the debugger in
memory that is paused in one.

The step goes along the path one location after the other, as long as it
comes to code of the runtime or to dispatchers, and takes as many
locations as it is given at most. Which of its ends it comes to is decided
by the first location ahead that is in a property other than a dispatcher
(`Index.Enters`): whether there is one within the budget, and if not,
whether the path ends before the budget does (`steps_inside_along_path`).

# The shape of the argument

What a location means to the step is decided by the property that runs
there (`Stepping.arrival_eq_passing_iff` and the two before it). A prefix
of the path that is gone through takes one of the budget for each
location, by induction on the prefix (`run_stepUntilInside_append`); the
ends are one more step from there.
-/
import SpecDebugger.Proofs.InMemory.Running
import SpecDebugger.Proofs.LineLookup

namespace SpecDebugger

-- ================================================ statement vocabulary

/-- Whether a location is in the code of a property of the specification:
it runs in the property, and the property is not a dispatcher. -/
structure Index.Enters (ix : Index) (l : GenLocation) (q : Property) :
    Prop where
  runs : ix.RunsIn l q
  code : q.isDispatcher = false

/-- Whether a program that comes to a line of a property has just entered
it, when it was in the property `start` before: that is another one, or
this one has no body, or the line is not past the start of the body. -/
def Property.EnteredFrom (q : Property) (start : String) (line : Nat) : Prop :=
  q.name ≠ start ∨ q.bodyStart? = none ∨
    ∃ first, q.bodyStart? = some first ∧ line ≤ first

-- ========================================================= the arrivals

namespace Stepping

variable {ix : Index} {start : String} {l : GenLocation} {q : Property}

/-- Another property is entered, or the same one anew. -/
theorem enteredFrom_iff {line : Nat} :
    (q.name != start || q.justEntered line) = true ↔
      q.EnteredFrom start line := by
  unfold Property.EnteredFrom Property.justEntered
  rw [Bool.or_eq_true, bne_iff_ne]
  cases q.bodyStart? <;> simp

/-- On arrival in a property that is no dispatcher, the step is over: it
is inside, or nothing was called. -/
theorem arrival_of_enters (enters : ix.Enters l q) :
    arrival ix start l =
      if q.name != start || q.justEntered l.line then .inside
      else .noCall := by
  obtain ⟨generated, hfound⟩ := Index.runsIn_iff.mp enters.runs
  unfold arrival
  rw [if_pos generated, hfound]
  exact if_neg (Bool.eq_false_iff.mp enters.code)

/-- A property that is entered is where the step ends. -/
theorem arrival_eq_inside (enters : ix.Enters l q)
    (entered : q.EnteredFrom start l.line) :
    arrival ix start l = .inside := by
  rw [arrival_of_enters enters, if_pos (enteredFrom_iff.mpr entered)]

/-- In the property where it started, further on, nothing was called. -/
theorem arrival_eq_noCall (enters : ix.Enters l q)
    (goesOn : ¬q.EnteredFrom start l.line) :
    arrival ix start l = .noCall := by
  rw [arrival_of_enters enters, if_neg (mt enteredFrom_iff.mp goesOn)]

/-- The step goes on through dispatchers and through code of no property. -/
theorem arrival_eq_passing_iff :
    arrival ix start l = .passing ↔ ∀ q, ¬ix.Enters l q := by
  constructor
  · intro passing q enters
    rw [arrival_of_enters enters] at passing
    split at passing <;> cases passing
  · intro outside
    unfold arrival
    split
    case isTrue generated =>
      rcases hfound : ix.findByLine? l.line with _ | q
      · rfl
      · have hdispatcher : q.isDispatcher = true := by
          rw [← Bool.not_eq_false]
          intro hcode
          exact outside q ⟨Index.runsIn_iff.mpr ⟨generated, hfound⟩, hcode⟩
        exact if_pos hdispatcher
    case isFalse => rfl

end Stepping

namespace InMemory

-- ============================================================== the run

section

variable {ix : Index} {h : InMemory} {here : GenLocation}
  (paused : h.location = some here)
include paused

/-- What is gone through takes one of the budget for each location. -/
theorem run_stepUntilInside_append {start : String}
    {before after : List GenLocation} (ahead : h.path = before ++ after)
    (passing : ∀ m ∈ before, ∀ q, ¬ix.Enters m q) (budget : Nat) :
    (Stepping.stepUntilInside ix start (before.length + budget)).run h =
      (Stepping.stepUntilInside ix start budget).run
        { h with
          location := some (before.getLast?.getD here)
          path := after } := by
  induction before generalizing h here with
  | nil =>
      obtain ⟨location, values, breakpoints, lastId, path, exitCode⟩ := h
      obtain rfl : location = some here := paused
      obtain rfl : path = after := ahead
      rw [List.length_nil, Nat.zero_add]
      rfl
  | cons m before ih =>
      obtain ⟨hm, hbefore⟩ := List.forall_mem_cons.mp passing
      rw [List.length_cons, Nat.add_right_comm,
        run_stepUntilInside_cons paused ahead,
        Stepping.arrival_eq_passing_iff.mpr hm]
      dsimp only
      rw [ih rfl rfl hbefore, List.getLast?_cons]
      cases before.getLast? <;> rfl

/-- In a property, a step inside steps until one is entered. -/
theorem run_stepInside {p : Property} (runs : ix.RunsIn here p)
    (budget : Nat) :
    (Stepping.stepInside ix budget).run h =
      (Stepping.stepUntilInside ix p.name budget).run h := by
  unfold Stepping.stepInside
  rw [run_bind, Step.run_snapshot, run_location, paused]
  dsimp only
  rw [Option.bind_some, runs.snapshotAt?]
  rfl

end

/-- A step inside, from any program that is paused in a property and for
any budget. If the first location ahead in a property that is no
dispatcher is within the budget, the program goes to it: the step stops
there when it has just entered the property from the one it was in, and
fails otherwise. If there is none within the budget, the program exits
when its path ends before the budget does, and otherwise the step fails
with the budget used up. All but the location and the path stays as it
was. -/
theorem steps_inside_along_path {ix : Index} {h : InMemory}
    {here : GenLocation} {p : Property} (paused : h.location = some here)
    (runs : ix.RunsIn here p) (budget : Nat) :
    let ran := (Stepping.stepInside ix budget).run h
    (∀ before l after q, h.path = before ++ l :: after →
      before.length < budget →
      (∀ m ∈ before, ∀ q, ¬ix.Enters m q) → ix.Enters l q →
      ran.2 = { h with location := some l, path := after } ∧
      (q.EnteredFrom p.name l.line → ran.1 = .ok (.stopped (some l) none)) ∧
      (¬q.EnteredFrom p.name l.line → ran.1 = .error .stepInsideFailed)) ∧
    ((∀ m ∈ h.path.take budget, ∀ q, ¬ix.Enters m q) →
      (h.path.length < budget →
        ran = (.ok (.exited h.exitCode),
          { h with location := none, path := [] })) ∧
      (budget ≤ h.path.length →
        ran = (.error .stepInsideFailed,
          { h with
            location := some ((h.path.take budget).getLast?.getD here)
            path := h.path.drop budget }))) := by
  intro ran
  have hran : ran = (Stepping.stepUntilInside ix p.name budget).run h :=
    run_stepInside paused runs budget
  constructor
  case left =>
    intro before l after q ahead within passing enters
    obtain ⟨more, rfl⟩ := Nat.exists_eq_add_of_lt within
    rw [hran, Nat.add_assoc, run_stepUntilInside_append paused ahead passing,
      run_stepUntilInside_cons rfl rfl]
    by_cases entered : q.EnteredFrom p.name l.line
    · rw [Stepping.arrival_eq_inside enters entered]
      exact ⟨rfl, fun _ => rfl, fun goesOn => absurd entered goesOn⟩
    · rw [Stepping.arrival_eq_noCall enters entered]
      exact ⟨rfl, fun entered' => absurd entered' entered, fun _ => rfl⟩
  case right =>
    intro passing
    constructor
    · intro ends
      rw [List.take_of_length_le (Nat.le_of_lt ends)] at passing
      obtain ⟨more, rfl⟩ := Nat.exists_eq_add_of_lt ends
      rw [hran, Nat.add_assoc, run_stepUntilInside_append paused
        (List.append_nil _).symm passing]
      exact run_stepUntilInside_nil rfl rfl
    · intro lasts
      have ahead := (List.take_append_drop budget h.path).symm
      have hspent : (Stepping.stepUntilInside ix p.name
          ((h.path.take budget).length + 0)).run h = _ :=
        run_stepUntilInside_append paused ahead passing 0
      rw [Nat.add_zero, List.length_take_of_le lasts] at hspent
      rw [hran, hspent]
      rfl

end InMemory

-- ================================================================ a call

/-- A property that makes a call in its body. -/
def Property.caller : Property where
  name := "Shape.p_total"
  lines := ⟨10, 20⟩
  events := [.scope ⟨12, 18⟩ [] []]

/-- The dispatcher that the call goes through. -/
def Property.dispatcher : Property where
  name := "[dispatcher]Shape.p_area"
  lines := ⟨30, 40⟩

/-- The property that the call leads to. -/
def Property.callee : Property where
  name := "Circle.p_area"
  lines := ⟨50, 60⟩
  events := [.scope ⟨53, 58⟩ [] []]

def Index.dispatching : Index :=
  ⟨"gen.adb", [.caller, .dispatcher, .callee],
    [("circle.p_area", 2), ("[dispatcher]shape.p_area", 1),
      ("shape.p_total", 0)]⟩

/-- A program that is about to make the call. -/
def InMemory.calling : InMemory where
  location := some ⟨"gen.adb", 15⟩
  path := [⟨"runtime.adb", 7⟩, ⟨"gen.adb", 31⟩, ⟨"gen.adb", 50⟩,
    ⟨"gen.adb", 51⟩]

theorem Index.build_dispatching :
    build "gen.adb" [.caller, .dispatcher, .callee] = .ok dispatching := rfl

/-- The step goes through code of the runtime and through the dispatcher,
and stops in the property that is called. It has just the budget for
this. -/
theorem InMemory.steps_inside_along_path_calling :
    Index.build "gen.adb" [.caller, .dispatcher, .callee] =
        .ok .dispatching ∧
      (Stepping.stepInside .dispatching 3).run calling =
        (.ok (.stopped (some ⟨"gen.adb", 50⟩) none),
          { calling with
            location := some ⟨"gen.adb", 50⟩
            path := [⟨"gen.adb", 51⟩] }) := by
  have runs : Index.dispatching.RunsIn ⟨"gen.adb", 15⟩ .caller :=
    Index.runsIn_iff.mpr ⟨rfl, rfl⟩
  have hpassing : ∀ m ∈ calling.path.take 2,
      Stepping.arrival .dispatching "Shape.p_total" m = .passing := by decide
  have passing : ∀ m ∈ calling.path.take 2,
      ∀ q, ¬Index.dispatching.Enters m q := by
    intro m hm
    exact Stepping.arrival_eq_passing_iff.mp (hpassing m hm)
  have enters : Index.dispatching.Enters ⟨"gen.adb", 50⟩ .callee :=
    ⟨Index.runsIn_iff.mpr ⟨rfl, rfl⟩, rfl⟩
  obtain ⟨hcome, -⟩ := steps_inside_along_path (h := calling) rfl runs 3
  obtain ⟨hleft, hstops, -⟩ :=
    hcome _ _ [⟨"gen.adb", 51⟩] _ rfl (by decide) passing enters
  exact ⟨Index.build_dispatching,
    Prod.ext (hstops (.inl (by decide))) hleft⟩

end SpecDebugger
