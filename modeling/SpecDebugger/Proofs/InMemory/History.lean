/-
The history of the debugger in memory: what was done to it since it was
made, and the numbers it has handed out on the way.

A number is never handed out twice, not even after the breakpoint it was
for is gone. For a history hands out consecutive numbers
(`Trace.numbers`), from the number given last before it up to the number
given last after it. So the table of a debugger with a history ascends,
and holds handed out numbers only (`Trace.numbered`).

Whatever a session asks of a debugger is a part of its history
(`obeys_grows`).
-/
import SpecDebugger.Proofs.InMemory.Table
import SpecDebugger.Proofs.SessionMoves

namespace SpecDebugger.InMemory

-- ========================================================= the history

/-- What can be done to a debugger in memory: the scripting and the
requests, with the numbers that are handed out. -/
inductive Step : InMemory → List BreakpointId → InMemory → Prop where
  | setVariable (h : InMemory) (name value : String) :
    Step h [] (h.setVariable name value)
  | extendPath (h : InMemory) (file : String) (lines : List Nat) :
    Step h [] (h.extendPath file lines)
  | setExitCode (h : InMemory) (code : Int) :
    Step h [] { h with exitCode := code }
  | insertBreakpoint {h h' : InMemory} {location : GenLocation}
    {internal : Bool} {id : BreakpointId}
    (answer : (Debugger.insertBreakpoint location internal :
      Request InMemory BreakpointId).run h = (.ok id, h')) : Step h [id] h'
  | setCondition (h : InMemory) (id : BreakpointId) (text : String) :
    Step h []
      ((Debugger.setCondition id text : Request InMemory Unit).run h).2
  | deleteBreakpoint (h : InMemory) (id : BreakpointId) :
    Step h [] ((Debugger.deleteBreakpoint id : Request InMemory Unit).run h).2
  | resume (h : InMemory) :
    Step h [] ((Debugger.resume : Request InMemory StopEvent).run h).2
  | stepInto (h : InMemory) :
    Step h [] ((Debugger.stepInto : Request InMemory StopEvent).run h).2

/-- A history: one thing done after another, with the numbers handed out
in their order. -/
inductive Trace : InMemory → List BreakpointId → InMemory → Prop where
  | nil (h : InMemory) : Trace h [] h
  | snoc {h h' h'' : InMemory} {ids more : List BreakpointId}
    (before : Trace h ids h') (step : Step h' more h'') :
    Trace h (ids ++ more) h''

/-- What was done in two parts was done, with the numbers of both. -/
theorem Trace.append {h h' h'' : InMemory} {ids more : List BreakpointId}
    (before : Trace h ids h') (after : Trace h' more h'') :
    Trace h (ids ++ more) h'' := by
  induction after with
  | nil => rw [List.append_nil]; exact before
  | snoc _ step ih =>
      rw [← List.append_assoc]
      exact ih.snoc step

-- ========================================================= the numbers

/-- Whether a table is in order is a matter of the table alone. -/
theorem Numbered.of_sameTable {h h' : InMemory} (numbered : h.Numbered)
    (same : SameTable h h') : h'.Numbered := by
  obtain ⟨hbreakpoints, hlast⟩ := same
  refine ⟨hbreakpoints ▸ numbered.ascending, ?_⟩
  rw [hbreakpoints, hlast]
  exact numbered.bounded

/-- The next number is above all others, so it keeps the table in order. -/
theorem Numbered.insert {h : InMemory} (numbered : h.Numbered)
    (b : Breakpoint) : (h.insert b).2.Numbered := by
  constructor
  · refine List.pairwise_append.mpr
      ⟨numbered.ascending, List.pairwise_singleton _ _, ?_⟩
    intro old hold new hnew
    rw [List.mem_singleton.mp hnew]
    exact Nat.lt_succ_of_le (numbered.bounded old hold)
  · intro entry hentry
    rcases List.mem_append.mp hentry with hold | hnew
    · exact Nat.le_succ_of_le (numbered.bounded entry hold)
    · rw [List.mem_singleton.mp hnew]
      exact Nat.le_refl _

theorem Numbered.withCondition {h : InMemory} (numbered : h.Numbered)
    (id : BreakpointId) (text : String) :
    (h.withCondition id text).Numbered := by
  have hfst : ∀ b : BreakpointId × Breakpoint,
      (if b.1 = id then
        (b.1, { b.2 with
          condition := some (String.ofList (Text.trim text.toList)) })
      else b).1 = b.1 := by
    intro b
    split <;> rfl
  constructor
  · refine List.pairwise_map.mpr (numbered.ascending.imp ?_)
    intro a b hab
    rw [hfst, hfst]
    exact hab
  · intro entry hentry
    obtain ⟨b, hb, rfl⟩ := List.mem_map.mp hentry
    rw [hfst]
    exact numbered.bounded b hb

theorem Numbered.remove {h : InMemory} (numbered : h.Numbered)
    (id : BreakpointId) : (h.remove id).Numbered :=
  ⟨numbered.ascending.sublist List.filter_sublist,
    fun b hb => numbered.bounded b (List.mem_filter.mp hb).1⟩

/-- What is done to the debugger keeps its table in order. -/
theorem Step.numbered {h h' : InMemory} {ids : List BreakpointId}
    (step : Step h ids h') (numbered : h.Numbered) : h'.Numbered := by
  cases step with
  | setVariable name value => exact numbered.of_sameTable ⟨rfl, rfl⟩
  | extendPath file lines => exact numbered.of_sameTable ⟨rfl, rfl⟩
  | setExitCode code => exact numbered.of_sameTable ⟨rfl, rfl⟩
  | insertBreakpoint answer =>
      cases answer
      exact numbered.insert _
  | setCondition id text =>
      rw [state_setCondition]
      split
      · exact numbered.withCondition id text
      · exact numbered
  | deleteBreakpoint id =>
      simpa using numbered.remove id
  | resume => exact numbered.of_sameTable h.sameTable_resume
  | stepInto => exact numbered.of_sameTable h.sameTable_stepInto

/-- What is done to the debugger hands out the next numbers. -/
theorem Step.numbers {h h' : InMemory} {ids : List BreakpointId}
    (step : Step h ids h') :
    ids = List.range' (h.lastId + 1) ids.length ∧
      h'.lastId = h.lastId + ids.length := by
  cases step with
  | setVariable name value => exact ⟨rfl, rfl⟩
  | extendPath file lines => exact ⟨rfl, rfl⟩
  | setExitCode code => exact ⟨rfl, rfl⟩
  | insertBreakpoint answer =>
      cases answer
      exact ⟨rfl, rfl⟩
  | setCondition id text =>
      rw [state_setCondition]
      split <;> exact ⟨rfl, rfl⟩
  | deleteBreakpoint id =>
      rw [state_deleteBreakpoint]
      exact ⟨rfl, rfl⟩
  | resume => exact ⟨rfl, h.sameTable_resume.2⟩
  | stepInto => exact ⟨rfl, h.sameTable_stepInto.2⟩

namespace Trace

variable {h h' : InMemory} {ids : List BreakpointId}

/-- Whatever is done keeps the table in order. -/
theorem numbered (trace : Trace h ids h') (start : h.Numbered) :
    h'.Numbered := by
  induction trace with
  | nil => exact start
  | snoc _ step ih => exact step.numbered ih

/-- A history hands out consecutive numbers. -/
theorem numbers (trace : Trace h ids h') :
    ids = List.range' (h.lastId + 1) ids.length ∧
      h'.lastId = h.lastId + ids.length := by
  induction trace with
  | nil => exact ⟨rfl, rfl⟩
  | snoc _ step ih =>
      obtain ⟨hids, hlast⟩ := ih
      obtain ⟨hmore, hlast'⟩ := step.numbers
      rw [List.length_append]
      constructor
      · rw [← List.range'_append_1, ← hids, Nat.add_right_comm, ← hlast,
          ← hmore]
      · rw [hlast', hlast, Nat.add_assoc]

/-- No number is above the one handed out last. -/
theorem le_lastId (trace : Trace h ids h') {id : BreakpointId}
    (hid : id ∈ ids) : id ≤ h'.lastId := by
  obtain ⟨hids, hlast⟩ := trace.numbers
  rw [hids, List.mem_range'_1] at hid
  rw [hlast]
  exact Nat.le_of_lt_succ (by rw [Nat.add_right_comm] at hid; exact hid.2)

end Trace

-- ======================================================= the requests

/-- Whether a state has a history since another one. -/
def Grows (h h' : InMemory) : Prop := ∃ ids, Trace h ids h'

instance : IsPreorder InMemory Grows where
  refl h := ⟨[], .nil h⟩
  trans _ _ _ := fun ⟨ids, before⟩ ⟨more, after⟩ =>
    ⟨ids ++ more, before.append after⟩

/-- One request hands out its numbers, and nothing goes back. -/
theorem Step.grows {h h' : InMemory} {ids : List BreakpointId}
    (step : Step h ids h') : Grows h h' :=
  ⟨[] ++ ids, (Trace.nil h).snoc step⟩

/-- All requests are part of the history. -/
theorem obeys_grows : Obeys Grows where
  location h := ⟨[], .nil h⟩
  readVar name h := by
    show Grows h ((Debugger.readVar name : Request InMemory String).run h).2
    rw [state_readVar]
    exact ⟨[], .nil h⟩
  insertBreakpoint location internal h := (Step.insertBreakpoint rfl).grows
  setCondition id text h := (Step.setCondition h id text).grows
  deleteBreakpoint id h := (Step.deleteBreakpoint h id).grows
  resume h := (Step.resume h).grows
  stepInto h := (Step.stepInto h).grows

end SpecDebugger.InMemory
