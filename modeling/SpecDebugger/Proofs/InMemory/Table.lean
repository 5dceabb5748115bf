/-
The table of breakpoints of the debugger in memory, request by request.

Only three requests write to the table: an insertion appends an entry
under the next number, a condition is attached to the entry of one
number, and a deletion removes that entry. Reading and running leave the
table and the number given last as they are (`SameTable`).

A group run is an insertion of hidden entries, a run, and a deletion of
the same entries, in whichever way the run ends. While the numbers in
the table are those given so far (`Numbered`), the new entries have
numbers of their own, so that the table is the same after the run as
before (`breakpoints_runTo`).
-/
import SpecDebugger.Breakpoints
import SpecDebugger.Debugger.InMemory
import SpecDebugger.Proofs.Effects

namespace SpecDebugger.InMemory

-- ======================================================== the numbers

/-- Whether the numbers in the table ascend, and none of them is above
the number given last. -/
structure Numbered (h : InMemory) : Prop where
  ascending : h.breakpoints.Pairwise fun a b => a.1 < b.1
  bounded : ∀ b ∈ h.breakpoints, b.1 ≤ h.lastId

theorem Numbered.of_clear {h : InMemory} (clear : h.breakpoints = []) :
    h.Numbered := by
  constructor
  · rw [clear]
    exact .nil
  · rw [clear]
    exact fun _ hb => nomatch hb

/-- Whether two states have the same table, and give the same numbers
next. -/
def SameTable (h h' : InMemory) : Prop :=
  h'.breakpoints = h.breakpoints ∧ h'.lastId = h.lastId

-- ================================================ reading and running

/-- The frame is where the program is paused. -/
@[simp]
theorem run_location (h : InMemory) :
    (Debugger.location : Request InMemory (Option GenLocation)).run h =
      (.ok h.location, h) := rfl

/-- Reading a variable changes nothing, even when there is none. -/
@[simp]
theorem state_readVar (h : InMemory) (name : String) :
    ((Debugger.readVar name : Request InMemory String).run h).2 = h := by
  obtain ⟨_ | l, values, breakpoints, lastId, path, exitCode⟩ := h
  · rfl
  · show ((read name).run _).2 = _
    unfold read
    rw [run_get_bind]
    rcases value? _ name with _ | value <;> rfl

/-- Running along a path keeps the table, however far it comes. -/
theorem sameTable_runAlong (h : InMemory) (path : List GenLocation) :
    SameTable h (h.runAlong path).2 := by
  induction path with
  | nil => exact ⟨rfl, rfl⟩
  | cons l ls ih =>
      unfold runAlong
      split
      · exact ⟨rfl, rfl⟩
      · exact ih

theorem sameTable_step (h : InMemory) : SameTable h h.step.2 := by
  unfold step
  split <;> exact ⟨rfl, rfl⟩

/-- Letting the program run, if it runs, does what running does. -/
theorem state_whileRunning (go : InMemory → StopEvent × InMemory)
    (h : InMemory) :
    ((whileRunning go).run h).2 = h ∨
      ((whileRunning go).run h).2 = (go h).2 := by
  obtain ⟨_ | l, values, breakpoints, lastId, path, exitCode⟩ := h
  · exact .inl rfl
  · exact .inr rfl

theorem sameTable_resume (h : InMemory) :
    SameTable h ((Debugger.resume : Request InMemory StopEvent).run h).2 := by
  rcases state_whileRunning (fun h => h.runAlong h.path) h with hsame | hrun
  · exact ⟨congrArg breakpoints hsame, congrArg lastId hsame⟩
  · have htable := h.sameTable_runAlong h.path
    rw [← hrun] at htable
    exact htable

theorem sameTable_stepInto (h : InMemory) :
    SameTable h
      ((Debugger.stepInto : Request InMemory StopEvent).run h).2 := by
  rcases state_whileRunning step h with hsame | hrun
  · exact ⟨congrArg breakpoints hsame, congrArg lastId hsame⟩
  · have htable := h.sameTable_step
    rw [← hrun] at htable
    exact htable

-- ============================================== writing to the table

/-- The condition is looked at first, and then whether there is a
breakpoint for it. -/
theorem run_setCondition (h : InMemory) (id : BreakpointId) (text : String) :
    (Debugger.setCondition id text : Request InMemory Unit).run h =
      match Condition.check text, h.breakpoint? id with
      | .error fault, _ => (.error (.command fault.message), h)
      | .ok (), none => (.error (noBreakpoint id), h)
      | .ok (), some _ => (.ok (), h.withCondition id text) := by
  show (condition id text).run h = _
  unfold condition
  rcases Condition.check text with fault | _
  · rfl
  · rw [run_get_bind]
    rcases h.breakpoint? id with _ | b <;> rfl

/-- A condition is attached when it is well formed and there is an entry
of the number; otherwise nothing changes. -/
theorem state_setCondition (h : InMemory) (id : BreakpointId)
    (text : String) :
    ((Debugger.setCondition id text : Request InMemory Unit).run h).2 =
      match Condition.check text, h.breakpoint? id with
      | .ok (), some _ => h.withCondition id text
      | _, _ => h := by
  rw [run_setCondition]
  rcases Condition.check text with fault | _
  · rfl
  · rcases h.breakpoint? id with _ | b <;> rfl

/-- A deletion leaves the other entries; without an entry of the number
nothing is left out. -/
@[simp]
theorem state_deleteBreakpoint (h : InMemory) (id : BreakpointId) :
    ((Debugger.deleteBreakpoint id : Request InMemory Unit).run h).2 =
      h.remove id := by
  show ((delete id).run h).2 = _
  unfold delete
  rw [run_get_bind]
  split
  next hnone =>
    have hkept :
        h.breakpoints.filter (fun b => b.1 != id) = h.breakpoints := by
      apply List.filter_eq_self.mpr
      intro b hb
      have hne := List.lookup_eq_none_iff.mp hnone b hb
      rw [bne_comm]
      exact hne
    show h = { h with breakpoints := h.breakpoints.filter fun b => b.1 != id }
    rw [hkept]
  next => rfl

-- ============================================================= groups

/-- The state without the entries of some numbers. -/
def removeAll (h : InMemory) (ids : List BreakpointId) : InMemory :=
  { h with breakpoints := h.breakpoints.filter fun b => !ids.contains b.1 }

/-- Cleaning up deletes the entries of the numbers, whichever of them are
still there. -/
@[simp]
theorem state_cleanup (h : InMemory) (ids : List BreakpointId) :
    ((BreakpointGroup.cleanup ids : StateM InMemory Unit).run h).2 =
      h.removeAll ids := by
  induction ids generalizing h with
  | nil =>
      show h = { h with breakpoints := h.breakpoints.filter fun _ => true }
      rw [List.filter_eq_self.mpr (fun _ _ => rfl)]
  | cons id ids ih =>
      show ((BreakpointGroup.cleanup ids : StateM InMemory Unit).run
        ((Debugger.deleteBreakpoint id : Request InMemory Unit).run h).2).2 = _
      rw [ih, state_deleteBreakpoint]
      unfold removeAll remove
      rw [List.filter_filter]
      congr 1
      apply List.filter_congr
      intro b _
      rw [List.contains_cons, Bool.not_or]
      exact Bool.and_comm _ _

/-- The hidden entries on some lines, under the numbers from `first` on. -/
def hidden (file : String) (first : BreakpointId) :
    List Nat → List (BreakpointId × Breakpoint)
  | [] => []
  | line :: lines =>
    (first, { location := ⟨file, line⟩, internal := true }) ::
      hidden file (first + 1) lines

/-- The state with hidden entries on some lines. -/
def arm (h : InMemory) (file : String) (lines : List Nat) : InMemory :=
  { h with
    lastId := h.lastId + lines.length
    breakpoints := h.breakpoints ++ hidden file (h.lastId + 1) lines }

/-- Breakpoints on some lines take the next numbers, and none of them fails. -/
theorem run_insertAll (h : InMemory) (file : String) (ids : List BreakpointId)
    (lines : List Nat) :
    (BreakpointGroup.insertAll file ids lines :
        Request InMemory (List BreakpointId)).run h =
      (.ok (ids ++ List.range' (h.lastId + 1) lines.length),
        h.arm file lines) := by
  induction lines generalizing h ids with
  | nil =>
      show (_, h) = _
      simp [arm, hidden]
  | cons line lines ih =>
      show (BreakpointGroup.insertAll file (ids ++ [h.lastId + 1]) lines :
          Request InMemory (List BreakpointId)).run
        (h.insert { location := ⟨file, line⟩, internal := true }).2 = _
      rw [ih, List.append_assoc, List.length_cons, List.range'_succ]
      simp only [arm, insert, hidden, List.append_assoc, List.length_cons,
        Nat.add_assoc, Nat.add_comm 1]
      rfl

/-- The breakpoints of a group run are hidden, and have new numbers. -/
theorem mem_hidden {file : String} {first : BreakpointId} {lines : List Nat}
    {b : BreakpointId × Breakpoint} (hb : b ∈ hidden file first lines) :
    b.1 ∈ List.range' first lines.length ∧ b.2.internal = true := by
  induction lines generalizing first with
  | nil => cases hb
  | cons line lines ih =>
      rw [List.length_cons, List.range'_succ]
      rcases List.mem_cons.mp hb with rfl | hb
      · exact ⟨List.mem_cons_self, rfl⟩
      · exact ⟨List.mem_cons_of_mem _ (ih hb).1, (ih hb).2⟩

@[simp]
theorem map_location_hidden (file : String) (first : BreakpointId)
    (lines : List Nat) :
    (hidden file first lines).map (·.2.location) =
      lines.map (GenLocation.mk file) := by
  induction lines generalizing first with
  | nil => rfl
  | cons line lines ih => exact congrArg (⟨file, line⟩ :: ·) (ih (first + 1))

/-- What running the program answers, and the state it leaves behind. -/
def resumed (h : InMemory) : Except HostError StopEvent × InMemory :=
  (Debugger.resume : Request InMemory StopEvent).run h

/-- A program that is paused goes along its path. -/
theorem resumed_of_paused {h : InMemory} {l : GenLocation}
    (paused : h.location = some l) :
    h.resumed = (.ok (h.runAlong h.path).1, (h.runAlong h.path).2) := by
  obtain ⟨location, values, breakpoints, lastId, path, exitCode⟩ := h
  obtain rfl : location = some l := paused
  rfl

/-- Letting the program run to some lines: hidden entries are made, the
program runs, and the entries are deleted, however it ran. -/
theorem run_runTo (h : InMemory) (file : String) (lines : List Nat) :
    (BreakpointGroup.runTo file lines : Request InMemory StopEvent).run h =
      ((h.arm file (ascending lines)).resumed.1,
        (h.arm file (ascending lines)).resumed.2.removeAll
          (List.range' (h.lastId + 1) (ascending lines).length)) := by
  unfold BreakpointGroup.runTo BreakpointGroup.create
  rw [run_bind, run_insertAll, List.nil_append]
  show (_, ((BreakpointGroup.cleanup _ : StateM InMemory Unit).run
    (h.arm file (ascending lines)).resumed.2).2) = _
  rw [state_cleanup]
  rfl

/-- The numbers of hidden entries are new, so that removing the entries
of these numbers leaves the ones that were there before. -/
theorem Numbered.removeAll_arm {h : InMemory} (numbered : h.Numbered)
    (file : String) (lines : List Nat) :
    (h.arm file lines).removeAll (List.range' (h.lastId + 1) lines.length) =
      { h with lastId := h.lastId + lines.length } := by
  unfold removeAll arm
  dsimp only
  rw [List.filter_append]
  have hold : h.breakpoints.filter (fun b =>
      !(List.range' (h.lastId + 1) lines.length).contains b.1) =
      h.breakpoints := by
    apply List.filter_eq_self.mpr
    intro b hb
    have hle := numbered.bounded b hb
    rw [Bool.not_eq_true', Bool.eq_false_iff, ne_eq, List.contains_iff_mem]
    intro hmem
    have hfirst := (List.mem_range'_1.mp hmem).1
    exact Nat.not_succ_le_self _ (Nat.le_trans hfirst hle)
  have hnew : (hidden file (h.lastId + 1) lines).filter (fun b =>
      !(List.range' (h.lastId + 1) lines.length).contains b.1) = [] := by
    apply List.filter_eq_nil_iff.mpr
    intro b hb
    have hmem := (mem_hidden hb).1
    simp [hmem]
  rw [hold, hnew, List.append_nil]

/-- A group run leaves the table as it found it; only the numbers it took
are gone. -/
theorem table_runTo {h : InMemory} (numbered : h.Numbered) (file : String)
    (lines : List Nat) :
    ((BreakpointGroup.runTo file lines : Request InMemory StopEvent).run
        h).2.breakpoints = h.breakpoints ∧
      ((BreakpointGroup.runTo file lines : Request InMemory StopEvent).run
        h).2.lastId = h.lastId + (ascending lines).length := by
  obtain ⟨hbreakpoints, hlast⟩ :=
    (h.arm file (ascending lines)).sameTable_resume
  rw [run_runTo]
  refine ⟨?_, hlast⟩
  show List.filter _ (h.arm file (ascending lines)).resumed.2.breakpoints = _
  unfold resumed
  rw [hbreakpoints]
  exact congrArg breakpoints (numbered.removeAll_arm file (ascending lines))

end SpecDebugger.InMemory
