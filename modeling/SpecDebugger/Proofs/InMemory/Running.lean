/-
How the program of the debugger in memory goes along its path.

When it is let run to some lines, it goes to the first location that it
stops at: one of the lines, or one with a breakpoint that was there before
(`StopsAt`). Which breakpoint it names is a matter of the numbers. The
table is searched in its order, and while it is in order (`Numbered`) the
entry found is the one with the smallest number there (`LeastAt`); so a
breakpoint that was there before comes before the hidden ones. When the
run is over the hidden entries are removed, and all that is left of it is
where the program is and the numbers that were taken.

The steps of a session come to such a run, or go on one location at a
time: what they do here is said by an equation for each.
-/
import Mathlib.Logic.Basic
import SpecDebugger.Proofs.GroupRuns
import SpecDebugger.Proofs.InMemory.Table

namespace SpecDebugger.InMemory

-- ================================================ statement vocabulary

/-- Whether a program that is let run to some lines of a file stops at a
location: it is one of the lines, or a breakpoint is live there. -/
def StopsAt (h : InMemory) (file : String) (lines : List Nat)
    (l : GenLocation) : Prop :=
  (∃ n ∈ lines, GenLocation.same ⟨file, n⟩ l = true) ∨
    ∃ b ∈ h.breakpoints, b.2.location.same l = true

/-- Whether a number is the smallest one that a table has at a
location. -/
structure LeastAt (table : List (BreakpointId × Breakpoint)) (l : GenLocation)
    (id : BreakpointId) : Prop where
  listed : ∃ b, (id, b) ∈ table ∧ b.location.same l = true
  least : ∀ e ∈ table, e.2.location.same l = true → id ≤ e.1

-- =========================================================== the search

/-- There is a breakpoint at a location when one of the table is on the
same line of the same file. -/
theorem isSome_breakpointAt? {h : InMemory} {l : GenLocation} :
    (h.breakpointAt? l).isSome = true ↔
      ∃ k ∈ h.breakpoints.map (·.2.location), k.same l = true := by
  simp only [breakpointAt?, Option.isSome_map, List.find?_isSome,
    List.mem_map, exists_exists_and_eq_and]

/-- During a group run the program stops at its lines and at the
breakpoints that were there. -/
theorem isSome_breakpointAt?_arm {h : InMemory} {file : String}
    {lines : List Nat} {l : GenLocation} :
    ((h.arm file lines).breakpointAt? l).isSome = true ↔
      h.StopsAt file lines l := by
  rw [isSome_breakpointAt?]
  show (∃ k ∈ (h.breakpoints ++ hidden file _ lines).map (·.2.location), _) ↔ _
  rw [List.map_append, map_location_hidden, StopsAt, or_comm]
  simp only [List.mem_append, List.mem_map, or_and_right, exists_or,
    exists_exists_and_eq_and]

/-- In a table that is in order, the entry found is the one with the
smallest number. -/
theorem Numbered.leastAt {h : InMemory} (numbered : h.Numbered)
    {l : GenLocation} {id : BreakpointId}
    (found : h.breakpointAt? l = some id) : LeastAt h.breakpoints l id := by
  obtain ⟨e, he, rfl⟩ := Option.map_eq_some_iff.mp found
  obtain ⟨hsame, before, after, htable, hbefore⟩ :=
    List.find?_eq_some_iff_append.mp he
  have hascending := numbered.ascending
  rw [htable] at hascending ⊢
  refine ⟨⟨e.2, List.mem_append_right _ List.mem_cons_self, hsame⟩, ?_⟩
  intro e' he' hsame'
  rcases List.mem_append.mp he' with he' | he'
  · have hmiss := hbefore e' he'
    rw [hsame'] at hmiss
    cases hmiss
  · rcases List.mem_cons.mp he' with rfl | he'
    · exact Nat.le_refl _
    · have hlater := (List.pairwise_append.mp hascending).2.1
      exact Nat.le_of_lt ((List.pairwise_cons.mp hlater).1 e' he')

/-- The hidden breakpoints have the next numbers, in order. -/
@[simp]
theorem map_fst_hidden (file : String) (first : BreakpointId)
    (lines : List Nat) :
    (hidden file first lines).map (·.1) = List.range' first lines.length := by
  induction lines generalizing first with
  | nil => rfl
  | cons line lines ih => exact congrArg (first :: ·) (ih (first + 1))

/-- Hidden entries come under numbers above those given before. -/
theorem Numbered.arm {h : InMemory} (numbered : h.Numbered) (file : String)
    (lines : List Nat) : (h.arm file lines).Numbered := by
  have hnew : ∀ b ∈ hidden file (h.lastId + 1) lines,
      h.lastId < b.1 ∧ b.1 ≤ h.lastId + lines.length := by
    intro b hb
    obtain ⟨hfirst, hlast⟩ := List.mem_range'_1.mp (mem_hidden hb).1
    rw [Nat.add_right_comm] at hlast
    exact ⟨hfirst, Nat.le_of_lt_succ hlast⟩
  constructor
  · refine List.pairwise_append.mpr ⟨numbered.ascending, ?_, ?_⟩
    · rw [← List.pairwise_map (f := Prod.fst) (R := (· < ·)), map_fst_hidden]
      exact List.pairwise_lt_range'
    · intro a ha b hb
      exact Nat.lt_of_le_of_lt (numbered.bounded a ha) (hnew b hb).1
  · intro b hb
    rcases List.mem_append.mp hb with hold | hb
    · exact Nat.le_trans (numbered.bounded b hold) (Nat.le_add_right _ _)
    · exact (hnew b hb).2

/-- A breakpoint that was there before has a smaller number than the
hidden ones. -/
theorem Numbered.mem_of_leastAt_arm {h : InMemory} (numbered : h.Numbered)
    {file : String} {lines : List Nat} {l : GenLocation} {id : BreakpointId}
    (least : LeastAt (h.arm file lines).breakpoints l id)
    (live : ∃ b ∈ h.breakpoints, b.2.location.same l = true) :
    id ∈ h.breakpoints.map (·.1) := by
  obtain ⟨⟨b, hb, -⟩, hleast⟩ := least
  obtain ⟨old, hold, hsame⟩ := live
  have hle := hleast old (List.mem_append_left _ hold) hsame
  have hbound := numbered.bounded old hold
  rcases List.mem_append.mp hb with hb | hb
  · exact List.mem_map_of_mem hb
  · have hfirst := (List.mem_range'_1.mp (mem_hidden hb).1).1
    exact absurd (Nat.le_trans hfirst (Nat.le_trans hle hbound))
      (Nat.not_succ_le_self _)

-- ============================================================== the run

/-- The program runs past what has no breakpoint. -/
theorem runAlong_append {h : InMemory} {before after : List GenLocation}
    {l : GenLocation} {id : BreakpointId}
    (free : ∀ k ∈ before, h.breakpointAt? k = none)
    (hit : h.breakpointAt? l = some id) :
    h.runAlong (before ++ l :: after) =
      (.stopped (some l) (some id),
        { h with location := some l, path := after }) := by
  induction before with
  | nil => simp only [List.nil_append, runAlong, hit]
  | cons k before ih =>
      obtain ⟨hk, hbefore⟩ := List.forall_mem_cons.mp free
      rw [List.cons_append, runAlong, hk]
      exact ih hbefore

/-- Where nothing has a breakpoint the program runs to its end. -/
theorem runAlong_eq_exit {h : InMemory} {path : List GenLocation}
    (free : ∀ k ∈ path, h.breakpointAt? k = none) :
    h.runAlong path = h.exit := by
  induction path with
  | nil => rfl
  | cons k path ih =>
      obtain ⟨hk, hpath⟩ := List.forall_mem_cons.mp free
      rw [runAlong, hk]
      exact ih hpath

section

variable {h : InMemory} (numbered : h.Numbered) {here : GenLocation}
  (paused : h.location = some here) {file : String} {lines : List Nat}
include numbered paused

/-- Letting a paused program run to some lines leaves where its run along
the path leads, with the table as it was. -/
theorem run_runTo_of_paused {event : StopEvent} {location : Option GenLocation}
    {path : List GenLocation}
    (ran : (h.arm file (ascending lines)).runAlong h.path =
      (event, { h.arm file (ascending lines) with location, path })) :
    (BreakpointGroup.runTo file lines : Request InMemory StopEvent).run h =
      (.ok event,
        { h with
          location, path
          lastId := h.lastId + (ascending lines).length }) := by
  have hresumed : (h.arm file (ascending lines)).resumed =
      (.ok event, { h.arm file (ascending lines) with location, path }) := by
    rw [resumed_of_paused (h := h.arm file (ascending lines)) paused]
    exact congrArg (fun t => (Except.ok t.1, t.2)) ran
  rw [run_runTo, hresumed]
  exact congrArg (fun t : InMemory => (_, { t with location, path }))
    (numbered.removeAll_arm file (ascending lines))

/-- The program stops at the first location of its path that it stops at,
under the smallest number there. -/
theorem run_runTo_stops {before after : List GenLocation} {l : GenLocation}
    (ahead : h.path = before ++ l :: after)
    (free : ∀ k ∈ before, ¬h.StopsAt file (ascending lines) k)
    (stops : h.StopsAt file (ascending lines) l) :
    ∃ id, LeastAt (h.arm file (ascending lines)).breakpoints l id ∧
      (BreakpointGroup.runTo file lines : Request InMemory StopEvent).run h =
        (.ok (.stopped (some l) (some id)),
          { h with
            location := some l
            path := after
            lastId := h.lastId + (ascending lines).length }) := by
  obtain ⟨id, hid⟩ :=
    Option.isSome_iff_exists.mp (isSome_breakpointAt?_arm.mpr stops)
  have hfree : ∀ k ∈ before,
      (h.arm file (ascending lines)).breakpointAt? k = none := by
    intro k hk
    rw [← Option.not_isSome_iff_eq_none, isSome_breakpointAt?_arm]
    exact free k hk
  refine ⟨id, (numbered.arm file _).leastAt hid, ?_⟩
  apply run_runTo_of_paused numbered paused
  rw [ahead]
  exact runAlong_append hfree hid

/-- When its path has no such location the program exits. -/
theorem run_runTo_exits
    (free : ∀ k ∈ h.path, ¬h.StopsAt file (ascending lines) k) :
    (BreakpointGroup.runTo file lines : Request InMemory StopEvent).run h =
      (.ok (.exited h.exitCode),
        { h with
          location := none
          path := []
          lastId := h.lastId + (ascending lines).length }) := by
  apply run_runTo_of_paused numbered paused
  apply runAlong_eq_exit
  intro k hk
  rw [← Option.not_isSome_iff_eq_none, isSome_breakpointAt?_arm]
  exact free k hk

end

-- ============================================================= the steps

/-- From a frame in a property, a step to the next expression lets the
program run to the lines that it has for the frame. -/
theorem run_next {ix : Index} {h : InMemory} {p : Property}
    {here : GenLocation}
    (frame : h.location.bind ix.snapshotAt? =
      some (Snapshot.ofProperty p here)) :
    (Stepping.next ix).run h =
      (Step.ask (BreakpointGroup.runTo ix.filename
        (p.nextLines here.line))).run h := by
  rw [Stepping.next_eq_toLines, Stepping.run_toLines, run_location]
  dsimp only
  rw [frame]
  rfl

/-- From another frame it fails before anything is done. -/
theorem run_next_of_none {ix : Index} {h : InMemory}
    (frame : h.location.bind ix.snapshotAt? = none) :
    (Stepping.next ix).run h = (.error .notInProperty, h) := by
  rw [Stepping.next_eq_toLines, Stepping.run_toLines, run_location]
  dsimp only
  rw [frame]

/-- Stepping until a property is entered goes one location further, and
on from there as long as what it arrives at is to be gone through. -/
theorem run_stepUntilInside_cons {ix : Index} {start : String} {budget : Nat}
    {h : InMemory} {here l : GenLocation} {path : List GenLocation}
    (paused : h.location = some here) (ahead : h.path = l :: path) :
    (Stepping.stepUntilInside ix start (budget + 1)).run h =
      match Stepping.arrival ix start l with
      | .passing =>
        (Stepping.stepUntilInside ix start budget).run
          { h with location := some l, path }
      | .inside =>
        (.ok (.stopped (some l) none), { h with location := some l, path })
      | .noCall =>
        (.error .stepInsideFailed, { h with location := some l, path }) := by
  obtain ⟨location, values, breakpoints, lastId, path', exitCode⟩ := h
  obtain rfl : location = some here := paused
  obtain rfl : path' = l :: path := ahead
  have hstopped : (Step.ask (Debugger.stepInto :
      Request InMemory StopEvent)).run
      ⟨some here, values, breakpoints, lastId, l :: path, exitCode⟩ =
      (.ok (.stopped (some l) none),
        ⟨some l, values, breakpoints, lastId, path, exitCode⟩) := rfl
  rw [Stepping.stepUntilInside, run_bind, hstopped]
  dsimp only
  cases Stepping.arrival ix start l <;> rfl

/-- At the end of the path the program exits. -/
theorem run_stepUntilInside_nil {ix : Index} {start : String} {budget : Nat}
    {h : InMemory} {here : GenLocation} (paused : h.location = some here)
    (ended : h.path = []) :
    (Stepping.stepUntilInside ix start (budget + 1)).run h =
      (.ok (.exited h.exitCode), { h with location := none, path := [] }) := by
  obtain ⟨location, values, breakpoints, lastId, path, exitCode⟩ := h
  obtain rfl : location = some here := paused
  obtain rfl : path = [] := ended
  rfl

end SpecDebugger.InMemory
