/-
Where a step to the next expression stops, from any state of the debugger
in memory.

The step makes hidden breakpoints on the last line of the property and on
the lines of the later markers, lets the program run, and deletes them.
So it stops at the first location ahead that is on one of these lines or
has a breakpoint of its own, or the program exits when there is none
(`next_stops_on_path`). The step uses up the path to there, and the
numbers that the hidden breakpoints had; the rest stays as it was.

The state is any that a history leads to, since the numbers decide which
breakpoint is named: those of a history ascend, so the first entry at a
location has the smallest number there.
-/
import Mathlib.Data.List.Sort
import SpecDebugger.Proofs.InMemory.Breakpoints
import SpecDebugger.Proofs.InMemory.Running
import SpecDebugger.Proofs.Landing

namespace SpecDebugger.InMemory

/-- Whatever was done to a debugger in memory, a step to the next
expression fails and changes nothing when the program is not in a
property: it does not run, or is not in the generated file, or is outside
of all bodies there. In a property it runs the program to certain lines:
the last one of the property, and those of the markers further on at any
depth. The program stops at the first location ahead that is on one of
them or has a live breakpoint, under the smallest number there, so that a
breakpoint that was there before comes first; or it exits when there is no
such location. Nothing else changes but the number given last, by one for
each of the lines. -/
theorem next_stops_on_path {l₀ : Option GenLocation} {h : InMemory}
    {issued : List BreakpointId} (reached : Trace { location := l₀ } issued h)
    (ix : Index) :
    let ran := (Stepping.next ix).run h
    ((h.location = none ∨ ∃ here, h.location = some here ∧
        (ix.isGeneratedFile here.file = false ∨
          ∀ p ∈ ix.properties, p.lines.contains here.line = false)) →
      ran = (.error .notInProperty, h)) ∧
    ∀ here p, h.location = some here → ix.RunsIn here p →
      ∃ lines : List Nat, lines.Pairwise (· < ·) ∧
        (∀ n, n ∈ lines ↔ n = p.lines.last ∨
          here.line < n ∧ ∃ m, Event.Holds p.events m ∧ m.line = n) ∧
        (∀ before l after, h.path = before ++ l :: after →
          (∀ k ∈ before, ¬h.StopsAt ix.filename lines k) →
          h.StopsAt ix.filename lines l →
          ∃ id, LeastAt (h.arm ix.filename lines).breakpoints l id ∧
            ((∃ b ∈ h.breakpoints, b.2.location.same l = true) →
              id ∈ h.breakpoints.map (·.1)) ∧
            ran = (.ok (.stopped (some l) (some id)),
              { h with
                location := some l
                path := after
                lastId := h.lastId + lines.length })) ∧
        ((∀ k ∈ h.path, ¬h.StopsAt ix.filename lines k) →
          ran = (.ok (.exited h.exitCode),
            { h with
              location := none
              path := []
              lastId := h.lastId + lines.length })) := by
  intro ran
  have numbered := reached.numbered (numbered_start l₀)
  constructor
  case left =>
    intro outside
    apply run_next_of_none
    rcases outside with hnone | ⟨here, hhere, houtside⟩
    · rw [hnone]
      rfl
    · rw [hhere]
      exact Index.snapshotAt?_eq_none_iff.mpr houtside
  case right =>
    -- the step is a group run to the lines that come next in the property
    intro here p hhere runs
    have frame : h.location.bind ix.snapshotAt? =
        some (Snapshot.ofProperty p here) := by
      rw [hhere]
      exact runs.snapshotAt?
    have hran : ran = _ := run_next frame
    rw [SpecDebugger.Step.run_ask] at hran
    refine ⟨ascending (p.nextLines here.line), pairwise_ascending _,
      fun n => mem_ascending.trans Property.mem_nextLines, ?_, ?_⟩
    · intro before l after ahead free stops
      obtain ⟨id, hleast, hrun⟩ :=
        run_runTo_stops numbered hhere ahead free stops
      refine ⟨id, hleast, numbered.mem_of_leastAt_arm hleast, ?_⟩
      rw [hran, hrun]
      rfl
    · intro free
      rw [hran, run_runTo_exits numbered hhere free]
      rfl

/-- A program past the body of the specimen, with a breakpoint of the user
on the last line, which it is about to reach. -/
def leaving : InMemory where
  location := some ⟨"gen.adb", 43⟩
  breakpoints := [(1, { location := ⟨"gen.adb", 50⟩ })]
  lastId := 1
  path := [⟨"gen.adb", 44⟩, ⟨"gen.adb", 50⟩, ⟨"gen.adb", 51⟩]

theorem trace_leaving :
    Trace { location := some ⟨"gen.adb", 43⟩ } [1] leaving :=
  ((Trace.nil { location := some ⟨"gen.adb", 43⟩ }).snoc
    (@Step.insertBreakpoint _ _ ⟨"gen.adb", 50⟩ false _ rfl)).snoc
      (.extendPath _ "gen.adb" [44, 50, 51])

/-- The step stops at the breakpoint of the user, and takes a number for
the one of its own on the same line. -/
theorem next_stops_on_path_leaving :
    (Stepping.next .specimen).run leaving =
      (.ok (.stopped (some ⟨"gen.adb", 50⟩) (some 1)),
        { leaving with
          location := some ⟨"gen.adb", 50⟩
          path := [⟨"gen.adb", 51⟩]
          lastId := 2 }) := by
  have runs : Index.specimen.RunsIn ⟨"gen.adb", 43⟩ .specimen :=
    ⟨rfl, rfl, [], [], rfl, nofun⟩
  obtain ⟨lines, hascend, hlines, hstops, -⟩ :=
    (next_stops_on_path trace_leaving .specimen).2 _ _ rfl runs
  -- all markers are behind, so the last line is the only one to run to
  have hlast : ∀ n, n ∈ lines ↔ n ∈ [50] :=
    fun n => (hlines n).trans Property.mem_nextLines.symm
  obtain rfl : lines = [50] :=
    hascend.eq_of_mem_iff (List.pairwise_singleton _ _) hlast
  have free : ∀ k ∈ [(⟨"gen.adb", 44⟩ : GenLocation)],
      ¬leaving.StopsAt "gen.adb" [50] k := by
    rw [List.forall_mem_singleton, ← isSome_breakpointAt?_arm]
    decide
  have stops : leaving.StopsAt "gen.adb" [50] ⟨"gen.adb", 50⟩ :=
    .inl ⟨50, List.mem_singleton_self 50, rfl⟩
  obtain ⟨id, -, hold, hran⟩ := hstops _ _ [⟨"gen.adb", 51⟩] rfl free stops
  have hid := hold ⟨_, List.mem_singleton_self _, rfl⟩
  rw [List.mem_singleton.mp hid] at hran
  exact hran

end SpecDebugger.InMemory
