/-
Stepping through a property from marker to marker.

A step to the next expression makes hidden breakpoints on the lines of
the later markers and on the last line of the property, lets the program
run, and deletes them. So from a program that goes through the rest of
the body line by line, with no breakpoint of the user's in its way, the
steps stop on each of these lines once and in ascending order
(`next_visits_markers`). The events may be recorded in any order and at
any depth; what the theorem needs is that the frames on the way are
decoded as the property, which they are when the bodies are apart.

# The step and the run

One step leads to the nearest of the lines that are left, and to a
program that goes on as before (`WalksOn.next`). What is left then is
what was left without that line, so the induction is on the ascending
list of the lines, from any program that walks on.
-/
import Mathlib.Logic.Function.Iterate
import SpecDebugger.Proofs.InMemory.Running
import SpecDebugger.Proofs.Landing

namespace SpecDebugger

-- ================================================ statement vocabulary

/-- Whether a line after `line` is that of a marker of a property, at any
depth, or the last one of the property. -/
def Property.StopsAfter (p : Property) (line n : Nat) : Prop :=
  line < n ∧ (n = p.lines.last ∨ ∃ m, Event.Holds p.events m ∧ m.line = n)

/-- These lines are the ones further on among those that a step runs to. -/
theorem Property.stopsAfter_iff {p : Property} {line n : Nat} :
    p.StopsAfter line n ↔ line < n ∧ n ∈ p.nextLines line := by
  apply and_congr_right
  intro hlater
  rw [mem_nextLines, and_iff_right hlater]

/-- The debugger after a step to the next expression. -/
def Stepping.afterNext {σ : Type} [Debugger σ] (ix : Index) (host : σ) : σ :=
  ((next ix).run host).2

namespace InMemory

/-- A program that is paused on a line of a property and goes on through
the following lines up to the last one, without a live breakpoint. -/
structure WalksOn (ix : Index) (p : Property) (line : Nat) (h : InMemory) :
    Prop where
  clear : h.breakpoints = []
  inside : p.lines.contains line = true
  paused : ∃ l, h.location = some l ∧ ix.isGeneratedFile l.file = true ∧
    l.line = line
  ahead : ∃ along rest, h.path = along ++ rest ∧
    along.map (·.line) = List.range' (line + 1) (p.lines.last - line) ∧
    ∀ l ∈ along, FilePath.same l.file ix.filename = true

-- ============================================================ running

/-- Without other breakpoints, a program that is let run to some lines of
a file stops on these lines of the file alone. -/
theorem stopsAt_of_clear {h : InMemory} (clear : h.breakpoints = [])
    {file : String} {lines : List Nat} {l : GenLocation}
    (infile : FilePath.same l.file file = true) :
    h.StopsAt file lines l ↔ l.line ∈ lines := by
  have hfile : FilePath.same file l.file = true := by
    unfold FilePath.same at infile ⊢
    rwa [Bool.beq_comm]
  simp [StopsAt, GenLocation.same, clear, hfile]

/-- What is on the way to a line among consecutive ones comes before it. -/
theorem exists_way {along : List GenLocation} {line last n : Nat}
    (consecutive : along.map (·.line) = List.range' (line + 1) (last - line))
    (later : line < n) (within : n ≤ last) :
    ∃ before l after, along = before ++ l :: after ∧ l.line = n ∧
      (∀ k ∈ before, line < k.line ∧ k.line < n) ∧
      after.map (·.line) = List.range' (n + 1) (last - n) := by
  have hsplit : List.range' (line + 1) (last - line) =
      List.range' (line + 1) (n - (line + 1)) ++
        n :: List.range' (n + 1) (last - n) := by
    have hreach : line + 1 + (n - (line + 1)) = n := by omega
    have hlength : last - line = n - (line + 1) + (last - n + 1) := by omega
    rw [hlength, ← List.range'_append_1, hreach, List.range'_succ]
  rw [hsplit] at consecutive
  obtain ⟨before, others, rfl, hbefore, hothers⟩ :=
    List.map_eq_append_iff.mp consecutive
  obtain ⟨l, after, rfl, hl, hafter⟩ := List.map_eq_cons_iff.mp hothers
  refine ⟨before, l, after, rfl, hl, ?_, hafter⟩
  intro k hk
  have hline : k.line ∈ List.range' (line + 1) (n - (line + 1)) :=
    hbefore ▸ List.mem_map_of_mem hk
  rw [List.mem_range'_1] at hline
  omega

-- ============================================================== the step

/-- The program stops on the nearest of the lines that it is let run to,
and walks on from there. -/
theorem WalksOn.runTo {ix : Index} {p : Property} {line n : Nat}
    {h : InMemory} (walks : h.WalksOn ix p line) {lines : List Nat}
    (later : line < n) (within : n ≤ p.lines.last)
    (hit : n ∈ lines) (nearest : ∀ k ∈ lines, line < k → n ≤ k) :
    let ran := (BreakpointGroup.runTo ix.filename lines :
      Request InMemory StopEvent).run h
    ∃ l id, ran.1 = .ok (.stopped (some l) (some id)) ∧ l.line = n ∧
      FilePath.same l.file ix.filename = true ∧ ran.2.WalksOn ix p n := by
  intro ran
  obtain ⟨here, hhere, -, rfl⟩ := walks.paused
  obtain ⟨along, rest, hpath, hconsecutive, hinfile⟩ := walks.ahead
  obtain ⟨before, l, after, rfl, rfl, hbetween, hafter⟩ :=
    exists_way hconsecutive later within
  obtain ⟨hinway, hinrest⟩ :
      (∀ k ∈ before ++ [l], FilePath.same k.file ix.filename = true) ∧
        ∀ k ∈ after, FilePath.same k.file ix.filename = true := by
    rwa [← List.forall_mem_append, List.append_assoc]
  have hinl := hinway l (List.mem_append_right _ List.mem_cons_self)
  -- on the way there is no line of the group: the nearest one is `n`
  have hfree : ∀ k ∈ before, ¬h.StopsAt ix.filename (ascending lines) k := by
    intro k hk hstops
    rw [stopsAt_of_clear walks.clear
      (hinway k (List.mem_append_left _ hk)), mem_ascending] at hstops
    obtain ⟨hlater, hearlier⟩ := hbetween k hk
    have hle := nearest k.line hstops hlater
    omega
  have hstops : h.StopsAt ix.filename (ascending lines) l :=
    (stopsAt_of_clear walks.clear hinl).mpr (mem_ascending.mpr hit)
  obtain ⟨id, -, hran⟩ := run_runTo_stops (.of_clear walks.clear) hhere
    (hpath.trans (List.append_assoc _ _ _)) hfree hstops
  refine ⟨l, id, congrArg Prod.fst hran, rfl, hinl, ?_⟩
  constructor
  case clear =>
    exact (congrArg (·.2.breakpoints) hran).trans walks.clear
  case inside =>
    have hfirst := (LineRange.contains_iff.mp walks.inside).1
    exact LineRange.contains_iff.mpr
      ⟨Nat.le_trans hfirst (Nat.le_of_lt later), within⟩
  case paused =>
    have hgenerated : ix.isGeneratedFile l.file = true := by
      simp [Index.isGeneratedFile, hinl]
    exact ⟨l, congrArg (·.2.location) hran, hgenerated, rfl⟩
  case ahead =>
    exact ⟨after, rest, congrArg (·.2.path) hran, hafter, hinrest⟩

/-- It is decoded as paused in the property. -/
theorem WalksOn.snapshot {ix : Index} {p : Property} {line : Nat}
    {h : InMemory} (walks : h.WalksOn ix p line) (apart : ix.Apart)
    (hp : p ∈ ix.properties) : ∃ l, l.line = line ∧
      h.location.bind ix.snapshotAt? = some (Snapshot.ofProperty p l) := by
  obtain ⟨l, hl, hfile, rfl⟩ := walks.paused
  refine ⟨l, rfl, ?_⟩
  rw [hl, Option.bind_some, Index.snapshotAt?, if_pos hfile,
    apart.findByLine? hp walks.inside]
  rfl

/-- A step to the next expression leads to the nearest of the lines that
are left, and the program walks on from there. -/
theorem WalksOn.next {ix : Index} {p : Property} {line n : Nat}
    {h : InMemory} (walks : h.WalksOn ix p line) (apart : ix.Apart)
    (hp : p ∈ ix.properties) (sound : ∀ s ∈ p.toScope.tree, s.Sound)
    (stops : p.StopsAfter line n)
    (nearest : ∀ k, p.StopsAfter line k → n ≤ k) :
    ∃ l id, ((Stepping.next ix).run h).1 =
        .ok (.stopped (some l) (some id)) ∧
      l.line = n ∧ FilePath.same l.file ix.filename = true ∧
      (Stepping.afterNext ix h).WalksOn ix p n := by
  obtain ⟨here, rfl, hsnap⟩ := walks.snapshot apart hp
  have hrun := run_next hsnap
  obtain ⟨hlater, hn⟩ := Property.stopsAfter_iff.mp stops
  have hin := LineRange.contains_iff.mp (Property.contains_nextLines sound hn)
  obtain ⟨l, id, hevent, hl, hinfile, hwalks⟩ := walks.runTo hlater hin.2 hn
    fun k hk hlater => nearest k (Property.stopsAfter_iff.mpr ⟨hlater, hk⟩)
  unfold Stepping.afterNext
  rw [hrun, SpecDebugger.Step.run_ask, hevent]
  exact ⟨l, id, rfl, hl, hinfile, hwalks⟩

end InMemory

-- =============================================================== the run

/-- In an accepted index whose bodies are apart, and from a program that is
paused in a property and goes on line by line, without a live breakpoint,
the steps to the next expression stop on the lines of the later markers
and on the last line of the property one after the other, each once and
in ascending order. -/
theorem next_visits_markers {filename : String} {properties : List Property}
    {ix : Index} (accepted : Index.build filename properties = .ok ix)
    (apart : ix.Apart) {p : Property} (hp : p ∈ ix.properties) {line : Nat}
    {h : InMemory} (walks : h.WalksOn ix p line) {stops : List Nat}
    (ascend : stops.Pairwise (· < ·))
    (listed : ∀ n, n ∈ stops ↔ p.StopsAfter line n) (i : Nat)
    (hi : i < stops.length) :
    let host := (Stepping.afterNext ix)^[i] h
    ∃ l id, ((Stepping.next ix).run host).1 =
        .ok (.stopped (some l) (some id)) ∧
      l.line = stops[i] ∧ FilePath.same l.file ix.filename = true ∧
      (Stepping.afterNext ix host).WalksOn ix p stops[i] := by
  have sound := (Index.wellFormed_of_build accepted).sound p hp
  induction stops generalizing line h i with
  | nil => cases hi
  | cons n stops ih =>
      obtain ⟨hbefore, hascend⟩ := List.pairwise_cons.mp ascend
      have hstops : p.StopsAfter line n := (listed n).mp List.mem_cons_self
      have hnearest : ∀ k, p.StopsAfter line k → n ≤ k := by
        intro k hk
        rcases List.mem_cons.mp ((listed k).mpr hk) with rfl | hk
        · exact Nat.le_refl _
        · exact Nat.le_of_lt (hbefore k hk)
      obtain ⟨l, id, hevent, hl, hinfile, hwalks⟩ :=
        walks.next apart hp sound hstops hnearest
      cases i with
      | zero => exact ⟨l, id, hevent, hl, hinfile, hwalks⟩
      | succ i =>
          have hlisted : ∀ k, k ∈ stops ↔ p.StopsAfter n k := by
            intro k
            constructor
            · intro hk
              have hafter := (listed k).mp (List.mem_cons_of_mem _ hk)
              exact ⟨hbefore k hk, hafter.2⟩
            · intro hk
              obtain ⟨hlater, hplace⟩ := hk
              have hafter := (listed k).mpr
                ⟨Nat.lt_trans hstops.1 hlater, hplace⟩
              rcases List.mem_cons.mp hafter with rfl | hk
              · exact absurd hlater (Nat.lt_irrefl _)
              · exact hk
          exact ih hwalks hascend hlisted i (Nat.lt_of_succ_lt_succ hi)

/-- A program on line 33 of the specimen, on its way to the last line. -/
def InMemory.walking : InMemory :=
  ({ location := some ⟨"gen.adb", 33⟩ } : InMemory).extendPath "gen.adb"
    (List.range' 34 17)

theorem InMemory.walksOn_walking :
    walking.WalksOn .specimen .specimen 33 where
  clear := rfl
  inside := rfl
  paused := ⟨_, rfl, rfl, rfl⟩
  ahead := ⟨walking.path, [], rfl, rfl, List.all_eq_true.mp rfl⟩

/-- The first step leads out of the inner call, on line 36; the second
one stops where the outer call is done. -/
theorem next_visits_markers_specimen :
    ∃ l id, ((Stepping.next .specimen).run
        (Stepping.afterNext .specimen InMemory.walking)).1 =
        .ok (.stopped (some l) (some id)) ∧ l.line = 42 := by
  have apart : Index.specimen.Apart := List.pairwise_singleton _ _
  have hlines : Property.specimen.nextLines 33 = [36, 42, 50] := rfl
  have listed : ∀ n, n ∈ [36, 42, 50] ↔ Property.specimen.StopsAfter 33 n := by
    intro n
    rw [Property.stopsAfter_iff, hlines]
    simp only [List.mem_cons, List.not_mem_nil, or_false]
    omega
  obtain ⟨l, id, hevent, hline, -, -⟩ := next_visits_markers
    Index.build_specimen apart List.mem_cons_self InMemory.walksOn_walking
    (by decide) listed 1 (by decide)
  exact ⟨l, id, hevent, hline⟩

end SpecDebugger
