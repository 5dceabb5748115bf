/-
Stepping out of an expression. The step looks for the done marker of the
innermost expression that decoding shows in flight, and lets the program
run to its line. The two read the markers differently: decoding takes an
expression for finished by the done markers of its own scope, and the
step finds the one done marker there is anywhere in the property.

# Where they agree

In an ordered index in which every expression has one start and one done
marker, the step runs forward exactly when the expression is in flight
by its markers (`steps_out_forward_iff`). Decoding shows an expression
that is not only if its done marker is held by a scope nested below the
one with the start (`Property.ClosesBelow`): a frame past such a marker,
but still in the scope of the start, has the expression in flight for
good.

The argument places the marker. If the frame is past it, then the scope
of the start, which is around the start and around the frame, is around
the marker too (`Scope.Tidy.mem_tree_of_marker`); so the marker is held
by that scope or below it, and by that scope it would have been read.

# Where they do not

`runs_away` is an index with a done marker one scope below its start.
From the line after that scope the step runs to a line that the program
has left behind, and the program to its end.
-/
import SpecDebugger.Proofs.Decoding
import SpecDebugger.Proofs.Landing

namespace SpecDebugger

-- ================================================ statement vocabulary

namespace Property

/-- Whether every expression of a property has exactly one start and one
done marker, at any depth, the done marker on a later line. -/
structure Complete (p : Property) : Prop where
  starts : (p.startMarkers.map (·.id)).Nodup
  dones : (p.doneMarkers.map (·.id)).Nodup
  finishes : ∀ e ∈ p.startMarkers, ∃ d ∈ p.doneMarkers,
    d.id = e.id ∧ e.line < d.line
  begins : ∀ d ∈ p.doneMarkers, ∃ e ∈ p.startMarkers, e.id = d.id

/-- Whether a done marker of an expression is held by a scope nested, at
any depth, in the scope that holds its start. -/
def ClosesBelow (p : Property) (e : ExprStart) : Prop :=
  ∃ s ∈ p.toScope.tree, e ∈ s.ownStarts ∧
    ∃ t ∈ Event.scopesIn s.events, ∃ d ∈ t.ownDones, d.id = e.id

/-- The done markers of a property are those of its scopes, at any depth. -/
theorem mem_doneMarkers {p : Property} {d : ExprDone} :
    d ∈ p.doneMarkers ↔ Event.Holds p.events (.done d) := by
  rw [holds_iff, doneMarkers, List.mem_flatMap]
  simp only [Scope.mem_ownDones]

/-- A step out of an expression leads to its only done marker. -/
theorem Complete.doneLine {p : Property} (h : p.Complete) {e : ExprStart}
    (he : e ∈ p.startMarkers) :
    ∃ d ∈ p.doneMarkers, d.id = e.id ∧ e.line < d.line ∧
      p.doneLine e.id = d.line := by
  obtain ⟨d, hd, hid, hlater⟩ := h.finishes e he
  refine ⟨d, hd, hid, hlater, ?_⟩
  rcases p.doneLine_spec e.id with ⟨d', hd', hid', hline⟩ | ⟨hnone, -⟩
  · rw [← mem_doneMarkers] at hd'
    rw [hline, List.inj_on_of_nodup_map h.dones hd' hd (hid'.trans hid.symm)]
  · exact absurd hid (hnone d (mem_doneMarkers.mp hd))

end Property

-- ================================================ placing the marker

/-- What a chain of nested scopes ends in is nested in all of them. -/
theorem Scope.mem_tree_of_isChain {scopes : List Scope}
    (chain : scopes.IsChain fun outer inner => inner ∈ outer.nested)
    {s t : Scope} (hs : s ∈ scopes) (ht : scopes.getLast? = some t) :
    t ∈ s.tree := by
  induction scopes generalizing s with
  | nil => cases hs
  | cons outer scopes ih =>
      cases scopes with
      | nil =>
          rw [List.mem_singleton.mp hs, ← Option.some.inj ht]
          exact Scope.mem_tree_self _
      | cons inner scopes =>
          rw [List.getLast?_cons_cons] at ht
          rcases List.mem_cons.mp hs with rfl | hs
          · rw [Scope.tree_eq]
            exact List.mem_cons_of_mem _ (List.mem_flatMap.mpr
              ⟨inner, chain.rel, ih chain.tail List.mem_cons_self ht⟩)
          · exact ih chain.tail hs ht

namespace Scope.Tidy

/-- A scope around the line of a marker is around the scope that holds
the marker. -/
theorem mem_tree_of_marker {root s t : Scope} (h : root.Tidy)
    (hs : s ∈ root.tree) (ht : t ∈ root.tree) {m : Marker}
    (hm : .marker m ∈ t.events) (around : s.lines.contains m.line = true) :
    t ∈ s.tree := by
  have hin := (h.mem ht).sound_self.contains_marker hm
  have hroot : root.lines.contains m.line = true :=
    LineRange.contains_of_encloses (encloses_of_mem_tree h.sound ht) hin
  have hactive := active_eq_filter h hroot
  have htlast : (root.active m.line).getLast? = some t := by
    refine (root.walk_active m.line).getLast? ?_
      ((h.mem ht).behind_marker hm).2
    rw [hactive]
    exact List.mem_filter.mpr ⟨ht, hin⟩
  refine mem_tree_of_isChain (root.isChain_active m.line) ?_ htlast
  rw [hactive]
  exact List.mem_filter.mpr ⟨hs, around⟩

end Scope.Tidy

-- ========================================================== the frame

/-- What a snapshot shows in flight is unfinished in an active scope. -/
theorem Snapshot.unfinished_of_innermost? {p : Property} {l : GenLocation}
    {e : ExprStart} (h : (Snapshot.ofProperty p l).innermost? = some e) :
    ∃ s ∈ p.toScope.active l.line, e ∈ Event.unfinished (s.behind l.line) := by
  obtain ⟨st, hst, hcurrent⟩ := List.exists_of_findSome?_eq_some h
  obtain ⟨s, hs, rfl⟩ := List.mem_map.mp (List.mem_reverse.mp hst)
  have hlast : (Evaluation.ofEvents (s.behind l.line)).current? = some e :=
    hcurrent
  rw [Evaluation.current?_ofEvents] at hlast
  exact ⟨s, hs, List.mem_of_getLast? hlast⟩

/-- A run to a single line asks for a breakpoint there, and for no other
one. -/
theorem GroupRun.insertion_singleton {file : String} {line : Nat}
    {calls : List Call} {answers : List (Except HostError Answer)}
    {event : Except HostError StopEvent}
    (h : GroupRun file [line] calls answers event) {l : GenLocation}
    {internal : Bool} :
    .insertBreakpoint l internal ∈ calls ↔
      internal = true ∧ l = ⟨file, line⟩ := by
  constructor
  · intro hl
    obtain ⟨hinternal, n, hn, rfl⟩ := h.insertion hl
    rw [List.mem_singleton.mp hn]
    exact ⟨hinternal, rfl⟩
  · intro hyp
    obtain ⟨rfl, rfl⟩ := hyp
    cases h with
    | ran each all => exact List.mem_cons_self
    | @undone before line' after ids e deleted reached each all =>
        -- the line that fails is the only one there is
        cases before with
        | nil =>
            obtain ⟨rfl, -⟩ := List.cons.inj reached
            exact List.mem_cons_self
        | cons n before => simp at reached

/-- A step out of an expression asks for one breakpoint, on the line
where the expression is done. -/
theorem Stepping.insertion_out {ix : Index} {l : GenLocation} {snap : Snapshot}
    (decoded : ix.Decodes l (some snap)) {e : ExprStart}
    (innermost : snap.innermost? = some e) {σ : Type} [Debugger σ] {host : σ}
    (paused : PausedAt host l) {place : GenLocation} {internal : Bool} :
    .insertBreakpoint place internal ∈
        ((Stepping.out ix).run (⟨host, [], []⟩ : Recorded σ)).2.calls ↔
      internal = true ∧ place = ix.location (snap.property.doneLine e.id) := by
  have hsnap := Index.decodes_iff.mp decoded
  have told : (Debugger.location : Request σ (Option GenLocation)).run host =
      (.ok (some l), _) := Prod.ext paused rfl
  rw [Stepping.out_eq_toLines]
  rcases Stepping.record_toLines ix outAims (r := ⟨host, [], []⟩) told with
    ⟨_, _, _, hnone⟩ |
      ⟨frame, snap', lines, calls, _, _, hframe,
       hsnap', haims, hgroup, hadds, _⟩
  · have haims := hnone l rfl
    rw [hsnap, Option.bind_some, outAims, innermost] at haims
    cases haims
  · obtain rfl : l = frame := Option.some.inj (Except.ok.inj hframe)
    obtain rfl : snap = snap' := Option.some.inj (hsnap.symm.trans hsnap')
    rw [outAims, innermost] at haims
    obtain rfl : [snap.property.doneLine e.id] = lines := Option.some.inj haims
    rw [hadds.calls, List.nil_append]
    exact hgroup.insertion_singleton

-- ============================================================ the step

/-- In an ordered index with complete markers, a step out of the
innermost expression that decoding shows lets the program run to the
line of its done marker. The line is further on just when the expression
is in flight by its markers, and it is always in flight unless its done
marker is in a scope nested below that of its start. -/
theorem steps_out_forward_iff {filename : String} {properties : List Property}
    {ix : Index} (accepted : Index.build filename properties = .ok ix)
    (ordered : ∀ p ∈ ix.properties, ∀ s ∈ p.toScope.tree, s.Ordered)
    (complete : ∀ p ∈ ix.properties, p.Complete) {l : GenLocation}
    {snap : Snapshot} (decoded : ix.Decodes l (some snap)) {e : ExprStart}
    (innermost : snap.innermost? = some e) :
    ∃ d ∈ snap.property.doneMarkers, d.id = e.id ∧
      (∀ (σ : Type) [Debugger σ] (host : σ), PausedAt host l →
        ∀ place internal, .insertBreakpoint place internal ∈
            ((Stepping.out ix).run (⟨host, [], []⟩ : Recorded σ)).2.calls ↔
          internal = true ∧ place = ix.location d.line) ∧
      (l.line < d.line ↔ snap.property.InFlightAt l.line e) ∧
      (¬snap.property.InFlightAt l.line e → snap.property.ClosesBelow e) := by
  have inserted := @Stepping.insertion_out ix l snap decoded e innermost
  obtain ⟨p, hp, hin, rfl⟩ :=
    Index.snapshotAt?_eq_some (Index.decodes_iff.mp decoded)
  have tidy : p.toScope.Tidy :=
    ⟨(Index.wellFormed_of_build accepted).sound p hp, ordered p hp⟩
  have hcomplete := complete p hp
  obtain ⟨s, hactive, hunfinished⟩ :=
    Snapshot.unfinished_of_innermost? innermost
  rw [Scope.active_eq_filter tidy hin] at hactive
  obtain ⟨hs, haround⟩ := List.mem_filter.mp hactive
  -- the frame is not before the start of what it has in flight
  obtain ⟨he, hstart⟩ :=
    Scope.mem_ownStarts_of_unfinished (tidy.mem hs) hunfinished
  obtain ⟨d, hd, hid, hlater, hline⟩ :=
    hcomplete.doneLine (List.mem_flatMap.mpr ⟨s, hs, he⟩)
  have hfinished : p.FinishedBy l.line e ↔ d.line ≤ l.line := by
    constructor
    · intro hyp
      obtain ⟨d', hd', hid', hpast⟩ := hyp
      rwa [List.inj_on_of_nodup_map hcomplete.dones hd' hd
        (hid'.trans hid.symm)] at hpast
    · intro hpast
      exact ⟨d, hd, hid, hpast⟩
  have hflight : p.InFlightAt l.line e ↔ l.line < d.line := by
    unfold Property.InFlightAt
    rw [hfinished]
    omega
  refine ⟨d, hd, hid, ?_, hflight.symm, ?_⟩
  · intro σ _ host paused place internal
    rw [inserted paused, ← hline]
    rfl
  · intro hnot
    change ¬p.InFlightAt l.line e at hnot
    rw [hflight, Nat.not_lt] at hnot
    obtain ⟨t, ht, hdt⟩ := List.mem_flatMap.mp hd
    have hbetween : s.lines.contains d.line = true := by
      have hfirst : s.lines.contains e.line = true :=
        (tidy.mem hs).sound_self.contains_marker (Scope.mem_ownStarts.mp he)
      rw [LineRange.contains_iff] at hfirst haround ⊢
      omega
    have hbelow : t ∈ s.tree :=
      tidy.mem_tree_of_marker hs ht (m := .done d) (Scope.mem_ownDones.mp hdt)
        hbetween
    refine ⟨s, hs, he, t, ?_, d, hdt, hid⟩
    rcases List.mem_cons.mp hbelow with rfl | hbelow
    · have := Scope.lt_of_unfinished (tidy.mem hs) hunfinished hdt hid hlater
      omega
    · exact hbelow

theorem Property.complete_specimen : specimen.Complete := by
  constructor <;> decide

/-- On line 29 of the specimen a call is in flight, and the step out of
it runs forward to the line where it is done. -/
theorem steps_out_forward_specimen :
    let host : InMemory := { location := some ⟨"gen.adb", 29⟩ }
    ∃ d ∈ Property.specimen.doneMarkers, d.id = 2 ∧ 29 < d.line ∧
      .insertBreakpoint ⟨"gen.adb", d.line⟩ true ∈
        ((Stepping.out Index.specimen).run
          (⟨host, [], []⟩ : Recorded InMemory)).2.calls := by
  intro host
  have decoded : Index.specimen.Decodes ⟨"gen.adb", 29⟩
      (some (Snapshot.ofProperty .specimen ⟨"gen.adb", 29⟩)) :=
    Index.Decodes.location_iff.mpr rfl
  have innermost : (Snapshot.ofProperty .specimen ⟨"gen.adb", 29⟩).innermost? =
      some ⟨2, "f (x)", "Call_2", none, 28⟩ := rfl
  obtain ⟨d, hd, hid, hinserted, hforward, -⟩ :=
    steps_out_forward_iff Index.build_specimen Index.ordered_specimen.events
      (List.forall_mem_singleton.mpr Property.complete_specimen)
      decoded innermost
  refine ⟨d, hd, hid, hforward.mpr ⟨by decide, ?_⟩, ?_⟩
  · intro hyp
    obtain ⟨d', hd', hid', hpast⟩ := hyp
    have : ∀ k ∈ Property.specimen.doneMarkers, k.id = 2 → 29 < k.line := by
      decide
    exact Nat.not_lt.mpr hpast (this d' hd' hid')
  · exact (hinserted InMemory host rfl _ _).mpr ⟨rfl, rfl⟩

-- ==================================================== the early marker

/-- A property with a call that starts in its body and is done in a
nested scope, which ends before the body does. -/
def Property.closedBelow : Property where
  name := "Node.p_early"
  lines := ⟨9, 36⟩
  events :=
    [ .marker (.start ⟨1, "f (x)", "Call_1", none, 10⟩),
      .scope ⟨20, 30⟩ [] [.marker (.done ⟨1, 25⟩)] ]

def Index.closedBelow : Index :=
  ⟨"gen.adb", [.closedBelow], [("node.p_early", 0)]⟩

/-- A program on line 35 of the property, past the nested scope, that is
about to return. -/
def InMemory.returning : InMemory :=
  { location := some ⟨"gen.adb", 35⟩, path := [⟨"gen.adb", 36⟩] }

/-- There decoding still shows the call in flight. The step out of it
asks for a breakpoint on line 25, where the call was done, and the
program runs to its end. -/
theorem runs_away :
    Index.build "gen.adb" [.closedBelow] = .ok .closedBelow ∧
      (∀ p ∈ Index.closedBelow.properties,
        (∀ s ∈ p.toScope.tree, s.Ordered) ∧ p.Complete) ∧
      PausedAt InMemory.returning ⟨"gen.adb", 35⟩ ∧
      (∃ snap e, Index.closedBelow.Decodes ⟨"gen.adb", 35⟩ (some snap) ∧
        snap.innermost? = some e) ∧
      (∃ place, .insertBreakpoint place true ∈
          ((Stepping.out Index.closedBelow).run
            (⟨.returning, [], []⟩ : Recorded InMemory)).2.calls ∧
        place.line = 25 ∧ ¬35 < place.line) ∧
      ((Stepping.out Index.closedBelow).run InMemory.returning).1 =
        .ok (.exited 0) := by
  have inserted : ((Stepping.out Index.closedBelow).run
      (⟨.returning, [], []⟩ : Recorded InMemory)).2.calls.head? =
      some (.insertBreakpoint ⟨"gen.adb", 25⟩ true) := rfl
  refine ⟨rfl, ?_, rfl, ⟨_, _, Index.Decodes.location_iff.mpr rfl, rfl⟩,
    ⟨_, List.mem_of_head? inserted, rfl, by decide⟩, rfl⟩
  refine List.forall_mem_singleton.mpr ⟨?_, by constructor <;> decide⟩
  unfold Scope.Ordered
  decide

end SpecDebugger
