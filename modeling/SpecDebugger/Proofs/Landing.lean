/-
Where the program is made to stop. Breaking leads to a line, and so does
every hidden breakpoint of a step. All of these lines lie in the body of
the property they are taken from, so a frame there is never outside of
all properties (`stops_land`). The events need not be in the order of
the generated code for this: the check of an index keeps every scope in
the one around it and every marker in its scope, at any depth.

# The four ways to a line

* the first line of the first nested scope, for a property
* the line of a start marker, for a location of the specification
* the lines of the markers further on and the last line, for `next`
* the line of a done marker, or else the last line, for `out`

The last two are collected by walks over the whole tree. What such a walk
finds is a marker that some scope of the tree holds (`Event.Holds`).
-/
import SpecDebugger.Proofs.GroupRuns
import SpecDebugger.Proofs.Resolution

namespace SpecDebugger

-- ============================================ the markers of a tree

namespace Event

/-- Whether a marker is among events, or held by a scope among them at
any depth. -/
def Holds (es : List Event) (m : Marker) : Prop :=
  .marker m ∈ es ∨ ∃ t ∈ scopesIn es, .marker m ∈ t.events

@[simp]
theorem not_holds_nil (m : Marker) : ¬Holds [] m := by
  simp [Holds, scopesIn]

@[simp]
theorem holds_marker {m k : Marker} {es : List Event} :
    Holds (.marker k :: es) m ↔ m = k ∨ Holds es m := by
  simp [Holds, scopesIn, scopes, or_assoc]

@[simp]
theorem holds_scope {lines : LineRange} {bindings : List Binding}
    {events es : List Event} {m : Marker} :
    Holds (.scope lines bindings events :: es) m ↔
      Holds events m ∨ Holds es m := by
  simp only [Holds, scopesIn, scopes, List.mem_cons, List.mem_append,
    List.cons_append, or_and_right, exists_or, exists_eq_left, reduceCtorEq,
    false_or]
  rw [or_assoc, or_left_comm (b := .marker m ∈ es)]
  exact or_left_comm

/-- The marker lines are the lines of the markers, at any depth. -/
theorem mem_markerLinesIn {es : List Event} {n : Nat} :
    n ∈ markerLinesIn es ↔ ∃ m, Holds es m ∧ m.line = n := by
  induction es using Event.nesting with
  | nil => simp [markerLinesIn]
  | marker m es ih =>
      rw [markerLinesIn, markerLines, List.mem_append, List.mem_singleton, ih,
        eq_comm]
      simp only [holds_marker, or_and_right, exists_or, exists_eq_left]
  | scope lines bindings events es ihEvents ihEs =>
      simp only [markerLinesIn, markerLines, List.mem_append, ihEvents, ihEs,
        holds_scope, or_and_right, exists_or]

/-- The done marker found is one of the expression, and there is none
only when the expression has none. -/
theorem doneLineIn?_spec (id : Nat) (es : List Event) :
    (∃ d, Holds es (.done d) ∧ d.id = id ∧ doneLineIn? id es = some d.line) ∨
      (∀ d, Holds es (.done d) → d.id ≠ id) ∧ doneLineIn? id es = none := by
  induction es using Event.nesting with
  | nil =>
      exact .inr ⟨fun d hd => absurd hd (not_holds_nil _), rfl⟩
  | marker m es ih =>
      cases m with
      | start e =>
          simpa [doneLineIn?, doneLine?] using ih
      | done k =>
          by_cases hid : k.id = id
          · refine .inl ⟨k, holds_marker.mpr (.inl rfl), hid, ?_⟩
            simp [doneLineIn?, doneLine?, hid]
          · rcases ih with ⟨d, hd, hdid, hline⟩ | ⟨hnone, hline⟩
            · refine .inl ⟨d, holds_marker.mpr (.inr hd), hdid, ?_⟩
              simpa [doneLineIn?, doneLine?, hid] using hline
            · refine .inr ⟨fun d hd => ?_, ?_⟩
              · rcases holds_marker.mp hd with heq | hd
                · obtain rfl : d = k := by simpa using heq
                  exact hid
                · exact hnone d hd
              · simpa [doneLineIn?, doneLine?, hid] using hline
  | scope lines bindings events es ihEvents ihEs =>
      rcases ihEvents with ⟨d, hd, hid, hline⟩ | ⟨hnone, hline⟩
      · refine .inl ⟨d, holds_scope.mpr (.inl hd), hid, ?_⟩
        simp [doneLineIn?, doneLine?, hline]
      · have hskip : doneLineIn? id (.scope lines bindings events :: es) =
            doneLineIn? id es := by
          simp [doneLineIn?, doneLine?, hline]
        rw [hskip]
        rcases ihEs with ⟨d, hd, hid, hlater⟩ | ⟨hlater, hnil⟩
        · exact .inl ⟨d, holds_scope.mpr (.inr hd), hid, hlater⟩
        · refine .inr ⟨fun d hd => ?_, hnil⟩
          rcases holds_scope.mp hd with hd | hd
          · exact hnone d hd
          · exact hlater d hd

end Event

-- ============================================= the lines of a property

namespace Property

variable {p : Property}

/-- A property holds the markers of all scopes of its tree. -/
theorem holds_iff {m : Marker} :
    Event.Holds p.events m ↔ ∃ s ∈ p.toScope.tree, .marker m ∈ s.events := by
  simp [Event.Holds, Scope.tree]

/-- A step to the next expression leads to the lines of the later
markers, at any depth, and to the last line. -/
theorem mem_nextLines {line n : Nat} :
    n ∈ p.nextLines line ↔ n = p.lines.last ∨
      line < n ∧ ∃ m, Event.Holds p.events m ∧ m.line = n := by
  rw [nextLines, List.mem_append, List.mem_filter, List.mem_singleton,
    markerLines, Event.mem_markerLinesIn, decide_eq_true_iff, or_comm,
    and_comm]

/-- A step out of an expression leads to a done marker of it, or to the
last line when it has none. -/
theorem doneLine_spec (p : Property) (id : Nat) :
    (∃ d, Event.Holds p.events (.done d) ∧ d.id = id ∧
        p.doneLine id = d.line) ∨
      (∀ d, Event.Holds p.events (.done d) → d.id ≠ id) ∧
        p.doneLine id = p.lines.last := by
  unfold doneLine
  rcases Event.doneLineIn?_spec id p.events with
    ⟨d, hd, hid, hline⟩ | ⟨hnone, hline⟩
  · exact .inl ⟨d, hd, hid, by rw [hline]; rfl⟩
  · exact .inr ⟨hnone, by rw [hline]; rfl⟩

variable (sound : ∀ s ∈ p.toScope.tree, s.Sound)
include sound

/-- Every marker of a sound property is on its lines. -/
theorem contains_marker {m : Marker} (hm : Event.Holds p.events m) :
    p.lines.contains m.line = true := by
  obtain ⟨s, hs, hm⟩ := holds_iff.mp hm
  exact LineRange.contains_of_encloses (Scope.encloses_of_mem_tree sound hs)
    ((sound s hs).contains_marker hm)

theorem contains_start {e : ExprStart} (he : e ∈ p.starts) :
    p.lines.contains e.line = true := by
  obtain ⟨s, hs, he⟩ := mem_starts_tree.mp he
  exact contains_marker sound (m := .start e)
    (holds_iff.mpr ⟨s, hs, Scope.mem_ownStarts.mp he⟩)

theorem contains_last : p.lines.contains p.lines.last = true :=
  LineRange.contains_iff.mpr
    ⟨(sound p.toScope (Scope.mem_tree_self _)).first_le_last, Nat.le_refl _⟩

/-- The body of a property starts in it. -/
theorem contains_firstNested {n : Scope}
    (hn : p.toScope.firstNested? = some n) :
    p.lines.contains n.lines.first = true := by
  have hmem : n ∈ p.toScope.tree := by
    rw [Scope.tree_eq]
    exact List.mem_cons_of_mem _ (List.mem_flatMap.mpr
      ⟨n, Scope.mem_nested_of_firstNested? hn, n.mem_tree_self⟩)
  exact LineRange.contains_of_encloses (Scope.encloses_of_mem_tree sound hmem)
    (LineRange.contains_iff.mpr ⟨Nat.le_refl _, (sound n hmem).first_le_last⟩)

/-- `next` goes on to lines of the property. -/
theorem contains_nextLines {line n : Nat} (hn : n ∈ p.nextLines line) :
    p.lines.contains n = true := by
  rcases mem_nextLines.mp hn with rfl | ⟨-, m, hm, rfl⟩
  · exact contains_last sound
  · exact contains_marker sound hm

/-- `out` goes on to a line of the property, whether there is a done
marker or not. -/
theorem contains_doneLine (id : Nat) :
    p.lines.contains (p.doneLine id) = true := by
  rcases p.doneLine_spec id with ⟨d, hd, -, hline⟩ | ⟨-, hline⟩
  · rw [hline]
    exact contains_marker sound (m := .done d) hd
  · rw [hline]
    exact contains_last sound

end Property

-- ===================================================== the insertions

/-- All that a group run inserts are hidden breakpoints on its lines. -/
theorem GroupRun.insertion {file : String} {lines : List Nat}
    {calls : List Call} {answers : List (Except HostError Answer)}
    {event : Except HostError StopEvent}
    (h : GroupRun file lines calls answers event) {l : GenLocation}
    {internal : Bool} (hl : .insertBreakpoint l internal ∈ calls) :
    internal = true ∧ ∃ n ∈ lines, l = ⟨file, n⟩ := by
  have hhide : ∀ {n}, Call.insertBreakpoint l internal = .hide file n →
      internal = true ∧ l = ⟨file, n⟩ := by
    intro n heq
    obtain ⟨rfl, rfl⟩ := Call.insertBreakpoint.inj heq
    exact ⟨rfl, rfl⟩
  cases h with
  | ran each all =>
      simp only [List.mem_append, List.mem_cons, List.mem_map, reduceCtorEq,
        and_false, exists_false, or_false] at hl
      obtain ⟨n, hn, heq⟩ := hl
      obtain ⟨hinternal, rfl⟩ := hhide heq.symm
      exact ⟨hinternal, n, hn, rfl⟩
  | @undone before line after ids e deleted reached each all =>
      simp only [List.mem_append, List.mem_cons, List.mem_map, reduceCtorEq,
        and_false, exists_false, or_false] at hl
      rcases hl with ⟨n, hn, heq⟩ | heq
      · obtain ⟨hinternal, rfl⟩ := hhide heq.symm
        exact ⟨hinternal, n, by simp [reached, hn], rfl⟩
      · obtain ⟨hinternal, rfl⟩ := hhide heq
        exact ⟨hinternal, line, by simp [reached], rfl⟩

/-- What a step to lines inserts, it inserts on lines that it has for the
frame it starts from. -/
theorem Stepping.insertion_toLines {σ : Type} [Debugger σ] {ix : Index}
    {aims : Snapshot → Option (List Nat)} {host : σ} {l : GenLocation}
    {internal : Bool}
    (inserted : .insertBreakpoint l internal ∈
      ((toLines ix aims).run (⟨host, [], []⟩ : Recorded σ)).2.calls) :
    internal = true ∧ ∃ frame snap lines n,
      ((Debugger.location : Request σ (Option GenLocation)).run host).1 =
        .ok (some frame) ∧
      ix.snapshotAt? frame = some snap ∧ aims snap = some lines ∧
      n ∈ lines ∧ l = ix.location n := by
  rcases record_toLines ix aims (r := ⟨host, [], []⟩) rfl with
    ⟨_, _, hadds, -⟩ |
      ⟨frame, snap, lines, calls, _, _, hframe, hsnap, haims, hgroup, hadds, -⟩
  · rw [hadds.calls] at inserted
    cases inserted
  · rw [hadds.calls, List.nil_append] at inserted
    obtain ⟨hinternal, n, hn, hl⟩ := hgroup.insertion inserted
    exact ⟨hinternal, frame, snap, lines, n, hframe, hsnap, haims,
      mem_ascending.mp hn, hl⟩

-- ========================================================= the landing

/-- Whether a location is in the body of a property of an index, so that
a frame there is inside some property. -/
structure Index.Lands (ix : Index) (p : Property) (l : GenLocation) :
    Prop where
  listed : p ∈ ix.properties
  file : l.file = ix.filename
  inside : p.lines.contains l.line = true
  decodes : ∃ s, ix.Decodes l (some s)

/-- A line of a property is a line on which the property can be decoded. -/
theorem Index.lands {ix : Index} {p : Property} {line : Nat}
    (hp : p ∈ ix.properties) (inside : p.lines.contains line = true) :
    ix.Lands p (ix.location line) := by
  obtain ⟨q, hq⟩ := exists_findByLine? hp inside
  refine ⟨hp, rfl, inside, Snapshot.ofProperty q (ix.location line), ?_⟩
  rw [Decodes.location_iff, hq]
  rfl

/-- In every accepted index, the program is made to stop only where the
debugger knows where it is. Breaking on a property leads into the
property of that name, breaking on a location into the property of the
match that the user picks, and all hidden breakpoints of a step, on any
debugger and from any frame, are in the property of the frame. -/
theorem stops_land {filename : String} {properties : List Property}
    {ix : Index} (accepted : Index.build filename properties = .ok ix) :
    (∀ name u u' l, (ix.resolve (.property name)).run u = (.ok l, u') →
      ∃ p, ix.findByName? name = some p ∧ ix.Lands p l) ∧
    (∀ query u u' l, (ix.resolve (.location query)).run u = (.ok l, u') →
      ∃ k m, Picks u (ix.findMatches query).length k ∧
        (ix.findMatches query)[k]? = some m ∧ ix.Lands m.property l) ∧
    ∀ (σ : Type) [Debugger σ] (host : σ),
      ∀ go ∈ [(Stepping.next ix : Step (Recorded σ) StopEvent),
        Stepping.out ix],
      ∀ l internal, .insertBreakpoint l internal ∈
          (go.run (⟨host, [], []⟩ : Recorded σ)).2.calls →
        internal = true ∧ ∃ frame snap,
          ((Debugger.location : Request σ (Option GenLocation)).run host).1 =
            .ok (some frame) ∧
          ix.Decodes frame (some snap) ∧ ix.Lands snap.property l := by
  have sound := (Index.wellFormed_of_build accepted).sound
  refine ⟨?_, ?_, ?_⟩
  · intro name u u' l resolved
    obtain ⟨p, n, hname, hfirst, rfl⟩ :=
      Index.resolveProperty_eq_ok.mp (congrArg Prod.fst resolved)
    have hp : p ∈ ix.properties := Index.mem_of_findByName? hname
    exact ⟨p, hname,
      Index.lands hp (Property.contains_firstNested (sound p hp) hfirst)⟩
  · intro query u u' l resolved
    obtain ⟨k, m, hpicks, hm, rfl⟩ := Index.resolveLocation_eq_ok resolved
    obtain ⟨p, e, hpe, rfl, -, hline⟩ := Index.exists_startsAt hm
    obtain ⟨hp, he, -⟩ := Index.mem_startsAt.mp (List.mem_of_getElem? hpe)
    refine ⟨k, m, hpicks, hm, Index.lands hp ?_⟩
    rw [hline]
    exact Property.contains_start (sound _ hp) he
  · intro σ _ host go hgo l internal inserted
    -- both steps run to lines of the property of the frame
    have haims : ∃ aims, go = Stepping.toLines ix aims ∧
        ∀ snap lines, snap.property ∈ ix.properties →
          aims snap = some lines →
          ∀ n ∈ lines, snap.property.lines.contains n = true := by
      rcases List.mem_cons.mp hgo with rfl | hout
      · refine ⟨_, Stepping.next_eq_toLines ix, ?_⟩
        intro snap lines hp heq n hn
        cases heq
        exact Property.contains_nextLines (sound _ hp) hn
      · rw [List.mem_singleton.mp hout]
        refine ⟨_, Stepping.out_eq_toLines ix, ?_⟩
        intro snap lines hp heq n hn
        obtain ⟨e, -, rfl⟩ := Option.map_eq_some_iff.mp heq
        rw [List.mem_singleton.mp hn]
        exact Property.contains_doneLine (sound _ hp) e.id
    obtain ⟨aims, rfl, hin⟩ := haims
    obtain ⟨hinternal, frame, snap, lines, n, hframe,
      hsnap, hlines, hn, rfl⟩ :=
      Stepping.insertion_toLines inserted
    have hp : snap.property ∈ ix.properties := by
      obtain ⟨p, hp, -, rfl⟩ := Index.snapshotAt?_eq_some hsnap
      exact hp
    exact ⟨hinternal, frame, snap, hframe, Index.decodes_iff.mpr hsnap,
      Index.lands hp (hin snap lines hp hlines n hn)⟩

/-- Breaking on the property of the specimen leads to the start of its
body, and the step out of the call that is evaluated on line 29 to the
line where it is done. -/
theorem stops_land_specimen :
    Index.specimen.Lands .specimen ⟨"gen.adb", 20⟩ ∧
      ∃ snap, Index.specimen.Decodes ⟨"gen.adb", 29⟩ (some snap) ∧
        Index.specimen.Lands snap.property ⟨"gen.adb", 42⟩ := by
  obtain ⟨hname, -, hsteps⟩ := stops_land Index.build_specimen
  refine ⟨?_, ?_⟩
  · obtain ⟨p, hp, hlands⟩ := hname "NODE.p_eval" {} {} ⟨"gen.adb", 20⟩ rfl
    obtain rfl : Property.specimen = p := Option.some.inj hp
    exact hlands
  · let host : InMemory := { location := some ⟨"gen.adb", 29⟩ }
    have inserted : ((Stepping.out Index.specimen).run
        (⟨host, [], []⟩ : Recorded InMemory)).2.calls.head? =
        some (.insertBreakpoint ⟨"gen.adb", 42⟩ true) := rfl
    obtain ⟨-, frame, snap, hframe, hsnap, hlands⟩ :=
      hsteps InMemory host (Stepping.out Index.specimen)
        (List.mem_cons_of_mem _ List.mem_cons_self) ⟨"gen.adb", 42⟩ true
        (List.mem_of_head? inserted)
    obtain rfl : ⟨"gen.adb", 29⟩ = frame :=
      Option.some.inj (Except.ok.inj hframe)
    exact ⟨snap, hsnap, hlands⟩

end SpecDebugger
