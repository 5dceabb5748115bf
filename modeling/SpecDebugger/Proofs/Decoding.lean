/-
What a snapshot shows, read off the scope tree instead of off the walk
through it (`snapshot_reflects`).

The index is in the order of the generated code, and the markers of each
property pair up: an expression has at most one start and at most one
done marker, and when it has both the scope that holds the start holds
the done marker further on. Then, for a frame in a property:

- the active scopes are the scopes of the tree that contain the line,
  outermost first;
- in each, the bound variables are those whose line is reached, the
  evaluated expressions those whose done marker is reached, in the order
  of these, and the one being evaluated is the latest of those whose
  start is reached and whose done marker is not.

# The shape of the argument

`Proofs/Index/Order` says which events the walk through a scope reads:
all those before the line. `Proofs/Evaluation` says what any events
leave behind. What is left is to trade places in a list of events for
lines of the generated code, which the order allows, and the latest
start of a number for the only one, which the pairing allows.
-/
import Mathlib.Data.List.Nodup
import SpecDebugger.Proofs.Evaluation
import SpecDebugger.Proofs.Index.Order

namespace SpecDebugger

-- ================================================ statement vocabulary

namespace Property

/-- The start markers of a property, those of every scope. -/
def startMarkers (p : Property) : List ExprStart :=
  p.toScope.tree.flatMap Scope.ownStarts

def doneMarkers (p : Property) : List ExprDone :=
  p.toScope.tree.flatMap Scope.ownDones

/-- Whether the markers of a property pair up. -/
structure Paired (p : Property) : Prop where
  starts : (p.startMarkers.map (·.id)).Nodup
  dones : (p.doneMarkers.map (·.id)).Nodup
  /-- The two markers of an expression are in one scope, the start
  first. -/
  together : ∀ e ∈ p.startMarkers, ∀ d ∈ p.doneMarkers, d.id = e.id →
    ∃ s ∈ p.toScope.tree,
      [.marker (.start e), .marker (.done d)].Sublist s.events

/-- Whether a frame at `line` is past the done marker of an
expression. -/
def FinishedBy (p : Property) (line : Nat) (e : ExprStart) : Prop :=
  ∃ d ∈ p.doneMarkers, d.id = e.id ∧ d.line ≤ line

/-- Whether a frame at `line` is past the start of an expression, and
not past its done marker. -/
def InFlightAt (p : Property) (line : Nat) (e : ExprStart) : Prop :=
  e.line ≤ line ∧ ¬p.FinishedBy line e

end Property

/-- What the state of an active scope of `p` shows at `line`. -/
structure ScopeState.Reflects (p : Property) (line : Nat) (st : ScopeState) :
    Prop where
  bindings : st.bindings = st.scope.bindings.filter (·.line ≤ line)
  done : ∀ e, e ∈ st.done ↔ e ∈ st.scope.ownStarts ∧ p.FinishedBy line e
  /-- The evaluated expressions are in the order of their done
  markers. -/
  completion : st.done.Pairwise fun a b =>
    ∀ da ∈ p.doneMarkers, ∀ db ∈ p.doneMarkers,
      da.id = a.id → db.id = b.id → da.line < db.line
  /-- The expression being evaluated is the latest one in flight. -/
  current : ∀ e, st.current = some e ↔
    (e ∈ st.scope.ownStarts ∧ p.InFlightAt line e) ∧
      ∀ e' ∈ st.scope.ownStarts, p.InFlightAt line e' → e'.line ≤ e.line
  idle : st.current = none ↔ ∀ e ∈ st.scope.ownStarts, ¬p.InFlightAt line e

-- ===================================================== list bookkeeping

/-- Lists that share an item share its number, so where no number is
repeated over several lists they are the same list. -/
private theorem eq_of_shared_item {α β : Type _} {f : α → List β} {g : β → Nat}
    {l : List α} (h : ((l.flatMap f).map g).Nodup) {a b : α} (ha : a ∈ l)
    (hb : b ∈ l) {x : β} (hxa : x ∈ f a) (hxb : x ∈ f b) : a = b := by
  by_contra hne
  have hdisjoint := (List.nodup_flatMap.mp (List.Nodup.of_map g h)).2
  have : Std.Symm (Function.onFun List.Disjoint f) :=
    ⟨fun _ _ h _ ha hb => h hb ha⟩
  exact hdisjoint.forall ha hb hne hxa hxb

/-- In a list whose lines ascend, the last item is the one of the
greatest line. -/
private theorem getLast?_eq_some_iff {l : List ExprStart}
    (h : l.Pairwise fun a b => a.line < b.line) (e : ExprStart) :
    l.getLast? = some e ↔ e ∈ l ∧ ∀ e' ∈ l, e'.line ≤ e.line := by
  rcases List.eq_nil_or_concat l with rfl | ⟨init, last, rfl⟩
  · simp
  · rw [List.concat_eq_append] at h ⊢
    obtain ⟨-, -, hlast⟩ := List.pairwise_append.mp h
    rw [List.getLast?_concat, Option.some.injEq]
    constructor
    · intro heq
      subst heq
      refine ⟨by simp, fun e' he' => ?_⟩
      rcases List.mem_append.mp he' with he' | he'
      · exact Nat.le_of_lt (hlast e' he' _ (by simp))
      · simp [List.mem_singleton.mp he']
    · intro hyp
      obtain ⟨he, hmax⟩ := hyp
      rcases List.mem_append.mp he with he | he
      · have hlt := hlast e he last (by simp)
        have hle := hmax last (by simp)
        omega
      · exact (List.mem_singleton.mp he).symm

/-- Markers of one kind are on ascending lines when their events follow
each other. -/
private theorem pairwise_line_filterMap {α : Type _} {pick : Event → Option α}
    {line : α → Nat}
    (hpick : ∀ e x, pick e = some x → e.span = ⟨line x, line x⟩)
    {es : List Event} (h : es.Pairwise Event.Precedes) :
    (es.filterMap pick).Pairwise fun a b => line a < line b := by
  rw [List.pairwise_filterMap]
  refine h.imp fun {a b} hab x hx y hy => ?_
  unfold Event.Precedes at hab
  rw [hpick a x hx, hpick b y hy] at hab
  exact hab

private theorem span_of_start? (e : Event) (m : ExprStart)
    (h : e.start? = some m) : e.span = ⟨m.line, m.line⟩ := by
  rw [Event.start?_eq_some.mp h]
  rfl

private theorem span_of_done? (e : Event) (d : ExprDone)
    (h : e.done? = some d) : e.span = ⟨d.line, d.line⟩ := by
  rw [Event.done?_eq_some.mp h]
  rfl

-- ============================================ one scope of the property

namespace Property.Paired

variable {p : Property} {s : Scope}

/-- A start marker and the done marker of its number are in one scope,
the start first. -/
theorem sublist_events (h : p.Paired) (hs : s ∈ p.toScope.tree) {e : ExprStart}
    {d : ExprDone} (he : e ∈ s.ownStarts) (hd : d ∈ p.doneMarkers)
    (hid : d.id = e.id) :
    [.marker (.start e), .marker (.done d)].Sublist s.events := by
  have hep : e ∈ p.startMarkers := List.mem_flatMap.mpr ⟨s, hs, he⟩
  obtain ⟨r, hr, hsub⟩ := h.together e hep d hd hid
  have her : e ∈ r.ownStarts := Scope.mem_ownStarts.mpr (hsub.subset (by simp))
  rwa [eq_of_shared_item h.starts hs hr he her]

/-- A scope has one start marker for a number at most. -/
theorem start_inj (h : p.Paired) (hs : s ∈ p.toScope.tree) {a b : ExprStart}
    (ha : a ∈ s.ownStarts) (hb : b ∈ s.ownStarts) (hid : a.id = b.id) :
    a = b :=
  List.inj_on_of_nodup_map h.starts (List.mem_flatMap.mpr ⟨s, hs, ha⟩)
    (List.mem_flatMap.mpr ⟨s, hs, hb⟩) hid

/-- Among events of a scope, the latest start of a number is the one
there is. -/
theorem find?_reverse (h : p.Paired) (hs : s ∈ p.toScope.tree)
    {es : List Event}
    (hes : ∀ e ∈ es, e ∈ s.events) {m : ExprStart}
    (hm : .marker (.start m) ∈ es) :
    (es.filterMap Event.start?).reverse.find? (·.id == m.id) = some m := by
  have hstart : ∀ e,
      e ∈ es.filterMap Event.start? ↔ .marker (.start e) ∈ es := by
    simp
  have hfound :
      ((es.filterMap Event.start?).reverse.find? (·.id == m.id)).isSome := by
    rw [List.find?_isSome]
    exact ⟨m, List.mem_reverse.mpr ((hstart m).mpr hm), by simp⟩
  obtain ⟨e, he⟩ := Option.isSome_iff_exists.mp hfound
  have hmem := List.mem_reverse.mp (List.mem_of_find?_eq_some he)
  have hid : e.id = m.id := by simpa using List.find?_some he
  have hown : ∀ {x}, .marker (.start x) ∈ es → x ∈ s.ownStarts := fun hx =>
    Scope.mem_ownStarts.mpr (hes _ hx)
  rw [he, h.start_inj hs (hown ((hstart e).mp hmem)) (hown hm) hid]

end Property.Paired

namespace Scope

variable {p : Property} {s : Scope} {line : Nat}

/-- The markers behind a line are those up to it. -/
theorem mem_behind_marker (h : s.Tidy) {m : Marker} :
    .marker m ∈ s.behind line ↔ .marker m ∈ s.events ∧ m.line ≤ line := by
  rw [s.behind_eq_filter h, List.mem_filter, Event.isBehind_marker]

/-- The events behind a line follow each other. -/
theorem behind_pairwise (h : s.Tidy) (line : Nat) :
    (s.behind line).Pairwise Event.Precedes := by
  rw [s.behind_eq_filter h]
  exact h.pairwise.filter _

/-- An expression starts before it is done. -/
theorem start_precedes_done (h : s.Tidy) (hp : p.Paired)
    (hs : s ∈ p.toScope.tree) {e : ExprStart} {d : ExprDone}
    (he : e ∈ s.ownStarts) (hd : d ∈ p.doneMarkers) (hid : d.id = e.id) :
    Event.Precedes (.marker (.start e)) (.marker (.done d)) := by
  have := h.pairwise.sublist (hp.sublist_events hs he hd hid)
  simpa using this

/-- A pair of markers whose done marker is reached is read, the start
first. -/
theorem exists_split_behind (h : s.Tidy) (hp : p.Paired)
    (hs : s ∈ p.toScope.tree) {e : ExprStart} {d : ExprDone}
    (he : e ∈ s.ownStarts) (hd : d ∈ p.doneMarkers) (hid : d.id = e.id)
    (hline : d.line ≤ line) :
    ∃ pre post, s.behind line = pre ++ .marker (.done d) :: post ∧
      .marker (.start e) ∈ pre := by
  have hsub := hp.sublist_events hs he hd hid
  have hdone : Event.isBehind line (.marker (.done d)) = true :=
    Event.isBehind_marker.mpr hline
  have hstart : Event.isBehind line (.marker (.start e)) = true :=
    Event.isBehind_of_precedes (start_precedes_done h hp hs he hd hid)
      (Nat.le_refl _) hdone
  -- both are behind the line, so what is read keeps the pair in its order
  have hread := hsub.filter (Event.isBehind line)
  rw [List.filter_cons_of_pos hstart, List.filter_cons_of_pos hdone,
    List.filter_nil, ← s.behind_eq_filter h] at hread
  obtain ⟨before, after, heq, hmem, hafter⟩ := List.cons_sublist_iff.mp hread
  obtain ⟨mid, post, rfl⟩ :=
    List.append_of_mem (List.singleton_sublist.mp hafter)
  exact ⟨before ++ mid, post, by rw [heq, List.append_assoc], by simp [hmem]⟩

/-- The evaluated expressions of a scope are those whose done marker is
reached. -/
theorem mem_done_iff (h : s.Tidy) (hp : p.Paired) (hs : s ∈ p.toScope.tree)
    (e : ExprStart) :
    e ∈ (Evaluation.ofEvents (s.behind line)).done ↔
      e ∈ s.ownStarts ∧ p.FinishedBy line e := by
  rw [Evaluation.mem_done_ofEvents]
  constructor
  · intro hyp
    obtain ⟨pre, d, post, heq, hlatest⟩ := hyp
    rw [Evaluation.latest?_ofEvents] at hlatest
    have hid : e.id = d.id := by simpa using List.find?_some hlatest
    have hpre : .marker (.start e) ∈ pre := by
      simpa using List.mem_of_find?_eq_some hlatest
    have he : .marker (.start e) ∈ s.behind line := by simp [heq, hpre]
    have hd : .marker (.done d) ∈ s.behind line := by simp [heq]
    rw [mem_behind_marker h] at he hd
    exact ⟨mem_ownStarts.mpr he.1, d,
      List.mem_flatMap.mpr ⟨s, hs, mem_ownDones.mpr hd.1⟩, hid.symm, hd.2⟩
  · intro hyp
    obtain ⟨he, d, hd, hid, hline⟩ := hyp
    obtain ⟨pre, post, heq, hpre⟩ :=
      exists_split_behind h hp hs he hd hid hline
    refine ⟨pre, d, post, heq, ?_⟩
    rw [Evaluation.latest?_ofEvents, hid]
    refine hp.find?_reverse hs (fun x hx => ?_) hpre
    have hread : x ∈ s.behind line := by simp [heq, hx]
    rw [s.behind_eq_filter h] at hread
    exact (List.mem_filter.mp hread).1

/-- Expressions are done in the order of their done markers. -/
theorem done_pairwise (h : s.Tidy) (hp : p.Paired) (hs : s ∈ p.toScope.tree) :
    (Evaluation.ofEvents (s.behind line)).done.Pairwise fun a b =>
      ∀ da ∈ p.doneMarkers, ∀ db ∈ p.doneMarkers,
        da.id = a.id → db.id = b.id → da.line < db.line := by
  obtain ⟨ds, hds, hids⟩ :=
    List.sublist_map_iff.mp (Evaluation.done_ofEvents_sublist (s.behind line))
  have hlines : ds.Pairwise fun a b => a.line < b.line :=
    (pairwise_line_filterMap span_of_done? (behind_pairwise h line)).sublist
      hds
  have hmem : ∀ d ∈ ds, d ∈ p.doneMarkers := by
    intro d hd
    have hread : .marker (.done d) ∈ s.behind line := by
      simpa using hds.subset hd
    rw [mem_behind_marker h] at hread
    exact List.mem_flatMap.mpr ⟨s, hs, mem_ownDones.mpr hread.1⟩
  -- the numbers of the evaluated expressions are those of `ds`
  have hnumbers : (ds.map (·.id)).Pairwise fun i j =>
      ∀ da ∈ p.doneMarkers, ∀ db ∈ p.doneMarkers,
        da.id = i → db.id = j → da.line < db.line := by
    rw [List.pairwise_map]
    refine hlines.imp_of_mem fun {a b} ha hb hab da hda db hdb hia hib => ?_
    rw [List.inj_on_of_nodup_map hp.dones hda (hmem a ha) hia,
      List.inj_on_of_nodup_map hp.dones hdb (hmem b hb) hib]
    exact hab
  rw [← hids, List.pairwise_map] at hnumbers
  exact hnumbers

/-- What is unfinished was started in the scope, by the line. -/
theorem mem_ownStarts_of_unfinished (h : s.Tidy) {e : ExprStart}
    (he : e ∈ Event.unfinished (s.behind line)) :
    e ∈ s.ownStarts ∧ e.line ≤ line := by
  obtain ⟨pre, post, heq, -⟩ := Event.mem_unfinished.mp he
  have hread : .marker (.start e) ∈ s.behind line := by simp [heq]
  rw [mem_behind_marker h] at hread
  exact ⟨mem_ownStarts.mpr hread.1, hread.2⟩

/-- No done marker of its own scope has finished what is unfinished, so
one that comes after the start comes after the line. -/
theorem lt_of_unfinished (h : s.Tidy) {e : ExprStart}
    (he : e ∈ Event.unfinished (s.behind line)) {d : ExprDone}
    (hd : d ∈ s.ownDones) (hid : d.id = e.id) (hlater : e.line < d.line) :
    line < d.line := by
  by_contra hpast
  have hread : .marker (.done d) ∈ s.behind line :=
    (mem_behind_marker h).mpr ⟨mem_ownDones.mp hd, Nat.not_lt.mp hpast⟩
  have hbehind := behind_pairwise h line
  obtain ⟨pre, post, heq, hends⟩ := Event.mem_unfinished.mp he
  rw [heq] at hread hbehind
  rcases List.mem_append.mp hread with hpre | hrest
  · have hgt : d.line < e.line :=
      (List.pairwise_append.mp hbehind).2.2 _ hpre _ List.mem_cons_self
    omega
  · have hpost : .marker (.done d) ∈ post := by simpa using hrest
    rw [Event.endsIn_eq_true.mpr ⟨d, hpost, hid⟩] at hends
    cases hends

/-- The unfinished starts that are read are the expressions in
flight. -/
theorem mem_unfinished_iff (h : s.Tidy) (hp : p.Paired)
    (hs : s ∈ p.toScope.tree)
    (e : ExprStart) :
    e ∈ Event.unfinished (s.behind line) ↔
      e ∈ s.ownStarts ∧ p.InFlightAt line e := by
  constructor
  · intro hunfinished
    obtain ⟨he, hstart⟩ := mem_ownStarts_of_unfinished h hunfinished
    refine ⟨he, hstart, ?_⟩
    intro hyp
    obtain ⟨d, hd, hid, hline⟩ := hyp
    have hown : d ∈ s.ownDones :=
      mem_ownDones.mpr ((hp.sublist_events hs he hd hid).subset (by simp))
    have hlater : e.line < d.line := start_precedes_done h hp hs he hd hid
    -- the end lies ahead, yet was said to be passed
    have := lt_of_unfinished h hunfinished hown hid hlater
    omega
  · intro hyp
    obtain ⟨he, hline, hopen⟩ := hyp
    have hread : .marker (.start e) ∈ s.behind line :=
      (mem_behind_marker h).mpr ⟨mem_ownStarts.mp he, hline⟩
    obtain ⟨pre, post, heq⟩ := List.append_of_mem hread
    refine Event.mem_unfinished.mpr ⟨pre, post, heq, ?_⟩
    rw [Bool.eq_false_iff]
    intro hends
    obtain ⟨d, hd, hid⟩ := Event.endsIn_eq_true.mp hends
    have hdone : .marker (.done d) ∈ s.behind line := by simp [heq, hd]
    rw [mem_behind_marker h] at hdone
    exact hopen ⟨d, List.mem_flatMap.mpr ⟨s, hs, mem_ownDones.mpr hdone.1⟩,
      hid, hdone.2⟩

/-- The state of a scope of a tidy property is what the markers
say. -/
theorem analyze_reflects (h : s.Tidy) (hp : p.Paired) (hs : s ∈ p.toScope.tree)
    (line : Nat) : (ScopeState.analyze s line).Reflects p line := by
  have hflight := @mem_unfinished_iff p s line h hp hs
  have hlines : (Event.unfinished (s.behind line)).Pairwise
      fun a b => a.line < b.line :=
    (pairwise_line_filterMap span_of_start? (behind_pairwise h line)).sublist
      (Event.unfinished_sublist _)
  have hcurrent : (ScopeState.analyze s line).current =
      (Event.unfinished (s.behind line)).getLast? :=
    Evaluation.current?_ofEvents _
  refine ⟨rfl, mem_done_iff h hp hs, done_pairwise h hp hs, ?_, ?_⟩
  · intro e
    rw [hcurrent, getLast?_eq_some_iff hlines, hflight]
    simp only [hflight, and_imp]
    rfl
  · rw [hcurrent, List.getLast?_eq_none_iff, List.eq_nil_iff_forall_not_mem]
    simp only [hflight, not_and]
    rfl

end Scope

-- ========================================================= the snapshot

/-- A snapshot shows exactly what the scope tree says: the active
scopes are the scopes around the line, outermost first, and the state of
each is what the markers of the property say. In particular what is
being evaluated is not evaluated in any active scope. -/
theorem snapshot_reflects {filename : String} {properties : List Property}
    {ix : Index} (accepted : Index.build filename properties = .ok ix)
    {p : Property} (hp : p ∈ ix.properties)
    (ordered : ∀ s ∈ p.toScope.tree, s.Ordered) (paired : p.Paired)
    {location : GenLocation} (inside : p.lines.contains location.line = true) :
    let shown := (Snapshot.ofProperty p location).scopes
    shown.map (·.scope) =
      p.toScope.tree.filter (·.lines.contains location.line) ∧
      (shown.map (·.scope)).IsChain (fun outer inner => inner ∈ outer.nested) ∧
      (∀ st ∈ shown, st.Reflects p location.line) ∧
      ∀ st ∈ shown, ∀ st' ∈ shown, ∀ e ∈ st.done, ∀ e',
        st'.current = some e' → e.id ≠ e'.id := by
  intro shown
  have tidy : p.toScope.Tidy :=
    ⟨(Index.wellFormed_of_build accepted).sound p hp, ordered⟩
  have hscopes : shown.map (·.scope) =
      p.toScope.tree.filter (·.lines.contains location.line) := by
    rw [← Scope.active_eq_filter tidy inside]
    exact Snapshot.map_scope_ofProperty p location
  have hreflects : ∀ st ∈ shown, st.Reflects p location.line := by
    intro st hst
    obtain ⟨s, hs, rfl⟩ := List.mem_map.mp hst
    rw [Scope.active_eq_filter tidy inside] at hs
    have htree := (List.mem_filter.mp hs).1
    exact Scope.analyze_reflects (tidy.mem htree) paired htree location.line
  refine ⟨hscopes, ?_, hreflects, ?_⟩
  · rw [show shown.map (·.scope) = p.toScope.active location.line from
      Snapshot.map_scope_ofProperty p location]
    exact p.toScope.isChain_active location.line
  · -- the marker that finishes `e` would finish `e'` too, in whichever scope
    intro st hst st' hst' e he e' he' hid
    obtain ⟨-, d, hd, hdid, hline⟩ := ((hreflects st hst).done e).mp he
    obtain ⟨⟨-, -, hopen⟩, -⟩ := ((hreflects st' hst').current e').mp he'
    exact hopen ⟨d, hd, hdid.trans hid, hline⟩

theorem Property.paired_specimen : specimen.Paired := by
  refine ⟨by decide, by decide, ?_⟩
  intro e he d hd hid
  simp only [startMarkers, doneMarkers, specimen, Scope.tree, Event.scopesIn,
    Event.scopes, Scope.ownStarts, Scope.ownDones, Event.start?, Event.done?,
    List.flatMap_cons, List.filterMap_cons, List.filterMap_nil,
    List.nil_append,
    List.append_nil, List.flatMap_nil, List.cons_append, List.mem_cons,
    List.not_mem_nil, or_false] at he hd
  rcases he with rfl | rfl | rfl <;> rcases hd with rfl | rfl | rfl <;>
    simp only [Nat.reduceEqDiff] at hid <;>
    simp [specimen, Scope.tree, Event.scopesIn, Event.scopes]

/-- Inside the inner scope of the specimen three scopes are active. -/
theorem snapshot_reflects_specimen :
    let shown := (Snapshot.ofProperty .specimen ⟨"gen.adb", 33⟩).scopes
    shown.map (·.scope.lines) = [⟨10, 50⟩, ⟨20, 45⟩, ⟨30, 40⟩] ∧
      ∀ st ∈ shown, st.Reflects .specimen 33 := by
  intro shown
  obtain ⟨hscopes, -, hreflects, -⟩ := snapshot_reflects Index.build_specimen
    (List.mem_singleton_self _) Property.ordered_specimen
    Property.paired_specimen
    (show
      Property.specimen.lines.contains (GenLocation.mk "gen.adb" 33).line =
        true
      from rfl)
  refine ⟨?_, hreflects⟩
  have hlines := congrArg (List.map (·.lines)) hscopes
  rw [List.map_map] at hlines
  exact hlines

end SpecDebugger
