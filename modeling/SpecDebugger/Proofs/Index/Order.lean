/-
Scopes whose events are recorded in the order of the generated code.

In an ordered scope each event lies strictly after the previous one: a
marker takes up its line, a nested scope all of its lines. Order is a
matter of neighbours (`Scope.Ordered`); with the soundness of the scopes
below, no event takes up an empty range, so it holds of any two events
(`Event.Tidy`), and it is in this form that the inductions over the tree
use it.

# What order buys

The walk through a scope stops at the first event that the frame does
not have behind it, and goes into that event if it is a nested scope
around the frame. On tidy events the stop is harmless:

- the events behind the frame are all those that lie before it
  (`Scope.behind_eq_filter`), since what follows one that does not lie
  before it does not either;
- the scopes gone into are all those of the tree that contain the line
  (`Scope.active_eq_filter`), since neither a sibling nor anything after
  the stop contains it.

Ordered or not, the scopes gone into are nested in each other, and the
last one holds no further scope to go into (`Scope.Walk`).
-/
import Mathlib.Data.List.Chain
import SpecDebugger.Proofs.Index.Tree
import SpecDebugger.Snapshot

namespace SpecDebugger

-- ========================================================= the order

/-- Whether an event ends before another one begins. -/
def Event.Precedes (a b : Event) : Prop := a.span.last < b.span.first

instance (a b : Event) : Decidable (a.Precedes b) :=
  inferInstanceAs (Decidable (_ < _))

/-- Whether each event of a scope lies strictly after the previous
one. -/
def Scope.Ordered (s : Scope) : Prop := s.events.IsChain Event.Precedes

/-- Events in order, with sound scopes below that have their events in
order as well. -/
structure Event.Tidy (es : List Event) : Prop where
  pairwise : es.Pairwise Event.Precedes
  sound : ∀ t ∈ Event.scopesIn es, t.Sound
  below : ∀ t ∈ Event.scopesIn es, t.events.Pairwise Event.Precedes

namespace Event

/-- A scope at any depth lies on the lines of an event at the top. -/
theorem exists_span_encloses {es : List Event} {t : Scope}
    (sound : ∀ u ∈ scopesIn es, u.Sound) (ht : t ∈ scopesIn es) :
    ∃ e ∈ es, e.span.encloses t.lines = true := by
  obtain ⟨e, he, s, hs, hts⟩ := mem_scopesIn.mp ht
  have hspan : e.span = s.lines := by
    rw [scope?_eq_some.mp hs]
    rfl
  refine ⟨e, he, ?_⟩
  rw [hspan]
  refine Scope.encloses_of_mem_tree (fun u hu => sound u ?_) hts
  exact mem_scopesIn.mpr ⟨e, he, s, hs, hu⟩

/-- Above sound scopes no event takes up an empty range. -/
theorem span_first_le_last {es : List Event}
    (sound : ∀ u ∈ scopesIn es, u.Sound) {e : Event} (he : e ∈ es) :
    e.span.first ≤ e.span.last := by
  cases e with
  | marker m => exact Nat.le_refl _
  | scope lines bindings events =>
      refine (sound ⟨lines, bindings, events⟩ ?_).first_le_last
      exact mem_scopesIn.mpr ⟨_, he, _, rfl, Scope.mem_tree_self _⟩

/-- Neighbours in order are enough, when no event takes up an empty
range. -/
theorem pairwise_of_isChain {es : List Event}
    (proper : ∀ e ∈ es, e.span.first ≤ e.span.last)
    (chain : es.IsChain Precedes) : es.Pairwise Precedes := by
  induction es with
  | nil => exact .nil
  | cons a es ih =>
      rw [List.forall_mem_cons] at proper
      have hes := ih proper.2 chain.tail
      refine List.pairwise_cons.mpr ⟨?_, hes⟩
      cases es with
      | nil => simp
      | cons b es =>
          have hab : a.Precedes b := chain.rel
          intro c hc
          rcases List.mem_cons.mp hc with rfl | hc
          · exact hab
          · have hbc : b.Precedes c := (List.pairwise_cons.mp hes).1 c hc
            have hb := proper.2 b List.mem_cons_self
            unfold Precedes at hab hbc ⊢
            omega

/-- After a marker the events are tidy, and on later lines. -/
theorem Tidy.marker {m : Marker} {es : List Event}
    (h : Tidy (.marker m :: es)) :
    Tidy es ∧ ∀ e ∈ es, m.line < e.span.first := by
  obtain ⟨hhead, htail⟩ := List.pairwise_cons.mp h.pairwise
  have hsub : scopesIn (.marker m :: es) = scopesIn es := by
    rw [scopesIn, scopes, List.nil_append]
  exact ⟨⟨htail, hsub ▸ h.sound, hsub ▸ h.below⟩, hhead⟩

/-- A scope in tidy events is sound and tidy inside, and the events
after it are on later lines. -/
theorem Tidy.scope {lines : LineRange} {bindings : List Binding}
    {events es : List Event} (h : Tidy (.scope lines bindings events :: es)) :
    Tidy events ∧ Tidy es ∧ Scope.Sound ⟨lines, bindings, events⟩ ∧
      ∀ e ∈ es, lines.last < e.span.first := by
  obtain ⟨hpairwise, hsound, hbelow⟩ := h
  obtain ⟨hhead, htail⟩ := List.pairwise_cons.mp hpairwise
  simp only [scopesIn, scopes, List.cons_append, List.forall_mem_cons,
    List.forall_mem_append] at hsound hbelow
  exact ⟨⟨hbelow.1, hsound.2.1, hbelow.2.1⟩, ⟨htail, hsound.2.2, hbelow.2.2⟩,
    hsound.1, hhead⟩

/-- Scopes below events that come after a line come after it as well. -/
theorem first_lt_of_mem_scopesIn {n : Nat} {es : List Event}
    (sound : ∀ u ∈ scopesIn es, u.Sound) (after : ∀ e ∈ es, n < e.span.first)
    {t : Scope} (ht : t ∈ scopesIn es) : n < t.lines.first := by
  obtain ⟨e, he, hencloses⟩ := exists_span_encloses sound ht
  have := after e he
  rw [LineRange.encloses_iff] at hencloses
  omega

end Event

/-- Whether a scope and those nested in it are sound and ordered. -/
structure Scope.Tidy (s : Scope) : Prop where
  sound : ∀ t ∈ s.tree, t.Sound
  ordered : ∀ t ∈ s.tree, t.Ordered

namespace Scope.Tidy

variable {s : Scope}

theorem sound_self (h : s.Tidy) : s.Sound := h.sound s s.mem_tree_self

theorem span_first_le_last (h : s.Tidy) {e : Event} (he : e ∈ s.events) :
    e.span.first ≤ e.span.last :=
  Event.span_first_le_last
    (fun u hu => h.sound u (List.mem_cons_of_mem _ hu)) he

/-- The events of a tidy scope follow each other, at any distance. -/
theorem pairwise (h : s.Tidy) : s.events.Pairwise Event.Precedes :=
  Event.pairwise_of_isChain (fun _ he => h.span_first_le_last he)
    (h.ordered s s.mem_tree_self)

end Scope.Tidy

/-- What is nested in a nested scope is nested. -/
theorem Event.tree_subset_scopesIn {es : List Event} {t : Scope}
    (ht : t ∈ scopesIn es) : ∀ u ∈ t.tree, u ∈ scopesIn es := by
  induction es using Event.nesting with
  | nil => simp [scopesIn] at ht
  | marker m es ih =>
      simp only [scopesIn, scopes, List.nil_append] at ht ⊢
      exact ih ht
  | scope lines bindings events es ihEvents ihEs =>
      simp only [scopesIn, scopes, List.cons_append, List.mem_cons,
        List.mem_append] at ht ⊢
      intro u hu
      rcases ht with rfl | ht | ht
      · rcases List.mem_cons.mp hu with rfl | hu
        · exact .inl rfl
        · exact .inr (.inl hu)
      · exact .inr (.inl (ihEvents ht u hu))
      · exact .inr (.inr (ihEs ht u hu))

theorem Scope.Tidy.mem {s t : Scope} (h : s.Tidy) (ht : t ∈ s.tree) :
    t.Tidy := by
  rcases List.mem_cons.mp ht with rfl | ht
  · exact h
  · have hsub : ∀ u ∈ t.tree, u ∈ s.tree := fun u hu =>
      List.mem_cons_of_mem _ (Event.tree_subset_scopesIn ht u hu)
    exact ⟨fun u hu => h.sound u (hsub u hu),
      fun u hu => h.ordered u (hsub u hu)⟩

theorem Scope.Tidy.events {s : Scope} (h : s.Tidy) : Event.Tidy s.events :=
  ⟨h.pairwise, fun t ht => h.sound t (List.mem_cons_of_mem _ ht),
    fun _ ht => (h.mem (List.mem_cons_of_mem _ ht)).pairwise⟩

-- ============================================ the events behind a line

/-- Where `p` fails for good once it fails, a list is cut by `p` as it
is filtered by it. -/
private theorem takeWhile_eq_filter {α : Type _} {p : α → Bool} {l : List α}
    (h : l.Pairwise fun a b => p b = true → p a = true) :
    l.takeWhile p = l.filter p := by
  induction l with
  | nil => rfl
  | cons a l ih =>
      obtain ⟨hhead, htail⟩ := List.pairwise_cons.mp h
      by_cases ha : p a = true
      · rw [List.takeWhile_cons_of_pos ha, List.filter_cons_of_pos ha,
          ih htail]
      · rw [List.takeWhile_cons_of_neg ha, List.filter_cons_of_neg ha]
        refine (List.filter_eq_nil_iff.mpr fun b hb hpb => ?_).symm
        exact ha (hhead b hb hpb)

@[simp]
theorem Event.isBehind_marker {m : Marker} {line : Nat} :
    Event.isBehind line (.marker m) = true ↔ m.line ≤ line := by
  simp [Event.isBehind]

/-- An event that is behind a line ends there at the latest. -/
theorem Event.span_last_le_of_isBehind {e : Event} {line : Nat}
    (h : e.isBehind line = true) : e.span.last ≤ line := by
  cases e with
  | marker m => exact Event.isBehind_marker.mp h
  | scope lines bindings events =>
      have : lines.last < line := by simpa [isBehind] using h
      exact Nat.le_of_lt this

theorem Event.isBehind_of_span_last_lt {e : Event} {line : Nat}
    (h : e.span.last < line) : e.isBehind line = true := by
  cases e with
  | marker m => exact Event.isBehind_marker.mpr (Nat.le_of_lt h)
  | scope lines bindings events => exact decide_eq_true h

/-- What comes before an event that is behind a line is behind it too. -/
theorem Event.isBehind_of_precedes {a b : Event} {line : Nat}
    (hab : a.Precedes b) (hb : b.span.first ≤ b.span.last)
    (h : b.isBehind line = true) : a.isBehind line = true := by
  have hlast := span_last_le_of_isBehind h
  unfold Precedes at hab
  exact isBehind_of_span_last_lt (by omega)

/-- The walk through a tidy scope reads all events before the line. -/
theorem Scope.behind_eq_filter {s : Scope} (h : s.Tidy) (line : Nat) :
    s.behind line = s.events.filter (·.isBehind line) := by
  refine takeWhile_eq_filter (h.pairwise.imp_of_mem ?_)
  intro a b _ hb hab hbehind
  exact Event.isBehind_of_precedes hab (h.span_first_le_last hb) hbehind

-- =================================================== going inwards

/-- The walk goes into the event that stops it, if that is a scope around
the line. -/
theorem Scope.inner?_eq_some_iff {s t : Scope} {line : Nat} :
    s.inner? line = some t ↔
      (∃ es, s.events =
        s.behind line ++ .scope t.lines t.bindings t.events :: es) ∧
      t.lines.contains line = true := by
  have hevents : s.events =
      s.behind line ++ s.events.dropWhile (·.isBehind line) :=
    List.takeWhile_append_dropWhile.symm
  have hrest : (∃ es, s.events =
        s.behind line ++ .scope t.lines t.bindings t.events :: es) ↔
      ∃ es, s.events.dropWhile (·.isBehind line) =
        .scope t.lines t.bindings t.events :: es := by
    refine exists_congr fun es => ?_
    constructor
    · intro h
      exact List.append_cancel_left (hevents.symm.trans h)
    · intro h
      rw [← h]
      exact hevents
  rw [hrest]
  -- the scope looked into is the first event that is not behind
  unfold inner?
  cases s.events.dropWhile (·.isBehind line) with
  | nil => simp
  | cons e es =>
      cases e with
      | marker m => simp [Event.around?]
      | scope lines bindings events =>
          simp only [Event.around?, Option.ite_none_right_eq_some,
            Option.some.injEq, List.cons.injEq, Event.scope.injEq,
            exists_and_left, exists_eq', and_true]
          constructor
          · rintro ⟨hc, rfl⟩
            exact ⟨⟨rfl, rfl, rfl⟩, hc⟩
          · rintro ⟨⟨rfl, rfl, rfl⟩, hc⟩
            exact ⟨hc, rfl⟩

/-- The scope entered on a line is a nested one that contains the line. -/
theorem Scope.mem_nested_of_inner? {s t : Scope} {line : Nat}
    (h : s.inner? line = some t) :
    t ∈ s.nested ∧ t.lines.contains line = true := by
  obtain ⟨⟨es, hevents⟩, hc⟩ := inner?_eq_some_iff.mp h
  refine ⟨mem_nested.mpr ?_, hc⟩
  rw [hevents]
  exact List.mem_append_right _ List.mem_cons_self

/-- The walk through a scope goes on with what it goes into. -/
@[simp]
theorem Event.head?_nestedAround (s : Scope) (line : Nat) :
    (nestedAround line s.events).head? = s.inner? line := by
  rw [nestedAround_eq, Scope.inner?]
  cases s.events.dropWhile (·.isBehind line) with
  | nil => rfl
  | cons e es =>
      dsimp only
      cases e.around? line <;> rfl

/-- Whether scopes are those of a walk: each one but the first is gone into
from the one before, and from the last one there is none to go into. -/
structure Scope.Walk (line : Nat) (scopes : List Scope) : Prop where
  chain : scopes.IsChain fun outer inner => outer.inner? line = some inner
  ends : ∀ t ∈ scopes.getLast?, t.inner? line = none

/-- A walk can be continued at its outer end by the scope it was entered
from. -/
theorem Scope.Walk.cons {line : Nat} {s : Scope} {scopes : List Scope}
    (walk : Walk line scopes) (next : scopes.head? = s.inner? line) :
    Walk line (s :: scopes) := by
  constructor
  · refine List.isChain_cons.mpr ⟨?_, walk.chain⟩
    intro t ht
    rw [← next]
    exact ht
  · intro t ht
    cases scopes with
    | nil =>
        obtain rfl := Option.some.inj ht
        exact next.symm
    | cons u us =>
        apply walk.ends
        rwa [List.getLast?_cons_cons] at ht

/-- A scope of a walk from which there is none to go into is the last
one. -/
theorem Scope.Walk.getLast? {line : Nat} {scopes : List Scope}
    (walk : Walk line scopes) {t : Scope} (ht : t ∈ scopes)
    (hinner : t.inner? line = none) : scopes.getLast? = some t := by
  have hchain := walk.chain
  clear walk
  induction scopes with
  | nil => cases ht
  | cons s scopes ih =>
      cases scopes with
      | nil => rw [List.mem_singleton.mp ht, List.getLast?_singleton]
      | cons u us =>
          rw [List.getLast?_cons_cons]
          rcases List.mem_cons.mp ht with rfl | ht
          · rw [hchain.rel] at hinner
            cases hinner
          · exact ih ht hchain.tail

/-- The scopes around a line are a walk from the outside in. -/
theorem Event.walk_nestedAround (line : Nat) (es : List Event) :
    Scope.Walk line (nestedAround line es) := by
  induction es using Event.nesting with
  | nil => exact ⟨by simp [nestedAround], by simp [nestedAround]⟩
  | marker m es ih =>
      rw [nestedAround_marker]
      split
      next => exact ih
      next => exact ⟨by simp, by simp⟩
  | scope lines bindings events es ihEvents ihEs =>
      rw [nestedAround_scope]
      split
      next => exact ihEs
      next =>
        split
        next => exact ihEvents.cons (head?_nestedAround ⟨_, _, _⟩ line)
        next => exact ⟨by simp, by simp⟩

/-- The active scopes are those of a walk from the scope inwards. -/
theorem Scope.walk_active (s : Scope) (line : Nat) :
    Walk line (s.active line) :=
  (Event.walk_nestedAround line s.events).cons
    (Event.head?_nestedAround s line)

/-- Each active scope is nested in the one before. -/
theorem Scope.isChain_active (s : Scope) (line : Nat) :
    (s.active line).IsChain fun outer inner => inner ∈ outer.nested :=
  (s.walk_active line).chain.imp fun _ _ hinner =>
    (mem_nested_of_inner? hinner).1

-- ========================================= the scopes around a line

/-- No scope that begins after a line is around it. -/
private theorem filter_contains_of_after {line : Nat} {ts : List Scope}
    (h : ∀ t ∈ ts, line < t.lines.first) :
    ts.filter (·.lines.contains line) = [] := by
  refine List.filter_eq_nil_iff.mpr fun t ht hc => ?_
  have := h t ht
  rw [LineRange.contains_iff] at hc
  omega

/-- No scope within a range that misses a line is around it. -/
private theorem filter_contains_of_encloses {range : LineRange} {line : Nat}
    {ts : List Scope} (h : ∀ t ∈ ts, range.encloses t.lines = true)
    (hmiss : ¬range.contains line = true) :
    ts.filter (·.lines.contains line) = [] :=
  List.filter_eq_nil_iff.mpr fun t ht hc =>
    hmiss (LineRange.contains_of_encloses (h t ht) hc)

/-- The walk below tidy events goes into all scopes around the line. -/
theorem Event.nestedAround_eq_filter {es : List Event} (tidy : Tidy es)
    (line : Nat) :
    nestedAround line es = (scopesIn es).filter (·.lines.contains line) := by
  induction es using Event.nesting with
  | nil => simp [nestedAround, scopesIn]
  | marker m es ih =>
      obtain ⟨hes, hafter⟩ := tidy.marker
      rw [nestedAround_marker, scopesIn, scopes, List.nil_append]
      split
      next => exact ih hes
      next hm =>
        -- the line lies before the marker, and so before all that follows
        refine (filter_contains_of_after fun t ht => ?_).symm
        have := first_lt_of_mem_scopesIn hes.sound hafter ht
        omega
  | scope lines bindings events es ihEvents ihEs =>
      obtain ⟨hevents, hes, hself, hafter⟩ := tidy.scope
      have hbelow : ∀ t ∈ scopesIn events, lines.encloses t.lines = true :=
        encloses_of_mem_scopesIn hevents.sound hself.encloses
      rw [nestedAround_scope, scopesIn, scopes, List.filter_append]
      split
      next hlast =>
        have hmiss : ¬lines.contains line = true := by
          rw [LineRange.contains_iff]
          omega
        rw [List.filter_cons, if_neg hmiss,
          filter_contains_of_encloses hbelow hmiss, List.nil_append, ihEs hes]
      next hlast =>
        have hrest : (scopesIn es).filter (·.lines.contains line) = [] := by
          refine filter_contains_of_after fun t ht => ?_
          have := first_lt_of_mem_scopesIn hes.sound hafter ht
          omega
        rw [hrest, List.append_nil]
        split
        next hc => rw [List.filter_cons, if_pos hc, ihEvents hevents]
        next hc =>
          rw [List.filter_cons, if_neg hc,
            filter_contains_of_encloses hbelow hc]

/-- The active scopes of a tidy scope around a line are those of its
tree that contain the line. -/
theorem Scope.active_eq_filter {s : Scope} (h : s.Tidy) {line : Nat}
    (hline : s.lines.contains line = true) :
    s.active line = s.tree.filter (·.lines.contains line) := by
  rw [Scope.active, Scope.tree, List.filter_cons, if_pos hline,
    Event.nestedAround_eq_filter h.events]

/-- A snapshot is about the active scopes, in their order. -/
theorem Snapshot.map_scope_ofProperty (p : Property) (location : GenLocation) :
    (Snapshot.ofProperty p location).scopes.map (·.scope) =
      p.toScope.active location.line := by
  simp only [Snapshot.ofProperty, List.map_map]
  exact List.map_id'' (fun _ => rfl) _

-- ======================================================== a specimen

/-- A property in order: a body that evaluates two expressions, and a
third one in a scope inside the second. -/
def Property.specimen : Property where
  name := "Node.p_eval"
  lines := ⟨10, 50⟩
  bindings := [⟨"Self", "Self", 11⟩]
  events :=
    [ .scope ⟨20, 45⟩ [⟨"x", "Var_X", 22⟩]
        [ .marker
            (.start
              ⟨1, "x + 1", "Add_1", some ⟨"spec.py", 7, some 4, none⟩, 24⟩),
          .marker (.done ⟨1, 26⟩),
          .marker (.start ⟨2, "f (x)", "Call_2", none, 28⟩),
          .scope ⟨30, 40⟩ []
            [ .marker
                (.start
                  ⟨3, "x * 2", "Mul_3", some ⟨"spec.py", 7, some 9, none⟩,
                    32⟩),
              .marker (.done ⟨3, 36⟩) ],
          .marker (.done ⟨2, 42⟩) ] ]

def Index.specimen : Index :=
  ⟨"gen.adb", [.specimen], [("node.p_eval", 0)]⟩

theorem Index.build_specimen :
    build "gen.adb" [.specimen] = .ok specimen := rfl

theorem Property.ordered_specimen :
    ∀ s ∈ specimen.toScope.tree, s.Ordered := by
  unfold Scope.Ordered
  decide

end SpecDebugger
