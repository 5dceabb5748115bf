/-
What is left of the markers of a scope once they are read in order:
which expressions are evaluated, and which one is being evaluated. The
laws hold of any events, in any order, with numbers repeated or missing.

- `current?_ofEvents`: the expression being evaluated is the last start
  marker after which no done marker of its number comes. The stack of
  numbers that the reading keeps is that of these starts
  (`inFlight_foldl`). A number may stand on it several times, so it is
  not obvious that the latest start of the number on top is the one that
  put it there; a later start of that number would be unfinished too,
  and its number on top instead (`find?_reverse_getLast?_unfinished`).
- `mem_done_ofEvents`: an expression is evaluated when it is the latest
  start before a done marker of its number, and the evaluated ones are
  listed in the order of these (`done_ofEvents_sublist`).
-/
import Mathlib.Data.List.Induction
import SpecDebugger.Proofs.Index.Tree
import SpecDebugger.Snapshot

namespace SpecDebugger

-- ================================================= unfinished starts

namespace Event

/-- Whether there is a done marker of expression `id` among events. -/
def endsIn (es : List Event) (id : Nat) : Bool :=
  (es.filterMap done?).any (·.id == id)

/-- The start markers among events after which no done marker of their
number comes, in order. -/
def unfinished : List Event → List ExprStart
  | [] => []
  | .marker (.start e) :: es =>
    if endsIn es e.id then unfinished es else e :: unfinished es
  | .marker (.done _) :: es => unfinished es
  | .scope _ _ _ :: es => unfinished es

theorem endsIn_eq_true {es : List Event} {id : Nat} :
    endsIn es id = true ↔ ∃ d, .marker (.done d) ∈ es ∧ d.id = id := by
  simp only [endsIn, List.any_eq_true, List.mem_filterMap, done?_eq_some,
    exists_eq_right, beq_iff_eq]

theorem filterMap_start?_cons (m : ExprStart) (es : List Event) :
    (.marker (.start m) :: es : List Event).filterMap start? =
      m :: es.filterMap start? := rfl

/-- What is unfinished has started, and in the same order. -/
theorem unfinished_sublist (es : List Event) :
    (unfinished es).Sublist (es.filterMap start?) := by
  induction es with
  | nil => exact .slnil
  | cons e es ih =>
      cases e with
      | scope lines bindings events => exact ih
      | marker m =>
          cases m with
          | done d => exact ih
          | start e =>
              rw [unfinished, filterMap_start?_cons]
              split
              · exact ih.cons e
              · exact ih.cons_cons e

private theorem exists_split_cons {α : Type _} {P : List α → Prop} {a x : α}
    {l : List α} :
    (∃ pre post, x :: l = pre ++ a :: post ∧ P post) ↔
      (x = a ∧ P l) ∨ ∃ pre post, l = pre ++ a :: post ∧ P post := by
  constructor
  · intro hyp
    obtain ⟨pre, post, heq, hpost⟩ := hyp
    cases pre with
    | nil =>
        obtain ⟨rfl, rfl⟩ := List.cons.inj heq
        exact .inl ⟨rfl, hpost⟩
    | cons y pre => exact .inr ⟨pre, post, (List.cons.inj heq).2, hpost⟩
  · intro hyp
    rcases hyp with ⟨rfl, hl⟩ | ⟨pre, post, rfl, hpost⟩
    · exact ⟨[], l, rfl, hl⟩
    · exact ⟨x :: pre, post, rfl, hpost⟩

/-- A start is unfinished when no done marker of its number comes after
it. -/
theorem mem_unfinished {es : List Event} {m : ExprStart} :
    m ∈ unfinished es ↔
      ∃ pre post, es = pre ++ .marker (.start m) :: post ∧
        endsIn post m.id = false := by
  induction es with
  | nil => simp [unfinished]
  | cons e es ih =>
      -- the list is cut at its first event, or further on
      rw [exists_split_cons, ← ih]
      cases e with
      | scope lines bindings events => simp [unfinished]
      | marker k =>
          cases k with
          | done d => simp [unfinished]
          | start e =>
              rw [unfinished]
              by_cases hends : endsIn es e.id = true
              · rw [if_pos hends]
                refine ⟨.inr, ?_⟩
                intro hyp
                rcases hyp with ⟨heq, hm⟩ | h
                · obtain rfl : e = m := by simpa using heq
                  simp [hends] at hm
                · exact h
              · rw [if_neg hends, List.mem_cons]
                constructor
                · intro hyp
                  rcases hyp with rfl | h
                  · exact .inl ⟨rfl, by simpa using hends⟩
                  · exact .inr h
                · intro hyp
                  rcases hyp with ⟨heq, -⟩ | h
                  · obtain rfl : e = m := by simpa using heq
                    exact .inl rfl
                  · exact .inr h

/-- Where a number starts and never ends, one of its starts is
unfinished. -/
theorem exists_unfinished {es : List Event} {m : ExprStart}
    (hm : .marker (.start m) ∈ es) (hends : endsIn es m.id = false) :
    m ∈ unfinished es := by
  obtain ⟨pre, post, rfl⟩ := List.append_of_mem hm
  refine mem_unfinished.mpr ⟨pre, post, rfl, ?_⟩
  rw [Bool.eq_false_iff] at hends ⊢
  intro h
  obtain ⟨d, hd, hid⟩ := endsIn_eq_true.mp h
  exact hends (endsIn_eq_true.mpr ⟨d, by simp [hd], hid⟩)

/-- The last unfinished start is the latest start of its number. -/
theorem find?_reverse_getLast?_unfinished {es : List Event} {m : ExprStart}
    (h : (unfinished es).getLast? = some m) :
    (es.filterMap start?).reverse.find? (·.id == m.id) = some m := by
  induction es with
  | nil => simp [unfinished] at h
  | cons e es ih =>
      cases e with
      | scope lines bindings events => exact ih h
      | marker k =>
          cases k with
          | done d => exact ih h
          | start e =>
              rw [filterMap_start?_cons, List.reverse_cons, List.find?_append]
              rw [unfinished] at h
              by_cases hnil : unfinished es = []
              · -- `e` is the only unfinished start, so its number is new
                rw [hnil] at h
                split at h
                case isTrue => simp at h
                case isFalse hends =>
                  obtain rfl : e = m := by simpa using h
                  have hnone : (es.filterMap start?).reverse.find?
                      (·.id == e.id) = none := by
                    rw [List.find?_eq_none]
                    intro m hm
                    simp only [List.mem_reverse, List.mem_filterMap,
                      start?_eq_some, exists_eq_right] at hm
                    intro hid
                    have hid' : m.id = e.id := by simpa using hid
                    have : m ∈ unfinished es :=
                      exists_unfinished hm (by rw [hid']; simpa using hends)
                    rw [hnil] at this
                    cases this
                  rw [hnone]
                  simp
              · have hlast : (unfinished es).getLast? = some m := by
                  split at h
                  case isTrue => exact h
                  case isFalse =>
                    rwa [List.getLast?_cons_of_ne_nil hnil] at h
                rw [ih hlast]
                rfl

end Event

-- ======================================================= the reading

namespace Evaluation

open Event (endsIn unfinished)

@[simp]
theorem ofEvents_append_singleton (es : List Event) (e : Event) :
    ofEvents (es ++ [e]) = (ofEvents es).note e := by
  rw [ofEvents, List.foldl_append]
  rfl

/-- What has started is noted with the last one first. -/
theorem started_ofEvents (es : List Event) :
    (ofEvents es).started = (es.filterMap Event.start?).reverse := by
  induction es using List.reverseRecOn with
  | nil => rfl
  | append_singleton es e ih =>
      rw [ofEvents_append_singleton, List.filterMap_append,
        List.reverse_append]
      cases e with
      | scope lines bindings events => exact ih
      | marker m =>
          cases m with
          | done d => exact ih
          | start m =>
              show m :: (ofEvents es).started = _
              rw [ih]
              rfl

/-- The latest start of a number is the last one among the events. -/
theorem latest?_ofEvents (es : List Event) (id : Nat) :
    (ofEvents es).latest? id =
      (es.filterMap Event.start?).reverse.find? (·.id == id) := by
  rw [latest?, started_ofEvents]

/-- The stack after some events: the numbers of the unfinished starts
among them, above what they leave of the stack before. -/
theorem inFlight_foldl (es : List Event) (v : Evaluation) :
    (es.foldl note v).inFlight =
      ((unfinished es).map (·.id)).reverse ++
        v.inFlight.filter (fun id => !endsIn es id) := by
  induction es generalizing v with
  | nil =>
      show v.inFlight = [] ++ v.inFlight.filter fun _ => true
      rw [List.nil_append, List.filter_eq_self.mpr fun _ _ => rfl]
  | cons e es ih =>
      rw [List.foldl_cons, ih]
      cases e with
      | scope lines bindings events => rfl
      | marker m =>
          cases m with
          | start e =>
              simp only [note, unfinished]
              have hsame : ∀ id,
                  endsIn (.marker (.start e) :: es) id = endsIn es id :=
                fun _ => rfl
              simp only [hsame]
              by_cases hends : endsIn es e.id = true
              · simp [hends]
              · simp [hends]
          | done d =>
              -- a done marker takes its number off the stack
              have hmore : ∀ id, endsIn (.marker (.done d) :: es) id =
                  (d.id == id || endsIn es id) := fun _ => rfl
              simp only [note, unfinished, List.filter_filter, hmore]
              congr 1
              refine List.filter_congr fun id _ => ?_
              rw [Bool.not_or, Bool.and_comm, bne, Bool.beq_comm]

/-- The expression being evaluated is the last unfinished one. -/
theorem current?_ofEvents (es : List Event) :
    (ofEvents es).current? = (unfinished es).getLast? := by
  have hstack :
      (ofEvents es).inFlight = ((unfinished es).map (·.id)).reverse := by
    rw [ofEvents, inFlight_foldl]
    simp
  rw [current?, hstack, List.head?_reverse, List.getLast?_map]
  cases h : (unfinished es).getLast? with
  | none => rfl
  | some m =>
      show (ofEvents es).latest? m.id = some m
      rw [latest?_ofEvents]
      exact Event.find?_reverse_getLast?_unfinished h

/-- An expression is evaluated when it is the latest start before a done
marker of its number. -/
theorem mem_done_ofEvents {es : List Event} {m : ExprStart} :
    m ∈ (ofEvents es).done ↔
      ∃ pre d post, es = pre ++ .marker (.done d) :: post ∧
        (ofEvents pre).latest? d.id = some m := by
  induction es using List.reverseRecOn with
  | nil => simp [ofEvents]
  | append_singleton es e ih =>
      rw [ofEvents_append_singleton]
      -- a done marker found is among the events before, or the last one
      have hsplit :
          (∃ pre d post, es ++ [e] = pre ++ .marker (.done d) :: post ∧
            (ofEvents pre).latest? d.id = some m) ↔
          m ∈ (ofEvents es).done ∨
            ∃ d, e = .marker (.done d) ∧
              (ofEvents es).latest? d.id = some m := by
        rw [ih]
        constructor
        · intro hyp
          obtain ⟨pre, d, post, heq, hd⟩ := hyp
          rcases List.eq_nil_or_concat post with rfl | ⟨post, last, rfl⟩
          · obtain ⟨rfl, hlast⟩ := List.append_inj' heq rfl
            exact .inr ⟨d, by simpa using hlast, hd⟩
          · rw [List.concat_eq_append, ← List.cons_append,
              ← List.append_assoc] at heq
            exact .inl ⟨pre, d, post, (List.append_inj' heq rfl).1, hd⟩
        · intro hyp
          rcases hyp with ⟨pre, d, post, rfl, hd⟩ | ⟨d, rfl, hd⟩
          · exact ⟨pre, d, post ++ [e], by simp, hd⟩
          · exact ⟨es, d, [], rfl, hd⟩
      rw [hsplit]
      cases e with
      | scope lines bindings events => simp [note]
      | marker k =>
          cases k with
          | start e => simp [note]
          | done d => simp [note]

/-- The evaluated expressions come in the order of done markers with
their numbers. -/
theorem done_ofEvents_sublist (es : List Event) :
    ((ofEvents es).done.map (·.id)).Sublist
      ((es.filterMap Event.done?).map (·.id)) := by
  induction es using List.reverseRecOn with
  | nil => exact .slnil
  | append_singleton es e ih =>
      rw [ofEvents_append_singleton, List.filterMap_append, List.map_append]
      cases e with
      | scope lines bindings events =>
        exact ih.trans (List.sublist_append_left ..)
      | marker k =>
          cases k with
          | start e => exact ih.trans (List.sublist_append_left ..)
          | done d =>
              rw [note, List.map_append]
              apply ih.append
              show List.Sublist _ [d.id]
              cases h : (ofEvents es).latest? d.id with
              | none => exact List.nil_sublist _
              | some m =>
                  have hid : m.id = d.id := by simpa using List.find?_some h
                  simp [hid]

end Evaluation

end SpecDebugger
