/-
The values in a report, on any debugger. Entries are written one by one,
and those that show a value read it as they are written. So the report
reads the variables of its entries one after the other, each once
(`exists_answers_writeEntries`), and which variables these are is known
from the snapshot alone (`filterMap_entries`).
-/
import SpecDebugger.Proofs.Calls
import SpecDebugger.Proofs.SessionMoves

namespace SpecDebugger

namespace StateReport

-- ========================================================= the variables

/-- The generated variables whose values a report shows, in order: in each
scope those of its bindings and then those of its evaluated expressions,
or the one of the binding that is asked for. -/
def shown (o : Options) : Option Snapshot → List String
  | none => []
  | some s =>
    match o.only with
    | none =>
      s.scopes.flatMap fun st =>
        st.bindings.map (·.genName) ++ st.done.map (·.resultVar)
    | some name => (s.findBinding? name).toList.map (·.genName)

@[simp]
theorem filterMap_originOf (sloc : Option SpecLocation) :
    (originOf sloc).filterMap Entry.genVar? = [] := by
  cases sloc <;> rfl

/-- A scope without bindings and evaluated expressions has no variables to
show, so leaving it out loses none. -/
@[simp]
theorem filterMap_scopeEntries (st : ScopeState) :
    (scopeEntries st).filterMap Entry.genVar? =
      st.bindings.map (·.genName) ++ st.done.map (·.resultVar) := by
  unfold scopeEntries
  by_cases hempty : st.isEmpty = true
  · rw [if_pos hempty]
    simp only [ScopeState.isEmpty, Bool.and_eq_true,
      List.isEmpty_iff] at hempty
    rw [hempty.1.1, hempty.1.2]
    rfl
  · have hcurrent :
        (evaluatingEntries st.current).filterMap Entry.genVar? = [] := by
      cases st.current with
      | none => rfl
      | some e => exact filterMap_originOf e.sloc
    rw [if_neg hempty, List.filterMap_cons_none rfl, List.filterMap_append,
      List.filterMap_append, hcurrent, List.append_nil]
    simp only [List.filterMap_map, Function.comp_def, Entry.genVar?,
      List.filterMap_eq_map']

/-- The full report shows the values of the scopes, from the outside in. -/
@[simp]
theorem filterMap_fullEntries (s : Snapshot) :
    (fullEntries s).filterMap Entry.genVar? =
      s.scopes.flatMap fun st =>
        st.bindings.map (·.genName) ++ st.done.map (·.resultVar) := by
  have hmemoized : (if s.memoized then [Entry.memoized] else []).filterMap
      Entry.genVar? = [] := by
    cases s.memoized <;> rfl
  unfold fullEntries
  rw [List.filterMap_cons_none rfl, List.filterMap_append,
    List.filterMap_append, filterMap_originOf, hmemoized,
    List.filterMap_flatMap]
  simp only [filterMap_scopeEntries, List.nil_append]

/-- Which variables a report shows can be told from the snapshot. -/
@[simp]
theorem filterMap_entries (o : Options) (s : Option Snapshot) :
    (entries o s).filterMap Entry.genVar? = shown o s := by
  cases s with
  | none => rfl
  | some s =>
      unfold entries shown
      cases o.only with
      | none => exact filterMap_fullEntries s
      | some name =>
          dsimp only
          cases s.findBinding? name <;> rfl

-- ============================================================= the value

/-- A value is shown whole, unless values are cut and it is longer than the
limit: then its first characters are shown, with three dots after them. -/
@[simp]
theorem valueImage_ok (o : Options) (value : String) :
    valueImage o (.ok value) =
      if o.ellipsis = true ∧ o.limit < value.length then
        String.ofList (value.toList.take o.limit) ++ "..."
      else value := by
  by_cases hcut : o.ellipsis = true
  · simp [valueImage, truncate, hcut, String.length_toList]
  · simp [valueImage, hcut]

/-- A value that cannot be read is shown as such, with the message of the
failure. -/
@[simp]
theorem valueImage_error (o : Options) (e : HostError) :
    valueImage o (.error e) = s!"<unavailable: {e.message}>" := rfl

/-- Values of at most as many characters as the limit are never cut. -/
theorem valueImage_of_length_le {o : Options} {value : String}
    (h : value.length ≤ o.limit) : valueImage o (.ok value) = value := by
  rw [valueImage_ok, if_neg fun hyp => Nat.not_lt.mpr h hyp.2]

-- ============================================================== the text

/-- The text of some entries; each one that shows a value takes the next
answer. -/
def textWith (o : Options) :
    List Entry → List (Except HostError String) → String
  | [], _ => ""
  | e :: es, answers =>
    match e.genVar?, answers with
    | some _, answer :: answers =>
      e.text o (valueImage o answer) ++ "\n" ++ textWith o es answers
    | _, answers => e.text o "" ++ "\n" ++ textWith o es answers

/-- An entry that shows a value is a line with the image of the answer to
its own reading. -/
theorem textWith_cons_of_value {e : Entry} {name : String}
    (h : e.genVar? = some name) (o : Options) (es : List Entry)
    (answer : Except HostError String)
    (answers : List (Except HostError String)) :
    textWith o (e :: es) (answer :: answers) =
      e.text o (valueImage o answer) ++ "\n" ++ textWith o es answers := by
  simp only [textWith, h]

/-- An entry that shows no value takes no answer. -/
theorem textWith_cons_of_text {e : Entry} (h : e.genVar? = none)
    (o : Options) (es : List Entry)
    (answers : List (Except HostError String)) :
    textWith o (e :: es) answers =
      e.text o "" ++ "\n" ++ textWith o es answers := by
  simp only [textWith, h]

variable {σ : Type} [Debugger σ]

/-- Entries are written in order, the later ones where the first one leads. -/
theorem run_writeEntries_cons (o : Options) (e : Entry) (es : List Entry)
    (h : σ) :
    (writeEntries o (e :: es)).run h =
      let first := (writeEntry o e).run h
      let others := (writeEntries o es).run first.2
      (first.1 ++ others.1, others.2) := rfl

/-- Writing entries is reading their variables one after the other; each
value is the answer to the reading that is made for it. -/
theorem exists_answers_writeEntries (o : Options) (es : List Entry) (h : σ) :
    let read := (Call.performAll
      ((es.filterMap Entry.genVar?).map Call.readVar)).run h
    ∃ answers, read.1 = answers.map (Except.map Answer.text) ∧
      (writeEntries o es).run h = (textWith o es answers, read.2) := by
  induction es generalizing h with
  | nil => exact ⟨[], rfl, rfl⟩
  | cons e es ih =>
      cases hvar : e.genVar? with
      | none =>
          have hfirst : (writeEntry o e).run h = (e.text o "" ++ "\n", h) := by
            unfold writeEntry
            rw [hvar]
            rfl
          obtain ⟨answers, hread, hrun⟩ := ih h
          rw [List.filterMap_cons_none hvar]
          refine ⟨answers, hread, ?_⟩
          simp only [run_writeEntries_cons, hfirst, hrun,
            textWith_cons_of_text hvar]
      | some name =>
          let read := (Debugger.readVar name : Request σ String).run h
          have hfirst : (writeEntry o e).run h =
              (e.text o (valueImage o read.1) ++ "\n", read.2) := by
            unfold writeEntry
            rw [hvar]
            rfl
          have hperform : (Call.readVar name).perform.run h =
              (read.1.map Answer.text, read.2) := Call.run_readVar name h
          -- the entries below are read where this reading leaves the debugger
          obtain ⟨answers, hread, hrun⟩ := ih read.2
          rw [List.filterMap_cons_some hvar, List.map_cons,
            Call.run_performAll_cons]
          refine ⟨read.1 :: answers, ?_, ?_⟩
          · simp only [hperform, hread, List.map_cons]
          · simp only [hperform, run_writeEntries_cons, hfirst, hrun,
              textWith_cons_of_value hvar]

end StateReport

-- ============================================================ the command

variable {σ : Type} [Debugger σ]

open StateReport (Options entries shown textWith)

/-- When the frame is lost nothing is shown, and nothing else is asked. -/
theorem Session.run_showState_of_error {s : Session} {o : Options}
    {d : Dialogue σ} {e : HostError} {h : σ}
    (lost : (Debugger.location : Request σ (Option GenLocation)).run d.host =
      (.error e, h)) :
    (s.showState o).run d = (.error (.host e), { d with host := h }) := by
  unfold showState
  rw [run_bind, Work.run_ask, Index.run_currentSnapshot?, lost]
  rfl

/-- When it is found, what is written for it is shown. -/
theorem Session.run_showState_of_ok {s : Session} {o : Options}
    {d : Dialogue σ} {l : Option GenLocation} {h h' : σ} {text : String}
    (found : (Debugger.location : Request σ (Option GenLocation)).run d.host =
      (.ok l, h))
    (wrote : (StateReport.write o (l.bind s.index.snapshotAt?)).run h =
      (text, h')) :
    (s.showState o).run d =
      (.ok (), { d with
        host := h'
        user := { d.user with output := d.user.output ++ text } }) := by
  unfold showState
  rw [run_bind, Work.run_ask, Index.run_currentSnapshot?, found]
  show (ExceptT.lift (Dialogue.withHost (StateReport.write o _)) >>= _ :
    Work σ Unit).run { d with host := h } = _
  rw [run_lift_bind]
  simp only [StateT.run] at wrote
  simp only [Dialogue.withHost, wrote]
  rfl

/-- Showing the state asks where the frame is, reads the variables that
are shown for it, one after the other, and then shows the text. -/
theorem Session.exists_answers_showState (s : Session) (o : Options)
    {d : Dialogue σ} {l : Option GenLocation} {h : σ}
    (found : (Debugger.location : Request σ (Option GenLocation)).run d.host =
      (.ok l, h)) :
    let snapshot := l.bind s.index.snapshotAt?
    let read := (Call.performAll ((shown o snapshot).map Call.readVar)).run h
    ∃ answers, read.1 = answers.map (Except.map Answer.text) ∧
      (s.showState o).run d =
        (.ok (), { d with
          host := read.2
          user := { d.user with
            output := d.user.output ++
              textWith o (entries o snapshot) answers } }) := by
  intro snapshot read
  obtain ⟨answers, hread, hwrite⟩ :=
    StateReport.exists_answers_writeEntries o (entries o snapshot) h
  rw [StateReport.filterMap_entries] at hread hwrite
  exact ⟨answers, hread, run_showState_of_ok found hwrite⟩

end SpecDebugger
