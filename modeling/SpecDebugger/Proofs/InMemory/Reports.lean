/-
Reports on the debugger in memory, of everything and of one binding.

A report is written entry by entry, and writing leaves the debugger as it
is, so that each entry has a line of its own that does not depend on the
entries around it (`run_writeEntries`). A report of one binding is
therefore a part of the report of everything as soon as its entry is one
of the entries there, and the entries of a scope are left out only if it
has no bindings at all (`mem_scopeEntries`). The binding that is searched
for in all scopes at once is the first one of its name among the entries
as well (`FirstCalled.fullEntries`).

That nothing was found can be seen from the text alone: the line of a
binding has one equals sign more than its name, and the message has none
(`bindingText_ne`).
-/
import SpecDebugger.Proofs.InMemory.Table
import SpecDebugger.StateReport

namespace SpecDebugger

-- ==================================================== the first binding

/-- The first binding of a name: none in the scopes around its own has
the name, and none that is declared before it in its own. -/
structure Snapshot.FirstCalled (s : Snapshot) (name : String)
    (b : Binding) : Prop where
  called : b.dslName = name
  first : ∃ outer st inner before after,
    s.scopes = outer ++ st :: inner ∧ st.bindings = before ++ b :: after ∧
      (∀ t ∈ outer, ∀ c ∈ t.bindings, c.dslName ≠ name) ∧
      ∀ c ∈ before, c.dslName ≠ name

/-- No binding is found when no scope has one of the name. -/
theorem Snapshot.findBinding?_eq_none_iff {s : Snapshot} {name : String} :
    s.findBinding? name = none ↔
      ∀ st ∈ s.scopes, ∀ b ∈ st.bindings, b.dslName ≠ name := by
  unfold findBinding? bindings
  rw [List.find?_eq_none]
  constructor
  · intro hnone st hst b hb
    simpa using hnone b (List.mem_flatMap.mpr ⟨st, hst, hb⟩)
  · intro hnone b hb
    obtain ⟨st, hst, hb⟩ := List.mem_flatMap.mp hb
    simpa using hnone st hst b hb

/-- What is found is the first of its name, the innermost scope first. -/
theorem Snapshot.firstCalled_of_findBinding? {s : Snapshot} {name : String}
    {b : Binding} (h : s.findBinding? name = some b) :
    s.FirstCalled name b := by
  unfold findBinding? bindings at h
  rw [List.find?_flatMap] at h
  obtain ⟨outer, st, inner, hscopes, hfound, houter⟩ :=
    List.findSome?_eq_some_iff.mp h
  obtain ⟨hcalled, before, after, hbindings, hbefore⟩ :=
    List.find?_eq_some_iff_append.mp hfound
  refine ⟨by simpa using hcalled, outer, st, inner, before, after, hscopes,
    hbindings, ?_, ?_⟩
  · intro t ht c hc
    simpa using List.find?_eq_none.mp (houter t ht) c hc
  · intro c hc
    simpa using hbefore c hc

-- ========================================================= the entries

namespace StateReport

theorem mem_originOf {sloc : Option SpecLocation} {b : Binding} :
    .binding b ∉ originOf sloc := by
  cases sloc <;> simp [originOf]

/-- A scope is left out of a report only when it has no bindings. -/
theorem mem_scopeEntries {st : ScopeState} {b : Binding} :
    .binding b ∈ scopeEntries st ↔ b ∈ st.bindings := by
  have hcurrent : .binding b ∉ evaluatingEntries st.current := by
    cases st.current <;> simp [evaluatingEntries, mem_originOf]
  unfold scopeEntries
  split
  next hempty =>
    simp only [ScopeState.isEmpty, Bool.and_eq_true,
      List.isEmpty_iff] at hempty
    simp [hempty.1.1]
  next => simp [hcurrent]

/-- The full report has an entry for every binding of every scope. -/
theorem mem_fullEntries {s : Snapshot} {b : Binding} :
    .binding b ∈ fullEntries s ↔ ∃ st ∈ s.scopes, b ∈ st.bindings := by
  have hmemoized :
      Entry.binding b ∉ (if s.memoized then [.memoized] else []) := by
    split <;> simp
  simp [fullEntries, mem_originOf, mem_scopeEntries, hmemoized]

/-- The entries of a scope, cut at one of its bindings. -/
theorem exists_scopeEntries_append {st : ScopeState} {b : Binding}
    {before after : List Binding} (h : st.bindings = before ++ b :: after) :
    ∃ rest, scopeEntries st =
      .gap :: before.map .binding ++ .binding b :: rest := by
  have hshown : ¬st.isEmpty = true := by
    simp [ScopeState.isEmpty, h]
  unfold scopeEntries
  rw [if_neg hshown, h, List.map_append, List.map_cons]
  exact ⟨_, by simp only [List.append_assoc, List.cons_append]; rfl⟩

end StateReport

open StateReport (Entry fullEntries scopeEntries)

/-- The first binding of a name is the first one of the name among the
entries of the full report. -/
theorem Snapshot.FirstCalled.exists_append {s : Snapshot} {name : String}
    {b : Binding} (h : s.FirstCalled name b) :
    ∃ front rest, fullEntries s = front ++ .binding b :: rest ∧
      ∀ c, .binding c ∈ front → c.dslName ≠ name := by
  obtain ⟨-, outer, st, inner, before, after, hscopes, hbindings, houter,
    hbefore⟩ := h
  obtain ⟨rest, hst⟩ := StateReport.exists_scopeEntries_append hbindings
  let around : Snapshot := { s with scopes := outer }
  refine ⟨fullEntries around ++ .gap :: before.map .binding,
    rest ++ inner.flatMap scopeEntries, ?_, ?_⟩
  · unfold fullEntries
    rw [hscopes, List.flatMap_append, List.flatMap_cons, hst]
    simp [around]
  · intro c hc
    rcases List.mem_append.mp hc with hout | hin
    · obtain ⟨t, ht, hc⟩ := StateReport.mem_fullEntries.mp hout
      exact houter t ht c hc
    · have hmem : c ∈ before := by simpa using hin
      exact hbefore c hmem

-- ============================================================ the lines

/-- The line of a binding is not the message that there is none: an
equals sign more stands in it than in the name. -/
theorem StateReport.bindingText_ne (name storage value : String) :
    name ++ storage ++ " = " ++ value ++ "\n" ≠
      "No binding called " ++ name ++ "\n" := by
  intro heq
  have hcount := congrArg (fun text : String => text.toList.count '=') heq
  have hsign : " = ".toList.count '=' = 1 := by decide
  have hmessage : "No binding called ".toList.count '=' = 0 := by decide
  simp only [String.toList_append, List.count_append, hsign, hmessage]
    at hcount
  omega

namespace InMemory

open StateReport (Options valueImage writeEntry writeEntries)

/-- The answer of the debugger when a variable is read. -/
def answer (h : InMemory) (name : String) : Except HostError String :=
  ((Debugger.readVar name : Request InMemory String).run h).1

/-- The line of an entry in a report, with its end. -/
def entryLine (h : InMemory) (o : Options) (e : Entry) : String :=
  let value := match e.genVar? with
    | none => ""
    | some name => valueImage o (h.answer name)
  e.text o value ++ "\n"

/-- The lines of some entries. -/
def entryLines (h : InMemory) (o : Options) (es : List Entry) : String :=
  String.join (es.map (h.entryLine o))

theorem run_writeEntry (o : Options) (e : Entry) (h : InMemory) :
    (writeEntry o e : StateM InMemory String).run h =
      (h.entryLine o e, h) := by
  unfold writeEntry entryLine
  cases e.genVar? with
  | none => rfl
  | some name =>
      -- the value is read, and the entry is written from the answer
      let read := (Debugger.readVar name : Request InMemory String).run h
      have hread : read = (h.answer name, h) :=
        Prod.ext rfl (h.state_readVar name)
      show (e.text o (valueImage o read.1) ++ "\n", read.2) = _
      rw [hread]

/-- Each entry is written as a line of its own. -/
theorem run_writeEntries (o : Options) (es : List Entry) (h : InMemory) :
    (writeEntries o es : StateM InMemory String).run h =
      (h.entryLines o es, h) := by
  induction es with
  | nil => rfl
  | cons e es ih =>
      let first := (writeEntry o e : StateM InMemory String).run h
      have hfirst : first = (h.entryLine o e, h) := run_writeEntry o e h
      let others := (writeEntries o es : StateM InMemory String).run first.2
      have hothers : others = (h.entryLines o es, h) := by
        simp only [others, hfirst]
        exact ih
      show (first.1 ++ others.1, others.2) = _
      rw [hfirst, hothers]
      unfold entryLines
      rw [List.map_cons, String.join_cons]

variable (h : InMemory) (o : Options)

/-- The line that says that a name has no binding. -/
@[simp]
theorem entryLine_noBinding (name : String) :
    h.entryLine o (.noBinding name) =
      "No binding called " ++ name ++ "\n" := rfl

/-- The line of a binding: its name, where its value is kept if that is
wanted, and the value. -/
@[simp]
theorem entryLine_binding (b : Binding) :
    h.entryLine o (.binding b) =
      b.dslName ++ (if o.storage then " (" ++ b.genName ++ ")" else "") ++
        " = " ++ valueImage o (h.answer b.genName) ++ "\n" := rfl

@[simp]
theorem entryLines_singleton (e : Entry) :
    h.entryLines o [e] = h.entryLine o e := by
  simp [entryLines]

/-- The lines do not depend on whether other entries are shown. -/
@[simp]
theorem entryLines_only (only : Option String) (es : List Entry) :
    h.entryLines { o with only } es = h.entryLines o es := by
  have hline : ∀ e, h.entryLine { o with only } e = h.entryLine o e := by
    intro e
    cases e <;> rfl
  exact congrArg String.join (List.map_congr_left fun e _ => hline e)

/-- For any snapshot, any debugger in memory and any settings, the report of
one name and the full report agree. The first says that there is no
binding of the name exactly when no entry of the full report is one.
Otherwise it is the line of the first binding of the name, outermost
scope first and in the order of declaration, with the variable if that is
to be shown; the entry of this binding is the first one of the name among
the entries of the full report, and the full report has the very line
between those of the entries before and after it. -/
theorem one_binding_as_in_full_report (s : Snapshot) (h : InMemory)
    (o : Options) (name : String) :
    let one := ((StateReport.write { o with only := some name } (some s) :
      StateM InMemory String).run h).1
    let full := ((StateReport.write { o with only := none } (some s) :
      StateM InMemory String).run h).1
    full = h.entryLines o (fullEntries s) ∧
    (one = "No binding called " ++ name ++ "\n" ↔
      ∀ c, .binding c ∈ fullEntries s → c.dslName ≠ name) ∧
    (one = "No binding called " ++ name ++ "\n" ∨
      ∃ b, s.FirstCalled name b ∧
        one = name ++ (if o.storage then " (" ++ b.genName ++ ")" else "") ++
          " = " ++ valueImage o (h.answer b.genName) ++ "\n" ∧
        ∃ front rest, fullEntries s = front ++ .binding b :: rest ∧
          (∀ c, .binding c ∈ front → c.dslName ≠ name) ∧
          full = h.entryLines o front ++ one ++ h.entryLines o rest) := by
  intro one full
  have hfull : full = h.entryLines o (fullEntries s) := by
    show ((writeEntries _ _ : StateM InMemory String).run h).1 = _
    rw [run_writeEntries, entryLines_only]
    rfl
  have hone : one = h.entryLines o
      (StateReport.entries { o with only := some name } (some s)) := by
    show ((writeEntries _ _ : StateM InMemory String).run h).1 = _
    rw [run_writeEntries, entryLines_only]
  refine ⟨hfull, ?_⟩
  rcases hfind : s.findBinding? name with _ | b
  · have hnone := Snapshot.findBinding?_eq_none_iff.mp hfind
    have hmessage : one = "No binding called " ++ name ++ "\n" := by
      simp [hone, StateReport.entries, hfind]
    refine ⟨iff_of_true hmessage ?_, .inl hmessage⟩
    intro c hc
    obtain ⟨st, hst, hc⟩ := StateReport.mem_fullEntries.mp hc
    exact hnone st hst c hc
  · have hfirst := Snapshot.firstCalled_of_findBinding? hfind
    obtain ⟨front, rest, hentries, hfront⟩ := hfirst.exists_append
    have hline : one = h.entryLine o (.binding b) := by
      simp [hone, StateReport.entries, hfind]
    have htext : one =
        name ++ (if o.storage then " (" ++ b.genName ++ ")" else "") ++
          " = " ++ valueImage o (h.answer b.genName) ++ "\n" := by
      simp [hline, hfirst.called]
    refine ⟨iff_of_false ?_ ?_, .inr ⟨b, hfirst, htext, front, rest,
      hentries, hfront, ?_⟩⟩
    · rw [htext]
      exact StateReport.bindingText_ne _ _ _
    · intro hnone
      refine hnone b ?_ hfirst.called
      rw [hentries]
      exact List.mem_append_right _ List.mem_cons_self
    · rw [hfull, hentries, hline]
      unfold entryLines
      rw [List.map_append, List.map_cons, String.join_append,
        String.join_cons, String.append_assoc]

end InMemory

end SpecDebugger
