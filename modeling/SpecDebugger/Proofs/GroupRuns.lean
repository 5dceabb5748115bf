/-
Group runs: what is asked of a debugger when the program is let run to
some lines.

A group run is all or nothing (`GroupRun`). Either every line gets a
hidden breakpoint, the program runs once, and every breakpoint is deleted
again, whatever the run and the deletions come to; or an insertion fails,
and the breakpoints inserted before it are deleted without the program
having run. Nothing is assumed of the debugger here: it may answer every
single request as it likes, with a number it has given before or with a
failure.

Both inductions follow the lists: the deletions those of the numbers, the
insertions the lines, with the numbers inserted so far as the part of the
record that is still to be deleted.
-/
import SpecDebugger.Proofs.Calls

namespace SpecDebugger

-- ============================================== the lines of a group

@[simp]
theorem mem_insertAscending {n k : Nat} {ns : List Nat} :
    k ∈ insertAscending n ns ↔ k = n ∨ k ∈ ns := by
  induction ns with
  | nil => simp [insertAscending]
  | cons m ms ih =>
      unfold insertAscending
      split
      next => simp
      next =>
        split
        next heq => simp [heq]
        next => simp [ih, or_left_comm]

/-- Inserting into ascending lines keeps them ascending and distinct. -/
theorem pairwise_insertAscending {n : Nat} {ns : List Nat}
    (h : ns.Pairwise (· < ·)) : (insertAscending n ns).Pairwise (· < ·) := by
  induction ns with
  | nil => simp [insertAscending]
  | cons m ms ih =>
      obtain ⟨hhead, htail⟩ := List.pairwise_cons.mp h
      unfold insertAscending
      split
      next hlt =>
        refine List.pairwise_cons.mpr ⟨?_, h⟩
        intro k hk
        rcases List.mem_cons.mp hk with rfl | hk
        · exact hlt
        · exact Nat.lt_trans hlt (hhead k hk)
      next hge =>
        split
        next => exact h
        next hne =>
          refine List.pairwise_cons.mpr ⟨?_, ih htail⟩
          intro k hk
          rcases mem_insertAscending.mp hk with rfl | hk
          · omega
          · exact hhead k hk

/-- The lines of a group are the lines it is made for. -/
@[simp]
theorem mem_ascending {n : Nat} {ns : List Nat} :
    n ∈ ascending ns ↔ n ∈ ns := by
  unfold ascending
  induction ns with
  | nil => simp
  | cons m ms ih => simp [ih]

/-- They ascend, so none of them is taken twice. -/
theorem pairwise_ascending (ns : List Nat) :
    (ascending ns).Pairwise (· < ·) := by
  unfold ascending
  induction ns with
  | nil => exact .nil
  | cons m ms ih => exact pairwise_insertAscending ih

-- ======================================================= the requests

/-- The request for a hidden breakpoint on a line. -/
def Call.hide (file : String) (line : Nat) : Call :=
  .insertBreakpoint ⟨file, line⟩ true

/-- The requests of a group run on some lines, the answers to them, and
what the run as a whole answers. -/
inductive GroupRun (file : String) (lines : List Nat) :
    List Call → List (Except HostError Answer) →
      Except HostError StopEvent → Prop where
  /-- Every line has its breakpoint: the program runs, and what was
  inserted is deleted, however the program ran and whatever the deletions
  answer. -/
  | ran {ids : List BreakpointId} {event : Except HostError StopEvent}
    {deleted : List (Except HostError Answer)}
    (each : ids.length = lines.length)
    (all : deleted.length = ids.length) :
    GroupRun file lines
      (lines.map (Call.hide file) ++ .resume :: ids.map .deleteBreakpoint)
      (ids.map (fun id => .ok (.breakpoint id)) ++
        event.map .stop :: deleted)
      event
  /-- A line has none: what was inserted is deleted, and the program does
  not run. -/
  | undone {before : List Nat} {line : Nat} {after : List Nat}
    {ids : List BreakpointId} {e : HostError}
    {deleted : List (Except HostError Answer)}
    (reached : lines = before ++ line :: after)
    (each : ids.length = before.length)
    (all : deleted.length = ids.length) :
    GroupRun file lines
      (before.map (Call.hide file) ++ Call.hide file line ::
        ids.map .deleteBreakpoint)
      (ids.map (fun id => .ok (.breakpoint id)) ++ .error e :: deleted)
      (.error e)

namespace BreakpointGroup

variable {σ : Type} [Debugger σ]

/-- Breakpoints are inserted in order, up to the first one that fails. -/
theorem run_insertAll_cons (file : String) (ids : List BreakpointId)
    (line : Nat) (lines : List Nat) (s : σ) :
    (insertAll file ids (line :: lines) :
        Request σ (List BreakpointId)).run s =
      match (Debugger.insertBreakpoint ⟨file, line⟩ true :
          Request σ BreakpointId).run s with
      | (.ok id, t) =>
        (insertAll file (ids ++ [id]) lines :
          Request σ (List BreakpointId)).run t
      | (.error e, t) => (.error e, ((cleanup ids).run t).2) := by
  simp only [insertAll, ExceptT.run, ExceptT.mk, bind, StateT.bind]
  rcases (Debugger.insertBreakpoint ⟨file, line⟩ true :
    Request σ BreakpointId) s with ⟨e | id, t⟩ <;> rfl

/-- A group run resumes, and cleans up whatever becomes of that. -/
theorem run_run (ids : List BreakpointId) (s : σ) :
    (run ids : Request σ StopEvent).run s =
      let resumed := (Debugger.resume : Request σ StopEvent).run s
      (resumed.1, ((cleanup ids).run resumed.2).2) := rfl

-- ========================================================= the record

/-- Cleaning up asks for one deletion after the other. -/
theorem record_cleanup (ids : List BreakpointId) (r : Recorded σ) :
    ∃ deleted : List (Except HostError Answer), deleted.length = ids.length ∧
      r.Adds (ids.map .deleteBreakpoint) deleted ((cleanup ids).run r).2 := by
  induction ids generalizing r with
  | nil => exact ⟨[], rfl, .nothing r r.host⟩
  | cons id ids ih =>
      have hfirst : r.Adds [.deleteBreakpoint id] _
          ((Debugger.deleteBreakpoint id : Request (Recorded σ) Unit).run
            r).2 := .noting rfl
      obtain ⟨deleted, hlength, hothers⟩ := ih _
      exact ⟨_ :: deleted, congrArg (· + 1) hlength, hfirst.trans hothers⟩

/-- What inserting has noted when it ends: the insertions, and if one
fails, the deletions of all numbers that there were by then. -/
inductive Inserting (file : String) (ids : List BreakpointId)
    (lines : List Nat) : List Call → List (Except HostError Answer) →
      Except HostError (List BreakpointId) → Prop where
  | all (new : List BreakpointId) (each : new.length = lines.length) :
    Inserting file ids lines (lines.map (Call.hide file))
      (new.map fun id => .ok (.breakpoint id)) (.ok (ids ++ new))
  | failed (before : List Nat) (new : List BreakpointId) {line : Nat}
    {after : List Nat} {e : HostError}
    {deleted : List (Except HostError Answer)}
    (reached : lines = before ++ line :: after)
    (each : new.length = before.length)
    (all : deleted.length = (ids ++ new).length) :
    Inserting file ids lines
      (before.map (Call.hide file) ++ Call.hide file line ::
        (ids ++ new).map .deleteBreakpoint)
      (new.map (fun id => .ok (.breakpoint id)) ++ .error e :: deleted)
      (.error e)

/-- A breakpoint on a further line is one more insertion in front. -/
theorem Inserting.cons {file : String} {ids : List BreakpointId}
    {id : BreakpointId} {line : Nat} {lines : List Nat} {calls : List Call}
    {answers : List (Except HostError Answer)}
    {result : Except HostError (List BreakpointId)}
    (h : Inserting file (ids ++ [id]) lines calls answers result) :
    Inserting file ids (line :: lines) (Call.hide file line :: calls)
      (.ok (.breakpoint id) :: answers) result := by
  cases h with
  | all new each =>
      rw [List.append_assoc]
      exact .all (id :: new) (congrArg (· + 1) each)
  | failed before new reached each all =>
      rw [List.append_assoc] at all ⊢
      exact .failed (line :: before) (id :: new)
        (congrArg (line :: ·) reached) (congrArg (· + 1) each) all

/-- What inserting asks for: all lines in order, or those up to one that
fails and then the deletion of the others. -/
theorem record_insertAll (file : String) (ids : List BreakpointId)
    (lines : List Nat) (r : Recorded σ) :
    let inserted := (insertAll file ids lines :
      Request (Recorded σ) (List BreakpointId)).run r
    ∃ calls answers, Inserting file ids lines calls answers inserted.1 ∧
      r.Adds calls answers inserted.2 := by
  induction lines generalizing ids r with
  | nil =>
      have hall : Inserting file ids [] [] [] (.ok (ids ++ [])) := .all [] rfl
      rw [List.append_nil] at hall
      exact ⟨[], [], hall, .nothing r r.host⟩
  | cons line lines ih =>
      rw [run_insertAll_cons]
      rcases hinsert : (Debugger.insertBreakpoint ⟨file, line⟩ true :
        Request (Recorded σ) BreakpointId).run r with ⟨e | id, t⟩
      -- the lines before this one are in, so they are taken out again
      · have hfirst : r.Adds [Call.hide file line] [.error e] t :=
          .noting hinsert
        obtain ⟨deleted, hlength, hdeleted⟩ := record_cleanup ids t
        have hfailed : Inserting file ids (line :: lines)
            (Call.hide file line :: (ids ++ []).map .deleteBreakpoint)
            (.error e :: deleted) (.error e) :=
          .failed [] [] rfl rfl (by rw [List.append_nil]; exact hlength)
        rw [List.append_nil] at hfailed
        exact ⟨_, _, hfailed, hfirst.trans hdeleted⟩
      · have hfirst : r.Adds [Call.hide file line] [.ok (.breakpoint id)] t :=
          .noting hinsert
        obtain ⟨calls, answers, hothers, hadds⟩ := ih (ids ++ [id]) t
        exact ⟨_, _, hothers.cons, hfirst.trans hadds⟩

/-- What is asked in a run to some lines is a group run on these lines in
ascending order. -/
theorem record_runTo (file : String) (lines : List Nat) (r : Recorded σ) :
    let ran := (runTo file lines : Request (Recorded σ) StopEvent).run r
    ∃ calls answers, GroupRun file (ascending lines) calls answers ran.1 ∧
      r.Adds calls answers ran.2 := by
  obtain ⟨calls, answers, hinserting, hadds⟩ :=
    record_insertAll file [] (ascending lines) r
  unfold runTo create
  rw [run_bind]
  generalize (insertAll file [] (ascending lines) :
    Request (Recorded σ) (List BreakpointId)).run r = inserted
    at hinserting hadds
  rcases inserted with ⟨e | ids, t⟩
  · cases hinserting with
    | failed before new reached each all =>
        exact ⟨_, _, .undone reached each all, hadds⟩
  · cases hinserting with
    | all ids each =>
        rcases hresume : (Debugger.resume :
          Request (Recorded σ) StopEvent).run t with ⟨event, u⟩
        have hresumed : t.Adds [.resume] [event.map .stop] u := .noting hresume
        -- whatever came of running, the group is taken out
        obtain ⟨deleted, hlength, hdeleted⟩ := record_cleanup ids u
        have hrun : (run ids : Request (Recorded σ) StopEvent).run t =
            (event, ((cleanup ids).run u).2) := by
          rw [run_run, hresume]
        rw [List.nil_append]
        dsimp only
        rw [hrun]
        exact ⟨_, _, .ran each hlength,
          hadds.trans (hresumed.trans hdeleted)⟩

-- ========================================================= the mirror

theorem mirrors_cleanup (ids : List BreakpointId) :
    Mirrors (cleanup ids : StateM (Recorded σ) Unit) (cleanup ids) := by
  induction ids with
  | nil => exact .pure ()
  | cons id ids ih => exact .bind (.noting _ _ _) fun _ => ih

theorem mirrors_insertAll (file : String) (ids : List BreakpointId)
    (lines : List Nat) :
    Mirrors (insertAll file ids lines :
        Request (Recorded σ) (List BreakpointId)).run
      (insertAll file ids lines : Request σ (List BreakpointId)).run := by
  induction lines generalizing ids with
  | nil => exact .pure _
  | cons line lines ih =>
      apply Mirrors.bind (.noting _ _ _)
      intro answer
      cases answer with
      | ok id => exact ih (ids ++ [id])
      | error e => exact .bind (mirrors_cleanup ids) fun _ => .pure _

/-- A whole group run is the same on the record and below. -/
theorem mirrors_runTo (file : String) (lines : List Nat) :
    Mirrors (runTo file lines : Request (Recorded σ) StopEvent).run
      (runTo file lines : Request σ StopEvent).run := by
  apply Mirrors.bindE (mirrors_insertAll file [] (ascending lines))
  intro ids
  apply Mirrors.bind (.noting _ _ _)
  intro event
  exact .bind (mirrors_cleanup ids) fun _ => .pure _

end BreakpointGroup

-- ====================================================== steps to lines

namespace Stepping

variable {σ : Type} [Debugger σ]

/-- A step that lets the program run to the lines that `aims` has for the
frame, if it has any. -/
def toLines (ix : Index) (aims : Snapshot → Option (List Nat)) :
    Step σ StopEvent := do
  let s ← Step.snapshot ix
  match aims s with
  | none => throw .notEvaluating
  | some lines => Step.ask (BreakpointGroup.runTo ix.filename lines)

def nextAims (s : Snapshot) : Option (List Nat) :=
  some (s.property.nextLines s.location.line)

def outAims (s : Snapshot) : Option (List Nat) :=
  s.innermost?.map fun e => [s.property.doneLine e.id]

/-- `next` is a step to the marker lines ahead. -/
theorem next_eq_toLines (ix : Index) :
    (next ix : Step σ StopEvent) = toLines ix nextAims := rfl

/-- `out` is a step to the line where the expression is done. -/
theorem out_eq_toLines (ix : Index) :
    (out ix : Step σ StopEvent) = toLines ix outAims := by
  unfold out toLines outAims
  refine congrArg (Step.snapshot ix >>= ·) (funext fun s => ?_)
  cases s.innermost? <;> rfl

/-- A step to lines asks where the frame is, and runs to the lines that
its snapshot gives, if there are any. -/
theorem run_toLines (ix : Index) (aims : Snapshot → Option (List Nat))
    (s : σ) :
    (toLines ix aims).run s =
      match (Debugger.location : Request σ (Option GenLocation)).run s with
      | (.error e, t) => (.error (.host e), t)
      | (.ok l, t) =>
        match l.bind ix.snapshotAt? with
        | none => (.error .notInProperty, t)
        | some snap =>
          match aims snap with
          | none => (.error .notEvaluating, t)
          | some lines =>
            (Step.ask (BreakpointGroup.runTo ix.filename lines)).run t := by
  unfold toLines
  rw [run_bind, Step.run_snapshot]
  rcases (Debugger.location : Request σ (Option GenLocation)).run s
    with ⟨e | l, t⟩
  · rfl
  · dsimp only
    rcases l.bind ix.snapshotAt? with _ | snap
    · rfl
    · dsimp only
      cases aims snap <;> rfl

/-- A step to lines asks for nothing when the frame has none, and for a
group run on them when it has some. -/
theorem record_toLines (ix : Index) (aims : Snapshot → Option (List Nat))
    {r : Recorded σ} {answer : Except HostError (Option GenLocation)} {t : σ}
    (told : (Debugger.location : Request σ (Option GenLocation)).run r.host =
      (answer, t)) :
    let stepped := (toLines ix aims).run r
    (∃ e, stepped.1 = .error e ∧ r.Adds [] [] stepped.2 ∧
        ∀ l, answer = .ok (some l) → (ix.snapshotAt? l).bind aims = none) ∨
      ∃ l snap lines calls answers event, answer = .ok (some l) ∧
        ix.snapshotAt? l = some snap ∧ aims snap = some lines ∧
        GroupRun ix.filename (ascending lines) calls answers event ∧
        r.Adds calls answers stepped.2 ∧
        stepped.1 = event.mapError .host := by
  intro stepped
  have looked : (Debugger.location :
      Request (Recorded σ) (Option GenLocation)).run r =
      (answer, { r with host := t }) := by
    show (_, _) = _
    rw [told]
  have unnoted : r.Adds [] [] { r with host := t } := .nothing r t
  have hstepped : stepped = _ := run_toLines ix aims r
  rw [looked] at hstepped
  rcases answer with e | l
  · rw [hstepped]
    exact .inl ⟨_, rfl, unnoted, nofun⟩
  · dsimp only at hstepped
    rcases hsnap : l.bind ix.snapshotAt? with _ | snap
    · rw [hsnap] at hstepped
      rw [hstepped]
      refine .inl ⟨_, rfl, unnoted, ?_⟩
      intro l' hl
      obtain rfl := Except.ok.inj hl
      exact congrArg (Option.bind · aims) hsnap
    · rw [hsnap] at hstepped
      dsimp only at hstepped
      obtain ⟨l, rfl, hl⟩ := Option.bind_eq_some_iff.mp hsnap
      rcases haims : aims snap with _ | lines
      · rw [haims] at hstepped
        rw [hstepped]
        refine .inl ⟨_, rfl, unnoted, ?_⟩
        intro l' hl'
        obtain rfl := Option.some.inj (Except.ok.inj hl')
        rw [hl]
        exact haims
      · rw [haims] at hstepped
        rw [hstepped]
        obtain ⟨calls, answers, hgroup, hadds⟩ :=
          BreakpointGroup.record_runTo ix.filename lines { r with host := t }
        exact .inr ⟨l, snap, lines, calls, answers, _, rfl, hl, haims,
          hgroup, unnoted.trans hadds, rfl⟩

end Stepping

-- ==================================================== all or nothing

/-- On every debugger, and from every state of it: letting the program
run to some lines makes the requests of a group run on the distinct ones
in ascending order and no other request that could change the debugger,
and it answers what the group run answers. It does so with or without a
record. The steps to the next expression and out of one make a group run
or, when they fail before it, no such request at all. -/
theorem group_run_all_or_nothing {σ : Type} [Debugger σ] (file : String)
    (lines : List Nat) (r : Recorded σ) :
    let ran :=
      (BreakpointGroup.runTo file lines : Request (Recorded σ) StopEvent).run r
    (∃ calls answers, GroupRun file (ascending lines) calls answers ran.1 ∧
        r.Adds calls answers ran.2) ∧
      (ascending lines).Pairwise (· < ·) ∧
      (∀ n, n ∈ ascending lines ↔ n ∈ lines) ∧
      (BreakpointGroup.runTo file lines : Request σ StopEvent).run r.host =
        (ran.1, ran.2.host) ∧
      ∀ (ix : Index), ∀ go ∈ [(Stepping.next ix : Step (Recorded σ) StopEvent),
          Stepping.out ix],
        let stepped := go.run r
        (∃ e, stepped.1 = .error e ∧ r.Adds [] [] stepped.2) ∨
          ∃ aimed calls answers event,
            GroupRun ix.filename (ascending aimed) calls answers event ∧
            r.Adds calls answers stepped.2 ∧
            stepped.1 = event.mapError .host := by
  intro ran
  refine ⟨BreakpointGroup.record_runTo file lines r, pairwise_ascending lines,
    fun n => mem_ascending, BreakpointGroup.mirrors_runTo file lines r, ?_⟩
  intro ix go hgo stepped
  have hlines : ∃ aims, go = Stepping.toLines ix aims := by
    rcases List.mem_cons.mp hgo with rfl | hout
    · exact ⟨_, Stepping.next_eq_toLines ix⟩
    · rw [List.mem_singleton.mp hout]
      exact ⟨_, Stepping.out_eq_toLines ix⟩
  obtain ⟨aims, rfl⟩ := hlines
  rcases Stepping.record_toLines ix aims (r := r) rfl with
    ⟨e, hfails, hadds, -⟩ |
      ⟨-, -, aimed, calls, answers, event, -, -, -, hgroup, hadds, hresult⟩
  · exact .inl ⟨e, hfails, hadds⟩
  · exact .inr ⟨aimed, calls, answers, event, hgroup, hadds, hresult⟩

end SpecDebugger
