/-
Which stop a command to run reports. The output that such a command reads
is cut at two lines: at its answer, and at a stop after that, unless one
has already been heard. So there are two cases (`reports_stop_iff`). If no
stop stands before the answer and the answer is that the program runs, the
first stop after the answer is reported: it ends the execution that the
command has started (`OwnStop`). But if stops stand before the answer, the
last of them is reported, and nothing after the answer is read
(`StaleStop`): it is left over from an earlier command, and the stop of
this command is left over for the next one.

Both readers hear all lines up to the first one of a kind, so they are
characterized together (`ReadsTo.eq_ok_iff`, by induction on the output).
-/
import Mathlib.Control.Monad.Basic
import SpecDebugger.MachineInterface.Script
import SpecDebugger.Proofs.MachineInterface.Calls

namespace SpecDebugger.MachineInterface.Connection

-- ======================================================= first lines

/-- Whether some output is cut at its first line of a kind. What stands
before it can be read. -/
structure CutAt (kind : OutputLine → Prop) (output before : List OutputLine)
    (line : OutputLine) (after : List OutputLine) : Prop where
  split : output = before ++ line :: after
  found : kind line
  legible : .garbled ∉ before
  first : ∀ l ∈ before, ¬ kind l

namespace CutAt

variable {kind : OutputLine → Prop} {head line : OutputLine}
  {output before after : List OutputLine}

theorem not_nil : ¬ CutAt kind [] before line after := by
  intro h
  have hsplit := h.split
  cases before <;> cases hsplit

theorem of_found (h : kind head) :
    CutAt kind (head :: output) [] head output :=
  ⟨rfl, h, List.not_mem_nil, List.forall_mem_nil _⟩

/-- A line of another kind in front moves the cut along. -/
theorem cons (hlegible : head ≠ .garbled) (hkind : ¬ kind head)
    (h : CutAt kind output before line after) :
    CutAt kind (head :: output) (head :: before) line after where
  split := congrArg (head :: ·) h.split
  found := h.found
  legible := by
    rw [List.mem_cons, not_or]
    exact ⟨hlegible.symm, h.legible⟩
  first := List.forall_mem_cons.mpr ⟨hkind, h.first⟩

/-- The first line is the one that output is cut at, or it is passed. -/
theorem uncons (h : CutAt kind (head :: output) before line after) :
    (before = [] ∧ line = head ∧ after = output ∧ kind head) ∨
      ∃ passed, before = head :: passed ∧ head ≠ .garbled ∧ ¬ kind head ∧
        CutAt kind output passed line after := by
  obtain ⟨hsplit, hfound, hlegible, hfirst⟩ := h
  cases before with
  | nil =>
      cases hsplit
      exact Or.inl ⟨rfl, rfl, rfl, hfound⟩
  | cons first passed =>
      cases hsplit
      rw [List.mem_cons, not_or] at hlegible
      obtain ⟨hkind, hpassed⟩ := List.forall_mem_cons.mp hfirst
      exact Or.inr ⟨passed, rfl, Ne.symm hlegible.1, hkind,
        rfl, hfound, hlegible.2, hpassed⟩

/-- Output is cut in one place. -/
theorem unique {before' after' : List OutputLine} {line' : OutputLine}
    (h : CutAt kind output before line after)
    (h' : CutAt kind output before' line' after') : before = before' := by
  induction output generalizing before before' with
  | nil => exact absurd h not_nil
  | cons head output ih =>
      rcases h.uncons with ⟨rfl, -, -, hfound⟩ | ⟨passed, rfl, -, hnot, hrest⟩
      · rcases h'.uncons with ⟨rfl, -⟩ | ⟨-, -, -, hnot, -⟩
        · rfl
        · exact absurd hfound hnot
      · rcases h'.uncons with ⟨-, -, -, hfound⟩ | ⟨passed', rfl, -, -, hrest'⟩
        · exact absurd hfound hnot
        · rw [ih hrest hrest']

end CutAt

-- =========================================================== readers

/-- Whether a line is the answer to the command of `token`. -/
def IsAnswer (token : Nat) (line : OutputLine) : Prop :=
  ∃ category fields,
    Reading.ofLine line = .record (.result (some token) category fields)

/-- The stop that a line reports. -/
def stopIn? (line : OutputLine) : Option StopEvent :=
  match Reading.ofLine line with
  | .record r => stop? r
  | _ => none

/-- The stops that some output reports, in order. -/
def stopsIn (output : List OutputLine) : List StopEvent :=
  output.filterMap stopIn?

/-- Takes a line that is not waited for. -/
def Heard.hear (h : Heard) (line : OutputLine) : Heard :=
  match Reading.ofLine line with
  | .record r => h.note r
  | _ => h

/-- A record that is a stop takes the place of the one before. -/
@[simp]
theorem stop_note (h : Heard) (r : Record) :
    (h.note r).stop = (stop? r).or h.stop := by
  unfold Heard.note
  split
  next => rfl
  next =>
    split
    next hstop => rw [hstop]; rfl
    next hstop => rw [hstop]; rfl

@[simp]
theorem stop_hear (h : Heard) (line : OutputLine) :
    (h.hear line).stop = (stopIn? line).or h.stop := by
  unfold Heard.hear stopIn?
  split
  next r hr => exact stop_note h r
  next hr => rfl

@[simp]
theorem stopsIn_cons (line : OutputLine) (output : List OutputLine) :
    stopsIn (line :: output) = (stopIn? line).toList ++ stopsIn output := by
  unfold stopsIn
  rw [List.filterMap_cons]
  cases stopIn? line <;> rfl

/-- Of several stops the last one is kept. -/
@[simp]
theorem stop_foldl_hear (h : Heard) (output : List OutputLine) :
    (output.foldl Heard.hear h).stop =
      (stopsIn output).getLast?.or h.stop := by
  induction output generalizing h with
  | nil => rfl
  | cons line output ih =>
      rw [List.foldl_cons, ih, stop_hear, stopsIn_cons, List.getLast?_append,
        Option.or_assoc]
      cases stopIn? line <;> rfl

/-- What is heard of some output is its last stop. -/
theorem stop_heard (output : List OutputLine) :
    (output.foldl Heard.hear {}).stop = (stopsIn output).getLast? := by
  simp

theorem ofLine_ne_garbled {line : OutputLine} (h : line ≠ .garbled) :
    Reading.ofLine line ≠ .garbled := by
  cases line with
  | garbled => exact absurd rfl h
  | text line =>
      unfold Reading.ofLine
      grind

/-- A reader that goes up to the first line of a kind and hears the lines
before. What it finds depends on what it has heard and on that line. -/
structure ReadsTo {α : Type} (kind : OutputLine → Prop)
    (finds : Heard → OutputLine → Option α)
    (read : Heard → List OutputLine → Except HostError α × List OutputLine) :
    Prop where
  nil : ∀ h, ∃ e, read h [] = (.error e, [])
  garbled : ∀ h lines, ∃ e, read h (.garbled :: lines) = (.error e, lines)
  passed : ∀ h {line} lines, line ≠ .garbled → ¬ kind line →
    read h (line :: lines) = read (h.hear line) lines
  found : ∀ h {line} lines, kind line →
    ∃ a, finds h line = some a ∧ read h (line :: lines) = (.ok a, lines)

/-- A reader succeeds just when output is cut at a line of its kind. -/
theorem ReadsTo.eq_ok_iff {α : Type} {kind : OutputLine → Prop}
    {finds : Heard → OutputLine → Option α}
    {read : Heard → List OutputLine → Except HostError α × List OutputLine}
    (reads : ReadsTo kind finds read) {h : Heard}
    {output after : List OutputLine} {a : α} :
    read h output = (.ok a, after) ↔
      ∃ before line, CutAt kind output before line after ∧
        finds (before.foldl Heard.hear h) line = some a := by
  induction output generalizing h with
  | nil =>
      obtain ⟨e, he⟩ := reads.nil h
      rw [he]
      constructor
      · intro hrun
        cases hrun
      · rintro ⟨before, line, hcut, -⟩
        exact absurd hcut CutAt.not_nil
  | cons head output ih =>
      -- a line ends the wait in failure, ends it well, or is heard
      by_cases hlegible : head = .garbled
      · subst hlegible
        obtain ⟨e, he⟩ := reads.garbled h output
        rw [he]
        constructor
        · intro hrun
          cases hrun
        · rintro ⟨before, line, hcut, -⟩
          rcases hcut.uncons with ⟨-, -, -, hkind⟩ | ⟨-, -, hne, -⟩
          · obtain ⟨a', -, hrun⟩ := reads.found h output hkind
            rw [he] at hrun
            cases hrun
          · exact absurd rfl hne
      · by_cases hkind : kind head
        · obtain ⟨b, hb, hrun⟩ := reads.found h output hkind
          rw [hrun]
          constructor
          · intro heq
            cases heq
            exact ⟨[], head, .of_found hkind, hb⟩
          · rintro ⟨before, line, hcut, hfinds⟩
            rcases hcut.uncons with ⟨rfl, rfl, rfl, -⟩ | ⟨-, -, -, hnot, -⟩
            · cases hb.symm.trans hfinds
              rfl
            · exact absurd hkind hnot
        · rw [reads.passed h output hlegible hkind, ih]
          constructor
          · rintro ⟨before, line, hcut, hfinds⟩
            exact ⟨head :: before, line, hcut.cons hlegible hkind, hfinds⟩
          · rintro ⟨before, line, hcut, hfinds⟩
            rcases hcut.uncons with
              ⟨-, rfl, -, hhead⟩ | ⟨passed, rfl, -, -, hcut⟩
            · exact absurd hhead hkind
            · exact ⟨passed, line, hcut, hfinds⟩

/-- What an answer gives to the wait for it. -/
def answerOf (h : Heard) (line : OutputLine) :
    Option (String × List (String × Value) × Heard) :=
  match Reading.ofLine line with
  | .record (.result _ category fields) => some (category, fields, h)
  | _ => none

/-- The reader of results is one that looks for the answer of its token. -/
theorem awaitResult_reads (token : Nat) :
    ReadsTo (IsAnswer token) answerOf (awaitResult token) where
  nil h := ⟨_, rfl⟩
  garbled h lines := ⟨_, rfl⟩
  passed h line lines hlegible hanswer := by
    rcases hline : Reading.ofLine line with _ | r | _
    · simp only [awaitResult, Heard.hear, hline]
    · cases r with
      | result t category fields =>
          have ht : t ≠ some token := by
            rintro rfl
            exact hanswer ⟨category, fields, hline⟩
          simp only [awaitResult, Heard.hear, hline, if_neg ht]
          rfl
      | async kind category fields =>
          simp only [awaitResult, Heard.hear, hline]
      | stream kind text => simp only [awaitResult, Heard.hear, hline]
      | prompt => simp only [awaitResult, Heard.hear, hline]
    · exact absurd hline (ofLine_ne_garbled hlegible)
  found h line lines hanswer := by
    obtain ⟨category, fields, hline⟩ := hanswer
    refine ⟨(category, fields, h), ?_, ?_⟩
    · simp only [answerOf, hline]
    · simp only [awaitResult, hline, if_true]

/-- Whether a line reports a stop. -/
def IsStop (line : OutputLine) : Prop := (stopIn? line).isSome = true

theorem awaitStop_reads :
    ReadsTo IsStop (fun h line => some (h.hear line)) awaitStop where
  nil h := ⟨_, rfl⟩
  garbled h lines := ⟨_, rfl⟩
  passed h line lines hlegible hstop := by
    unfold IsStop stopIn? at hstop
    rcases hline : Reading.ofLine line with _ | r | _
    · simp only [awaitStop, Heard.hear, hline]
    · simp only [hline] at hstop
      simp only [awaitStop, Heard.hear, hline, if_neg hstop]
    · exact absurd hline (ofLine_ne_garbled hlegible)
  found h line lines hstop := by
    refine ⟨_, rfl, ?_⟩
    unfold IsStop stopIn? at hstop
    rcases hline : Reading.ofLine line with _ | r | _
    · simp only [hline] at hstop
      cases hstop
    · simp only [hline] at hstop
      simp only [awaitStop, Heard.hear, hline, if_pos hstop]
    · simp only [hline] at hstop
      cases hstop

-- ====================================================== the two cases

/-- The stop of a command's own: the command is answered by the program
running, nothing has stopped before, and this is the first stop after. -/
inductive OwnStop (token : Nat) (output : List OutputLine) (event : StopEvent)
    (unread : List OutputLine) : Prop
  | intro {before after passed : List OutputLine} {answer line : OutputLine}
      {fields : List (String × Value)}
      (answered : CutAt (IsAnswer token) output before answer after)
      (running : Reading.ofLine answer =
        .record (.result (some token) "running" fields))
      (fresh : stopsIn before = [])
      (stopped : CutAt IsStop after passed line unread)
      (reports : stopIn? line = some event)

/-- A stop that was there before the command was answered, the last one of
those. What is after the answer is left unread. -/
inductive StaleStop (token : Nat) (output : List OutputLine)
    (event : StopEvent) (unread : List OutputLine) : Prop
  | intro {before : List OutputLine} {answer : OutputLine} {category : String}
      {fields : List (String × Value)}
      (answered : CutAt (IsAnswer token) output before answer unread)
      (accepted : Reading.ofLine answer =
        .record (.result (some token) category fields))
      (noError : category ≠ "error") (noExit : category ≠ "exit")
      (last : (stopsIn before).getLast? = some event)

/-- The stop that is found is the first one of the output. -/
theorem awaitStop_stop_iff {h : Heard} {lines unread : List OutputLine}
    {event : StopEvent} :
    (∃ h', awaitStop h lines = (.ok h', unread) ∧ h'.stop = some event) ↔
      ∃ passed line, CutAt IsStop lines passed line unread ∧
        stopIn? line = some event := by
  have hstop : ∀ (h : Heard) {line : OutputLine}, IsStop line →
      (h.hear line).stop = stopIn? line := by
    intro h line hline
    simp [Option.or_of_isSome hline]
  constructor
  · rintro ⟨h', hrun, hevent⟩
    obtain ⟨passed, line, hcut, hfinds⟩ := awaitStop_reads.eq_ok_iff.mp hrun
    cases hfinds
    exact ⟨passed, line, hcut, (hstop _ hcut.found).symm.trans hevent⟩
  · rintro ⟨passed, line, hcut, hevent⟩
    exact ⟨_, awaitStop_reads.eq_ok_iff.mpr ⟨passed, line, hcut, rfl⟩,
      (hstop _ hcut.found).trans hevent⟩

/-- A response reports a stop that was heard before, or one that is waited
for if none was and the program runs. -/
theorem conclude_stop_iff {category : String} {fields : List (String × Value)}
    {h : Heard} {lines unread : List OutputLine} {event : StopEvent} :
    (∃ response, conclude category fields h lines = (.ok response, unread) ∧
        response.stop = some event) ↔
      (category ≠ "error" ∧ category ≠ "exit" ∧ h.stop = some event ∧
          unread = lines) ∨
        (category = "running" ∧ h.stop = none ∧
          ∃ h', awaitStop h lines = (.ok h', unread) ∧
            h'.stop = some event) := by
  unfold conclude
  by_cases herror : category = "error"
  · simp [herror]
  by_cases hexit : category = "exit"
  · simp [hexit]
  rw [if_neg herror, if_neg hexit]
  -- a stop heard before keeps the reader from waiting for the next one
  by_cases hwait : category = "running" ∧ h.stop.isNone
  · obtain ⟨hrunning, hnone⟩ := id hwait
    rw [if_pos hwait]
    rw [Option.isNone_iff_eq_none] at hnone
    constructor
    · rintro ⟨response, hrun, hevent⟩
      rcases hstop : awaitStop h lines with ⟨e | h', rest⟩
      · rw [hstop] at hrun
        cases hrun
      · rw [hstop] at hrun
        cases hrun
        exact Or.inr ⟨hrunning, hnone, h', rfl, hevent⟩
    · rintro (⟨-, -, hevent, -⟩ | ⟨-, -, h', hstop, hevent⟩)
      · cases hnone.symm.trans hevent
      · rw [hstop]
        exact ⟨_, rfl, hevent⟩
  · rw [if_neg hwait]
    constructor
    · rintro ⟨response, hrun, hevent⟩
      cases hrun
      exact Or.inl ⟨herror, hexit, hevent, rfl⟩
    · rintro (⟨-, -, hevent, rfl⟩ | ⟨hrunning, hnone, -⟩)
      · exact ⟨_, rfl, hevent⟩
      · exact absurd ⟨hrunning, Option.isNone_iff_eq_none.mpr hnone⟩ hwait

/-- The result that is found is the first one of the token, with what
was heard before it. -/
theorem awaitResult_eq_ok_iff {token : Nat} {output after : List OutputLine}
    {category : String} {fields : List (String × Value)} {h h' : Heard} :
    awaitResult token h output = (.ok (category, fields, h'), after) ↔
      ∃ before line, CutAt (IsAnswer token) output before line after ∧
        Reading.ofLine line =
          .record (.result (some token) category fields) ∧
        before.foldl Heard.hear h = h' := by
  rw [(awaitResult_reads token).eq_ok_iff]
  refine exists_congr fun before => exists_congr fun line =>
    and_congr_right fun hcut => ?_
  obtain ⟨category', fields', hline⟩ := hcut.found
  simp [answerOf, hline, and_assoc]

/-- A response reports a stop in two cases. -/
theorem awaitResponse_stop_iff {token : Nat} {output unread : List OutputLine}
    {event : StopEvent} :
    (∃ response, awaitResponse token output = (.ok response, unread) ∧
        response.stop = some event) ↔
      OwnStop token output event unread ∨
        StaleStop token output event unread := by
  unfold awaitResponse
  constructor
  · rintro ⟨response, hrun, hevent⟩
    rcases hresult : awaitResult token {} output with ⟨e | answer, after⟩
    · rw [hresult] at hrun
      cases hrun
    · obtain ⟨category, fields, h⟩ := answer
      rw [hresult] at hrun
      obtain ⟨before, answer, hcut, hanswer, rfl⟩ :=
        awaitResult_eq_ok_iff.mp hresult
      -- the stop was heard before the result, or waited for after it
      have hcases := conclude_stop_iff.mp ⟨response, hrun, hevent⟩
      rw [stop_heard] at hcases
      rcases hcases with ⟨herror, hexit, hlast, rfl⟩ | ⟨rfl, hnone, hstop⟩
      · exact Or.inr ⟨hcut, hanswer, herror, hexit, hlast⟩
      · obtain ⟨passed, line, hstopped, hline⟩ := awaitStop_stop_iff.mp hstop
        exact Or.inl
          ⟨hcut, hanswer, List.getLast?_eq_none_iff.mp hnone, hstopped, hline⟩
  · rintro (⟨hcut, hanswer, hfresh, hstopped, hline⟩ |
      ⟨hcut, hanswer, herror, hexit, hlast⟩)
    · rw [awaitResult_eq_ok_iff.mpr ⟨_, _, hcut, hanswer, rfl⟩]
      refine conclude_stop_iff.mpr (Or.inr
        ⟨rfl, ?_, awaitStop_stop_iff.mpr ⟨_, _, hstopped, hline⟩⟩)
      rw [stop_heard, hfresh]
      rfl
    · rw [awaitResult_eq_ok_iff.mpr ⟨_, _, hcut, hanswer, rfl⟩]
      refine conclude_stop_iff.mpr (Or.inl ⟨herror, hexit, ?_, rfl⟩)
      rw [stop_heard, hlast]

/-- While a stale stop is there, a command does not report its own. -/
theorem StaleStop.not_ownStop {token : Nat}
    {output unread unread' : List OutputLine} {event event' : StopEvent}
    (h : StaleStop token output event unread) :
    ¬ OwnStop token output event' unread' := by
  rintro ⟨hown, -, hfresh, -, -⟩
  obtain ⟨hcut, -, -, -, hlast⟩ := h
  rw [hcut.unique hown, hfresh] at hlast
  cases hlast

-- =========================================================== running

variable {π : Type} [Program π]

/-- What a command reads: what was left unread, and then what the program
writes to it. -/
def heardBy (text : String) (c : Connection π) : List OutputLine :=
  c.unread ++ Program.replies c.program (commandLines (c.token + 1) text)

/-- Whether a command to run leads from a connection to another one and
reports a stop. -/
structure StopsBy (text : String) (event : StopEvent)
    (c c' : Connection π) : Prop where
  program : c'.program =
    Program.after c.program (commandLines (c.token + 1) text)
  token : c'.token = c.token + 1
  stop : OwnStop c'.token (heardBy text c) event c'.unread ∨
    StaleStop c'.token (heardBy text c) event c'.unread

/-- A run is told to have stopped exactly when the output says so. -/
theorem runToStop_eq_ok_iff {text : String} {event : StopEvent}
    {c c' : Connection π} :
    (runToStop text).run c = (.ok event, c') ↔ StopsBy text event c c' := by
  unfold runToStop
  rw [run_bind_eq_ok]
  constructor
  · rintro ⟨response, t, hrun, hreport⟩
    rw [run_execute] at hrun
    obtain ⟨hresponse, rfl⟩ := Prod.mk.inj hrun
    split at hreport
    next event' hevent =>
      cases hreport
      exact ⟨rfl, rfl, awaitResponse_stop_iff.mp
        ⟨response, Prod.ext hresponse rfl, hevent⟩⟩
    next => cases hreport
  · rintro ⟨hprogram, htoken, hstop⟩
    rw [htoken] at hstop
    obtain ⟨response, hresponse, hevent⟩ := awaitResponse_stop_iff.mpr hstop
    refine ⟨response, c', ?_, ?_⟩
    · obtain ⟨program, unread, token⟩ := c'
      rw [run_execute]
      dsimp only [heardBy] at hresponse hprogram htoken ⊢
      rw [hresponse, hprogram, htoken]
    · rw [hevent]
      rfl

/-- A command to run reports its own stop, or a stale one, and nothing else
is ever reported as a stop. -/
theorem reports_stop_iff (event : StopEvent) (c c' : Connection π) :
    (Debugger.resume.run c = (.ok event, c') ↔
        StopsBy (command .resume) event c c') ∧
      (Debugger.stepInto.run c = (.ok event, c') ↔
        StopsBy (command .stepInto) event c c') :=
  ⟨runToStop_eq_ok_iff, runToStop_eq_ok_iff⟩

/-- A program that answers a console command before the program that it
debugs has stopped. -/
def lateProgram : Connection Script :=
  Script.connect [.text "(gdb) "]
    [⟨"-gdb-set", [[.text "$T^done"]]⟩,
      ⟨"-interpreter-exec",
        [[.text "$T^done",
          .text "*stopped,frame=\x7bfile=\"gen.adb\",line=\"3\"\x7d"]]⟩,
      ⟨"-exec-continue",
        [[.text "$T^running",
          .text ("*stopped,bkptno=\"7\"," ++
            "frame=\x7bfile=\"gen.adb\",line=\"20\"\x7d")]]⟩]

/-- A stop that comes after the answer to a console command is taken for
the stop of the next command to run, which stops elsewhere. -/
theorem resume_reports_stale_stop :
    let c := ((Call.raw "continue &").perform.run (start.run lateProgram).2).2
    (Debugger.resume.run c).1 = .ok (.stopped (some ⟨"gen.adb", 3⟩) none) ∧
      stopsIn (Program.replies c.program
          (commandLines (c.token + 1) (command .resume))) =
        [.stopped (some ⟨"gen.adb", 20⟩) (some 7)] := by
  decide +kernel

end SpecDebugger.MachineInterface.Connection
