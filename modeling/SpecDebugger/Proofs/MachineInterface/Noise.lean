/-
What a program says beside its answers. While a command waits for its
answer the connection passes over blank lines, lines that are no records,
prompts, the output and the log of the program, notifications that report
no stop, and answers to earlier commands. All of these are noise
(`OutputLine.isNoise`), and noise changes nothing: the answers to all
requests are the same, and so are the lines that the program gets
(`performAll_ignores_noise`).

The argument compares two runs line by line. Each reader stops at the same
line in both, having heard the same, and leaves an unread rest that differs
by noise only. That rest is read while the next command is answered, and
noise for one command is noise for the next one, whose token is greater.
-/
import Mathlib.Control.Monad.Basic
import SpecDebugger.MachineInterface.Script
import SpecDebugger.Proofs.MachineInterface.Calls

namespace SpecDebugger.MachineInterface

-- ============================================================= noise

/-- Whether a record is passed over while the command of `token` is
answered. -/
def Record.isIdle (token : Nat) : Record → Bool
  | .result none _ _ => true
  | .result (some t) _ _ => decide (t < token)
  | .async kind category _ => !(kind == .exec && category == "stopped")
  | .stream kind _ => kind != .console
  | .prompt => true

/-- Whether a line is noise while the command of `token` is answered. -/
def OutputLine.isNoise (token : Nat) : OutputLine → Bool
  | .garbled => false
  | .text line =>
    (Text.trim line.toList).isEmpty ||
      match Record.parse line with
      | .ok r => r.isIdle token
      | .error _ => true

/-- Output, and the same output with noise put in between its lines. -/
inductive WithNoise (token : Nat) : List OutputLine → List OutputLine → Prop
  | nil : WithNoise token [] []
  | keep {line : OutputLine} {plain noisy : List OutputLine} :
      WithNoise token plain noisy →
        WithNoise token (line :: plain) (line :: noisy)
  | noise {line : OutputLine} {plain noisy : List OutputLine} :
      line.isNoise token = true → WithNoise token plain noisy →
        WithNoise token plain (line :: noisy)

/-- What is idle for a command is idle for every later one. -/
theorem Record.isIdle_mono {token later : Nat} (h : token ≤ later)
    {r : Record} (hr : r.isIdle token = true) : r.isIdle later = true := by
  rcases r with ⟨_ | t, category, fields⟩ | _ | _ | _
  · rfl
  · exact decide_eq_true (Nat.lt_of_lt_of_le (of_decide_eq_true hr) h)
  · exact hr
  · exact hr
  · rfl

/-- What is noise for a command is noise for every later one. -/
theorem OutputLine.isNoise_mono {token later : Nat} (h : token ≤ later)
    {line : OutputLine} (hline : line.isNoise token = true) :
    line.isNoise later = true := by
  cases line with
  | garbled => cases hline
  | text line =>
      simp only [isNoise, Bool.or_eq_true] at hline ⊢
      rcases hline with hblank | hrecord
      · exact Or.inl hblank
      · right
        split at hrecord
        next => exact Record.isIdle_mono h hrecord
        next => rfl

namespace WithNoise

variable {token : Nat} {plain noisy : List OutputLine}

theorem refl (token : Nat) (lines : List OutputLine) :
    WithNoise token lines lines := by
  induction lines with
  | nil => exact .nil
  | cons line lines ih => exact .keep ih

theorem mono {later : Nat} (h : WithNoise token plain noisy)
    (hlater : token ≤ later) : WithNoise later plain noisy := by
  induction h with
  | nil => exact .nil
  | keep _ ih => exact .keep ih
  | noise hline _ ih =>
      exact .noise (OutputLine.isNoise_mono hlater hline) ih

theorem append {more noisyMore : List OutputLine}
    (h : WithNoise token plain noisy)
    (hmore : WithNoise token more noisyMore) :
    WithNoise token (plain ++ more) (noisy ++ noisyMore) := by
  induction h with
  | nil => exact hmore
  | keep _ ih => exact .keep ih
  | noise hline _ ih => exact .noise hline ih

@[simp]
theorem nil_iff : WithNoise token plain [] ↔ plain = [] := by
  constructor
  · intro h
    cases h
    rfl
  · rintro rfl
    exact .nil

/-- The first line of a noisy output is the first one of the plain
output, or noise. -/
theorem cons_iff {line : OutputLine} :
    WithNoise token plain (line :: noisy) ↔
      (plain.head? = some line ∧ WithNoise token plain.tail noisy) ∨
        (line.isNoise token = true ∧ WithNoise token plain noisy) := by
  constructor
  · intro h
    cases h with
    | keep h => exact Or.inl ⟨rfl, h⟩
    | noise hline h => exact Or.inr ⟨hline, h⟩
  · rintro (⟨hhead, h⟩ | ⟨hline, h⟩)
    · obtain ⟨rest, rfl⟩ := List.head?_eq_some_iff.mp hhead
      exact .keep h
    · exact .noise hline h

instance decidable (token : Nat) :
    (plain noisy : List OutputLine) → Decidable (WithNoise token plain noisy)
  | _, [] => decidable_of_iff _ nil_iff.symm
  | plain, _ :: noisy =>
    have := decidable token plain.tail noisy
    have := decidable token plain noisy
    decidable_of_iff _ cons_iff.symm

end WithNoise

namespace Connection

-- =========================================================== readers

/-- A reader skips noise, or finds a record in it that is passed over. -/
theorem ofLine_of_isNoise {token : Nat} {line : OutputLine}
    (h : line.isNoise token = true) :
    Reading.ofLine line = .skip ∨
      ∃ r, Reading.ofLine line = .record r ∧ r.isIdle token = true := by
  cases line with
  | garbled => cases h
  | text line =>
      rw [Reading.ofLine]
      by_cases hblank : (Text.trim line.toList).isEmpty = true
      · exact Or.inl (if_pos hblank)
      · rw [if_neg hblank]
        rw [OutputLine.isNoise, Bool.eq_false_iff.mpr hblank,
          Bool.false_or] at h
        cases hparse : Record.parse line with
        | ok r =>
            rw [hparse] at h
            exact Or.inr ⟨r, rfl, h⟩
        | error e => exact Or.inl rfl

/-- An idle record is no stop. -/
theorem stop?_of_isIdle {token : Nat} {r : Record}
    (h : r.isIdle token = true) : stop? r = none := by
  rcases r with _ | ⟨_ | _ | _, category, fields⟩ | _ | _
  · rfl
  · have hcategory : category ≠ "stopped" := by
      intro heq
      rw [heq] at h
      cases h
    exact if_neg hcategory
  · rfl
  · rfl
  · rfl
  · rfl

/-- An idle record leaves nothing behind. -/
theorem note_of_isIdle {token : Nat} {r : Record}
    (h : r.isIdle token = true) (heard : Heard) : heard.note r = heard := by
  have hstop := stop?_of_isIdle h
  unfold Heard.note
  split
  next => cases h
  next => rw [hstop]

/-- A line of noise is passed over on the way to a result. -/
theorem awaitResult_noise {token : Nat} {line : OutputLine}
    (h : line.isNoise token = true) (heard : Heard) (lines : List OutputLine) :
    awaitResult token heard (line :: lines) =
      awaitResult token heard lines := by
  rw [awaitResult]
  rcases ofLine_of_isNoise h with hline | ⟨r, hline, hr⟩
  · rw [hline]
  · rw [hline]
    cases r with
    | result t category fields =>
        have ht : t ≠ some token := by
          rintro rfl
          exact Nat.lt_irrefl _ (of_decide_eq_true hr)
        exact if_neg ht
    | async kind category fields =>
        exact congrArg (awaitResult token · lines) (note_of_isIdle hr heard)
    | stream kind text =>
        exact congrArg (awaitResult token · lines) (note_of_isIdle hr heard)
    | prompt => rfl

theorem awaitStop_noise {token : Nat} {line : OutputLine}
    (h : line.isNoise token = true) (heard : Heard) (lines : List OutputLine) :
    awaitStop heard (line :: lines) = awaitStop heard lines := by
  rw [awaitStop]
  rcases ofLine_of_isNoise h with hline | ⟨r, hline, hr⟩
  · rw [hline]
  · rw [hline]
    simp [note_of_isIdle hr, stop?_of_isIdle hr]

/-- Two outcomes of a reader that differ by noise in what is left. -/
structure SameOutcome {α : Type} (token : Nat)
    (plain noisy : α × List OutputLine) : Prop where
  result : noisy.1 = plain.1
  rest : WithNoise token plain.2 noisy.2

/-- With noise the same result is found, and the same is left but for noise. -/
theorem awaitResult_withNoise {token : Nat} {plain noisy : List OutputLine}
    (h : WithNoise token plain noisy) (heard : Heard) :
    SameOutcome token (awaitResult token heard plain)
      (awaitResult token heard noisy) := by
  induction h generalizing heard with
  | nil => exact ⟨rfl, .nil⟩
  | keep h ih =>
      unfold awaitResult
      split
      next => exact ⟨rfl, h⟩
      next => exact ih heard
      next =>
        split
        next => exact ⟨rfl, h⟩
        next => exact ih heard
      next => exact ih _
  | noise hline _ ih =>
      rw [awaitResult_noise hline]
      exact ih heard

theorem awaitStop_withNoise {token : Nat} {plain noisy : List OutputLine}
    (h : WithNoise token plain noisy) (heard : Heard) :
    SameOutcome token (awaitStop heard plain) (awaitStop heard noisy) := by
  induction h generalizing heard with
  | nil => exact ⟨rfl, .nil⟩
  | keep h ih =>
      unfold awaitStop
      split
      next => exact ⟨rfl, h⟩
      next => exact ih heard
      next =>
        dsimp only
        split
        next => exact ⟨rfl, h⟩
        next => exact ih _
  | noise hline _ ih =>
      rw [awaitStop_noise hline]
      exact ih heard

/-- What a result record leads to does not depend on noise, even when a
stop is waited for. -/
theorem conclude_withNoise {token : Nat} {plain noisy : List OutputLine}
    (h : WithNoise token plain noisy) (category : String)
    (fields : List (String × Value)) (heard : Heard) :
    SameOutcome token (conclude category fields heard plain)
      (conclude category fields heard noisy) := by
  unfold conclude
  split
  next => exact ⟨rfl, h⟩
  next =>
    split
    next => exact ⟨rfl, h⟩
    next =>
      split
      next =>
        obtain ⟨hresult, hrest⟩ := awaitStop_withNoise h heard
        generalize awaitStop heard plain = outcome at *
        generalize awaitStop heard noisy = outcome' at *
        obtain ⟨result, rest⟩ := outcome
        obtain ⟨result', rest'⟩ := outcome'
        subst hresult
        cases result' with
        | ok heard => exact ⟨rfl, hrest⟩
        | error e => exact ⟨rfl, hrest⟩
      next => exact ⟨rfl, h⟩

/-- A response does not depend on noise. -/
theorem awaitResponse_withNoise {token : Nat} {plain noisy : List OutputLine}
    (h : WithNoise token plain noisy) :
    SameOutcome token (awaitResponse token plain)
      (awaitResponse token noisy) := by
  obtain ⟨hresult, hrest⟩ := awaitResult_withNoise h {}
  unfold awaitResponse
  generalize awaitResult token {} plain = outcome at *
  generalize awaitResult token {} noisy = outcome' at *
  obtain ⟨result, rest⟩ := outcome
  obtain ⟨result', rest'⟩ := outcome'
  subst hresult
  cases result' with
  | ok found => exact conclude_withNoise hrest _ _ _
  | error e => exact ⟨rfl, hrest⟩

-- ===================================================== conversations

section Conversations

variable {π π' : Type} [Program π] [Program π']

/-- Whether a program replies to the lines of a conversation as another one
does, with noise for the command that each line belongs to. -/
def NoisyReplies (p : π) (p' : π') : List (Nat × String) → Prop
  | [] => True
  | (token, line) :: lines =>
    let reply := (Program.receive line).run p
    let reply' := (Program.receive line).run p'
    WithNoise token reply.1 reply'.1 ∧ NoisyReplies reply.2 reply'.2 lines

instance decidableNoisyReplies (p : π) (p' : π') :
    (lines : List (Nat × String)) → Decidable (NoisyReplies p p' lines)
  | [] => .isTrue trivial
  | (_, line) :: lines =>
    have := decidableNoisyReplies ((Program.receive line).run p).2
      ((Program.receive line).run p').2 lines
    inferInstanceAs (Decidable (_ ∧ _))

/-- Noise in the replies to the lines of one command is noise in all that
is written to it. -/
theorem NoisyReplies.command {token : Nat} {lines : List String}
    {others : List (Nat × String)} {p : π} {p' : π'}
    (h : NoisyReplies p p' (lines.map (token, ·) ++ others)) :
    WithNoise token (Program.replies p lines) (Program.replies p' lines) ∧
      NoisyReplies (Program.after p lines) (Program.after p' lines)
        others := by
  induction lines generalizing p p' with
  | nil => exact ⟨.nil, h⟩
  | cons line lines ih =>
      obtain ⟨hreply, hlines⟩ := h
      obtain ⟨hreplies, hothers⟩ := ih hlines
      exact ⟨hreply.append hreplies, hothers⟩

/-- Two connections at the same point of a conversation, with programs of
which one makes noise from there on. -/
structure UpToNoise (c : Connection π) (c' : Connection π')
    (lines : List (Nat × String)) : Prop where
  token : c'.token = c.token
  unread : WithNoise (c.token + 1) c.unread c'.unread
  replies : NoisyReplies c.program c'.program lines

/-- A command has the same response from two programs that reply alike
up to noise, and leaves them so. -/
theorem execute_upToNoise (text : String) {c : Connection π}
    {c' : Connection π'} {others : List (Nat × String)}
    (h : UpToNoise c c'
      ((commandLines (c.token + 1) text).map (c.token + 1, ·) ++ others)) :
    ((execute text).run c').1 = ((execute text).run c).1 ∧
      UpToNoise ((execute text).run c).2 ((execute text).run c').2 others := by
  obtain ⟨htoken, hunread, hreplies⟩ := h
  obtain ⟨hwritten, hothers⟩ := hreplies.command
  obtain ⟨hresult, hrest⟩ := awaitResponse_withNoise (hunread.append hwritten)
  rw [run_execute, run_execute, htoken]
  exact ⟨hresult, rfl, hrest.mono (Nat.le_succ _), hothers⟩

/-- A call has the same answer from both. -/
theorem perform_upToNoise (call : Call) {c : Connection π}
    {c' : Connection π'} {others : List (Nat × String)}
    (h : UpToNoise c c'
      ((commandLines (c.token + 1) (command call)).map (c.token + 1, ·) ++
        others)) :
    (call.perform.run c').1 = (call.perform.run c).1 ∧
      UpToNoise (call.perform.run c).2 (call.perform.run c').2 others := by
  obtain ⟨hresult, hothers⟩ := execute_upToNoise (command call) h
  rw [run_perform, run_perform]
  dsimp only
  rw [hresult]
  exact ⟨rfl, hothers⟩

/-- Calls in sequence have the same answers: by induction, as each
leaves the programs alike up to noise. -/
theorem performAll_upToNoise (calls : List Call) {c : Connection π}
    {c' : Connection π'} (h : UpToNoise c c' (transcript c.token calls)) :
    ((Call.performAll calls).run c').1 =
      ((Call.performAll calls).run c).1 := by
  induction calls generalizing c c' with
  | nil => rfl
  | cons call calls ih =>
      obtain ⟨hanswer, hothers⟩ := perform_upToNoise call h
      have htoken : (call.perform.run c).2.token = c.token + 1 := by
        rw [run_perform, run_execute]
      rw [← htoken] at hothers
      rw [Call.run_performAll_cons, Call.run_performAll_cons]
      exact congr (congrArg List.cons hanswer) (ih hothers)

/-- A session that starts well starts so with noise, too. -/
theorem start_upToNoise {c : Connection π} {c' : Connection π'}
    {others : List (Nat × String)} (htoken : c'.token = c.token)
    (hgreeting : c'.unread = c.unread)
    (hreplies : NoisyReplies c.program c'.program
      ((commandLines (c.token + 1) startCommand).map (c.token + 1, ·) ++
        others)) :
    (start.run c').1 = (start.run c).1 ∧
      ((start.run c).1 = .ok () →
        UpToNoise (start.run c).2 (start.run c').2 others) := by
  rw [run_start, run_start, hgreeting]
  rcases awaitPrompt c.unread with ⟨e | _, unread⟩
  · exact ⟨rfl, fun h => nomatch h⟩
  · have hsame : UpToNoise { c with unread } { c' with unread }
        ((commandLines (c.token + 1) startCommand).map (c.token + 1, ·) ++
          others) :=
      ⟨htoken, .refl _ _, hreplies⟩
    obtain ⟨hresult, hothers⟩ := execute_upToNoise startCommand hsame
    dsimp only
    rw [hresult]
    exact ⟨rfl, fun _ => hothers⟩

/-- Noise in the replies of a program changes no answer. A session with a
program that makes noise starts as it does without the noise, and then all
requests are answered in the same way, and the same lines are sent. -/
theorem session_ignores_noise (calls : List Call) {c : Connection π}
    {c' : Connection π'} (htoken : c'.token = c.token)
    (hgreeting : c'.unread = c.unread)
    (hreplies : NoisyReplies c.program c'.program
      (sessionTranscript c.token calls)) :
    (start.run c').1 = (start.run c).1 ∧
      ((start.run c).1 = .ok () →
        let lines := (sessionTranscript c.token calls).map Prod.snd
        let session := (Call.performAll calls).run (start.run c).2
        let session' := (Call.performAll calls).run (start.run c').2
        session'.1 = session.1 ∧
          session.2.program = Program.after c.program lines ∧
          session'.2.program = Program.after c'.program lines) := by
  obtain ⟨hresult, hsame⟩ := start_upToNoise htoken hgreeting hreplies
  refine ⟨hresult, fun hstart => ?_⟩
  have hstart' : (start.run c').1 = .ok () := hresult.trans hstart
  obtain ⟨-, hnext⟩ := program_start hstart
  have hothers := hsame hstart
  rw [← hnext] at hothers
  refine ⟨performAll_upToNoise calls hothers,
    program_session calls hstart, ?_⟩
  rw [← htoken]
  exact program_session calls hstart'

end Conversations

/-- A program that says no more than it has to. -/
def quietProgram : Connection Script :=
  Script.connect [.text "(gdb) "]
    [⟨"-gdb-set", [[.text "$T^done"]]⟩,
      ⟨"-exec-continue",
        [[.text "$T^running", .text "*stopped,reason=\"exited-normally\""]]⟩,
      ⟨"-interpreter-exec", [[.text "~\"No symbols.\"", .text "$T^done"]]⟩]

/-- The same program, which also talks about what it does. -/
def noisyProgram : Connection Script :=
  Script.connect [.text "(gdb) "]
    [⟨"-gdb-set",
        [[.text "=cmd-param-changed", .text "$T^done", .text "(gdb) "]]⟩,
      ⟨"-exec-continue",
        [[.text "1^done", .text "$T^running", .text "*running",
          .text "Hello from the inferior", .text "@\"Hello\"", .text "",
          .text "*stopped,reason=\"exited-normally\"", .text "(gdb) "]]⟩,
      ⟨"-interpreter-exec",
        [[.text "&\"info symbol\"", .text "~\"No symbols.\"", .text "^done",
          .text "$T^done"]]⟩]

/-- The noise of a program is not heard in a session that runs it and asks
it a question. -/
theorem session_ignores_noise_specimen :
    let session := (Call.performAll [.resume, .raw "info symbol"]).run
      (start.run noisyProgram).2
    session.1 = [.ok (.stop (.exited 0)), .ok (.text "No symbols.")] ∧
      session.2.program.taken =
        ["3-interpreter-exec console \"info symbol\"", "2-exec-continue",
          "1-gdb-set confirm off"] := by
  have htoken : noisyProgram.token = quietProgram.token := by decide +kernel
  have hgreeting : noisyProgram.unread = quietProgram.unread := by
    decide +kernel
  have hreplies : NoisyReplies quietProgram.program noisyProgram.program
      (sessionTranscript quietProgram.token
        [.resume, .raw "info symbol"]) := by
    decide +kernel
  have hstart : (start.run quietProgram).1 = .ok () := by decide +kernel
  obtain ⟨-, hsession⟩ := session_ignores_noise _ htoken hgreeting hreplies
  obtain ⟨hanswers, -, hprogram⟩ := hsession hstart
  refine ⟨hanswers.trans ?_, ?_⟩
  · decide +kernel
  · rw [hprogram]
    decide +kernel

end Connection

end SpecDebugger.MachineInterface
