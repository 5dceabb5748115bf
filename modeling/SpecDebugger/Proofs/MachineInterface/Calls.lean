/-
A conversation as a sequence of calls. Each request to a debugger at the
other end of a connection is one command: its lines are delivered to the
program, the response is read, and the answer is made from the response
alone (`run_perform`). So two facts about a single command carry over to
every conversation: which lines the program gets, and what a response
depends on.

The lines of a conversation follow from the calls and the first token,
whatever the program answers (`transcript`, `program_performAll`).
-/
import SpecDebugger.MachineInterface.Connection
import SpecDebugger.Proofs.Calls

namespace SpecDebugger

namespace MachineInterface

-- ========================================================= programs

section Programs

variable {π : Type} [Program π]

/-- A program after it took some lines. -/
def Program.after (p : π) : List String → π
  | [] => p
  | line :: lines => Program.after ((Program.receive line).run p).2 lines

/-- What a program writes while it takes some lines. -/
def Program.replies (p : π) : List String → List OutputLine
  | [] => []
  | line :: lines =>
    ((Program.receive line).run p).1 ++
      Program.replies ((Program.receive line).run p).2 lines

@[simp]
theorem Program.after_append (p : π) (lines more : List String) :
    Program.after p (lines ++ more) =
      Program.after (Program.after p lines) more := by
  induction lines generalizing p with
  | nil => rfl
  | cons line lines ih => exact ih _

end Programs

namespace Connection

variable {π : Type} [Program π]

/-- The lines that a command with its token consists of. -/
def commandLines (token : Nat) (command : String) : List String :=
  (linesOf s!"{token}{command}".toList).map String.ofList

/-- Delivering lines reads what the program writes to each of them, in
order. -/
theorem run_deliver (lines : List (List Char)) (p : π) :
    (deliver lines).run p =
      (Program.replies p (lines.map String.ofList),
        Program.after p (lines.map String.ofList)) := by
  induction lines generalizing p with
  | nil => rfl
  | cons line lines ih =>
      show (_, ((deliver lines).run _).2) = _
      rw [ih]
      show (_ ++ ((deliver lines).run _).1, _) = _
      rw [ih]
      rfl

/-- A command reads its response from what was left unread and what the
program writes to its lines. -/
theorem run_execute (command : String) (c : Connection π) :
    (execute command).run c =
      let lines := commandLines (c.token + 1) command
      let response := awaitResponse (c.token + 1)
        (c.unread ++ Program.replies c.program lines)
      (response.1,
        { program := Program.after c.program lines
          unread := response.2
          token := c.token + 1 }) := by
  have hdeliver := run_deliver
    (linesOf s!"{c.token + 1}{command}".toList) c.program
  simp only [StateT.run] at hdeliver
  simp only [execute, ExceptT.run, ExceptT.mk, hdeliver]
  rfl

-- Two commands are compared by their texts, never by spelling out their lines.
attribute [irreducible] commandLines

-- ================================================= calls as commands

/-- The command that a request is sent as. -/
def command : Call → String
  | .location => "-stack-info-frame"
  | .readVar name => s!"-data-evaluate-expression {quote (Text.lower name)}"
  | .insertBreakpoint l _ => s!"-break-insert {quote (toString l)}"
  | .setCondition id condition => s!"-break-condition {id} {condition}"
  | .deleteBreakpoint id => s!"-break-delete {id}"
  | .resume => "-exec-continue"
  | .stepInto => "-exec-step"
  | .raw text => s!"-interpreter-exec console {quote text}"

/-- The stop that a response to a command reports. -/
def stopAnswer (command : String) (response : Response) :
    Except HostError Answer :=
  match response.stop with
  | some event => .ok (.stop event)
  | none => .error (.protocol s!"{command} did not stop the inferior")

/-- The number of a new breakpoint that a response tells. -/
def breakpointId? (response : Response) : Option BreakpointId := do
  let breakpoint ← Value.field? "bkpt" response.fields
  let text ← (breakpoint.get? "number").bind Value.text?
  id? text

/-- The answer that a response stands for. -/
def readAnswer : Call → Response → Except HostError Answer
  | .location, response =>
    .ok
      (.location ((Value.field? "frame" response.fields).bind frameLocation?))
  | .readVar name, response =>
    match textField? "value" response.fields with
    | some value => .ok (.text value)
    | none => .error (.protocol s!"no value for {name}")
  | .insertBreakpoint _ _, response =>
    match breakpointId? response with
    | some id => .ok (.breakpoint id)
    | none => .error (.protocol "breakpoint without number")
  | .setCondition _ _, _ => .ok .done
  | .deleteBreakpoint _, _ => .ok .done
  | .resume, response => stopAnswer "-exec-continue" response
  | .stepInto, response => stopAnswer "-exec-step" response
  | .raw _, response => .ok (.text response.console)

/-- The answer to a request, given what became of its command. A rejected
question for the location says that there is none. -/
def answer : Call → Except HostError Response → Except HostError Answer
  | .location, .error (.command _) => .ok (.location none)
  | call, result => result >>= readAnswer call

/-- A request that is a command and a reading of its response is
answered from the response alone. -/
private theorem run_map_execute {α : Type} (text : String) (g : α → Answer)
    (f : Response → Request (Connection π) α)
    (read : Response → Except HostError Answer)
    (h : ∀ response c, (g <$> f response).run c = (read response, c))
    (c : Connection π) :
    (g <$> (execute text >>= f)).run c =
      let response := (execute text).run c
      (response.1 >>= read, response.2) := by
  rw [run_map, run_bind]
  rcases (execute text).run c with ⟨e | response, c'⟩
  · rfl
  · have hread := h response c'
    rw [run_map] at hread
    exact hread

/-- A request that lets the program run is answered by the stop in its
response. -/
private theorem run_runToStop (text : String) (c : Connection π) :
    (Answer.stop <$> runToStop text).run c =
      let response := (execute text).run c
      (response.1 >>= stopAnswer text, response.2) := by
  refine run_map_execute text _ _ (stopAnswer text) ?_ c
  intro response c
  unfold stopAnswer
  cases response.stop <;> rfl

/-- A rejected question for the location is an answer: nothing is paused. -/
@[simp]
private theorem run_location (c : Connection π) :
    (Answer.location <$> Connection.location).run c =
      let response := (execute (command .location)).run c
      (answer .location response.1, response.2) := by
  unfold Connection.location command
  rw [run_map, run_bind, run_tryCatch, run_map]
  generalize (execute "-stack-info-frame").run c = result
  rcases result with ⟨e | response, c'⟩
  · cases e <;> rfl
  · rfl

/-- Making a request is sending its command and answering from the
response. -/
theorem run_perform (call : Call) (c : Connection π) :
    call.perform.run c =
      let response := (execute (command call)).run c
      (answer call response.1, response.2) := by
  cases call with
  | location => exact run_location c
  | readVar name =>
      refine run_map_execute (command (.readVar name)) Answer.text _
        (readAnswer (.readVar name)) ?_ c
      intro response c
      dsimp only [readAnswer]
      cases textField? "value" response.fields <;> rfl
  | insertBreakpoint l internal =>
      refine run_map_execute (command (.insertBreakpoint l internal))
        Answer.breakpoint _ (readAnswer (.insertBreakpoint l internal)) ?_ c
      intro response c
      show (Answer.breakpoint <$> (match breakpointId? response with
          | some id => pure id
          | none => throw (.protocol "breakpoint without number") :
            Request (Connection π) BreakpointId)).run c =
        (readAnswer (.insertBreakpoint l internal) response, c)
      dsimp only [readAnswer]
      cases breakpointId? response <;> rfl
  | setCondition id condition =>
      exact run_map_execute (command (.setCondition id condition)) _ _
        (readAnswer (.setCondition id condition)) (fun _ _ => rfl) c
  | deleteBreakpoint id =>
      exact run_map_execute (command (.deleteBreakpoint id)) _ _
        (readAnswer (.deleteBreakpoint id)) (fun _ _ => rfl) c
  | resume => exact run_runToStop "-exec-continue" c
  | stepInto => exact run_runToStop "-exec-step" c
  | raw text =>
      exact run_map_execute (command (.raw text)) _ _ (readAnswer (.raw text))
        (fun _ _ => rfl) c

-- ==================================================== conversations

/-- The lines of a conversation that goes on after `token`, each with the
token of the command it belongs to. -/
def transcript (token : Nat) : List Call → List (Nat × String)
  | [] => []
  | call :: calls =>
    (commandLines (token + 1) (command call)).map (token + 1, ·) ++
      transcript (token + 1) calls

theorem map_snd_tagged (token : Nat) (lines : List String) :
    (lines.map (token, ·)).map Prod.snd = lines := by
  rw [List.map_map]
  exact List.map_id lines

/-- The lines of the first call come first. -/
theorem map_snd_transcript_cons (token : Nat) (call : Call)
    (calls : List Call) :
    (transcript token (call :: calls)).map Prod.snd =
      commandLines (token + 1) (command call) ++
        (transcript (token + 1) calls).map Prod.snd := by
  rw [transcript, List.map_append, map_snd_tagged]

/-- A conversation brings the program the lines of its transcript and
nothing else, and uses up one token for each call. -/
theorem program_performAll (calls : List Call) (c : Connection π) :
    let c' := ((Call.performAll calls).run c).2
    c'.program =
        Program.after c.program ((transcript c.token calls).map Prod.snd) ∧
      c'.token = c.token + calls.length := by
  induction calls generalizing c with
  | nil => exact ⟨rfl, rfl⟩
  | cons call calls ih =>
      obtain ⟨hprogram, htoken⟩ := ih (call.perform.run c).2
      simp only [run_perform, run_execute] at hprogram htoken
      simp only [Call.run_performAll_cons, run_perform, run_execute]
      rw [hprogram, htoken, map_snd_transcript_cons, Program.after_append,
        List.length_cons]
      exact ⟨rfl, by omega⟩

-- ============================================================= start

/-- The command that a session begins with. -/
def startCommand : String := "-gdb-set confirm off"

/-- A session begins by reading up to the first prompt. Unless that fails,
one command is sent, and its response has to be good. -/
theorem run_start (c : Connection π) :
    start.run c =
      match awaitPrompt c.unread with
      | (.error e, unread) => (.error e, { c with unread })
      | (.ok _, unread) =>
        let response := (execute startCommand).run { c with unread }
        (response.1 >>= fun _ => .ok (), response.2) := by
  unfold start
  rw [run_bind]
  simp only [ExceptT.run, ExceptT.mk]
  rcases awaitPrompt c.unread with ⟨e | _, unread⟩
  · rfl
  · show (execute startCommand >>= fun _ => pure ()).run { c with unread } = _
    rw [run_bind]
    simp only [ExceptT.run]
    rcases execute startCommand { c with unread } with ⟨e | _, c'⟩ <;> rfl

/-- A session that starts well has brought the program one command. -/
theorem program_start {c : Connection π} (h : (start.run c).1 = .ok ()) :
    let c' := (start.run c).2
    c'.program =
        Program.after c.program (commandLines (c.token + 1) startCommand) ∧
      c'.token = c.token + 1 := by
  have hrun := run_start c
  rcases hprompt : awaitPrompt c.unread with ⟨e | _, unread⟩
  · simp only [hprompt] at hrun
    rw [hrun] at h
    cases h
  · simp only [hprompt, run_execute] at hrun
    rw [hrun]
    exact ⟨rfl, rfl⟩

/-- The lines of a session in which requests follow the start. -/
def sessionTranscript (token : Nat) (calls : List Call) :
    List (Nat × String) :=
  (commandLines (token + 1) startCommand).map (token + 1, ·) ++
    transcript (token + 1) calls

/-- A session brings the program the lines of its transcript and nothing
else. -/
theorem program_session (calls : List Call) {c : Connection π}
    (h : (start.run c).1 = .ok ()) :
    ((Call.performAll calls).run (start.run c).2).2.program =
      Program.after c.program
        ((sessionTranscript c.token calls).map Prod.snd) := by
  obtain ⟨hprogram, htoken⟩ := program_start h
  obtain ⟨hcalls, -⟩ := program_performAll calls (start.run c).2
  rw [hcalls, hprogram, htoken, sessionTranscript, List.map_append,
    map_snd_tagged, Program.after_append]

end Connection

end MachineInterface

end SpecDebugger
