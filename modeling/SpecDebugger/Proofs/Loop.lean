/-
What ends the interactive loop: the user, and nothing else.

The rounds of an input are read off it without a debugger
(`Repl.exists_reads`). The loop does these rounds one after the other, on
any debugger: it may fail or answer nonsense in every one of them, and
none of that reaches the loop (`ends_by_user`).

# The argument

* the outcome of a line is an error only if the read for an answer failed
  (`Session.execute_eq_error_iff`), and an interruption of that read ends
  the command and not the loop (`run_handle`)
* one round: the items it takes are gone, and the loop goes on where the
  round leaves off (`run_takes`), or it ends there (`run_ends`)
* all rounds, by induction on the reading, with rounds to spare
  (`run_reads`)
* no command hands a line to the debugger (`rawLines_execute`), so the
  lines that a debugger is handed are those of the rounds
-/
import SpecDebugger.Debugger.InMemory
import SpecDebugger.Proofs.Calls
import SpecDebugger.Proofs.ChannelFailures
import SpecDebugger.Proofs.Rounds
import SpecDebugger.Repl

namespace SpecDebugger

-- ========================================================== raw lines

def Call.raw? : Call → Option String
  | .raw line => some line
  | _ => none

namespace Recorded

variable {σ : Type}

/-- The lines in the debugger's own language that were handed to it. -/
def rawLines (r : Recorded σ) : List String := r.calls.filterMap Call.raw?

/-- Whether no such line was handed to the debugger. -/
def SameRaw (r r' : Recorded σ) : Prop := r'.rawLines = r.rawLines

instance : IsPreorder (Recorded σ) SameRaw where
  refl _ := rfl
  trans _ _ _ h h' := Eq.trans h' h

/-- A call that is noted forwards a line if it is one of the user. -/
@[simp]
theorem rawLines_noting {α : Type} (call : Call) (kind : α → Answer)
    (request : Request σ α) (r : Recorded σ) :
    ((noting call kind request).run r).2.rawLines =
      r.rawLines ++ call.raw?.toList := by
  show (r.calls ++ [call]).filterMap Call.raw? = _
  rw [List.filterMap_append]
  cases call <;> rfl

/-- A call that is no line of the user forwards nothing. -/
theorem sameRaw_noting {α : Type} {call : Call} (quiet : call.raw? = none)
    (kind : α → Answer) (request : Request σ α) :
    Moves SameRaw (noting call kind request).run := by
  intro r
  have h := rawLines_noting call kind request r
  rw [quiet] at h
  exact h.trans (List.append_nil _)

/-- All requests but one leave these lines alone. -/
theorem obeys_sameRaw [Debugger σ] : Obeys (@SameRaw σ) where
  location _ := rfl
  readVar _ _ := rfl
  insertBreakpoint _ _ := sameRaw_noting rfl _ _
  setCondition _ _ := sameRaw_noting rfl _ _
  deleteBreakpoint _ := sameRaw_noting rfl _ _
  resume := sameRaw_noting rfl _ _
  stepInto := sameRaw_noting rfl _ _

end Recorded

namespace Repl

-- ====================================================== what rounds do

section playing

variable {σ : Type} [Debugger σ]

/-- A text is shown to the user. -/
def showing (text : String) (d : Dialogue σ) : Dialogue σ :=
  { d with user := { d.user with output := d.user.output ++ text } }

/-- The user is asked for a line, and the next item is taken. -/
def prompting (d : Dialogue σ) : Dialogue σ :=
  let shown := d.user.output
  let output := if d.user.prompted then shown ++ prompt else shown
  { d with user := { d.user with input := d.user.input.tail, output } }

/-- A line is handed to the debugger, once, and its answer shown. -/
def answering (line : String) (d : Dialogue σ) : Dialogue σ :=
  let answer := (Debugger.raw line : Request σ String).run d.host
  let text :=
    match answer.1 with
    | .ok output => output
    | .error e => e.message ++ "\n"
  showing text { d with host := answer.2 }

/-- What a round does. -/
def Round.play (s : Session) (d : Dialogue σ) : Round → Dialogue σ
  | .interrupted => showing "Quit\n" (prompting d)
  | .blank => prompting d
  | .command line => ((s.execute line).run (prompting d)).2
  | .abandoned line =>
    showing "Quit\n" ((s.execute line).run (prompting d)).2
  | .forwarded line => answering line (prompting d)

/-- What the last round does. -/
def Ending.play (s : Session) (d : Dialogue σ) : Ending → Dialogue σ
  | .quit | .endOfInput | .unread _ => prompting d
  | .unanswered line _ => ((s.execute line).run (prompting d)).2

end playing

-- =============================================== lines at the prompt

namespace Typed

theorem ofLine_of_blank {text : String} (h : trimmed text = "") :
    ofLine text = .nothing :=
  if_pos h

theorem ofLine_of_mem_quits {text : String} (h : trimmed text ∈ quits) :
    ofLine text = .quit := by
  have hne : trimmed text ≠ "" := by
    intro heq
    rw [heq] at h
    simp [quits] at h
  have hquit : trimmed text = "quit" ∨ trimmed text = "q" ∨
      trimmed text = "exit" := by
    simpa [quits] using h
  exact (if_neg hne).trans (if_pos hquit)

/-- Every other line is handled, trimmed. -/
theorem ofLine_of_handles {text line : String} (h : Handles text line) :
    ofLine text = .line line := by
  obtain ⟨rfl, hne, hquit⟩ := h
  have hstays : ¬(trimmed text = "quit" ∨ trimmed text = "q" ∨
      trimmed text = "exit") := by
    simpa [quits] using hquit
  exact (if_neg hne).trans (if_neg hstays)

end Typed

-- =========================================================== one round

section running

variable {σ : Type}

/-- Reading a line shows the prompt and takes the next item of the input. -/
theorem run_readLine (d : Dialogue σ) :
    (Dialogue.withUser (User.readLine prompt)).run d =
      (match d.user.input with
        | [] => .ok none
        | item :: _ => item.map some, prompting d) := by
  obtain ⟨host, input, output, _ | _⟩ := d
  · cases input <;> rfl
  · cases input <;> rfl

variable [Debugger σ]

/-- Forwarding a line shows what the debugger makes of it. -/
theorem run_forward (line : String) (d : Dialogue σ) :
    (forward line).run d = (.ok (), answering line d) := by
  have hraw :
      (Dialogue.withHost (Debugger.raw line : Request σ String).run) d =
      (((Debugger.raw line : Request σ String).run d.host).1,
        { d with
          host := ((Debugger.raw line : Request σ String).run d.host).2 }) :=
    rfl
  unfold forward answering
  rw [run_lift_bind, hraw]
  rcases (Debugger.raw line : Request σ String).run d.host with
    ⟨e | output, host⟩
  · rfl
  · rfl

/-- What a line comes to in the loop: an interrupted question ends the
command only, and a line that is no command goes to the debugger. -/
theorem run_handle (s : Session) (line : String) (d : Dialogue σ) :
    (handle s line).run d =
      match (s.execute line).run d with
      | (.ok true, left) => (.ok (), left)
      | (.ok false, left) => (.ok (), answering line left)
      | (.error .interrupted, left) => (.ok (), showing "Quit\n" left)
      | (.error failure, left) => (.error failure, left) := by
  unfold handle
  rw [run_lift_bind]
  rcases (s.execute line).run d with ⟨failure | _ | _, left⟩
  · cases failure <;> rfl
  · exact run_forward line left
  · rfl

/-- One round of the loop, by what is read. -/
theorem run_loop (s : Session) (n : Nat) (d : Dialogue σ) :
    (loop s (n + 1)).run d =
      match d.user.input with
      | [] => (.ok (), prompting d)
      | .error .interrupted :: _ =>
        (loop s n).run (showing "Quit\n" (prompting d))
      | .error failure :: _ => (.error failure, prompting d)
      | .ok text :: _ =>
        match Typed.ofLine text with
        | .nothing => (loop s n).run (prompting d)
        | .quit => (.ok (), prompting d)
        | .line line =>
          (handle s line >>= fun _ => loop s n).run (prompting d) := by
  have hread := run_readLine d
  simp only [StateT.run] at hread
  rw [loop, run_lift_bind, hread]
  rcases d.user.input with _ | ⟨failure | text, rest⟩
  · rfl
  · cases failure <;> rfl
  · dsimp only [Except.map]
    cases Typed.ofLine text <;> rfl

/-- A line that is handled leads to the next round, if it does not end
the session. -/
theorem run_loop_handles {s : Session} {text line : String}
    (typed : Handles text line) {d : Dialogue σ} {rest : List Item}
    (read : d.user.input = .ok text :: rest) (n : Nat) :
    (loop s (n + 1)).run d =
      (handle s line >>= fun _ => loop s n).run (prompting d) := by
  rw [run_loop, read]
  dsimp only
  rw [Typed.ofLine_of_handles typed]

/-- A command whose question, if it has one, is not left unread is done. -/
theorem run_handle_command {s : Session} {line : String}
    (recognized : (Command.parse? s.pre line).isSome = true) {d : Dialogue σ}
    (heard : ∀ query, s.Asks line query →
      ∀ failure, d.user.input.head? ≠ some (.error failure)) :
    (handle s line).run d = (.ok (), ((s.execute line).run d).2) := by
  have hnot : ∀ failure, ((s.execute line).run d).1 ≠ .error failure := by
    intro failure hfailed
    obtain ⟨⟨query, asks⟩, hread⟩ := Session.execute_eq_error_iff.mp hfailed
    exact heard query asks failure hread
  have hok : ∀ b, ((s.execute line).run d).1 = .ok b → b = true := by
    intro b h
    rw [Session.execute_eq_ok h]
    exact recognized
  rw [run_handle]
  rcases hran : (s.execute line).run d with ⟨failure | b, left⟩
  · exact absurd (congrArg Prod.fst hran) (hnot failure)
  · rw [hok b (congrArg Prod.fst hran)]

/-- A line that asks the user is a command. -/
theorem recognized_of_asks {s : Session} {line : String}
    {query : SpecLocation} (asks : s.Asks line query) :
    (Command.parse? s.pre line).isSome = true := by
  obtain ⟨⟨condition, hparse⟩, -⟩ := asks
  rw [hparse]
  rfl

/-- A command that asks takes one item for the answer. -/
theorem input_execute_asks {s : Session} {line : String}
    {query : SpecLocation} (asks : s.Asks line query) (d : Dialogue σ) :
    ((s.execute line).run d).2.user.input = d.user.input.tail :=
  ((s.input_execute line d).1 query asks).1

/-- A command that asks and is answered, or aborted at the end of input,
is done. -/
theorem run_loop_asks {s : Session} {text line : String}
    {query : SpecLocation} (typed : Handles text line)
    (asks : s.Asks line query) {d : Dialogue σ} {rest : List Item}
    (read : d.user.input = .ok text :: rest)
    (heard : ∀ failure, rest.head? ≠ some (.error failure)) (n : Nat) :
    let left := (Round.command line).play s d
    (loop s (n + 1)).run d = (loop s n).run left ∧
      left.user.input = rest.tail := by
  have hprompting : (prompting d).user.input = rest := congrArg List.tail read
  have hdone := run_handle_command (recognized_of_asks asks)
    (d := prompting d) fun _ _ => hprompting ▸ heard
  rw [run_loop_handles typed read, run_bind, hdone]
  exact ⟨rfl,
    (input_execute_asks asks _).trans (congrArg List.tail hprompting)⟩

/-- A command that asks and is not answered fails as that read does. -/
theorem run_execute_unanswered {s : Session} {text line : String}
    {query : SpecLocation} (asks : s.Asks line query) {d : Dialogue σ}
    {failure : ChannelFailure} {rest : List Item}
    (read : d.user.input = .ok text :: .error failure :: rest) :
    let ran := (s.execute line).run (prompting d)
    ran = (.error failure, ran.2) ∧ ran.2.user.input = rest := by
  have hprompting : (prompting d).user.input = .error failure :: rest :=
    congrArg List.tail read
  have hfailed := Session.execute_eq_error_iff (d := prompting d).mpr
    ⟨⟨query, asks⟩, congrArg List.head? hprompting⟩
  exact ⟨Prod.ext hfailed rfl,
    (input_execute_asks asks _).trans (congrArg List.tail hprompting)⟩

/-- A round takes its items, and the loop goes on where it leaves off. -/
theorem run_takes {s : Session} {r : Round} {d : Dialogue σ}
    {rest : List Item} (takes : Takes s r d.user.input rest) (n : Nat) :
    (loop s (n + 1)).run d = (loop s n).run (r.play s d) ∧
      (r.play s d).user.input = rest := by
  have hprompting : (prompting d).user.input = d.user.input.tail := rfl
  generalize read : d.user.input = input at takes hprompting
  cases takes with
  | interrupted =>
      rw [run_loop, read]
      exact ⟨rfl, hprompting⟩
  | blank empty =>
      rw [run_loop, read]
      dsimp only
      rw [Typed.ofLine_of_blank empty]
      exact ⟨rfl, hprompting⟩
  | unasked typed recognized quiet =>
      have hdone := run_handle_command recognized (d := prompting d)
        fun query asks => absurd asks (quiet query)
      rw [run_loop_handles typed read, run_bind, hdone]
      exact ⟨rfl, ((s.input_execute _ _).2 quiet).trans hprompting⟩
  | answered typed asks => exact run_loop_asks typed asks read (by simp) n
  | aborted typed asks => exact run_loop_asks typed asks read (by simp) n
  | abandoned typed asks =>
      obtain ⟨hran, hinput⟩ := run_execute_unanswered asks read
      rw [run_loop_handles typed read, run_bind, run_handle, hran]
      exact ⟨rfl, hinput⟩
  | forwarded typed unknown =>
      rw [run_loop_handles typed read, run_bind, run_handle, s.run_execute,
        unknown]
      exact ⟨rfl, hprompting⟩

/-- The last round takes its items, and the loop is over. -/
theorem run_ends {s : Session} {last : Ending} {d : Dialogue σ}
    {left : List Item} (ends : Ends s last d.user.input left) (n : Nat) :
    (loop s (n + 1)).run d = (last.result, last.play s d) ∧
      (last.play s d).user.input = left := by
  have hprompting : (prompting d).user.input = d.user.input.tail := rfl
  generalize read : d.user.input = input at ends hprompting
  cases ends with
  | quit word =>
      rw [run_loop, read]
      dsimp only
      rw [Typed.ofLine_of_mem_quits word]
      exact ⟨rfl, hprompting⟩
  | endOfInput =>
      rw [run_loop, read]
      exact ⟨rfl, hprompting⟩
  | @unread failure _ fatal =>
      rw [run_loop, read]
      cases failure <;>
        first | exact ⟨rfl, hprompting⟩ | exact absurd rfl fatal
  | @unanswered _ _ _ failure _ typed asks fatal =>
      obtain ⟨hran, hinput⟩ := run_execute_unanswered asks read
      rw [run_loop_handles typed read, run_bind, run_handle, hran]
      cases failure <;> first | exact ⟨rfl, hinput⟩ | exact absurd rfl fatal

-- ========================================================== all rounds

/-- The loop does the rounds of its input one after the other, as long as
it may do that many. -/
theorem run_reads {s : Session} {input left : List Item}
    {rounds : List Round} {last : Ending}
    (reads : Reads s input rounds last left) {d : Dialogue σ}
    (read : d.user.input = input) {n : Nat} (enough : input.length < n) :
    let ended := last.play s (rounds.foldl (Round.play s) d)
    (loop s n).run d = (last.result, ended) ∧ ended.user.input = left := by
  induction reads generalizing d n with
  | last ends =>
      obtain ⟨n, rfl⟩ :=
        Nat.exists_eq_add_one_of_ne_zero (Nat.ne_zero_of_lt enough)
      subst read
      exact run_ends ends n
  | round takes others ih =>
      obtain ⟨n, rfl⟩ :=
        Nat.exists_eq_add_one_of_ne_zero (Nat.ne_zero_of_lt enough)
      have hlt := takes.length_lt
      subst read
      obtain ⟨hrun, hrest⟩ := run_takes takes n
      rw [hrun]
      exact ih hrest (by omega)

-- =========================================================== forwarding

/-- A command makes no request in the debugger's own language. -/
theorem rawLines_execute (s : Session) (line : String)
    (d : Dialogue (Recorded σ)) :
    ((s.execute line).run d).2.host.rawLines = d.host.rawLines := by
  rw [s.host_execute]
  split
  next c _ => exact Recorded.obeys_sameRaw.run s c d
  next => rfl

/-- A round forwards at most the line that was typed in it. -/
theorem rawLines_play (s : Session) (r : Round)
    (d : Dialogue (Recorded σ)) :
    (r.play s d).host.rawLines = d.host.rawLines ++ r.forwarded?.toList := by
  cases r with
  | interrupted => exact (List.append_nil _).symm
  | blank => exact (List.append_nil _).symm
  | command line =>
      exact (rawLines_execute s line _).trans (List.append_nil _).symm
  | abandoned line =>
      exact (rawLines_execute s line _).trans (List.append_nil _).symm
  | forwarded line =>
      exact Recorded.rawLines_noting (.raw line) .text (Debugger.raw line)
        d.host

theorem rawLines_last (s : Session) (last : Ending)
    (d : Dialogue (Recorded σ)) :
    (last.play s d).host.rawLines = d.host.rawLines := by
  cases last with
  | unanswered line failure => exact rawLines_execute s line (prompting d)
  | quit => rfl
  | endOfInput => rfl
  | unread failure => rfl

/-- Rounds forward their lines in order, each of them once. -/
theorem rawLines_rounds (s : Session) (rounds : List Round)
    (d : Dialogue (Recorded σ)) :
    (rounds.foldl (Round.play s) d).host.rawLines =
      d.host.rawLines ++ rounds.filterMap Round.forwarded? := by
  induction rounds generalizing d with
  | nil => exact (List.append_nil _).symm
  | cons r rounds ih =>
      rw [List.foldl_cons, ih, rawLines_play, List.append_assoc]
      congr 1
      cases r <;> rfl

end running

-- ============================================================= the loop

/-- Every input has its rounds, which the session and the items decide:
a line at the prompt that is not blank and no word to quit is carried
out as a command if it is one, and handed to the debugger if not, and
what is typed as the answer to a question belongs to its command. On
every debugger, whatever it does, the loop does these rounds one after
the other and no more, and needs no more rounds than there are items to
reach the end of them. It fails only as a read fails that is not just
interrupted, which is the last read then; otherwise it ends at the first
word to quit at the prompt, or at the end of input there. The lines that
the debugger is handed are those of the rounds, each of them once. -/
theorem ends_by_user (s : Session) (input : List Item) :
    ∃ rounds last taken left, Reads s input rounds last left ∧
      input = taken ++ left ∧ Settles taken last.result ∧
      (∀ (σ : Type) [Debugger σ] (host : σ) (user : User),
        let d : Dialogue σ := ⟨host, { user with input }⟩
        let ran := (run s).run d
        ran = (last.result, last.play s (rounds.foldl (Round.play s) d)) ∧
          ran.2.user.input = left ∧
          ∀ more, (loop s (input.length + 1 + more)).run d = ran) ∧
      ∀ (σ : Type) [Debugger σ] (host : Recorded σ) (user : User),
        ((run s).run ⟨host, { user with input }⟩).2.host.rawLines =
          host.rawLines ++ rounds.filterMap Round.forwarded? := by
  obtain ⟨rounds, last, left, reads⟩ := exists_reads s input
  obtain ⟨taken, htaken, settles⟩ := reads.exists_taken
  have hrun : ∀ (σ : Type) [Debugger σ] (d : Dialogue σ),
      d.user.input = input →
        (run s).run d = (loop s (input.length + 1)).run d := by
    intro σ _ d read
    rw [← read]
    rfl
  refine ⟨rounds, last, taken, left, reads, htaken, settles, ?_, ?_⟩
  · intro σ _ host user d ran
    obtain ⟨hended, hleft⟩ := run_reads reads (d := d) rfl (Nat.lt_succ_self _)
    have hran : ran = _ := (hrun σ d rfl).trans hended
    refine ⟨hran, ?_, fun more => ?_⟩
    · rw [hran]
      exact hleft
    · rw [hran]
      exact (run_reads reads (d := d) rfl (by omega)).1
  · intro σ _ host user
    obtain ⟨hended, -⟩ := run_reads reads
      (d := (⟨host, { user with input }⟩ : Dialogue (Recorded σ))) rfl
      (Nat.lt_succ_self _)
    rw [hrun (Recorded σ) _ rfl, hended]
    exact (rawLines_last s last _).trans (rawLines_rounds s rounds _)

/-- A word to quit ends the loop at the prompt, and what comes after it
is not read. -/
example :
    let input := [.error .interrupted, .ok "where", .ok " q ", .ok "help"]
    let ran := (run { index := ⟨"gen.adb", [], []⟩ }).run
      (⟨{}, { input }⟩ : Dialogue InMemory)
    ran.1 = .ok () ∧ ran.2.user.input = [.ok "help"] :=
  ⟨rfl, rfl⟩

end Repl

end SpecDebugger
