/-
What a look at the state brings the program, and what the user sees of
its replies.

A report is written value by value, so the lines that the program gets
could depend on its own replies. They do not: the frame settles which
variables are shown (`StateReport.shown`), and each of them is one line,
whatever becomes of the others. The value that is shown for a variable is
read from the reply to its own line, found by its token, so a program may
reply otherwise each time it is asked (`Replied`).
-/
import SpecDebugger.Proofs.Index.Order
import SpecDebugger.Proofs.LineLookup
import SpecDebugger.Proofs.MachineInterface.Framing
import SpecDebugger.Proofs.MachineInterface.Stops
import SpecDebugger.Proofs.ReportedValues
import SpecDebugger.Proofs.SessionMoves

namespace SpecDebugger.MachineInterface.Connection

open StateReport (Options entries shown textWith valueImage)

-- =========================================================== the replies

/-- The value that the fields of a result record give. -/
def valueIn (name : String) (fields : List (String × Value)) :
    Except HostError String :=
  match textField? "value" fields with
  | some value => .ok value
  | none => .error (.protocol s!"no value for {name}")

/-- What a result record of some class says about the value of a
variable. -/
def replyOf (name category : String) (fields : List (String × Value)) :
    Except HostError String :=
  if category = "error" then
    .error (.command ((textField? "msg" fields).getD "unknown debugger error"))
  else if category = "exit" then .error .disconnected
  else valueIn name fields

/-- Whether the output for the command of `token` has its result record,
and a stop as well if the record says that the program runs and none has
been heard. -/
inductive HasResult (token : Nat) (output : List OutputLine)
    (category : String) (fields : List (String × Value)) : Prop
  | intro {before after : List OutputLine} {line : OutputLine}
      (answered : CutAt (IsAnswer token) output before line after)
      (record : Reading.ofLine line =
        .record (.result (some token) category fields))
      (settled : category = "running" → stopsIn before = [] →
        ∃ passed stop unread, CutAt IsStop after passed stop unread)

/-- Whether an answer could not be read: the output ended, or there was
something in it that is no text. -/
def IsBroken {α : Type} (answer : Except HostError α) : Prop :=
  answer = .error .disconnected ∨ answer = .error (.io .notText)

/-- Whether `answer` is what the output has to say to the command of
`token`, which reads the variable `name`. -/
structure Replied (token : Nat) (name : String) (output : List OutputLine)
    (answer : Except HostError String) : Prop where
  reply : ∀ {category fields}, HasResult token output category fields →
    answer = replyOf name category fields
  broken : (∀ category fields, ¬HasResult token output category fields) →
    IsBroken answer

/-- What is shown for a variable, given the result record that replies to
its line: the value in the record, cut to the limit if it is longer and
values are cut, or the message of an error. -/
theorem Replied.shows {token : Nat} {name category : String}
    {output : List OutputLine} {answer : Except HostError String}
    {fields : List (String × Value)} (h : Replied token name output answer)
    (result : HasResult token output category fields) (o : Options) :
    (category = "error" → valueImage o answer =
      "<unavailable: " ++
        (textField? "msg" fields).getD "unknown debugger error" ++ ">") ∧
    ∀ value, category ≠ "error" → category ≠ "exit" →
      textField? "value" fields = some value → valueImage o answer =
        if o.ellipsis = true ∧ o.limit < value.length then
          String.ofList (value.toList.take o.limit) ++ "..."
        else value := by
  rw [h.reply result]
  constructor
  · intro herror
    rw [replyOf, if_pos herror, StateReport.valueImage_error]
    rfl
  · intro value herror hexit hvalue
    rw [replyOf, if_neg herror, if_neg hexit, valueIn, hvalue,
      StateReport.valueImage_ok]

/-- A reader that finds no line of its kind cannot read an answer. -/
theorem ReadsTo.isBroken {α : Type} {kind : OutputLine → Prop}
    {finds : Heard → OutputLine → Option α}
    {read : Heard → List OutputLine → Except HostError α × List OutputLine}
    (reads : ReadsTo kind finds read)
    (hnil : ∀ h, IsBroken (read h []).1)
    (hgarbled : ∀ h lines, IsBroken (read h (.garbled :: lines)).1)
    {h : Heard} {output : List OutputLine}
    (uncut : ∀ before line after, ¬CutAt kind output before line after) :
    IsBroken (read h output).1 := by
  induction output generalizing h with
  | nil => exact hnil h
  | cons head output ih =>
      by_cases hlegible : head = .garbled
      · subst hlegible
        exact hgarbled h output
      · by_cases hkind : kind head
        · exact absurd (CutAt.of_found hkind) (uncut _ _ _)
        · rw [reads.passed h output hlegible hkind]
          apply ih
          intro before line after hcut
          exact uncut _ _ _ (hcut.cons hlegible hkind)

/-- Output without a result record for the token gives no answer. -/
theorem isBroken_awaitResult {token : Nat} {h : Heard}
    {output : List OutputLine}
    (uncut : ∀ before line after,
      ¬CutAt (IsAnswer token) output before line after) :
    IsBroken (awaitResult token h output).1 :=
  (awaitResult_reads token).isBroken (fun _ => .inl rfl)
    (fun _ _ => .inr rfl) uncut

theorem isBroken_awaitStop {h : Heard} {output : List OutputLine}
    (uncut : ∀ passed stop unread,
      ¬CutAt IsStop output passed stop unread) :
    IsBroken (awaitStop h output).1 :=
  awaitStop_reads.isBroken (fun _ => .inl rfl) (fun _ _ => .inr rfl) uncut

theorem IsBroken.bind {α β : Type} {x : Except HostError α} (h : IsBroken x)
    (f : α → Except HostError β) : IsBroken (x >>= f) := by
  cases h with
  | inl h => exact .inl (h ▸ rfl)
  | inr h => exact .inr (h ▸ rfl)

/-- With the stop that is waited for, if one is, a result record says what
it says. -/
theorem conclude_bind_valueIn {category : String}
    {fields : List (String × Value)} {h : Heard} {lines : List OutputLine}
    (settled : category = "running" → h.stop = none →
      ∃ passed stop unread, CutAt IsStop lines passed stop unread)
    (name : String) :
    ((conclude category fields h lines).1 >>= fun response =>
      valueIn name response.fields) = replyOf name category fields := by
  unfold conclude replyOf
  by_cases herror : category = "error"
  · rw [if_pos herror, if_pos herror]
    rfl
  by_cases hexit : category = "exit"
  · rw [if_neg herror, if_neg herror, if_pos hexit, if_pos hexit]
    rfl
  rw [if_neg herror, if_neg herror, if_neg hexit, if_neg hexit]
  by_cases hwait : category = "running" ∧ h.stop.isNone
  · obtain ⟨passed, stop, unread, hcut⟩ :=
      settled hwait.1 (Option.isNone_iff_eq_none.mp hwait.2)
    rw [if_pos hwait,
      awaitStop_reads.eq_ok_iff.mpr ⟨passed, stop, hcut, rfl⟩]
    rfl
  · rw [if_neg hwait]
    rfl

/-- A command that says the program runs has no answer until it stops. -/
theorem isBroken_conclude {fields : List (String × Value)} {h : Heard}
    {lines : List OutputLine} (fresh : h.stop = none)
    (uncut : ∀ passed stop unread, ¬CutAt IsStop lines passed stop unread) :
    IsBroken (conclude "running" fields h lines).1 := by
  have hconclude : (conclude "running" fields h lines).1 =
      ((awaitStop h lines).1 >>= fun h' =>
        .ok ⟨fields, h'.console, h'.stop⟩) := by
    unfold conclude
    rw [if_neg (by decide), if_neg (by decide), if_pos (by simp [fresh])]
    rcases awaitStop h lines with ⟨_ | _, _⟩ <;> rfl
  rw [hconclude]
  exact (isBroken_awaitStop uncut).bind _

/-- With its result record found, a response is what the record and the
output before it make. -/
theorem awaitResponse_of_cutAt {token : Nat} {category : String}
    {output before after : List OutputLine} {line : OutputLine}
    {fields : List (String × Value)}
    (answered : CutAt (IsAnswer token) output before line after)
    (record : Reading.ofLine line =
      .record (.result (some token) category fields)) :
    awaitResponse token output =
      conclude category fields (before.foldl Heard.hear {}) after := by
  unfold awaitResponse
  rw [awaitResult_eq_ok_iff.mpr ⟨before, line, answered, record, rfl⟩]

/-- The value read from a response is the reply in the output. -/
theorem replied_awaitResponse (token : Nat) (name : String)
    (output : List OutputLine) :
    Replied token name output
      ((awaitResponse token output).1 >>= fun response =>
        valueIn name response.fields) where
  reply := by
    intro category fields result
    obtain ⟨answered, record, settled⟩ := result
    rw [awaitResponse_of_cutAt answered record]
    apply conclude_bind_valueIn
    rw [stop_heard, List.getLast?_eq_none_iff]
    exact settled
  broken := by
    intro noResult
    apply IsBroken.bind
    -- without a result record nothing is found; with one, the stop is missing
    by_cases hcut : ∃ before line after,
        CutAt (IsAnswer token) output before line after
    · obtain ⟨before, line, after, answered⟩ := hcut
      obtain ⟨category, fields, record⟩ := answered.found
      have hunsettled : ¬(category = "running" → stopsIn before = [] →
          ∃ passed stop unread, CutAt IsStop after passed stop unread) :=
        fun settled => noResult _ _ ⟨answered, record, settled⟩
      simp only [Classical.not_imp, not_exists] at hunsettled
      obtain ⟨rfl, hfresh, huncut⟩ := hunsettled
      rw [awaitResponse_of_cutAt answered record]
      apply isBroken_conclude _ huncut
      rw [stop_heard, hfresh]
      rfl
    · have huncut : ∀ before line after,
          ¬CutAt (IsAnswer token) output before line after :=
        fun before line after h => hcut ⟨before, line, after, h⟩
      have hresponse : (awaitResponse token output).1 =
          ((awaitResult token {} output).1 >>= fun (category, fields, h) =>
            (conclude category fields h
              (awaitResult token {} output).2).1) := by
        unfold awaitResponse
        rcases awaitResult token {} output with ⟨_ | ⟨_, _, _⟩, _⟩ <;> rfl
      rw [hresponse]
      exact (isBroken_awaitResult huncut).bind _

variable {π : Type} [Program π]

/-- A variable is read by one command, from its response alone. -/
theorem run_readVar (name : String) (c : Connection π) :
    (Debugger.readVar name : Request (Connection π) String).run c =
      let response := (execute (command (.readVar name))).run c
      (response.1 >>= fun r => valueIn name r.fields, response.2) := by
  show (execute (command (.readVar name)) >>= _ :
    Request (Connection π) String).run c = _
  rw [run_bind]
  rcases (execute (command (.readVar name))).run c with ⟨_ | response, _⟩
  · rfl
  · show _ = (valueIn name response.fields, _)
    unfold valueIn
    dsimp only
    cases textField? "value" response.fields <;> rfl

/-- The line that reads a variable. -/
def readingLine (token : Nat) (name : String) : String :=
  s!"{token}-data-evaluate-expression {quote (Text.lower name)}"

theorem numbered_readVar (token : Nat) (name : String) :
    s!"{token}{command (.readVar name)}" = readingLine token name :=
  (String.append_assoc ..).symm

/-- A variable is asked for in one line, whatever its name is. -/
@[simp]
theorem commandLines_readVar (token : Nat) (name : String) :
    commandLines token (command (.readVar name)) =
      [readingLine token name] := by
  have hline := (not_mem_command_iff (.readVar name)).mpr trivial
  rw [commandLines_of_not_mem token hline, numbered_readVar]

/-- A variable that is read has the value that the reply to its own line
gives. -/
theorem replied_readVar (name : String) (c : Connection π) :
    Replied (c.token + 1) name
      (c.unread ++ Program.replies c.program [readingLine (c.token + 1) name])
      ((Debugger.readVar name : Request (Connection π) String).run c).1 := by
  rw [run_readVar, run_execute, ← commandLines_readVar]
  exact replied_awaitResponse _ _ _

theorem map_text_injective {x y : Except HostError String}
    (h : x.map Answer.text = y.map Answer.text) : x = y := by
  cases x with
  | error e =>
      cases y with
      | error e' => exact congrArg _ (Except.error.inj h)
      | ok text => cases h
  | ok text =>
      cases y with
      | error e => cases h
      | ok text' => exact congrArg _ (Answer.text.inj (Except.ok.inj h))

/-- The answer to a call that reads a variable is the reply to its line. -/
theorem replied_perform {name : String} {answer : Except HostError String}
    {c : Connection π}
    (h : ((Call.readVar name).perform.run c).1 = answer.map Answer.text) :
    Replied (c.token + 1) name
      (c.unread ++ Program.replies c.program [readingLine (c.token + 1) name])
      answer := by
  rw [Call.run_readVar] at h
  rw [← map_text_injective h]
  exact replied_readVar name c

-- ======================================================= the inspection

/-- The lines of an inspection that follows the command of `token`: the
question where the frame is, and one line for each of some variables. -/
def inspection (token : Nat) (names : List String) : List String :=
  s!"{token + 1}-stack-info-frame" ::
    (names.zipIdx (token + 2)).map fun (name, t) => readingLine t name

/-- The calls of an inspection. -/
def inspecting (names : List String) : List Call :=
  .location :: names.map .readVar

theorem numbered_inspecting (token : Nat) (names : List String) :
    numbered token (inspecting names) = inspection token names := by
  unfold numbered inspecting inspection
  rw [List.zipIdx_cons, List.map_cons, List.zipIdx_map, List.map_map]
  refine congrArg (_ :: ·) (List.map_congr_left fun entry _ => ?_)
  exact numbered_readVar entry.2 entry.1

/-- Whether one connection is where another one is led to by bringing the
program some lines, each under a token of its own. -/
structure Brings (c : Connection π) (lines : List String)
    (c' : Connection π) : Prop where
  program : c'.program = Program.after c.program lines
  token : c'.token = c.token + lines.length

/-- The calls of an inspection bring its lines, each under its token. -/
theorem brings_inspecting {names : List String} {c c' : Connection π}
    (h : ((Call.performAll (inspecting names)).run c).2 = c') :
    c.Brings (inspection c.token names) c' := by
  subst h
  have hframed : ∀ call ∈ inspecting names, IsFramed call := by
    intro call hcall
    cases List.mem_cons.mp hcall with
    | inl h => exact h ▸ trivial
    | inr h =>
        obtain ⟨name, -, rfl⟩ := List.mem_map.mp h
        trivial
  obtain ⟨hprogram, htoken⟩ := program_performAll (inspecting names) c
  rw [transcript_eq_numbered hframed, numbered_inspecting] at hprogram
  refine ⟨hprogram, ?_⟩
  rw [htoken, ← numbered_inspecting]
  simp [numbered]

/-- An inspection asks where the frame is, and then for the variables. -/
theorem run_inspecting (names : List String) {c c' : Connection π}
    {asked : Except HostError (Option GenLocation)}
    (hasked : (Debugger.location :
      Request (Connection π) (Option GenLocation)).run c = (asked, c')) :
    (Call.performAll (inspecting names)).run c =
      let read := (Call.performAll (names.map Call.readVar)).run c'
      ((Call.location.perform.run c).1 :: read.1, read.2) := by
  have hstate := Call.state_location c
  rw [hasked] at hstate
  rw [inspecting, Call.run_performAll_cons]
  simp only [hstate]

/-- Each variable of an inspection is answered by the reply to its own
line, read from what is left of the output before. -/
theorem replied_inspecting {names : List String} {c c' : Connection π}
    {asked : Except HostError (Option GenLocation)}
    {answers : List (Except HostError String)}
    (hasked : (Debugger.location :
      Request (Connection π) (Option GenLocation)).run c = (asked, c'))
    (hread : ((Call.performAll (names.map Call.readVar)).run c').1 =
      answers.map (Except.map Answer.text))
    {i : Nat} {name : String} (hname : names[i]? = some name)
    {before : Connection π}
    (hbefore : ((Call.performAll (inspecting (names.take i))).run c).2 =
      before) :
    ∃ answer, answers[i]? = some answer ∧
      Replied (before.token + 1) name
        (before.unread ++ Program.replies before.program
          [readingLine (before.token + 1) name]) answer := by
  have hcall : (inspecting names)[i + 1]? = some (.readVar name) := by
    rw [inspecting, List.getElem?_cons_succ, List.getElem?_map, hname]
    rfl
  have htake :
      (inspecting names).take (i + 1) = inspecting (names.take i) := by
    rw [inspecting, List.take_succ_cons, ← List.map_take, ← inspecting]
  have hperformed := Call.getElem?_performAll hcall c
  rw [htake, hbefore, run_inspecting names hasked,
    List.getElem?_cons_succ, hread,
    List.getElem?_map] at hperformed
  obtain ⟨answer, hanswer, hsame⟩ := Option.map_eq_some_iff.mp hperformed
  exact ⟨answer, hanswer, replied_perform hsame.symm⟩

/-- For any index, any program at the other end and any flags, showing the
state brings the program the question where the frame is and then, if the
frame is in a property, one line for each entry of the report that shows a
value, in their order, and nothing else. A failure of the question is
told, and nothing else is asked. The values in the text are the answers in
their order, and the answer for each variable is the reply to its own
line. -/
theorem state_reads_values_in_order (s : Session) (ellipsis storage : Bool)
    (only : Option String) (d : Dialogue (Connection π)) :
    let o : Options := { ellipsis, storage, limit := s.limit, only }
    let c := d.host
    let asked := ((Debugger.location :
      Request (Connection π) (Option GenLocation)).run c).1
    let ran := (s.run (.state ellipsis storage only)).run d
    (∀ e, asked = .error e →
      c.Brings (inspection c.token []) ran.2.host ∧
        ran.1 = .error (.host e) ∧ ran.2.user = d.user) ∧
    ∀ location, asked = .ok location →
      let snapshot := location.bind s.index.snapshotAt?
      let names := shown o snapshot
      (entries o snapshot).filterMap (·.genVar?) = names ∧
      c.Brings (inspection c.token names) ran.2.host ∧
      ∃ answers, answers.length = names.length ∧
        ran.1 = .ok () ∧
        ran.2.user = { d.user with
          output := d.user.output ++
            textWith o (entries o snapshot) answers } ∧
        ∀ i name, names[i]? = some name →
          let before := ((Call.performAll (inspecting (names.take i))).run c).2
          c.Brings (inspection c.token (names.take i)) before ∧
          ∃ answer, answers[i]? = some answer ∧
            Replied (before.token + 1) name
              (before.unread ++ Program.replies before.program
                [readingLine (before.token + 1) name]) answer := by
  intro o c asked ran
  rcases hasked : (Debugger.location :
    Request (Connection π) (Option GenLocation)).run c with ⟨found, c'⟩
  have hfound : asked = found := congrArg Prod.fst hasked
  rw [hfound]
  constructor
  · intro e he
    subst he
    have hran : ran = (.error (.host e), { d with host := c' }) :=
      Session.run_showState_of_error hasked
    have hstate : ((Call.performAll (inspecting [])).run c).2 = c' := by
      rw [run_inspecting [] hasked]
      rfl
    rw [hran]
    exact ⟨brings_inspecting hstate, rfl, rfl⟩
  · intro location hlocation snapshot names
    subst hlocation
    obtain ⟨answers, hread, hrun⟩ := s.exists_answers_showState o hasked
    have hran : ran = _ := hrun
    -- the report leaves the connection where the calls of an inspection do
    have hstate :
        ((Call.performAll (inspecting names)).run c).2 = ran.2.host := by
      rw [hran, run_inspecting names hasked]
    refine ⟨StateReport.filterMap_entries o snapshot,
      brings_inspecting hstate, answers, ?_, ?_, ?_, ?_⟩
    · rw [← List.length_map (Except.map Answer.text), ← hread,
        Call.length_performAll, List.length_map]
    · rw [hran]
    · rw [hran]
    · intro i name hname before
      exact ⟨brings_inspecting rfl, replied_inspecting hasked hread hname rfl⟩

/-- A program that gives another reply each time it is asked for a value. -/
def fickleProgram : Connection Script :=
  Script.connect []
    [⟨"-stack-info-frame",
        [[.text "$T^done,frame=\x7bfile=\"gen.adb\",line=\"28\"\x7d"]]⟩,
      ⟨"-data-evaluate-expression",
        [[.text "$T^done,value=\"7\""], [.text "$T^error,msg=\"gone\""],
          [.text "$T^done,value=\"9\""]]⟩]

/-- A debugger at the other end of a connection can be paused as one in
memory can, though asking it uses up a token. -/
example : PausedAt fickleProgram ⟨"gen.adb", 28⟩ := by
  unfold PausedAt
  decide +kernel

/-- Three variables are asked for in turn, each under a token of its own.
The second reply is an error, which is what is shown for the second
variable, and the third one is asked for all the same. -/
theorem state_reads_values_in_order_specimen :
    let s : Session := { index := .specimen }
    let d : Dialogue (Connection Script) :=
      { host := fickleProgram, user := {} }
    let left := ((s.run (.state true false none)).run d).2
    let o : Options := { limit := s.limit }
    let snapshot :=
      (some ⟨"gen.adb", 28⟩ : Option GenLocation).bind s.index.snapshotAt?
    fickleProgram.Brings (inspection 0 ["Self", "Var_X", "Add_1"]) left.host ∧
      (∃ answers, answers.length = 3 ∧ left.user = { d.user with
        output :=
          d.user.output ++ textWith o (entries o snapshot) answers }) ∧
      left.user.output =
        "Running Node.p_eval\n\nSelf = 7\n\nx = <unavailable: gone>\n" ++
          "x + 1 -> 9\nCurrently evaluating f (x)\n" := by
  intro s d left o snapshot
  have hasked : ((Debugger.location :
      Request (Connection Script) (Option GenLocation)).run fickleProgram).1 =
      .ok (some ⟨"gen.adb", 28⟩) := by decide +kernel
  have hshown : shown o snapshot = ["Self", "Var_X", "Add_1"] := by
    decide +kernel
  obtain ⟨-, hbrings, answers, hlength, -, houtput, -⟩ :=
    (state_reads_values_in_order s true false none d).2 _ hasked
  rw [hshown] at hbrings hlength
  exact ⟨hbrings, ⟨answers, hlength, houtput⟩, by decide +kernel⟩

end SpecDebugger.MachineInterface.Connection
