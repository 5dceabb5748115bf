/-
How many lines a call writes. A program takes its commands line by line,
so a call that writes more than one line gives it more commands than it
asks for.

A command is one line as long as there is no line feed in it. What a user
gives is put into a command in quotes, where a line feed is written as
two other characters (`not_mem_quote`), with one exception: the condition
of a breakpoint stands in its command as it is. So a conversation is one
line for each call, under consecutive tokens, exactly when no condition
in it has a line feed (`sends_numbered_lines_iff`).
-/
import SpecDebugger.MachineInterface.Script
import SpecDebugger.Proofs.MachineInterface.Calls

namespace SpecDebugger.MachineInterface

-- ============================================================= lines

namespace Connection

/-- A text is cut at each of its line feeds. -/
@[simp]
theorem length_linesOf (cs : List Char) :
    (linesOf cs).length = cs.count '\n' + 1 := by
  induction cs with
  | nil => rfl
  | cons c cs ih =>
      unfold linesOf
      split
      next hc =>
        rw [hc, List.length_cons, ih, List.count_cons_self]
      next hc =>
        rw [List.count_cons_of_ne hc, ← ih]
        split
        next hnil => rw [hnil] at ih; cases ih
        next line lines hcons => rw [hcons]; rfl

theorem not_mem_linesOf {cs line : List Char} (h : line ∈ linesOf cs) :
    '\n' ∉ line := by
  induction cs generalizing line with
  | nil =>
      rw [List.mem_singleton.mp h]
      exact List.not_mem_nil
  | cons c cs ih =>
      unfold linesOf at h
      split at h
      next =>
        rcases List.mem_cons.mp h with rfl | hline
        · exact List.not_mem_nil
        · exact ih hline
      next hc =>
        have hc' : '\n' ≠ c := fun heq => hc heq.symm
        split at h
        next =>
          rw [List.mem_singleton.mp h, List.mem_singleton]
          exact hc'
        next first others hcons =>
          rw [hcons] at ih
          rcases List.mem_cons.mp h with rfl | hline
          · intro hmem
            rcases List.mem_cons.mp hmem with heq | hfirst
            · exact hc' heq
            · exact ih List.mem_cons_self hfirst
          · exact ih (List.mem_cons_of_mem _ hline)

/-- A text without line feeds is one line. -/
theorem linesOf_of_not_mem {cs : List Char} (h : '\n' ∉ cs) :
    linesOf cs = [cs] := by
  induction cs with
  | nil => rfl
  | cons c cs ih =>
      have hc : c ≠ '\n' := fun heq => h (heq ▸ List.mem_cons_self)
      have hcs : '\n' ∉ cs := fun hmem => h (List.mem_cons_of_mem _ hmem)
      unfold linesOf
      rw [if_neg hc, ih hcs]

end Connection

-- ========================================================== commands

theorem not_mem_quote (s : String) : '\n' ∉ (quote s).toList := by
  have hchar : ∀ c, '\n' ∉ quoteChar c := by
    intro c
    unfold quoteChar
    grind
  unfold quote quoteChars
  simp [hchar]

theorem not_mem_digits (n : Nat) : '\n' ∉ (toString n).toList := by
  rw [Nat.toString_eq_ofList_toDigits, String.toList_ofList]
  intro hmem
  have hdigit := Nat.isDigit_of_mem_toDigits (by decide) (by decide) hmem
  cases hdigit

theorem not_mem_append {s t : String} (hs : '\n' ∉ s.toList)
    (ht : '\n' ∉ t.toList) : '\n' ∉ (s ++ t).toList := by
  rw [String.toList_append, List.mem_append, not_or]
  exact ⟨hs, ht⟩

namespace Connection

variable {π : Type} [Program π]

/-- A token adds no line feed to a command. -/
theorem count_command (token : Nat) (text : String) :
    (s!"{token}{text}").toList.count '\n' = text.toList.count '\n' := by
  have happend : (s!"{token}{text}").toList =
      (toString token).toList ++ text.toList := String.toList_append
  rw [happend, List.count_append,
    List.count_eq_zero_of_not_mem (not_mem_digits token), Nat.zero_add]

/-- Every line feed makes one line more. -/
@[simp]
theorem length_commandLines (token : Nat) (text : String) :
    (commandLines token text).length = text.toList.count '\n' + 1 := by
  unfold commandLines
  rw [List.length_map, length_linesOf, count_command]

/-- A command without line feeds is one line, with its token in front. -/
theorem commandLines_of_not_mem (token : Nat) {text : String}
    (h : '\n' ∉ text.toList) :
    commandLines token text = [s!"{token}{text}"] := by
  have hnone : '\n' ∉ (s!"{token}{text}").toList := by
    rw [← List.count_eq_zero, count_command]
    exact List.count_eq_zero_of_not_mem h
  unfold commandLines
  rw [linesOf_of_not_mem hnone, List.map_singleton, String.ofList_toList]

/-- Whether what a call sends as it is has no line feed: conditions are
the only texts that are sent so. -/
def IsFramed : Call → Prop
  | .setCondition _ condition => '\n' ∉ condition.toList
  | _ => True

/-- A line feed in a command is one in the condition that it sets. -/
theorem not_mem_command_iff (call : Call) :
    '\n' ∉ (command call).toList ↔ IsFramed call := by
  cases call with
  | location => exact iff_of_true (by decide) trivial
  | readVar name =>
      exact iff_of_true (not_mem_append (by decide) (not_mem_quote _)) trivial
  | insertBreakpoint l internal =>
      exact iff_of_true (not_mem_append (by decide) (not_mem_quote _)) trivial
  | setCondition id condition =>
      have hfront :
          '\n' ∉ ("-break-condition " ++ toString id ++ " ").toList :=
        not_mem_append (not_mem_append (by decide) (not_mem_digits id))
          (by decide)
      show '\n' ∉ (_ ++ condition).toList ↔ '\n' ∉ condition.toList
      rw [String.toList_append, List.mem_append, not_or]
      exact and_iff_right hfront
  | deleteBreakpoint id =>
      exact iff_of_true
        (not_mem_append (by decide) (not_mem_digits id)) trivial
  | resume => exact iff_of_true (by decide) trivial
  | stepInto => exact iff_of_true (by decide) trivial
  | raw text =>
      exact iff_of_true (not_mem_append (by decide) (not_mem_quote _)) trivial

-- ===================================================== conversations

/-- The commands of a conversation, each after its token: one for each
call. -/
def numbered (token : Nat) (calls : List Call) : List String :=
  (calls.zipIdx (token + 1)).map fun (call, t) => s!"{t}{command call}"

/-- Commands without line feeds make one line each, numbered one by one. -/
theorem transcript_eq_numbered {calls : List Call}
    (h : ∀ call ∈ calls, IsFramed call) (token : Nat) :
    (transcript token calls).map Prod.snd = numbered token calls := by
  induction calls generalizing token with
  | nil => rfl
  | cons call calls ih =>
      have hline := commandLines_of_not_mem (token + 1)
        ((not_mem_command_iff call).mpr (h call List.mem_cons_self))
      have hcalls :=
        ih (fun c hc => h c (List.mem_cons_of_mem _ hc)) (token + 1)
      rw [map_snd_transcript_cons, hline, hcalls]
      rfl

/-- Every call makes at least one line. -/
theorem le_length_transcript (token : Nat) (calls : List Call) :
    calls.length ≤ (transcript token calls).length := by
  induction calls generalizing token with
  | nil => exact Nat.le_refl _
  | cons call calls ih =>
      have hcalls := ih (token + 1)
      unfold transcript
      rw [List.length_append, List.length_map, length_commandLines,
        List.length_cons]
      omega

/-- A conversation with as few lines as calls has no line feed in any
command. -/
theorem isFramed_of_length_transcript {token : Nat} {calls : List Call}
    (h : (transcript token calls).length ≤ calls.length) :
    ∀ call ∈ calls, IsFramed call := by
  induction calls generalizing token with
  | nil => exact List.forall_mem_nil _
  | cons call calls ih =>
      have hcalls := le_length_transcript (token + 1) calls
      unfold transcript at h
      rw [List.length_append, List.length_map, length_commandLines,
        List.length_cons] at h
      have hnone : (command call).toList.count '\n' = 0 := by omega
      have hrest : (transcript (token + 1) calls).length ≤ calls.length := by
        omega
      intro c hc
      rcases List.mem_cons.mp hc with rfl | hc
      · exact (not_mem_command_iff c).mp (List.count_eq_zero.mp hnone)
      · exact ih hrest c hc

theorem not_mem_transcript {token : Nat} {calls : List Call} {line : String}
    (h : line ∈ (transcript token calls).map Prod.snd) :
    '\n' ∉ line.toList := by
  induction calls generalizing token with
  | nil => cases h
  | cons call calls ih =>
      rw [map_snd_transcript_cons, List.mem_append] at h
      rcases h with h | h
      · unfold commandLines at h
        obtain ⟨cs, hcs, rfl⟩ := List.mem_map.mp h
        rw [String.toList_ofList]
        exact not_mem_linesOf hcs
      · exact ih h

/-- A program gets the lines of the transcript, none of which has a line
feed in it. They are one for each call, its command under the next token,
exactly when no condition that is set has a line feed. -/
theorem sends_numbered_lines_iff (calls : List Call) (c : Connection π) :
    let lines := (transcript c.token calls).map Prod.snd
    ((Call.performAll calls).run c).2.program =
        Program.after c.program lines ∧
      (∀ line ∈ lines, '\n' ∉ line.toList) ∧
      (lines = numbered c.token calls ↔ ∀ call ∈ calls, IsFramed call) := by
  intro lines
  have hprogram := (program_performAll calls c).1
  refine ⟨hprogram, fun line hline => not_mem_transcript hline, ?_⟩
  constructor
  · intro hlines
    have hlength := congrArg List.length hlines
    simp only [lines, numbered, List.length_map, List.length_zipIdx] at hlength
    exact isFramed_of_length_transcript (Nat.le_of_eq hlength)
  · intro hcalls
    exact transcript_eq_numbered hcalls c.token

/-- A line feed in a condition ends the command that sets it: what comes
after is a command of its own, without a token. -/
theorem setCondition_sends_two_lines :
    let c := Script.connect [] [⟨"-", [[.text "$T^done"]]⟩]
    let c' := ((Call.setCondition 7 "x\n-exec-run").perform.run c).2
    c'.program.taken = ["-exec-run", "1-break-condition 7 x"] := by
  decide +kernel

end Connection

end SpecDebugger.MachineInterface
