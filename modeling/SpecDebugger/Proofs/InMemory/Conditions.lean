/-
Which conditions the debugger in memory takes, and what becomes of them.

A condition is read from front to end, with the number of parentheses
that are open and whether the text is inside quotes. What reading accepts
is said here without it. Double quotes cut a text into parts that are
outside and inside of them in turn (`Condition.outside`), and the
parentheses outside, taken as steps up and down, are to be a Dyck word
(`Condition.WellFormed`).

The induction is on the text that is left to read. The open parentheses
are the height from which its steps lead to the height at the end without
going below the ground (`Condition.Leads`); inside quotes the steps are
those of every other part from the second one on (`Condition.stepsFrom`).
-/
import Mathlib.Algebra.Group.Nat.Even
import Mathlib.Combinatorics.Enumerative.DyckWord
import SpecDebugger.Proofs.InMemory.Table
import SpecDebugger.Proofs.Results
import SpecDebugger.Proofs.Trimming

namespace SpecDebugger

namespace Condition

open DyckStep (U D)

-- ========================================================== statement

/-- Every other entry of a list, the first one among them. -/
def everyOther {α : Type} : List α → List α
  | [] => []
  | [a] => [a]
  | a :: _ :: as => a :: everyOther as

/-- What stands outside double quotes. -/
def outside (cs : List Char) : List Char :=
  (everyOther (cs.splitOn '"')).flatten

/-- A parenthesis as a step, up when it opens. -/
def step? (c : Char) : Option DyckStep :=
  if c = '(' then some U else if c = ')' then some D else none

/-- Whether a condition is one: something stands in it, its quotes are
paired, and its parentheses outside quotes are balanced. -/
structure WellFormed (cs : List Char) : Prop where
  notBlank : ∃ c ∈ cs, Text.isBlank c = false
  paired : Even (cs.count '"')
  balanced : ∃ word : DyckWord, word.toList = (outside cs).filterMap step?

-- ============================================================== steps

/-- Whether steps lead from one height to another one, never below the
ground. -/
def Leads (height : Nat) (steps : List DyckStep) (last : Nat) : Prop :=
  (∀ i, (steps.take i).count D ≤ height + (steps.take i).count U) ∧
    last + steps.count D = height + steps.count U

@[simp]
theorem leads_nil {height last : Nat} :
    Leads height [] last ↔ height = last := by
  simp [Leads, eq_comm]

@[simp]
theorem count_D_up (steps : List DyckStep) :
    (U :: steps).count D = steps.count D :=
  List.count_cons_of_ne (by decide)

@[simp]
theorem count_U_down (steps : List DyckStep) :
    (D :: steps).count U = steps.count U :=
  List.count_cons_of_ne (by decide)

/-- A parenthesis that opens leads one higher. -/
@[simp]
theorem leads_up {height last : Nat} {steps : List DyckStep} :
    Leads height (U :: steps) last ↔ Leads (height + 1) steps last := by
  unfold Leads
  rw [count_D_up, List.count_cons_self]
  refine and_congr ?_ (by omega)
  constructor
  · intro habove i
    have hi := habove (i + 1)
    rw [List.take_succ_cons, count_D_up, List.count_cons_self] at hi
    omega
  · intro habove i
    cases i with
    | zero => exact Nat.zero_le _
    | succ i =>
        have hi := habove i
        rw [List.take_succ_cons, count_D_up, List.count_cons_self]
        omega

/-- A parenthesis that closes needs one that is open, and leads one lower. -/
@[simp]
theorem leads_down {height last : Nat} {steps : List DyckStep} :
    Leads height (D :: steps) last ↔
      ∃ below, height = below + 1 ∧ Leads below steps last := by
  unfold Leads
  rw [count_U_down, List.count_cons_self]
  constructor
  · intro h
    obtain ⟨habove, hlast⟩ := h
    have hground : 1 ≤ height := habove 1
    refine ⟨height - 1, by omega, fun i => ?_, by omega⟩
    have hi := habove (i + 1)
    rw [List.take_succ_cons, count_U_down, List.count_cons_self] at hi
    omega
  · rintro ⟨below, rfl, habove, hlast⟩
    refine ⟨fun i => ?_, by omega⟩
    cases i with
    | zero => exact Nat.zero_le _
    | succ i =>
        have hi := habove i
        rw [List.take_succ_cons, count_U_down, List.count_cons_self]
        omega

/-- Steps from the ground to the ground are a Dyck word. -/
theorem leads_ground_iff {steps : List DyckStep} :
    Leads 0 steps 0 ↔ ∃ word : DyckWord, word.toList = steps := by
  constructor
  · intro h
    obtain ⟨habove, hlast⟩ := h
    exact ⟨⟨steps, by omega, fun i => by simpa using habove i⟩, rfl⟩
  · rintro ⟨word, rfl⟩
    have hcount := word.count_U_eq_count_D
    exact ⟨fun i => by simpa using word.count_D_le_count_U i, by omega⟩

-- ============================================================== parts

@[simp]
theorem everyOther_cons {α : Type} (a : α) (as : List α) :
    everyOther (a :: as) = a :: everyOther as.tail := by
  cases as <;> rfl

/-- The steps of the parentheses that count in a text, when reading it
starts inside quotes or not. -/
def stepsFrom (quoted : Bool) (cs : List Char) : List DyckStep :=
  (everyOther ((cs.splitOn '"').drop quoted.toNat)).flatten.filterMap step?

/-- A text has a part before its first quote, even if that is all of it. -/
theorem exists_splitOn (cs : List Char) :
    ∃ part parts, cs.splitOn '"' = part :: parts :=
  List.exists_cons_of_ne_nil (List.splitOn_ne_nil _ cs)

/-- A quote ends the part before it. -/
@[simp]
theorem splitOn_quote (cs : List Char) :
    ('"' :: cs).splitOn '"' = [] :: cs.splitOn '"' := by
  simp [List.splitOn_eq_splitOnP, List.splitOnP_cons_eq_if_modifyHead]

theorem splitOn_other {c : Char} (h : c ≠ '"') (cs : List Char) :
    (c :: cs).splitOn '"' = (cs.splitOn '"').modifyHead (c :: ·) := by
  simp [List.splitOn_eq_splitOnP, List.splitOnP_cons_eq_if_modifyHead, h]

@[simp]
theorem stepsFrom_nil (quoted : Bool) : stepsFrom quoted [] = [] := by
  cases quoted <;> rfl

/-- A quote turns the inside of quotes out, and the outside in. -/
@[simp]
theorem stepsFrom_quote (quoted : Bool) (cs : List Char) :
    stepsFrom quoted ('"' :: cs) = stepsFrom (!quoted) cs := by
  obtain ⟨part, parts, hparts⟩ := exists_splitOn cs
  unfold stepsFrom
  rw [splitOn_quote, hparts]
  cases quoted with
  | false => simp
  | true => simp

/-- Between quotes no parenthesis counts. -/
@[simp]
theorem stepsFrom_inside {c : Char} (h : c ≠ '"') (cs : List Char) :
    stepsFrom true (c :: cs) = stepsFrom true cs := by
  obtain ⟨part, parts, hparts⟩ := exists_splitOn cs
  unfold stepsFrom
  rw [splitOn_other h, hparts]
  simp

/-- Outside quotes a parenthesis is a step, and every other character none. -/
@[simp]
theorem stepsFrom_outside {c : Char} (h : c ≠ '"') (cs : List Char) :
    stepsFrom false (c :: cs) = (step? c).toList ++ stepsFrom false cs := by
  obtain ⟨part, parts, hparts⟩ := exists_splitOn cs
  unfold stepsFrom
  rw [splitOn_other h, hparts]
  cases hc : step? c with
  | none => simp [hc]
  | some s => simp [hc]

-- ============================================================ reading

/-- Reading a text comes out of quotes at some height just when its steps
lead there and it has as many quotes as that takes. -/
theorem scan_eq_ok_iff {depth last : Nat} {quoted : Bool} {cs : List Char} :
    scan depth quoted cs = .ok (last, false) ↔
      Leads depth (stepsFrom quoted cs) last ∧
        (Even (cs.count '"') ↔ quoted = false) := by
  induction cs generalizing depth quoted with
  | nil => simp [scan]
  | cons c cs ih =>
      unfold scan
      by_cases hquote : c = '"'
      · subst hquote
        rw [if_pos rfl, ih, stepsFrom_quote, List.count_cons_self,
          Nat.even_add_one]
        cases quoted <;> simp
      rw [if_neg hquote, List.count_cons_of_ne hquote]
      cases quoted with
      | true => simp [ih, hquote]
      | false =>
          by_cases hopen : c = '('
          · subst hopen
            simp [ih, step?]
          by_cases hclose : c = ')'
          · -- without an open parenthesis neither side holds
            subst hclose
            cases depth with
            | zero => simp [step?]
            | succ depth => simp [ih, step?]
          · simp [ih, step?, hquote, hopen, hclose]

/-- The check accepts the conditions that are well formed. -/
theorem check_eq_ok_iff {condition : String} :
    check condition = .ok () ↔ WellFormed condition.toList := by
  have hread : scan 0 false condition.toList = .ok (0, false) ↔
      (∃ word : DyckWord,
        word.toList = (outside condition.toList).filterMap step?) ∧
      Even (condition.toList.count '"') := by
    rw [scan_eq_ok_iff, leads_ground_iff]
    exact and_congr_right' (iff_true_right rfl)
  -- the text is read to its end, and only then is it asked what is left
  have hcheck : check condition = .ok () ↔
      scan 0 false condition.toList = .ok (0, false) ∧
        Text.trim condition.toList ≠ [] := by
    unfold check
    rw [bind_eq_ok]
    constructor
    · rintro ⟨⟨depth, quoted⟩, hscan, hrest⟩
      dsimp only at hrest
      split at hrest
      next => cases hrest
      next hfine =>
        simp at hfine
        obtain ⟨⟨hblank, rfl⟩, rfl⟩ := hfine
        exact ⟨hscan, hblank⟩
    · rintro ⟨hscan, hblank⟩
      exact ⟨(0, false), hscan, by simp [hblank]; rfl⟩
  rw [hcheck, hread, Text.trim_ne_nil_iff]
  constructor
  · rintro ⟨⟨balanced, paired⟩, notBlank⟩
    exact ⟨notBlank, paired, balanced⟩
  · rintro ⟨notBlank, paired, balanced⟩
    exact ⟨⟨balanced, paired⟩, notBlank⟩

end Condition

namespace InMemory

-- ========================================================= the table

/-- Whether a state is another one with a condition attached to the
breakpoint of a number, and nothing else changed. -/
structure Attaches (h : InMemory) (id : BreakpointId) (condition : String)
    (h' : InMemory) : Prop where
  entry : h'.breakpoint? id =
    (h.breakpoint? id).map fun b => { b with condition := some condition }
  others : ∀ i, i ≠ id → h'.breakpoint? i = h.breakpoint? i
  numbers : h'.breakpoints.map (·.1) = h.breakpoints.map (·.1)
  rest : h' = { h with breakpoints := h'.breakpoints }

/-- A condition changes the breakpoint of its number and no other. -/
theorem breakpoint?_withCondition (h : InMemory) (id : BreakpointId)
    (text : String) (i : BreakpointId) :
    (h.withCondition id text).breakpoint? i =
      if i = id then
        (h.breakpoint? i).map fun b => { b with
          condition := some (String.ofList (Text.trim text.toList)) }
      else h.breakpoint? i := by
  unfold breakpoint? withCondition
  dsimp only
  induction h.breakpoints with
  | nil => simp
  | cons entry entries ih =>
      obtain ⟨number, b⟩ := entry
      rw [List.map_cons, List.lookup_cons, List.lookup_cons]
      by_cases hnumber : number = id
      · subst hnumber
        by_cases hi : i = number
        · simp [hi]
        · simpa [hi, beq_eq_false_iff_ne.mpr hi] using ih
      · by_cases hi : i = number
        · simp [hi, hnumber]
        · simpa [hnumber, beq_eq_false_iff_ne.mpr hi] using ih

/-- Attaching a condition attaches it, without the white space around it. -/
theorem attaches_withCondition (h : InMemory) (id : BreakpointId)
    (text : String) :
    h.Attaches id (String.ofList (Text.trim text.toList))
      (h.withCondition id text) where
  entry := (h.breakpoint?_withCondition id text id).trans (if_pos rfl)
  others i hi := (h.breakpoint?_withCondition id text i).trans (if_neg hi)
  numbers := by
    show (List.map _ h.breakpoints).map _ = _
    rw [List.map_map]
    refine List.map_congr_left fun entry _ => ?_
    show (if entry.1 = id then _ else entry).1 = entry.1
    split <;> rfl
  rest := rfl

/-- In any state, a condition is taken exactly when there is a breakpoint
of the number and the condition is well formed: not blank, with its
quotes paired, and its parentheses outside quotes a Dyck word. It is then
attached without the white space around it, and nothing else changes;
otherwise nothing changes at all. -/
theorem takes_wellFormed_conditions (h : InMemory) (id : BreakpointId)
    (text : String) :
    let after := (Debugger.setCondition id text : Request InMemory Unit).run h
    (after.1 = .ok () ↔
        (∃ b, h.breakpoint? id = some b) ∧
          Condition.WellFormed text.toList) ∧
      (after.1 = .ok () →
        h.Attaches id (String.ofList (Text.trim text.toList)) after.2) ∧
      (after.1 ≠ .ok () → after.2 = h) := by
  intro after
  have hafter : after = _ := run_setCondition h id text
  have hcheck := @Condition.check_eq_ok_iff text
  rw [hafter, ← hcheck]
  rcases Condition.check text with fault | _
  · simp
  · rcases h.breakpoint? id with _ | b
    · simp
    · simpa using h.attaches_withCondition id text

end InMemory

end SpecDebugger
