/-
Requests to a debugger as data.

A computation that drives a debugger can be run on a debugger that keeps
a record of the requests and of its own answers (`Recorded`). So what a
computation asks for, in which order, and whether it asks again after a
failure are statements about a list. Keeping the record changes nothing:
what is asked and answered is the same without it (`Mirrors`).
-/
import SpecDebugger.Proofs.Effects

namespace SpecDebugger

-- ============================================================= calls

/-- A request to a debugger. -/
inductive Call where
  | location
  | readVar (name : String)
  | insertBreakpoint (location : GenLocation) (internal : Bool)
  | setCondition (id : BreakpointId) (condition : String)
  | deleteBreakpoint (id : BreakpointId)
  | resume
  | stepInto
  | raw (command : String)

/-- What a debugger answers to a request. -/
inductive Answer where
  | location (l : Option GenLocation)
  | text (text : String)
  | breakpoint (id : BreakpointId)
  | done
  | stop (event : StopEvent)
deriving DecidableEq, Repr

section Performing

variable {σ : Type} [Debugger σ]

/-- Makes a request. -/
def Call.perform : Call → Request σ Answer
  | .location => Answer.location <$> Debugger.location
  | .readVar name => Answer.text <$> Debugger.readVar name
  | .insertBreakpoint l internal =>
    Answer.breakpoint <$> Debugger.insertBreakpoint l internal
  | .setCondition id condition =>
    (fun _ => Answer.done) <$> Debugger.setCondition id condition
  | .deleteBreakpoint id =>
    (fun _ => Answer.done) <$> Debugger.deleteBreakpoint id
  | .resume => Answer.stop <$> Debugger.resume
  | .stepInto => Answer.stop <$> Debugger.stepInto
  | .raw command => Answer.text <$> Debugger.raw command

/-- Makes requests one after the other, also after one that fails. -/
def Call.performAll : List Call → StateM σ (List (Except HostError Answer))
  | [] => pure []
  | call :: calls => do
    let answer ← call.perform.run
    let answers ← performAll calls
    return answer :: answers

/-- Asking where the frame is leaves the debugger as the request does. -/
theorem Call.state_location (h : σ) :
    (location.perform.run h).2 =
      ((Debugger.location : Request σ (Option GenLocation)).run h).2 := by
  show ((Answer.location <$> Debugger.location).run h).2 = _
  rw [run_map]
  rcases (Debugger.location : Request σ (Option GenLocation)).run h
    with ⟨_ | _, _⟩
  all_goals rfl

theorem Call.run_readVar (name : String) (h : σ) :
    (readVar name).perform.run h =
      let read := (Debugger.readVar name : Request σ String).run h
      (read.1.map .text, read.2) := by
  show (Answer.text <$> Debugger.readVar name).run h = _
  rw [run_map]
  rcases (Debugger.readVar name : Request σ String).run h with ⟨_ | _, _⟩
  all_goals rfl

/-- What a conversation gives, call by call. -/
theorem Call.run_performAll_cons (call : Call) (calls : List Call) (h : σ) :
    (performAll (call :: calls)).run h =
      let first := call.perform.run h
      let others := (performAll calls).run first.2
      (first.1 :: others.1, others.2) := rfl

@[simp]
theorem Call.length_performAll (calls : List Call) (h : σ) :
    ((performAll calls).run h).1.length = calls.length := by
  induction calls generalizing h with
  | nil => rfl
  | cons call calls ih =>
      rw [run_performAll_cons, List.length_cons, List.length_cons, ih]

/-- Each call is answered where the calls before it lead. -/
theorem Call.getElem?_performAll {calls : List Call} {i : Nat} {call : Call}
    (hcall : calls[i]? = some call) (h : σ) :
    ((performAll calls).run h).1[i]? =
      some (call.perform.run ((performAll (calls.take i)).run h).2).1 := by
  induction calls generalizing i h with
  | nil => cases hcall
  | cons first calls ih =>
      cases i with
      | zero =>
          cases hcall
          rfl
      | succ i => exact ih hcall (first.perform.run h).2

end Performing

-- ============================================================ records

variable {σ α β ε : Type}

/-- A debugger with a record of the requests made to it that may change
it, and of the answers to them. The two requests that only look at the
paused program are not part of the record. -/
structure Recorded (σ : Type) where
  host : σ
  calls : List Call := []
  answers : List (Except HostError Answer) := []

namespace Recorded

/-- Makes a request without noting it. -/
def looking (request : Request σ α) : Request (Recorded σ) α :=
  ExceptT.mk fun r =>
    ((request.run r.host).1, { r with host := (request.run r.host).2 })

/-- Makes a request, and notes it with its answer. -/
def noting (call : Call) (kind : α → Answer) (request : Request σ α) :
    Request (Recorded σ) α :=
  ExceptT.mk fun r =>
    ((request.run r.host).1,
      { host := (request.run r.host).2
        calls := r.calls ++ [call]
        answers := r.answers ++ [(request.run r.host).1.map kind] })

instance [Debugger σ] : Debugger (Recorded σ) where
  location := looking Debugger.location
  readVar name := looking (Debugger.readVar name)
  insertBreakpoint l internal :=
    noting (.insertBreakpoint l internal) .breakpoint
      (Debugger.insertBreakpoint l internal)
  setCondition id condition :=
    noting (.setCondition id condition) (fun _ => .done)
      (Debugger.setCondition id condition)
  deleteBreakpoint id :=
    noting (.deleteBreakpoint id) (fun _ => .done)
      (Debugger.deleteBreakpoint id)
  resume := noting .resume .stop Debugger.resume
  stepInto := noting .stepInto .stop Debugger.stepInto
  raw command := noting (.raw command) .text (Debugger.raw command)

/-- Whether one record goes on where another one ends, with some more
requests and answers. -/
structure Adds (r : Recorded σ) (calls : List Call)
    (answers : List (Except HostError Answer)) (r' : Recorded σ) : Prop where
  calls : r'.calls = r.calls ++ calls
  answers : r'.answers = r.answers ++ answers

namespace Adds

theorem nothing (r : Recorded σ) (host : σ) :
    r.Adds [] [] { r with host } :=
  ⟨(List.append_nil _).symm, (List.append_nil _).symm⟩

/-- What two computations add is added one after the other. -/
theorem trans {r r' r'' : Recorded σ} {calls calls' : List Call}
    {answers answers' : List (Except HostError Answer)}
    (h : r.Adds calls answers r') (h' : r'.Adds calls' answers' r'') :
    r.Adds (calls ++ calls') (answers ++ answers') r'' := by
  constructor
  · rw [h'.calls, h.calls, List.append_assoc]
  · rw [h'.answers, h.answers, List.append_assoc]

/-- A request that is noted adds itself and its answer. -/
theorem noting {call : Call} {kind : α → Answer} {request : Request σ α}
    {r t : Recorded σ} {answer : Except HostError α}
    (h : (Recorded.noting call kind request).run r = (answer, t)) :
    r.Adds [call] [answer.map kind] t := by
  cases h
  exact ⟨rfl, rfl⟩

end Adds

end Recorded

/-- Whether a computation on a debugger with a record does what another
one does on the debugger alone. -/
def Mirrors (m : StateM (Recorded σ) α) (m' : StateM σ α) : Prop :=
  ∀ r, m'.run r.host = ((m.run r).1, (m.run r).2.host)

namespace Mirrors

theorem pure (a : α) :
    Mirrors (Pure.pure a : StateM (Recorded σ) α) (Pure.pure a) :=
  fun _ => rfl

/-- A request that is noted answers as the request does. -/
theorem noting (call : Call) (kind : α → Answer) (request : Request σ α) :
    Mirrors (Recorded.noting call kind request).run request.run :=
  fun _ => rfl

/-- Two computations that are mirrored are so one after the other. -/
theorem bind {m : StateM (Recorded σ) α} {m' : StateM σ α}
    {f : α → StateM (Recorded σ) β} {f' : α → StateM σ β}
    (hm : Mirrors m m') (hf : ∀ a, Mirrors (f a) (f' a)) :
    Mirrors (m >>= f) (m' >>= f') := by
  intro r
  show (f' (m'.run r.host).1).run (m'.run r.host).2 = _
  rw [hm r]
  exact hf _ _

/-- Two that may fail are mirrored as well, the second one being left out
when the first one fails. -/
theorem bindE {x : ExceptT ε (StateM (Recorded σ)) α}
    {x' : ExceptT ε (StateM σ) α}
    {f : α → ExceptT ε (StateM (Recorded σ)) β}
    {f' : α → ExceptT ε (StateM σ) β} (hx : Mirrors x.run x'.run)
    (hf : ∀ a, Mirrors (f a).run (f' a).run) :
    Mirrors (x >>= f).run (x' >>= f').run := by
  intro r
  have hr := hx r
  simp only [StateT.run] at hr ⊢
  rw [run_bind, run_bind]
  simp only [ExceptT.run] at hr ⊢
  rw [hr]
  rcases x r with ⟨_ | a, t⟩
  · rfl
  · exact hf a t

end Mirrors

end SpecDebugger
