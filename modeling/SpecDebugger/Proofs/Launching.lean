/-
What a dry run leaves of its files.

A run reads files and looks debuggers up; the only thing it ever makes is
the directory of the log files (`runOnFiles_leaves`). So a dry run keeps
every file, and it can be repeated: whatever could be read before it can
be read after it (`runOnFiles_keeps`).

The relation between the files before and after is a preorder as long as
it is about one directory, since making it again is no change. A run
makes only one, as it loads the environment once and before all else.
-/
import SpecDebugger.Launch.OnFiles
import SpecDebugger.MachineInterface.Script
import SpecDebugger.Proofs.Directory
import SpecDebugger.Proofs.Effects

namespace SpecDebugger

-- ============================================================ moving

section Moving

variable {σ ε ε' α : Type} {R : σ → σ → Prop}

/-- A computation that cannot fail moves on as it does by itself. -/
theorem Moves.lift [IsPreorder σ R] {m : StateM σ α} (h : Moves R m) :
    Moves R (ExceptT.lift m : ExceptT ε (StateM σ) α).run :=
  h.bind fun _ => Moves.pure _

/-- Naming a failure in another way leads to the same state. -/
theorem Moves.adapt [IsPreorder σ R] {x : ExceptT ε (StateM σ) α}
    (h : Moves R x.run) (f : ε → ε') : Moves R (x.adapt f).run :=
  h.bind fun _ => Moves.pure _

end Moving

namespace Directory

/-- Whether a directory is left as it is, or a path is made in it. -/
def MadeAt (path : String) (d d' : Directory) : Prop :=
  d' = d ∨ d.make path = .ok d'

instance (path : String) : IsPreorder Directory (MadeAt path) where
  refl _ := .inl rfl
  trans d d' d'' h h' := by
    rcases h with rfl | hmade
    · exact h'
    · rcases h' with rfl | hagain
      · exact .inr hmade
      · rw [(make_spec hmade).2.1] at hagain
        exact .inr (hmade.trans hagain)

end Directory

namespace Launch

open MachineInterface Directory

variable {π : Type} {environment : Environment}
  {place : List String} {debuggers : List (String × Connection π)}
  {input : List UInt8}

/-- Where the log files are kept in an environment. -/
def logDirectory (environment : Environment) : String :=
  FilePath.join ((environment.value? "TMPDIR").getD "/tmp") logPath

-- =========================================================== the parts

section Parts

variable {R : Directory → Directory → Prop} [IsPreorder Directory R]

theorem moves_read (path : String) :
    Moves R ((onFiles environment place debuggers input).read path) :=
  refl_of R

/-- Loading the settings only reads. -/
theorem moves_loadSettings (known : Environment)
    (config : Option String) :
    Moves R
      (loadSettings (onFiles environment place debuggers input) known
        config).run := by
  unfold loadSettings
  cases config with
  | some path => exact (moves_read path).lift.bindE fun _ => Moves.pure _
  | none =>
      dsimp only
      split
      · exact Moves.pure _
      · exact Moves.pure _
      · refine (moves_read _).lift.bindE fun bytes => ?_
        split
        · split
          · exact Moves.pure _
          · exact Moves.pure _
        · split
          · exact Moves.pure _
          · exact Moves.pure _

theorem moves_loadIndex (path : String) :
    Moves R
      (loadIndex (onFiles environment place debuggers input) path).run := by
  refine (moves_read path).lift.bindE fun bytes => ?_
  split
  · exact Moves.pure _
  · exact Moves.pure _

/-- Loading the environment only reads. -/
theorem moves_loadEnvironment (paths : List String) :
    Moves R
      (loadEnvironment (onFiles environment place debuggers input) paths) := by
  induction paths with
  | nil => exact Moves.pure _
  | cons path rest ih =>
      refine (moves_read _).bind fun bytes => ?_
      split
      · exact Moves.pure _
      · split
        · exact ih
        · exact Moves.pure _

end Parts

/-- Making a directory makes it, or tells what is in the way and leaves
everything as it is. -/
theorem moves_makeDirectory (path : String) :
    Moves (MadeAt path)
      ((onFiles environment place debuggers input).makeDirectory path) := by
  intro d
  simp only [onFiles, StateT.run]
  split
  next made hmade => exact .inr hmade
  next => exact .inl rfl

/-- Log files take the directory they are kept in, and nothing else. -/
theorem moves_makeLogs (known : Environment) :
    Moves (MadeAt (logDirectory known))
      (makeLogs (onFiles environment place debuggers input)
        known).run := by
  refine (moves_makeDirectory _).lift.bindE fun fault => ?_
  cases fault with
  | some fault => exact Moves.pure _
  | none =>
      dsimp only
      split
      · exact Moves.pure _
      · exact Moves.pure _

variable [Program π]

/-- With the options of a command line, a run makes the directory of the
log files at most. -/
theorem moves_runWith (known : Environment) (o : CommandLine.Options) :
    Moves (MadeAt (logDirectory known))
      (runWith (onFiles environment place debuggers input) known
        o).run := by
  refine ((moves_loadSettings known o.config).adapt _).bindE
    fun settings => ?_
  dsimp only
  split
  case' isTrue => refine (moves_makeLogs known).bindE fun _ => ?_
  -- with or without log files, the run goes on alike
  all_goals
    refine ((moves_loadIndex o.debugInfo).adapt _).bindE fun index => ?_
    refine Moves.lift (Moves.pure _) |>.bindE fun found => ?_
    cases found with
    | none => exact Moves.pure _
    | some connection =>
        exact (Moves.lift (Moves.pure _)).bindE fun _ => Moves.pure _

-- ========================================================== the run

/-- A dry run leaves its files as they are, but for the directory of the
log files, which it may make. -/
theorem runOnFiles_leaves (environment : Environment)
    (debuggers : List (String × Connection π)) (input : List UInt8)
    (words : List String) (d : Directory) :
    let after := (runOnFiles environment debuggers input words d).2
    after = d ∨ ∃ temporary,
      d.make (FilePath.join temporary logPath) = .ok after := by
  let around := onFiles environment d.place debuggers input
  let loading := loadEnvironment around (FilePath.upward around.place)
  -- the files are still the same when the command line is read
  have hgoes (f : Option Environment → StateM Directory (Report π)) :
      (loading >>= f).run d = (f (loading.run d).1).run d := by
    show (f (loading.run d).1).run (loading.run d).2 = _
    rw [← show d = (loading.run d).2 from
      moves_loadEnvironment (R := Eq) (FilePath.upward around.place) d]
  rcases hrun : runOnFiles environment debuggers input words d
    with ⟨report, after⟩
  show after = d ∨ _
  unfold runOnFiles run at hrun
  rw [hgoes] at hrun
  generalize (loading.run d).1 = loaded at hrun
  rcases loaded with _ | known
  · cases hrun
    exact .inl rfl
  · dsimp only at hrun
    split at hrun
    next => cases hrun; exact .inl rfl
    next => cases hrun; exact .inl rfl
    next => cases hrun; exact .inl rfl
    next o _ =>
        have hmade : MadeAt (logDirectory known) d after := by
          rw [← show _ = after from congrArg Prod.snd hrun]
          refine (moves_runWith known o).bind (fun result => ?_) d
          cases result with
          | ok report => exact Moves.pure _
          | error ending => exact Moves.pure _
        exact hmade.imp_right fun h => ⟨_, h⟩

/-- The directory is made even when the run goes on to fail: here there is
no index to load. -/
example :
    let settings := Text.bytesOf "file_logging = true"
    let d : Directory := { place := [], files := [(["s"], settings)] }
    let words := ["--config", "/s", "--debug-info", "/i", "p"]
    let left := runOnFiles (π := Script) [] [] [] words d
    left.1.ending = .failure (.readIndex "/i") ∧
      left.2.isDirectory ["tmp", "sdb-logs", "sdb"] = true := by
  decide +kernel

/-- A dry run keeps every file, and every directory. -/
theorem runOnFiles_keeps (environment : Environment)
    (debuggers : List (String × Connection π)) (input : List UInt8)
    (words : List String) (d : Directory) :
    d.Grows (runOnFiles environment debuggers input words d).2 := by
  rcases runOnFiles_leaves environment debuggers input words d with
    hsame | ⟨temporary, hmade⟩
  · rw [hsame]
    exact .refl d
  · exact (make_spec hmade).1

end Launch

end SpecDebugger
