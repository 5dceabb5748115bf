/-
The commands that `help` lists, each as a line of its prefix and its name.

A line is cut at its first blank before the prefix is looked for in it.
So a prefix with a blank in it is found in no line at all, and every line
is left to the debugger. Without a blank, the prefix and a name are one
word, which gives the command of that name without arguments. Nothing
else decides it: settings may set any prefix.
-/
import SpecDebugger.Command.Help
import SpecDebugger.Debugger.InMemory
import SpecDebugger.Proofs.ChannelFailures
import SpecDebugger.Proofs.CommandText
import SpecDebugger.Proofs.Index.Order
import SpecDebugger.Settings

namespace SpecDebugger

/-- What each command that is listed comes to without arguments. -/
def Help.bare : List (String × Except CommandError Command) :=
  [("state", .ok (.state true false none)),
   ("break", .error .missingBreakSpec),
    ("next", .ok .next), ("out", .ok .out), ("si", .ok .stepInside),
    ("help", .ok .help)]

/-- Every topic of the help is a command that can be given by its name. -/
theorem Help.exists_mem_bare {t : Topic} (listed : t ∈ topics) :
    ∃ result, (t.name, result) ∈ bare := by
  have hnames : bare.map Prod.fst = topics.map (·.name) := rfl
  have hname : t.name ∈ bare.map Prod.fst := by
    rw [hnames]
    exact List.mem_map_of_mem listed
  obtain ⟨entry, hentry, hfst⟩ := List.mem_map.mp hname
  exact ⟨entry.2, hfst ▸ hentry⟩

namespace Command

/-- A name that is listed is a word, and is read as its command. -/
theorem ofName?_of_mem_bare {name : String}
    {result : Except CommandError Command} (h : (name, result) ∈ Help.bare) :
    Text.IsWord name.toList ∧ ofName? name.toList [] = some result := by
  have hall : ∀ entry ∈ Help.bare, (entry.1.toList ≠ [] ∧
      Text.isSolid entry.1.toList = true) ∧
      ofName? entry.1.toList [] = some entry.2 := by
    decide
  obtain ⟨⟨hne, hsolid⟩, hname⟩ := hall _ h
  exact ⟨⟨hne, hsolid⟩, hname⟩

/-- After a prefix with a blank no line is taken for a command. -/
theorem parse?_eq_none {pre : String} (h : Text.isSolid pre.toList = false)
    (line : String) : parse? pre line = none := by
  cases hparse : parse? pre line with
  | none => rfl
  | some result =>
      have solid := (exists_ofName?_of_parse? hparse).1
      rw [h] at solid
      cases solid

/-- A listed name is read as its command with the prefix in front, unless
the prefix has white space in it. -/
theorem parse?_bare_iff {name : String} {result : Except CommandError Command}
    (h : (name, result) ∈ Help.bare) (pre : String) :
    parse? pre (pre ++ name) = some result ↔
      Text.isSolid pre.toList = true := by
  constructor
  · intro hparse
    exact (exists_ofName?_of_parse? hparse).1
  · intro solid
    obtain ⟨word, hname⟩ := ofName?_of_mem_bare h
    rw [parse?_name name solid word, hname]

end Command

/-- A line is handed on to the debugger just when it is no command. -/
theorem Session.execute_eq_false_iff {σ : Type} [Debugger σ] (s : Session)
    (line : String) (d : Dialogue σ) :
    ((s.execute line).run d).1 = .ok false ↔
      Command.parse? s.pre line = none := by
  constructor
  · intro h
    simpa using (execute_eq_ok h).symm
  · intro h
    rw [run_execute, h]

/-- Each command that `help` lists, typed as it is shown there, is taken
for that command, and comes to what it is without arguments, exactly when
there is no blank in the prefix. Otherwise the line is handed on to the
debugger, as every line then is. -/
theorem listed_commands_given_iff {σ : Type} [Debugger σ] (s : Session)
    {t : Help.Topic} (listed : t ∈ Help.topics) :
    ∃ result, (t.name, result) ∈ Help.bare ∧
      (Command.parse? s.pre (s.pre ++ t.name) = some result ↔
        Text.isSolid s.pre.toList = true) ∧
      (∀ d : Dialogue σ, ((s.execute (s.pre ++ t.name)).run d).1 = .ok false ↔
        Text.isSolid s.pre.toList = false) ∧
      ((∀ line, Command.parse? s.pre line = none) ↔
        Text.isSolid s.pre.toList = false) := by
  obtain ⟨result, hbare⟩ := Help.exists_mem_bare listed
  have hgiven := Command.parse?_bare_iff hbare s.pre
  have hnone : Command.parse? s.pre (s.pre ++ t.name) = none →
      Text.isSolid s.pre.toList = false := by
    intro h
    rw [h] at hgiven
    simpa using hgiven
  refine ⟨result, hbare, hgiven, fun d => ?_, ?_⟩
  · rw [s.execute_eq_false_iff]
    exact ⟨hnone, fun h => Command.parse?_eq_none h _⟩
  · exact ⟨fun h => hnone (h _), Command.parse?_eq_none⟩

/-- The command that is listed first, after a prefix without blanks. -/
theorem listed_commands_given_specimen :
    let s : Session := { index := .specimen, pre := "sdb-" }
    let d : Dialogue InMemory := { host := {}, user := {} }
    Help.topics.head?.map (·.name) = some "state" ∧
      Command.parse? "sdb-" "sdb-state" =
        some (.ok (.state true false none)) ∧
      ((s.execute "sdb-state").run d).1 ≠ .ok false := by
  intro s d
  have hlisted : Help.topics.head (by decide) ∈ Help.topics :=
    List.head_mem _
  obtain ⟨result, hbare, hgiven, hhanded, -⟩ :=
    listed_commands_given_iff (σ := InMemory) s hlisted
  have hsolid : Text.isSolid "sdb-".toList = true := by decide
  have hresult : result = .ok (.state true false none) := by
    have hall : ∀ entry ∈ Help.bare, entry.1 = "state" →
        entry.2 = .ok (.state true false none) := by decide
    exact hall _ hbare rfl
  refine ⟨rfl, hresult ▸ hgiven.mpr hsolid, ?_⟩
  intro hfalse
  exact Bool.false_ne_true (((hhanded d).mp hfalse).symm.trans hsolid)

/-- Settings may set a prefix that ends in a blank. The commands are shown
with it, but none of them is found. -/
theorem not_given_after_blank :
    Settings.parse "command_prefix = \"sdb \"" =
        .ok { commandPrefix := "sdb " } ∧
      "state" ∈ Help.topics.map (·.name) ∧
      Command.parse? "sdb " ("sdb " ++ "state") = none := by
  decide +kernel

end SpecDebugger
