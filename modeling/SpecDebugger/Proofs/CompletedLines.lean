/-
Completion against the reading of commands. Both look for the command of
a line, each in its own way: completion sees what is typed so far, up to
a word that may be empty, while a command is read off the whole line,
trimmed. `exists_opens` says what stands before a word that is completed.
With a name after it, this is a line that is read as a command
(`Command.parse?_eq_ofName?`), so what becomes of the line is a question
of the prefix and the name alone.
-/
import SpecDebugger.Command.Completion
import SpecDebugger.Proofs.CommandText
import SpecDebugger.Proofs.Index.Order

namespace SpecDebugger.Completion

-- =================================================== before the word

/-- What stands before the first argument of `break`: the prefix and the
name, with white space around them. -/
inductive Opens (pre : String) : List Char → Prop where
  | mk {front blanks : List Char} {b : Char}
    (front_blank : ∀ c ∈ front, Text.isBlank c = true)
    (b_blank : Text.isBlank b = true)
    (blanks_blank : ∀ c ∈ blanks, Text.isBlank c = true) :
    Opens pre (front ++ (pre.toList ++ "break".toList) ++ (b :: blanks))

/-- The word that is completed is all that stands after the name. -/
theorem exists_opens {pre : String} {line word : List Char}
    (h : word? pre line = some word) :
    ∃ before, Opens pre before ∧ line = before ++ word := by
  obtain ⟨-, front, hfront, hline⟩ :=
    Text.dropWhile_eq_iff.mp (Eq.refl (line.dropWhile Text.isBlank))
  unfold word? at h
  obtain ⟨afterPrefix, hpre, h⟩ := Option.bind_eq_some_iff.mp h
  obtain ⟨afterName, hname, h⟩ := Option.bind_eq_some_iff.mp h
  obtain ⟨b, hb, h⟩ := Option.bind_eq_some_iff.mp h
  rw [List.isPrefixOf?_eq_some_iff_append_eq] at hpre hname
  obtain ⟨rest, rfl⟩ := List.head?_eq_some_iff.mp hb
  split at h
  next => cases h
  next hblank =>
    have hblank : Text.isBlank b = true := by simpa using hblank
    obtain ⟨-, blanks, hblanks, hrest⟩ :=
      Text.dropWhile_eq_iff.mp (Eq.refl (rest.dropWhile Text.isBlank))
    dsimp only at h
    split at h
    next =>
      cases h
      refine ⟨_, .mk hfront hblank hblanks, ?_⟩
      rw [Text.trimStart_cons_blank hblank, Text.trimStart]
      rw [Text.trimStart, ← hname] at hpre
      rw [hline, ← hpre]
      conv => lhs; rw [hrest]
      simp
    next => cases h

/-- With a name in the place of the word, the line breaks on the property
of that name. -/
theorem Opens.parse?_append {pre before name : String}
    (opens : Opens pre before.toList)
    (solid : Text.isSolid pre.toList = true)
    (typeable : (BreakSpec.property name).Typeable) :
    Command.parse? pre (before ++ name) =
      some (.ok (.breakOn (.property name) none)) := by
  have hbreak : Text.IsWord "break".toList := ⟨by decide, by decide⟩
  generalize hbefore : before.toList = cs at opens
  obtain ⟨hfront, hb, hblanks⟩ := opens
  rename_i front blanks b
  have hline : (before ++ name).toList =
      front ++ (pre.toList ++ "break".toList) ++
        (b :: blanks ++ name.toList) := by
    simp [hbefore]
  have hstop : ∀ c ∈ (b :: blanks ++ name.toList).head?,
      Text.isBlank c = true := by
    rintro _ ⟨⟩
    exact hb
  have hargument : Command.parseBreak name.toList =
      .ok (.breakOn (.property name) none) := by
    simpa [BreakSpec.display] using
      @Command.parseBreak_display _ none typeable (by simp)
  rw [Command.parse?_eq_ofName? hfront solid hbreak hstop hline,
    Text.trimEnd_append _ typeable.1.isTrimmed]
  show some (Command.parseBreak (blanks ++ name.toList)) = _
  rw [Command.parseBreak_append_blanks hblanks, hargument]

-- =================================================== completed lines

/-- Every name that is offered is one of a property. -/
theorem exists_property_of_mem_names {ix : Index} {word name : String}
    (h : name ∈ names ix word) : ∃ p ∈ ix.properties, p.name = name := by
  obtain ⟨p, hp, hname⟩ := List.mem_map.mp h
  exact ⟨p, List.mem_of_mem_filter hp, hname⟩

/-- Completion cuts a line between characters, and offers only names of
properties, after what opens a `break`. -/
theorem exists_complete (ix : Index) (pre line : String) :
    ∃ before word : String, line = before ++ word ∧
      before.utf8ByteSize = (complete ix pre line).1 ∧
      ∀ name ∈ (complete ix pre line).2,
        Opens pre before.toList ∧ ∃ p ∈ ix.properties, p.name = name := by
  unfold complete
  cases hword : word? pre line.toList with
  | none => exact ⟨line, "", by simp, rfl, by simp⟩
  | some word =>
      obtain ⟨before, hopens, hline⟩ := exists_opens hword
      have hcut : line = String.ofList before ++ String.ofList word := by
        rw [← String.ofList_append, ← hline, String.ofList_toList]
      have hsize : Text.byteSize word = (String.ofList word).utf8ByteSize := by
        rw [← Text.byteSize_toList, String.toList_ofList]
      have hstart : line.utf8ByteSize - Text.byteSize word =
          (String.ofList before).utf8ByteSize := by
        rw [hcut, String.utf8ByteSize_append, hsize, Nat.add_sub_cancel]
      refine ⟨_, _, hcut, hstart.symm, fun name hname => ?_⟩
      rw [String.toList_ofList]
      exact ⟨hopens, exists_property_of_mem_names hname⟩

/-- A name that is offered, put from the start of the word to the end of
the line, makes the line break on the property of that name exactly when
the prefix has no blanks and the name is a word without colons. In every
case it is the name of one property, which is found by it. -/
theorem completed_line_breaks_iff {filename : String}
    {properties : List Property} {ix : Index}
    (accepted : Index.build filename properties = .ok ix)
    (pre line : String) :
    ∃ before word : String, line = before ++ word ∧
      before.utf8ByteSize = (complete ix pre line).1 ∧
      ∀ name ∈ (complete ix pre line).2,
        (Command.parse? pre (before ++ name) =
            some (.ok (.breakOn (.property name) none)) ↔
          Text.isSolid pre.toList = true ∧ Text.IsWord name.toList ∧
            ':' ∉ name.toList) ∧
        ∃ p, ix.findByName? name = some p ∧ p ∈ ix.properties ∧
          p.name = name ∧ ∀ q ∈ ix.properties, q.name = name → q = p := by
  have wf := Index.wellFormed_of_build accepted
  obtain ⟨before, word, hline, hstart, hnames⟩ := exists_complete ix pre line
  refine ⟨before, word, hline, hstart, fun name hname => ?_⟩
  obtain ⟨hopens, p, hp, hpname⟩ := hnames name hname
  refine ⟨⟨?_, ?_⟩, p, ?_, hp, hpname, ?_⟩
  · intro hparse
    obtain ⟨solid, typeable⟩ := Command.typeable_of_parse? hparse
    exact ⟨solid, typeable.1⟩
  · rintro ⟨solid, typeable⟩
    exact hopens.parse?_append solid typeable
  · exact (Index.findByName?_eq_some_iff accepted).mpr ⟨hp, by rw [hpname]⟩
  · intro q hq hqname
    exact List.inj_on_of_nodup_map wf.names hq hp (by rw [hqname, hpname])

/-- The name of the property of the specimen is offered for its first
letters, and makes the line a command. -/
theorem completed_line_breaks_specimen :
    "Node.p_eval" ∈ (complete .specimen "sdb-" "\tsdb-break  node").2 ∧
      ∃ before word : String, "\tsdb-break  node" = before ++ word ∧
        before.utf8ByteSize = 12 ∧
        Command.parse? "sdb-" (before ++ "Node.p_eval") =
          some (.ok (.breakOn (.property "Node.p_eval") none)) ∧
        ∃ p, Index.specimen.findByName? "Node.p_eval" = some p ∧
          p.name = "Node.p_eval" := by
  have hoffered :
      "Node.p_eval" ∈ (complete .specimen "sdb-" "\tsdb-break  node").2 := by
    decide +kernel
  obtain ⟨before, word, hline, hstart, hnames⟩ := completed_line_breaks_iff
    Index.build_specimen "sdb-" "\tsdb-break  node"
  obtain ⟨hparse, p, hfound, -, hname, -⟩ := hnames _ hoffered
  have htyped : Command.parse? "sdb-" (before ++ "Node.p_eval") =
      some (.ok (.breakOn (.property "Node.p_eval") none)) :=
    hparse.mpr ⟨by decide, ⟨by decide, by decide⟩, by decide⟩
  have htwelve : before.utf8ByteSize = 12 := hstart.trans (by decide +kernel)
  exact ⟨hoffered, before, word, hline, htwelve, htyped, p, hfound, hname⟩

end SpecDebugger.Completion
