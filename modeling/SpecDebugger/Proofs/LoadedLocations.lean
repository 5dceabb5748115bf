/-
Locations that are shown, typed again.

Every location in a loaded index is one that a text of its record was
read as (`Index.exists_parse_of_loaded`): the walk is down the record,
through the properties and by induction over the events of the scopes.
So a file may hold colons, hashes and digits only as far as reading
leaves them in it, and the location is read back from its text form.

Typing `break` and that text therefore breaks on the very location, if
the text is one word, and what is found there includes the expression
that it was recorded for (`shown_location_types_back`). A file may also
hold white space; no line breaks on a location in such a file.

# Sections

* what a loaded index holds
* typing a location
-/
import SpecDebugger.Proofs.CommandText
import SpecDebugger.Proofs.Index.Record
import SpecDebugger.Proofs.Matching

namespace SpecDebugger

-- ========================================== what a loaded index holds

namespace Index

namespace Record

/-- Each value of a list that may be left out was read from some value. -/
theorem exists_of_withDefault_list? {α : Type} {read : Json → Option α}
    {key : String} {ms : List (Option String × Json)} {as : List α}
    (h : withDefault (Json.list? read) [] key ms = some as) :
    ∀ a ∈ as, ∃ j, read j = some a := by
  intro a ha
  rcases withDefault_eq_some_iff.mp h with ⟨-, rfl⟩ | ⟨v, -, hv⟩
  · cases ha
  · obtain ⟨items, -, hitems⟩ := exists_of_list? hv
    obtain ⟨j, -, hj⟩ := hitems a ha
    exact ⟨j, hj⟩

/-- The events of a scope were read as events. -/
theorem exists_event?_of_scopeFields? {ms : List (Option String × Json)}
    {s : Scope} (h : scopeFields? ms = some s) :
    ∀ e ∈ s.events, ∃ j, event? j = some e := by
  unfold scopeFields? at h
  simp only [Option.bind_eq_bind, Option.bind_eq_some_iff] at h
  obtain ⟨lines, -, bindings, -, events, hevents, ⟨⟩⟩ := h
  exact exists_of_withDefault_list? hevents

theorem exists_event?_of_scope? {j : Json} {s : Scope}
    (h : scope? j = some s) : ∀ e ∈ s.events, ∃ j, event? j = some e := by
  rw [scope?_eq] at h
  obtain ⟨ms, -, hms⟩ := Option.bind_eq_some_iff.mp h
  exact exists_event?_of_scopeFields? hms

/-- The start markers of events that are read are read themselves, at any
depth. -/
theorem exists_exprStart?_of_events (es : List Event)
    (recorded : ∀ e ∈ es, ∃ j, event? j = some e) :
    ∀ m ∈ Event.startsIn es, ∃ j, exprStart? j = some m := by
  induction es using Event.nesting with
  | nil => exact nofun
  | marker k es ih =>
      obtain ⟨⟨j, hj⟩, hothers⟩ := List.forall_mem_cons.mp recorded
      obtain ⟨v, -, hv⟩ := event?_marker_iff.mp hj
      intro m hm
      rcases List.mem_append.mp hm with hfirst | hm
      · cases k with
        | start e =>
            rw [List.mem_singleton.mp hfirst]
            obtain ⟨w, -, hw⟩ := marker?_start_iff.mp hv
            exact ⟨w, hw⟩
        | done d => cases hfirst
      · exact ih hothers m hm
  | scope lines bindings events es ihEvents ihEs =>
      obtain ⟨⟨j, hj⟩, hothers⟩ := List.forall_mem_cons.mp recorded
      obtain ⟨v, -, hv⟩ :=
        (@event?_scope_iff j ⟨lines, bindings, events⟩).mp hj
      intro m hm
      rcases List.mem_append.mp hm with hnested | hm
      · exact ihEvents (exists_event?_of_scope? hv) m hnested
      · exact ihEs hothers m hm

/-- The location of a start marker was read as a location. -/
theorem exists_sloc?_of_exprStart? {j : Json} {e : ExprStart}
    {l : SpecLocation} (h : exprStart? j = some e) (hl : e.sloc = some l) :
    ∃ v, sloc? v = some l := by
  unfold exprStart? at h
  simp only [Option.bind_eq_bind, Option.bind_eq_some_iff] at h
  obtain ⟨ms, -, id, -, image, -, result, -, sloc, hsloc, line, -, ⟨⟩⟩ := h
  obtain rfl : sloc = some l := hl
  rcases withDefault_eq_some_iff.mp hsloc with ⟨-, hnone⟩ | ⟨v, -, hv⟩
  · cases hnone
  · exact ⟨v, nullable_some hv⟩

theorem exists_event?_of_property? {j : Json} {p : Property}
    (h : property? j = some p) : ∀ e ∈ p.events, ∃ j, event? j = some e := by
  unfold property? at h
  split at h
  next ms =>
    split at h
    next => cases h
    next =>
      simp only [Option.bind_eq_bind, Option.bind_eq_some_iff] at h
      obtain ⟨name, -, sloc, -, memoization, -, scope, hscope, ⟨⟩⟩ := h
      exact exists_event?_of_scope? hscope
  next => cases h

/-- The properties of an index were read as properties. -/
theorem exists_property?_of_index? {j : Json} {filename : String}
    {ps : List Property} (h : index? j = some (filename, ps)) :
    ∀ p ∈ ps, ∃ j, property? j = some p := by
  unfold index? at h
  simp only [Option.bind_eq_bind, Option.bind_eq_some_iff] at h
  obtain ⟨ms, -, h⟩ := h
  split at h
  next => cases h
  next =>
    simp only [Option.bind_eq_some_iff] at h
    obtain ⟨name, -, properties, hproperties, ⟨⟩⟩ := h
    exact exists_of_withDefault_list? hproperties

end Record

open Record

/-- What is in an index that was loaded was read from a value. -/
theorem exists_index?_of_loaded {text : String} {ix : Index}
    (loaded : parse text = .ok ix) :
    ∃ j, index? j = some (ix.filename, ix.properties) := by
  unfold parse ofJson at loaded
  split at loaded
  next => cases loaded
  next j _ =>
    split at loaded
    next => cases loaded
    next filename properties hread =>
      obtain ⟨rfl, -⟩ := build_eq_ok_iff.mp loaded
      exact ⟨j, hread⟩

/-- The location of an expression in a loaded index was read from a
text. -/
theorem exists_parse_of_loaded {text : String} {ix : Index}
    (loaded : parse text = .ok ix) {p : Property} (hp : p ∈ ix.properties)
    {e : ExprStart} (he : e ∈ p.starts) {l : SpecLocation}
    (hl : e.sloc = some l) : ∃ s, SpecLocation.parse s = .ok l := by
  obtain ⟨j, hindex⟩ := exists_index?_of_loaded loaded
  obtain ⟨k, hproperty⟩ := exists_property?_of_index? hindex p hp
  obtain ⟨m, hstart⟩ := exists_exprStart?_of_events p.events
    (exists_event?_of_property? hproperty) e he
  obtain ⟨v, hsloc⟩ := exists_sloc?_of_exprStart? hstart hl
  exact exists_parse_of_sloc? hsloc

end Index

-- ================================================== typing a location

/-- In an index that was loaded from any text, and for any expression in
it that has a location: typing `break` and the text form of the location
after a prefix without white space breaks on that very location, without
a condition, if the text form has no white space either. The matches of
the location are those of the start markers there, in their order, and
the expression is one of them. If the text form has white space, no line
breaks on the location. -/
theorem shown_location_types_back {text : String} {ix : Index}
    (loaded : Index.parse text = .ok ix) {pre : String}
    (solid : Text.isSolid pre.toList = true) {p : Property}
    (hp : p ∈ ix.properties) {e : ExprStart} (he : e ∈ p.starts)
    {l : SpecLocation} (hl : e.sloc = some l) :
    (Text.isSolid l.display.toList = true →
      Command.parse? pre (pre ++ "break " ++ l.display) =
        some (.ok (.breakOn (.location l) none))) ∧
      (∃ (k : Nat) (m : Match), (ix.startsAt l)[k]? = some (p, e) ∧
        (ix.findMatches l)[k]? = some m ∧ m.StandsFor p e) ∧
      (Text.isSolid l.display.toList = false → ∀ line condition,
        Command.parse? pre line ≠
          some (.ok (.breakOn (.location l) condition))) := by
  obtain ⟨s, hs⟩ := Index.exists_parse_of_loaded loaded hp he hl
  refine ⟨?_, ?_, ?_⟩
  · intro hsolid
    have hfile : Text.isSolid l.file.toList = true := by
      rw [SpecLocation.toList_display, List.append_assoc] at hsolid
      exact (Text.isSolid_append.mp hsolid).1
    have hback := SpecLocation.parse_display (SpecLocation.fits_of_parse hs)
      (SpecLocation.separable_of_parse hs)
    have hread := Command.parse?_display solid
      (c := .breakOn (.location l) none) ⟨⟨hfile, hback⟩, nofun⟩
    have hline : Command.display pre (.breakOn (.location l) none) =
        pre ++ "break " ++ l.display := String.append_empty
    rwa [hline] at hread
  · have hstart : (p, e) ∈ ix.startsAt l :=
      Index.mem_startsAt.mpr ⟨hp, he, l, hl, l.isMatch_self⟩
    obtain ⟨k, hk⟩ := List.mem_iff_getElem?.mp hstart
    obtain ⟨m, hm, hstands⟩ := Index.exists_findMatches hk
    exact ⟨k, m, hk, hm, hstands⟩
  · intro hblank line condition hread
    obtain ⟨-, htypeable, -⟩ := Command.typeable_of_parse? hread
    have hword := BreakSpec.isWord_display htypeable
    have hsolid : Text.isSolid l.display.toList = true := hword.solid
    rw [hblank] at hsolid
    cases hsolid

/-- An index with one expression, whose location is written loosely. -/
def Index.locatedRecord : String :=
  "[\"f\", [\x7b\"name\": \"p\", \"lines\": [1, 9], \"events\":
    [\x7b\"expr\": \x7b\"start\": [1, \"x\", \"v\", \" a:b:07:+8 \",
      3]\x7d\x7d]\x7d]]"

/-- The blanks, the zero and the sign are gone from what is shown, and
that is typed back. -/
theorem shown_location_types_back_specimen :
    ∃ ix, Index.parse Index.locatedRecord = .ok ix ∧
      ∃ p ∈ ix.properties, ∃ e ∈ p.starts,
        e.sloc = some ⟨"a:b", 7, some 8, none⟩ ∧
          Command.parse? "!" "!break a:b:7:8" =
            some
              (.ok (.breakOn (.location ⟨"a:b", 7, some 8, none⟩) none)) := by
  have hload : ((Index.parse Index.locatedRecord).toOption.any fun ix =>
      ix.properties.any fun p => p.starts.any fun e =>
        e.sloc == some ⟨"a:b", 7, some 8, none⟩) = true := by decide +kernel
  obtain ⟨ix, hix, hread⟩ := (Option.any_eq_true _ _).mp hload
  obtain ⟨p, hp, hstarts⟩ := List.any_eq_true.mp hread
  obtain ⟨e, he, hsloc⟩ := List.any_eq_true.mp hstarts
  have loaded := toOption_eq_some_iff.mp hix
  have hl := eq_of_beq hsloc
  have solid : Text.isSolid "!".toList = true := rfl
  have htyped := (shown_location_types_back loaded solid hp he hl).1
  exact ⟨ix, loaded, p, hp, e, he, hl, htyped rfl⟩

end SpecDebugger
