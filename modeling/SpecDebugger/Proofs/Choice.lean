/-
What breaking on a location finds, and which of it the user chooses.

The matches of a location are listed in the order of the index, and for
each property in the order in which its tree is walked; a match is the
start marker of an expression (`Index.startsAt`). One match is taken
without a question. Of several, the user picks one by its number, or the
first one by a blank answer (`Picks`); every other answer is an error,
and so is the end of input.

# Sections

* matches: the start markers behind them
* the choice: what the dialogue reads, shows and answers
* the line: what resolving a location comes to
-/
import Mathlib.Data.List.Forall2
import SpecDebugger.Proofs.Effects

namespace SpecDebugger

-- ======================================================== matches

/-- The start markers of the expressions of a property that stand at a
location. -/
def Property.startsAt (p : Property) (query : SpecLocation) : List ExprStart :=
  p.starts.filter fun e => e.sloc.any (·.isMatch query)

/-- The start markers of the expressions at a location, each with its
property, in the order of the index. -/
def Index.startsAt (ix : Index) (query : SpecLocation) :
    List (Property × ExprStart) :=
  ix.properties.flatMap fun p => (p.startsAt query).map fun e => (p, e)

/-- Whether a match stands for a start marker of a property. -/
def Match.StandsFor (m : Match) (p : Property) (e : ExprStart) : Prop :=
  m.property = p ∧ e.sloc = some m.sloc ∧ m.line = e.line

/-- The matches of a property stand for its start markers at the
location, in their order. -/
theorem Property.forall₂_matchesOf (p : Property) (query : SpecLocation) :
    List.Forall₂ (fun m e => m.StandsFor p e) (p.matchesOf query)
      (p.startsAt query) := by
  unfold matchesOf startsAt
  induction p.starts with
  | nil => exact .nil
  | cons e es ih =>
      rcases hsloc : e.sloc with _ | sloc
      · rw [List.filterMap_cons_none (by rw [hsloc]),
          List.filter_cons_of_neg (by rw [hsloc]; simp)]
        exact ih
      · by_cases hmatch : sloc.isMatch query = true
        · rw [List.filterMap_cons_some (by rw [hsloc]; exact if_pos hmatch),
            List.filter_cons_of_pos (by rw [hsloc]; exact hmatch)]
          exact .cons ⟨rfl, hsloc, rfl⟩ ih
        · rw [List.filterMap_cons_none (by rw [hsloc]; exact if_neg hmatch),
            List.filter_cons_of_neg (by rw [hsloc]; exact hmatch)]
          exact ih

/-- The matches of a query stand for the markers it asks for, one by one. -/
theorem Index.forall₂_findMatches (ix : Index) (query : SpecLocation) :
    List.Forall₂ (fun m pe => m.StandsFor pe.1 pe.2) (ix.findMatches query)
      (ix.startsAt query) := by
  unfold findMatches startsAt
  induction ix.properties with
  | nil => exact .nil
  | cons p ps ih =>
      rw [List.flatMap_cons, List.flatMap_cons]
      refine List.rel_append ?_ ih
      exact List.forall₂_map_right_iff.mpr (p.forall₂_matchesOf query)

private theorem exists_getElem?_of_forall₂ {α β : Type _} {R : α → β → Prop}
    {as : List α} {bs : List β} (h : List.Forall₂ R as bs) {k : Nat} {a : α}
    (ha : as[k]? = some a) : ∃ b, bs[k]? = some b ∧ R a b := by
  induction h generalizing k with
  | nil => cases ha
  | cons hab _ ih =>
      cases k with
      | zero =>
          cases ha
          exact ⟨_, rfl, hab⟩
      | succ k => exact ih ha

/-- The start marker behind a listed match. -/
theorem Index.exists_startsAt {ix : Index} {query : SpecLocation} {k : Nat}
    {m : Match} (h : (ix.findMatches query)[k]? = some m) :
    ∃ p e, (ix.startsAt query)[k]? = some (p, e) ∧ m.StandsFor p e := by
  obtain ⟨⟨p, e⟩, hpe, hm⟩ :=
    exists_getElem?_of_forall₂ (ix.forall₂_findMatches query) h
  exact ⟨p, e, hpe, hm⟩

/-- The match that is listed for a start marker. -/
theorem Index.exists_findMatches {ix : Index} {query : SpecLocation} {k : Nat}
    {p : Property} {e : ExprStart}
    (h : (ix.startsAt query)[k]? = some (p, e)) :
    ∃ m, (ix.findMatches query)[k]? = some m ∧ m.StandsFor p e :=
  exists_getElem?_of_forall₂ (ix.forall₂_findMatches query).flip h

/-- A start marker at a location is one of a property of the index. -/
theorem Index.mem_startsAt {ix : Index} {query : SpecLocation} {p : Property}
    {e : ExprStart} :
    (p, e) ∈ ix.startsAt query ↔
      p ∈ ix.properties ∧ e ∈ p.starts ∧
        ∃ sloc, e.sloc = some sloc ∧ sloc.isMatch query = true := by
  unfold startsAt Property.startsAt
  simp only [List.mem_flatMap, List.mem_map, List.mem_filter, Prod.mk.injEq,
    Option.any_eq_true]
  constructor
  · intro hyp
    obtain ⟨p, hp, e, ⟨he, hsloc⟩, rfl, rfl⟩ := hyp
    exact ⟨hp, he, hsloc⟩
  · intro hyp
    obtain ⟨hp, he, hsloc⟩ := hyp
    exact ⟨p, hp, e, ⟨he, hsloc⟩, rfl, rfl⟩

-- ====================================================== the choice

/-- Which of `count` matches a user picks, counted from 0: a single one
without being asked, of several the first one by a blank answer, or the
one whose number is answered. -/
inductive Picks (u : User) : Nat → Nat → Prop where
  | unasked : Picks u 1 0
  | blank {count : Nat} {answer : String}
      {rest : List (Except ChannelFailure String)}
      (several : 2 ≤ count) (answered : u.input = .ok answer :: rest)
      (blank : Text.trim answer.toList = []) : Picks u count 0
  | number {count k : Nat} {answer : String}
      {rest : List (Except ChannelFailure String)}
      (several : 2 ≤ count) (answered : u.input = .ok answer :: rest)
      (number : Text.natural? Text.wordBound (Text.trim answer.toList) =
        some (k + 1)) : Picks u count k

/-- The answers that choose a match, and the match they choose. -/
theorem Index.chosen_eq_ok_iff {found : List Match} {answer : String}
    {m : Match} :
    chosen found answer = .ok m ↔
      ∃ k, found[k]? = some m ∧
        (Text.trim answer.toList = [] ∧ k = 0 ∨
          Text.trim answer.toList ≠ [] ∧
            Text.natural? Text.wordBound (Text.trim answer.toList) =
              some (k + 1)) := by
  unfold chosen
  by_cases hblank : Text.trim answer.toList = []
  · rw [hblank]
    rcases hfirst : found[0]? with _ | m₀
    · simp [hfirst]
    · simp [hfirst]
  · have hempty : (Text.trim answer.toList).isEmpty = false := by
      simpa using hblank
    rcases hnumber : Text.natural? Text.wordBound (Text.trim answer.toList)
      with _ | n
    · simp [hempty, hblank, hnumber]
    · cases n with
      | zero => simp [hempty, hblank, hnumber]
      | succ n =>
          rcases hn : found[n]? with _ | m₀
          · simp [hempty, hblank, hnumber, hn]
          · simp [hempty, hblank, hnumber, hn]

/-- What the user sees before answering. -/
def Index.asked (ix : Index) (query : SpecLocation) (found : List Match)
    (u : User) : User :=
  let shown := u.output ++ ix.menu query found
  { u with output := if u.prompted then shown ++ "> " else shown }

/-- The dialogue of a choice: it shows the matches, reads one line, and
answers by that line alone. -/
theorem Index.run_choose (ix : Index) (query : SpecLocation)
    (found : List Match) (u : User) :
    (ix.choose query found).run u =
      match u.input with
      | [] => (.error .aborted, ix.asked query found u)
      | .error failure :: rest =>
        (.error (.io failure), { ix.asked query found u with input := rest })
      | .ok answer :: rest =>
        (chosen found answer,
         { ix.asked query found u with input := rest }) := by
  obtain ⟨input, output, prompted⟩ := u
  rcases input with _ | ⟨failure | answer, rest⟩ <;> cases prompted <;> rfl

/-- What is chosen is chosen by the line that is read. -/
theorem Index.choose_eq_ok {ix : Index} {query : SpecLocation}
    {found : List Match} {u u' : User} {m : Match}
    (h : (ix.choose query found).run u = (.ok m, u')) :
    ∃ answer rest, u.input = .ok answer :: rest ∧
      chosen found answer = .ok m := by
  rw [run_choose] at h
  rcases hinput : u.input with _ | ⟨failure | answer, rest⟩
  · rw [hinput] at h
    cases h
  · rw [hinput] at h
    cases h
  · rw [hinput] at h
    exact ⟨answer, rest, rfl, congrArg Prod.fst h⟩

-- ======================================================== the line

/-- Resolving a location that succeeds leads to the match the user
picks. -/
theorem Index.resolveLocation_eq_ok {ix : Index} {query : SpecLocation}
    {u u' : User} {loc : GenLocation}
    (h : (ix.resolveLocation query).run u = (.ok loc, u')) :
    ∃ k m, Picks u (ix.findMatches query).length k ∧
      (ix.findMatches query)[k]? = some m ∧ loc = ix.location m.line := by
  unfold resolveLocation at h
  split at h
  next => cases h
  next m hfound =>
    cases h
    rw [hfound]
    exact ⟨0, m, .unasked, rfl, rfl⟩
  next hnone hsingle =>
    have several : 2 ≤ (ix.findMatches query).length := by
      rcases hfound : ix.findMatches query with _ | ⟨m, _ | ⟨m', ms⟩⟩
      · exact absurd hfound hnone
      · exact absurd hfound (hsingle m)
      · exact Nat.le_add_left 2 ms.length
    obtain ⟨m, t, hchoose, hline⟩ := run_bind_eq_ok.mp h
    cases hline
    obtain ⟨answer, rest, hinput, hchosen⟩ := choose_eq_ok hchoose
    obtain ⟨k, hm, ⟨hblank, rfl⟩ | ⟨-, hnumber⟩⟩ := chosen_eq_ok_iff.mp hchosen
    · exact ⟨0, m, .blank several hinput hblank, hm, rfl⟩
    · exact ⟨k, m, .number several hinput hnumber, hm, rfl⟩

/-- Resolving a name that succeeds leads to the first line of the first
scope nested in the property of that name. -/
theorem Index.resolveProperty_eq_ok {ix : Index} {name : String}
    {loc : GenLocation} :
    ix.resolveProperty name = .ok loc ↔
      ∃ p n, ix.findByName? name = some p ∧ p.toScope.firstNested? = some n ∧
        loc = ix.location n.lines.first := by
  unfold resolveProperty
  rcases hname : ix.findByName? name with _ | p
  · simp
  · rcases hnested : p.toScope.firstNested? with _ | n
    · simp [Property.bodyStart?, hnested]
    · simp [Property.bodyStart?, hnested, eq_comm]

end SpecDebugger
