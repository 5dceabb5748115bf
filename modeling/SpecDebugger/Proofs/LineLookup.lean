/-
Which property a frame is decoded as. Decoding asks the debugger where
the frame is and looks the line up: the answer is the first property in
the order of the index whose body contains the line. Building an index
never compares the bodies of two properties, so a line may be in several
of them; the frame then belongs to the one recorded first, whatever it
is running. Every line of every body is decoded as its own property
exactly when the bodies are pairwise apart (`Index.Apart`).

# Sections

* frames: what decoding answers does not depend on the debugger
* lookup: the first body that contains a line
* bodies that cross
-/
import SpecDebugger.Proofs.Effects
import SpecDebugger.Proofs.Index.Tree
import SpecDebugger.StateReport
import SpecDebugger.Debugger.InMemory

namespace SpecDebugger

-- ========================================================= frames

/-- The debugger answers that it is paused at a location. Answering may
change it: a debugger at the other end of a connection counts what it is
asked. -/
def PausedAt {σ : Type} [Debugger σ] (host : σ) (l : GenLocation) : Prop :=
  ((Debugger.location : Request σ (Option GenLocation)).run host).1 =
    .ok (some l)

namespace Index

/-- What decoding a frame paused at `l` gives, on every debugger, which is
asked for its location and for nothing else. -/
def Decodes (ix : Index) (l : GenLocation) (r : Option Snapshot) : Prop :=
  ∀ (σ : Type) [Debugger σ] (host : σ), PausedAt host l →
    ix.currentSnapshot?.run host =
      (.ok r,
        ((Debugger.location : Request σ (Option GenLocation)).run host).2)

/-- A frame is decoded by looking its location up. -/
theorem run_currentSnapshot?_of_paused {σ : Type} [Debugger σ] (ix : Index)
    {host : σ} {l : GenLocation} (paused : PausedAt host l) :
    ix.currentSnapshot?.run host =
      (.ok (ix.snapshotAt? l), ((Debugger.location :
        Request σ (Option GenLocation)).run host).2) := by
  have told : (Debugger.location : Request σ (Option GenLocation)).run host =
      (.ok (some l), _) := Prod.ext paused rfl
  rw [run_currentSnapshot?, told]
  rfl

/-- The debugger in memory can be paused anywhere, so there is always a
frame to decode. -/
theorem decodes_iff {ix : Index} {l : GenLocation} {r : Option Snapshot} :
    ix.Decodes l r ↔ ix.snapshotAt? l = r := by
  constructor
  · intro h
    have paused : PausedAt ({ location := some l } : InMemory) l := rfl
    have hrun := h InMemory _ paused
    rw [run_currentSnapshot?_of_paused ix paused] at hrun
    exact Except.ok.inj (congrArg Prod.fst hrun)
  · rintro rfl σ _ host paused
    exact run_currentSnapshot?_of_paused ix paused

@[simp]
theorem isGeneratedFile_filename (ix : Index) :
    ix.isGeneratedFile ix.filename = true := by
  simp [isGeneratedFile]

/-- A frame on a line of the generated file is decoded by its line. -/
theorem snapshotAt?_location (ix : Index) (line : Nat) :
    ix.snapshotAt? (ix.location line) =
      (ix.findByLine? line).map
        (Snapshot.ofProperty · (ix.location line)) := by
  unfold snapshotAt?
  rw [if_pos (show ix.isGeneratedFile (ix.location line).file = true from
    ix.isGeneratedFile_filename)]
  rfl

-- ========================================================= lookup

/-- The bodies of different properties have no line in common. -/
def Apart (ix : Index) : Prop :=
  ix.properties.Pairwise fun p q =>
    ∀ line, p.lines.contains line = true → q.lines.contains line = false

/-- No property is found on a line that is in no body. -/
theorem findByLine?_eq_none_iff {ix : Index} {line : Nat} :
    ix.findByLine? line = none ↔
      ∀ p ∈ ix.properties, p.lines.contains line = false := by
  simp [findByLine?]

theorem exists_findByLine? {ix : Index} {p : Property} {line : Nat}
    (hp : p ∈ ix.properties) (inside : p.lines.contains line = true) :
    ∃ q, ix.findByLine? line = some q := by
  rcases h : ix.findByLine? line with _ | q
  · rw [findByLine?_eq_none_iff.mp h p hp] at inside
    cases inside
  · exact ⟨q, rfl⟩

theorem mem_of_findByLine? {ix : Index} {q : Property} {line : Nat}
    (h : ix.findByLine? line = some q) :
    q ∈ ix.properties ∧ q.lines.contains line = true :=
  ⟨List.mem_of_find?_eq_some h, by simpa using List.find?_some h⟩

/-- Whether a frame at a location runs in a property: it is in the
generated file, and the property is the first one recorded around its
line. -/
structure RunsIn (ix : Index) (l : GenLocation) (p : Property) : Prop where
  generated : ix.isGeneratedFile l.file = true
  inside : p.lines.contains l.line = true
  first : ∃ earlier later, ix.properties = earlier ++ p :: later ∧
    ∀ q ∈ earlier, q.lines.contains l.line = false

/-- A frame runs in the property that is found on its line. -/
theorem runsIn_iff {ix : Index} {l : GenLocation} {p : Property} :
    ix.RunsIn l p ↔
      ix.isGeneratedFile l.file = true ∧ ix.findByLine? l.line = some p := by
  unfold findByLine?
  rw [List.find?_eq_some_iff_append]
  simp only [Bool.not_eq_true']
  constructor
  · intro runs
    exact ⟨runs.generated, runs.inside, runs.first⟩
  · intro hyp
    obtain ⟨generated, inside, first⟩ := hyp
    exact ⟨generated, inside, first⟩

/-- A frame is decoded as the property it runs in. -/
theorem RunsIn.snapshotAt? {ix : Index} {l : GenLocation} {p : Property}
    (runs : ix.RunsIn l p) :
    ix.snapshotAt? l = some (Snapshot.ofProperty p l) := by
  obtain ⟨generated, hfound⟩ := runsIn_iff.mp runs
  unfold Index.snapshotAt?
  rw [if_pos generated, hfound]
  rfl

/-- A frame is decoded as nothing when it is in another file, or in no body. -/
theorem snapshotAt?_eq_none_iff {ix : Index} {l : GenLocation} :
    ix.snapshotAt? l = none ↔
      ix.isGeneratedFile l.file = false ∨
        ∀ p ∈ ix.properties, p.lines.contains l.line = false := by
  unfold snapshotAt?
  rw [← findByLine?_eq_none_iff]
  by_cases generated : ix.isGeneratedFile l.file = true
  · simp [generated]
  · simp [generated]

/-- A snapshot is that of a property around its line. -/
theorem snapshotAt?_eq_some {ix : Index} {l : GenLocation}
    {snap : Snapshot} (h : ix.snapshotAt? l = some snap) :
    ∃ p ∈ ix.properties, p.lines.contains l.line = true ∧
      snap = Snapshot.ofProperty p l := by
  unfold snapshotAt? at h
  split at h
  case isTrue =>
    obtain ⟨p, hp, rfl⟩ := Option.map_eq_some_iff.mp h
    obtain ⟨hmem, hin⟩ := mem_of_findByLine? hp
    exact ⟨p, hmem, hin, rfl⟩
  case isFalse => cases h

/-- In an index with distinct names no property is recorded twice. -/
theorem WellFormed.nodup {properties : List Property}
    (wf : WellFormed properties) : properties.Nodup :=
  List.Pairwise.of_map _ (fun _ _ hne heq => hne (by rw [heq])) wf.names

/-- The property found is the one with no earlier body around the line. -/
theorem findByLine?_eq_some_iff {ix : Index} (nodup : ix.properties.Nodup)
    {earlier later : List Property} {p : Property} {line : Nat}
    (listed : ix.properties = earlier ++ p :: later)
    (inside : p.lines.contains line = true) :
    ix.findByLine? line = some p ↔
      ∀ q ∈ earlier, q.lines.contains line = false := by
  unfold findByLine?
  rw [listed] at nodup ⊢
  simp only [List.find?_append, List.find?_cons, inside]
  rcases h : earlier.find? (fun q => q.lines.contains line)
    with _ | q <;> rw [h]
  · have hnone := List.find?_eq_none.mp h
    simpa using hnone
  · have hq := List.mem_of_find?_eq_some h
    have hne : q ≠ p := by
      intro heq
      subst heq
      exact (List.nodup_append.mp nodup).2.2 _ hq _ List.mem_cons_self rfl
    constructor
    · intro heq
      exact absurd (Option.some.inj heq) hne
    · intro hall
      have hin : q.lines.contains line = true := by
        simpa using List.find?_some h
      rw [hall q hq] at hin
      cases hin

/-- Where bodies are apart, a line is looked up as the property it is in. -/
theorem Apart.findByLine? {ix : Index} (apart : ix.Apart) {p : Property}
    {line : Nat} (hp : p ∈ ix.properties)
    (inside : p.lines.contains line = true) :
    ix.findByLine? line = some p := by
  obtain ⟨earlier, later, listed⟩ := List.append_of_mem hp
  unfold Apart at apart
  rw [listed, List.pairwise_append] at apart
  have hnone : earlier.find? (fun q => q.lines.contains line) = none := by
    refine List.find?_eq_none.mpr ?_
    intro q hq hin
    have hout := apart.2.2 q hq p List.mem_cons_self line hin
    rw [inside] at hout
    cases hout
  unfold Index.findByLine?
  simp only [listed, List.find?_append, List.find?_cons, inside, hnone]
  rfl

/-- If every line of every body is looked up as its own property, the
bodies are apart: a common line would be looked up as two. -/
theorem apart_of_findByLine? {ix : Index} (nodup : ix.properties.Nodup)
    (own : ∀ p ∈ ix.properties, ∀ line, p.lines.contains line = true →
      ix.findByLine? line = some p) : ix.Apart := by
  apply nodup.imp_of_mem
  intro p q hp hq hne line hinp
  rcases hinq : q.lines.contains line with _ | _
  · rfl
  · have heq := (own p hp line hinp).symm.trans (own q hq line hinq)
    exact absurd (Option.some.inj heq) hne

/-- A line is decoded as the property that is found there, or as nothing. -/
theorem Decodes.location_iff {ix : Index} {line : Nat} {r : Option Snapshot} :
    ix.Decodes (ix.location line) r ↔
      r = (ix.findByLine? line).map
        (Snapshot.ofProperty · (ix.location line)) := by
  rw [decodes_iff, snapshotAt?_location]
  exact eq_comm

/-- With bodies that are apart, a frame on a line of a body is decoded
as the property of that body. -/
theorem Apart.decodes {ix : Index} (apart : ix.Apart) {p : Property}
    {line : Nat} (hp : p ∈ ix.properties)
    (inside : p.lines.contains line = true) :
    ix.Decodes (ix.location line)
      (some (Snapshot.ofProperty p (ix.location line))) := by
  rw [Decodes.location_iff, apart.findByLine? hp inside]
  rfl

/-- A frame is decoded as the property whose body contains its line just
when no property recorded before it has the line in its body as well,
and as none outside every body. So all frames are decoded as the
property they are in exactly when the bodies are apart, which building
the index does not establish. -/
theorem decodes_own_property_iff {filename : String}
    {properties : List Property} {ix : Index}
    (accepted : Index.build filename properties = .ok ix) :
    (∀ earlier p later, ix.properties = earlier ++ p :: later →
      ∀ line, p.lines.contains line = true →
      ∃ s, ix.Decodes (ix.location line) (some s) ∧
        s.property ∈ ix.properties ∧ s.property.lines.contains line = true ∧
        (s.property = p ↔ ∀ q ∈ earlier, q.lines.contains line = false)) ∧
    (∀ line, (∀ p ∈ ix.properties, p.lines.contains line = false) →
      ix.Decodes (ix.location line) none) ∧
    ((∀ p ∈ ix.properties, ∀ line, p.lines.contains line = true →
      ∃ s, ix.Decodes (ix.location line) (some s) ∧ s.property = p) ↔
      ix.Apart) := by
  have nodup := (wellFormed_of_build accepted).nodup
  refine ⟨?_, ?_, ?_, ?_⟩
  · intro earlier p later listed line inside
    have hp : p ∈ ix.properties := by
      rw [listed]
      exact List.mem_append_right _ List.mem_cons_self
    -- some property is found, if not always the one asked for
    obtain ⟨q, hq⟩ := exists_findByLine? hp inside
    obtain ⟨hmem, hin⟩ := mem_of_findByLine? hq
    refine ⟨Snapshot.ofProperty q (ix.location line), ?_, hmem, hin, ?_⟩
    · rw [Decodes.location_iff, hq]
      rfl
    · rw [← findByLine?_eq_some_iff nodup listed inside, hq]
      exact Option.some_inj.symm
  · intro line outside
    rw [Decodes.location_iff, findByLine?_eq_none_iff.mpr outside]
    rfl
  · intro own
    apply apart_of_findByLine? nodup
    intro p hp line inside
    obtain ⟨s, hs, rfl⟩ := own p hp line inside
    rw [Decodes.location_iff] at hs
    obtain ⟨q, hq, rfl⟩ := Option.map_eq_some_iff.mp hs.symm
    exact hq
  · intro apart p hp line inside
    exact ⟨_, apart.decodes hp inside, rfl⟩

-- ============================================== bodies that cross

/-- A property on the lines from 1 to 10, without code of its own. -/
def crossingFirst : Property where
  name := "p.first"
  lines := ⟨1, 10⟩

/-- A property on the lines from 5 to 15, whose code starts on line 7. -/
def crossingSecond : Property where
  name := "p.second"
  lines := ⟨5, 15⟩
  events := [.scope ⟨7, 12⟩ [] []]

def crossing : Index :=
  ⟨"gen.adb", [crossingFirst, crossingSecond],
    [("p.second", 1), ("p.first", 0)]⟩

theorem build_crossing :
    build "gen.adb" [crossingFirst, crossingSecond] = .ok crossing := rfl

/-- Past the common lines a frame is decoded as the second property. -/
theorem decodes_crossing :
    ∃ s, crossing.Decodes (crossing.location 12) (some s) ∧
      s.property = crossingSecond := by
  obtain ⟨hown, -, -⟩ := decodes_own_property_iff build_crossing
  obtain ⟨s, hs, -, -, hiff⟩ :=
    hown [crossingFirst] crossingSecond [] rfl 12 rfl
  refine ⟨s, hs, hiff.mpr ?_⟩
  intro q hq
  rw [List.mem_singleton.mp hq]
  rfl

/-- On line 7, where the code of the second property starts, a frame is
decoded as the first one, although the index is accepted. -/
theorem not_decodes_crossing :
    build "gen.adb" [crossingFirst, crossingSecond] = .ok crossing ∧
      crossingSecond ∈ crossing.properties ∧
      crossingSecond.lines.contains 7 = true ∧
      crossingSecond.bodyStart? = some 7 ∧
      (∃ s, crossing.Decodes (crossing.location 7) (some s) ∧
        s.property = crossingFirst) ∧
      ¬∃ s, crossing.Decodes (crossing.location 7) (some s) ∧
        s.property = crossingSecond := by
  refine ⟨build_crossing, List.mem_cons_of_mem _ List.mem_cons_self, rfl,
    rfl, ⟨_, Decodes.location_iff.mpr rfl, rfl⟩, ?_⟩
  intro hyp
  obtain ⟨s, hs, hsecond⟩ := hyp
  rw [Decodes.location_iff] at hs
  have hfirst : s.property = crossingFirst :=
    congrArg Snapshot.property (Option.some.inj hs)
  have hname := congrArg Property.name (hfirst.symm.trans hsecond)
  exact absurd hname (by decide)

end Index

end SpecDebugger
