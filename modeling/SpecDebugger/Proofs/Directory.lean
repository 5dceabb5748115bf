/-
Files in memory, along paths.

A place on the way of a path is a directory when a component is looked
up in it. So what a path leads to stays where it is when directories are
added (`Grows.resolve_eq_ok`), and a file that is put where no directory
is can be read back (`read_put`): it stands on no part of its own way.

Making a directory only adds directories. The path leads to a directory
from then on, every file is as before, and making it once more changes
nothing (`make_spec`).
-/
import SpecDebugger.Directory
import SpecDebugger.Proofs.Results

namespace SpecDebugger

namespace Directory

variable {d d' d'' : Directory} {place next : List String}
  {component path : String} {components : List String}

-- ========================================================= one step

/-- A component leads on from a directory that is no file, if a name can
be that long. -/
theorem step_eq_ok_iff :
    d.step place component = .ok next ↔
      d.isFile place = false ∧ d.isDirectory place = true ∧
        component.utf8ByteSize ≤ FilePath.nameLimit ∧
        enter place component = next := by
  unfold step
  split
  next hfile => simp [hfile]
  next hfile =>
    split
    next hdirectory => simp_all
    next hdirectory =>
      split
      next hlong =>
        simp only [reduceCtorEq, false_iff, not_and]
        omega
      next hlong => simp_all

/-- Nothing on a way is denied. -/
theorem step_ne_denied : d.step place component ≠ .error .denied := by
  unfold step
  split
  · simp
  · split
    · simp
    · split <;> simp

/-- A way along components is a step, and a way from there. -/
theorem walk_cons_eq_ok {rest : List String} {last : List String} :
    d.walk place (component :: rest) = .ok last ↔
      ∃ next, d.step place component = .ok next ∧
        d.walk next rest = .ok last :=
  bind_eq_ok

theorem walk_ne_denied : d.walk place components ≠ .error .denied := by
  induction components generalizing place with
  | nil => simp [walk]
  | cons component rest ih =>
      show (d.step place component >>= fun next => d.walk next rest) ≠ _
      rcases hstep : d.step place component with fault | next
      · intro h
        exact step_ne_denied (hstep.trans h)
      · exact ih

/-- A path leads to a place when it is neither empty nor too long, and
its components lead there. -/
theorem resolve_eq_ok_iff {last : List String} :
    d.resolve path = .ok last ↔
      path.isEmpty = false ∧ path.utf8ByteSize < FilePath.pathLimit ∧
        d.walk (d.start path).1 (d.start path).2 = .ok last := by
  unfold resolve
  split
  next hempty => simp [hempty]
  next hempty =>
    split
    next hlong => simp [Nat.not_lt.mpr hlong]
    next hlong => simp_all

-- ============================================= more directories

/-- Whether one directory is another with more directories in it. -/
structure Grows (d d' : Directory) : Prop where
  place : d'.place = d.place
  files : d'.files = d.files
  made : d.made ⊆ d'.made

theorem Grows.refl (d : Directory) : d.Grows d :=
  ⟨rfl, rfl, List.Subset.refl _⟩

theorem Grows.trans (h : d.Grows d') (h' : d'.Grows d'') : d.Grows d'' :=
  ⟨h'.place.trans h.place, h'.files.trans h.files,
    List.Subset.trans h.made h'.made⟩

/-- A directory that is made is added. -/
theorem Grows.make (d : Directory) (place : List String) :
    d.Grows { d with made := place :: d.made } :=
  ⟨rfl, rfl, List.subset_cons_self _ _⟩

/-- No file is added and none goes away. -/
theorem Grows.isFile (h : d.Grows d') (place : List String) :
    d'.isFile place = d.isFile place := by
  rw [Directory.isFile, h.files, Directory.isFile]

/-- A directory is on the way to the starting place, to a directory that
was made, or to a file. -/
theorem isDirectory_iff :
    d.isDirectory place = true ↔
      place <+: d.place ∨ (∃ made ∈ d.made, place <+: made) ∨
        ∃ file ∈ d.files, file.1 ≠ place ∧ place <+: file.1 := by
  simp [isDirectory, or_assoc]

theorem Grows.isDirectory (h : d.Grows d')
    (hdirectory : d.isDirectory place = true) :
    d'.isDirectory place = true := by
  rw [isDirectory_iff] at hdirectory ⊢
  rw [h.place, h.files]
  refine hdirectory.imp_right (Or.imp_left fun hmade => ?_)
  obtain ⟨made, hin, hprefix⟩ := hmade
  exact ⟨made, h.made hin, hprefix⟩

/-- A component that leads on still leads there. -/
theorem Grows.step_eq_ok (h : d.Grows d')
    (hstep : d.step place component = .ok next) :
    d'.step place component = .ok next := by
  obtain ⟨hfile, hdirectory, hshort, hnext⟩ := step_eq_ok_iff.mp hstep
  exact step_eq_ok_iff.mpr
    ⟨(h.isFile place).trans hfile, h.isDirectory hdirectory, hshort, hnext⟩

/-- A way that leads somewhere still leads there. -/
theorem Grows.walk_eq_ok (h : d.Grows d') {last : List String}
    (hwalk : d.walk place components = .ok last) :
    d'.walk place components = .ok last := by
  induction components generalizing place with
  | nil => exact hwalk
  | cons component rest ih =>
      obtain ⟨next, hstep, hrest⟩ := walk_cons_eq_ok.mp hwalk
      exact walk_cons_eq_ok.mpr ⟨next, h.step_eq_ok hstep, ih hrest⟩

theorem Grows.start (h : d.Grows d') (path : String) :
    d'.start path = d.start path := by
  rw [Directory.start, h.place, Directory.start]

/-- What a path leads to stays there. -/
theorem Grows.resolve_eq_ok (h : d.Grows d') {last : List String}
    (hresolve : d.resolve path = .ok last) : d'.resolve path = .ok last := by
  obtain ⟨hsome, hshort, hwalk⟩ := resolve_eq_ok_iff.mp hresolve
  rw [resolve_eq_ok_iff, h.start]
  exact ⟨hsome, hshort, h.walk_eq_ok hwalk⟩

/-- A path gives the bytes of the file it leads to. -/
theorem read_eq_ok_iff {bytes : List UInt8} :
    d.read path = .ok bytes ↔
      ∃ place, d.resolve path = .ok place ∧
        d.files.lookup place = some bytes := by
  unfold read
  rw [bind_eq_ok]
  refine exists_congr fun place => and_congr_right fun _ => ?_
  cases d.files.lookup place <;> simp

/-- A file that can be read still reads the same. -/
theorem Grows.read_eq_ok (h : d.Grows d') {bytes : List UInt8}
    (hread : d.read path = .ok bytes) : d'.read path = .ok bytes := by
  obtain ⟨place, hresolve, hlookup⟩ := read_eq_ok_iff.mp hread
  exact read_eq_ok_iff.mpr
    ⟨place, h.resolve_eq_ok hresolve, h.files ▸ hlookup⟩

-- ==================================================== making them

/-- One component of a path that is made: it leads to a directory that
is there, or to one that is added. -/
theorem makeAll_cons_eq_ok {rest : List String} :
    d.makeAll place (component :: rest) = .ok d' ↔
      ∃ next, d.step place component = .ok next ∧
        ((d.isDirectory next = true ∧ d.makeAll next rest = .ok d') ∨
          (d.isDirectory next = false ∧ d.isFile next = false ∧
            makeAll { d with made := next :: d.made } next rest =
              .ok d')) := by
  rw [makeAll, bind_eq_ok]
  refine exists_congr fun next => and_congr_right fun _ => ?_
  rcases hdirectory : d.isDirectory next with _ | _
  · rcases hfile : d.isFile next with _ | _ <;> simp
  · simp

/-- Making directories adds directories. -/
theorem grows_makeAll (h : d.makeAll place components = .ok d') :
    d.Grows d' := by
  induction components generalizing d place with
  | nil =>
      cases h
      exact .refl _
  | cons component rest ih =>
      obtain ⟨next, -, ⟨-, hrest⟩ | ⟨-, -, hrest⟩⟩ := makeAll_cons_eq_ok.mp h
      · exact ih hrest
      · exact (Grows.make d next).trans (ih hrest)

theorem isDirectory_made (d : Directory) (place : List String) :
    isDirectory { d with made := place :: d.made } place = true :=
  isDirectory_iff.mpr
    (.inr (.inl ⟨place, List.mem_cons_self, List.prefix_rfl⟩))

/-- The components lead to a directory once they are made. -/
theorem walk_makeAll (h : d.makeAll place components = .ok d')
    (hplace : d.isDirectory place = true) :
    ∃ last, d'.walk place components = .ok last ∧
      d'.isDirectory last = true := by
  induction components generalizing d place with
  | nil =>
      cases h
      exact ⟨place, rfl, hplace⟩
  | cons component rest ih =>
      have hgrows := grows_makeAll h
      obtain ⟨next, hstep, hnext⟩ := makeAll_cons_eq_ok.mp h
      have hrest : ∃ last, d'.walk next rest = .ok last ∧
          d'.isDirectory last = true := by
        rcases hnext with ⟨hdirectory, hrest⟩ | ⟨-, -, hrest⟩
        · exact ih hrest hdirectory
        · exact ih hrest (isDirectory_made d next)
      obtain ⟨last, hwalk, hlast⟩ := hrest
      exact ⟨last,
        walk_cons_eq_ok.mpr ⟨next, hgrows.step_eq_ok hstep, hwalk⟩, hlast⟩

/-- What is made is there: making it once more, whatever was added since
then, changes nothing. -/
theorem makeAll_again (h : d.makeAll place components = .ok d')
    (hgrows : d'.Grows d'') : d''.makeAll place components = .ok d'' := by
  induction components generalizing d place with
  | nil => rfl
  | cons component rest ih =>
      have hstart := (grows_makeAll h).trans hgrows
      obtain ⟨next, hstep, hnext⟩ := makeAll_cons_eq_ok.mp h
      refine makeAll_cons_eq_ok.mpr
        ⟨next, hstart.step_eq_ok hstep, .inl ?_⟩
      rcases hnext with ⟨hdirectory, hrest⟩ | ⟨-, -, hrest⟩
      · exact ⟨hstart.isDirectory hdirectory, ih hrest⟩
      · have hmade :=
          (grows_makeAll hrest).isDirectory (isDirectory_made d next)
        exact ⟨hgrows.isDirectory hmade, ih hrest⟩

/-- A directory is made along its components, if its path is not too long. -/
theorem make_eq_ok_iff :
    d.make path = .ok d' ↔
      path.utf8ByteSize < FilePath.pathLimit ∧
        d.makeAll (d.start path).1 (d.start path).2 = .ok d' := by
  unfold make
  split
  next hlong => simp [Nat.not_lt.mpr hlong]
  next hlong => simp_all

/-- A directory that is made adds directories and nothing else. From then
on its path leads to a directory, and making it again is no change. -/
theorem make_spec (h : d.make path = .ok d') :
    d.Grows d' ∧ d'.make path = .ok d' ∧
      (path.isEmpty = false →
        ∃ place, d'.resolve path = .ok place ∧
          d'.isDirectory place = true) := by
  obtain ⟨hshort, hmake⟩ := make_eq_ok_iff.mp h
  have hgrows := grows_makeAll hmake
  have horigin : d.isDirectory (d.start path).1 = true := by
    refine isDirectory_iff.mpr (.inl ?_)
    unfold start
    split <;> simp
  refine ⟨hgrows, ?_, ?_⟩
  · rw [make_eq_ok_iff, hgrows.start]
    exact ⟨hshort, makeAll_again hmake (.refl d')⟩
  · intro hsome
    obtain ⟨place, hwalk, hplace⟩ := walk_makeAll hmake horigin
    rw [← hgrows.start] at hwalk
    exact ⟨place, resolve_eq_ok_iff.mpr ⟨hsome, hshort, hwalk⟩, hplace⟩

-- ====================================================== adding a file

/-- A file is put in front of the others, so that it is found first. -/
@[simp]
theorem files_put (d : Directory) (path : String) (bytes : List UInt8) :
    (d.put path bytes).files =
      ((d.start path).2.foldl enter (d.start path).1, bytes) :: d.files := rfl

/-- A file is put where the components of its path lead. -/
@[simp]
theorem isFile_put {bytes : List UInt8} :
    (d.put path bytes).isFile place =
      (place == (d.start path).2.foldl enter (d.start path).1 ||
        d.isFile place) := by
  rw [isFile, files_put, List.lookup_cons]
  cases place == (d.start path).2.foldl enter (d.start path).1 <;> rfl

theorem isDirectory_put {bytes : List UInt8}
    (h : d.isDirectory place = true) :
    (d.put path bytes).isDirectory place = true := by
  rw [isDirectory_iff] at h ⊢
  refine h.imp_right (Or.imp_right fun hfile => ?_)
  obtain ⟨file, hin, hne, hprefix⟩ := hfile
  exact ⟨file, List.mem_cons_of_mem _ hin, hne, hprefix⟩

/-- Components lead where they are said to. -/
theorem foldl_enter_of_walk {last : List String}
    (h : d.walk place components = .ok last) :
    components.foldl enter place = last := by
  induction components generalizing place with
  | nil => exact Except.ok.inj h
  | cons component rest ih =>
      obtain ⟨next, hstep, hrest⟩ := walk_cons_eq_ok.mp h
      obtain ⟨-, -, -, rfl⟩ := step_eq_ok_iff.mp hstep
      exact ih hrest

/-- A way to where no directory is leads on when a file is put at its
end, as the file is on no other part of it. -/
theorem walk_put {bytes : List UInt8} {last : List String}
    (hwalk : d.walk place components = .ok last)
    (hlast : (d.start path).2.foldl enter (d.start path).1 = last)
    (hfree : d.isDirectory last = false) :
    (d.put path bytes).walk place components = .ok last := by
  induction components generalizing place with
  | nil => exact hwalk
  | cons component rest ih =>
      obtain ⟨next, hstep, hrest⟩ := walk_cons_eq_ok.mp hwalk
      obtain ⟨hfile, hdirectory, hshort, hnext⟩ := step_eq_ok_iff.mp hstep
      have hne : place ≠ last := by
        intro heq
        rw [heq, hfree] at hdirectory
        cases hdirectory
      have hstill : (d.put path bytes).isFile place = false := by
        simp [hlast, hfile, hne]
      refine walk_cons_eq_ok.mpr ⟨next, ?_, ih hrest⟩
      exact step_eq_ok_iff.mpr
        ⟨hstill, isDirectory_put hdirectory, hshort, hnext⟩

/-- A file that is put where a path leads, and no directory is, can be
read there. -/
theorem read_put {last : List String} (hresolve : d.resolve path = .ok last)
    (hfree : d.isDirectory last = false) (bytes : List UInt8) :
    (d.put path bytes).read path = .ok bytes := by
  obtain ⟨hsome, hshort, hwalk⟩ := resolve_eq_ok_iff.mp hresolve
  have hlast := foldl_enter_of_walk hwalk
  refine read_eq_ok_iff.mpr
    ⟨last, resolve_eq_ok_iff.mpr ⟨hsome, hshort, ?_⟩, ?_⟩
  · exact walk_put hwalk hlast hfree
  · simp [hlast]

-- ========================================================== programs

/-- What is denied is there; that it is no program is all that is wrong
with it. -/
theorem runFaultAt_eq_denied_iff :
    d.runFaultAt path = .denied ↔
      ∃ place, d.resolve path = .ok place ∧
        (d.isFile place || d.isDirectory place) = true := by
  unfold runFaultAt
  rcases hresolve : d.resolve path with fault | place
  · have hne : fault ≠ .denied := by
      rintro rfl
      unfold resolve at hresolve
      split at hresolve
      · cases hresolve
      · split at hresolve
        · cases hresolve
        · exact walk_ne_denied hresolve
    simp [hne]
  · simp only [Except.ok.injEq, exists_eq_left']
    split
    next hthere => simp [hthere]
    next hthere => simp [hthere]

end Directory

end SpecDebugger
