/-
The text form of a location, read back. Reading goes from the end of the
text, so what it takes a text for is a question of what the numbers at
the end look like (`EndsInDiscriminator`, `EndsInLine`): the file is all
that is left before them. A file may therefore hold colons, hashes and
digits, as long as the numbers that the location does not have cannot be
taken from it (`Separable`).

`parse_eq_ok_iff_ends` gives the texts of a location. What is written is the
text of its own location when the file is separable and its numbers fit
in a word (`parse_display`), and reading gives no other locations
(`fits_of_parse`, `separable_of_parse`), though white space, signs and
leading zeros are lost.

# Sections

* the numbers at the end of a text
* reading: the texts of a location
* what can be written
-/
import SpecDebugger.Proofs.Results
import SpecDebugger.Proofs.Trimming
import SpecDebugger.SpecLocation

namespace SpecDebugger.SpecLocation

-- ================================== the numbers at the end of a text

/-- What is left of a text before its discriminator, and the
discriminator. -/
inductive EndsInDiscriminator : List Char → List Char × Option Nat → Prop where
  | absent {rest : List Char} (no_hash : '#' ∉ rest) :
    EndsInDiscriminator rest (rest, none)
  | present {rest ds : List Char} {n : Nat} (no_hash : '#' ∉ ds)
    (number : Text.natural? Text.wordBound (Text.trim ds) = some n) :
    EndsInDiscriminator (rest ++ '#' :: ds) (rest, some n)

/-- A text that ends in a colon and digits, as what stands before a
column does. -/
def EndsInNumber (cs : List Char) : Prop :=
  ∃ front digits, cs = front ++ ':' :: digits ∧ Text.isDigits digits = true

/-- The file at the start of a text, and the line and the column after
it. Only plain digits before the last colon are a line with a column. -/
inductive EndsInLine : List Char → List Char × Nat × Option Nat → Prop where
  | lineOnly {file last : List Char} {n : Nat} (no_colon : ':' ∉ last)
    (number : Text.natural? Text.wordBound (Text.trim last) = some n)
    (no_column : ¬ EndsInNumber file) :
    EndsInLine (file ++ ':' :: last) (file, n, none)
  | withColumn {file middle last : List Char} {n c : Nat}
    (digits : Text.isDigits middle = true)
    (number : Text.natural? Text.wordBound (Text.trim middle) = some n)
    (no_colon : ':' ∉ last)
    (column : Text.natural? Text.wordBound (Text.trim last) = some c) :
    EndsInLine (file ++ ':' :: (middle ++ ':' :: last)) (file, n, some c)

/-- What is left of a text without its discriminator is the front of it. -/
theorem EndsInDiscriminator.exists_append {cs rest : List Char}
    {d : Option Nat} (h : EndsInDiscriminator cs (rest, d)) :
    ∃ ending, cs = rest ++ ending := by
  cases h with
  | absent => exact ⟨[], (List.append_nil _).symm⟩
  | present => exact ⟨_, rfl⟩

theorem EndsInDiscriminator.not_mem {cs rest : List Char}
    (h : EndsInDiscriminator cs (rest, none)) : '#' ∉ rest := by
  cases h with
  | absent no_hash => exact no_hash

/-- A discriminator that is read is below the bound. -/
theorem EndsInDiscriminator.lt {cs rest : List Char} {d : Option Nat}
    (h : EndsInDiscriminator cs (rest, d)) :
    ∀ n ∈ d, n < Text.wordBound := by
  cases h with
  | absent => simp
  | present _ number =>
      rintro n ⟨⟩
      exact Text.lt_of_natural? number

theorem EndsInLine.exists_append {rest file : List Char}
    {numbers : Nat × Option Nat} (h : EndsInLine rest (file, numbers)) :
    ∃ ending, rest = file ++ ending := by
  cases h with
  | lineOnly => exact ⟨_, rfl⟩
  | withColumn => exact ⟨_, rfl⟩

/-- Without a column, the file does not end in a number. -/
theorem EndsInLine.no_column {rest file : List Char} {n : Nat}
    (h : EndsInLine rest (file, n, none)) : ¬ EndsInNumber file := by
  cases h with
  | lineOnly _ _ no_column => exact no_column

/-- The line and the column that are read are below the bound. -/
theorem EndsInLine.lt {rest file : List Char} {n : Nat}
    {column : Option Nat} (h : EndsInLine rest (file, n, column)) :
    n < Text.wordBound ∧ ∀ c ∈ column, c < Text.wordBound := by
  cases h with
  | lineOnly _ number => exact ⟨Text.lt_of_natural? number, by simp⟩
  | withColumn _ number _ column =>
      refine ⟨Text.lt_of_natural? number, ?_⟩
      rintro c ⟨⟩
      exact Text.lt_of_natural? column

private theorem not_mem_of_isDigits {cs : List Char}
    (h : Text.isDigits cs = true) : ':' ∉ cs := by
  intro hmem
  cases (Text.isDigits_iff.mp h).2 _ hmem

/-- A text ends in a number when what follows its last colon is digits. -/
private theorem endsInNumber_iff {cs : List Char} :
    EndsInNumber cs ↔ ∃ front digits,
      Text.cutAtLast ':' cs = some (front, digits) ∧
        Text.isDigits digits = true := by
  constructor
  · rintro ⟨front, digits, rfl, hdigits⟩
    exact ⟨front, digits,
      Text.cutAtLast_append front (not_mem_of_isDigits hdigits), hdigits⟩
  · rintro ⟨front, digits, hcut, hdigits⟩
    exact ⟨front, digits, (Text.eq_of_cutAtLast hcut).1, hdigits⟩

-- =========================================================== reading

/-- A part is read as a number, white space around it left out. -/
theorem readPart_eq_ok_iff {part : Part} {cs input : List Char} {n : Nat} :
    readPart part cs input = .ok n ↔
      Text.natural? Text.wordBound (Text.trim cs) = some n := by
  unfold readPart
  cases Text.natural? Text.wordBound (Text.trim cs) with
  | none => simp
  | some m => simp

theorem readDiscriminator_eq_ok_iff {input : List Char}
    {r : List Char × Option Nat} :
    readDiscriminator input = .ok r ↔ EndsInDiscriminator input r := by
  constructor
  · intro h
    unfold readDiscriminator at h
    split at h
    next hcut =>
      cases h
      exact .absent (Text.not_mem_of_cutAtLast_none hcut)
    next rest ds hcut =>
      obtain ⟨n, hn, heq⟩ := bind_eq_ok.mp h
      cases heq
      obtain ⟨rfl, hfree⟩ := Text.eq_of_cutAtLast hcut
      exact .present hfree (readPart_eq_ok_iff.mp hn)
  · intro h
    unfold readDiscriminator
    cases h with
    | absent hfree => rw [Text.cutAtLast_of_not_mem hfree]
    | present hfree hn =>
        rw [Text.cutAtLast_append _ hfree]
        exact bind_eq_ok.mpr ⟨_, readPart_eq_ok_iff.mpr hn, rfl⟩

/-- The colon before the last one decides: the number after it is a line
only if it is plain digits. -/
theorem readLine_eq_ok_iff {rest input : List Char}
    {r : List Char × Nat × Option Nat} :
    readLine rest input = .ok r ↔ EndsInLine rest r := by
  constructor
  · intro h
    unfold readLine at h
    split at h
    next => cases h
    next head last hcut =>
      obtain ⟨rfl, hfree⟩ := Text.eq_of_cutAtLast hcut
      dsimp only at h
      split at h
      next hhead =>
        obtain ⟨n, hn, heq⟩ := bind_eq_ok.mp h
        cases heq
        refine .lineOnly hfree (readPart_eq_ok_iff.mp hn) fun hends => ?_
        obtain ⟨_, _, hsome, _⟩ := endsInNumber_iff.mp hends
        rw [hhead] at hsome
        cases hsome
      next file middle hhead =>
        split at h
        next hdigits =>
          obtain ⟨n, hn, hrest⟩ := bind_eq_ok.mp h
          obtain ⟨c, hc, heq⟩ := bind_eq_ok.mp hrest
          cases heq
          rw [(Text.eq_of_cutAtLast hhead).1, List.append_assoc,
            List.cons_append]
          exact .withColumn hdigits (readPart_eq_ok_iff.mp hn) hfree
            (readPart_eq_ok_iff.mp hc)
        next hdigits =>
          obtain ⟨n, hn, heq⟩ := bind_eq_ok.mp h
          cases heq
          refine .lineOnly hfree (readPart_eq_ok_iff.mp hn) fun hends => ?_
          obtain ⟨_, _, hsome, hd⟩ := endsInNumber_iff.mp hends
          rw [hhead] at hsome
          cases hsome
          exact hdigits hd
  · intro h
    unfold readLine
    cases h with
    | @lineOnly file last n hfree hn hcol =>
        have hline : (do
            let line ← readPart .line last input
            pure (file, line, none) :
              Except Malformed (List Char × Nat × Option Nat)) =
            .ok (file, n, none) :=
          bind_eq_ok.mpr ⟨n, readPart_eq_ok_iff.mpr hn, rfl⟩
        -- there may be a colon further in, but no number stands behind it
        rw [Text.cutAtLast_append _ hfree]
        dsimp only
        split
        next => exact hline
        next front digits hcut =>
          rw [if_neg fun hd =>
            hcol (endsInNumber_iff.mpr ⟨front, digits, hcut, hd⟩)]
          exact hline
    | @withColumn file middle last n c hdigits hn hfree hc =>
        have hassoc : file ++ ':' :: (middle ++ ':' :: last) =
            (file ++ ':' :: middle) ++ ':' :: last := by
          rw [List.append_assoc, List.cons_append]
        rw [hassoc, Text.cutAtLast_append _ hfree]
        dsimp only
        rw [Text.cutAtLast_append _ (not_mem_of_isDigits hdigits)]
        dsimp only
        rw [if_pos hdigits]
        exact bind_eq_ok.mpr ⟨n, readPart_eq_ok_iff.mpr hn,
          bind_eq_ok.mpr ⟨c, readPart_eq_ok_iff.mpr hc, rfl⟩⟩

/-- The texts of a location: white space around its file, its line and
what else it has of numbers. -/
theorem parse_eq_ok_iff_ends {s : String} {l : SpecLocation} :
    parse s = .ok l ↔ l.file ≠ "" ∧ ∃ rest,
      EndsInDiscriminator (Text.trim s.toList) (rest, l.discriminator) ∧
        EndsInLine rest (l.file.toList, l.line, l.column) := by
  unfold parse
  constructor
  · intro h
    obtain ⟨⟨rest, d⟩, hd, h⟩ := bind_eq_ok.mp h
    obtain ⟨⟨file, line, column⟩, hl, h⟩ := bind_eq_ok.mp h
    dsimp only at h
    split at h
    next => cases h
    next hne =>
      cases h
      refine ⟨?_, rest, readDiscriminator_eq_ok_iff.mp hd, ?_⟩
      · simpa using hne
      · simpa using readLine_eq_ok_iff.mp hl
  · rintro ⟨hne, rest, hd, hl⟩
    refine bind_eq_ok.mpr ⟨_, readDiscriminator_eq_ok_iff.mpr hd,
      bind_eq_ok.mpr ⟨_, readLine_eq_ok_iff.mpr hl, ?_⟩⟩
    have hfile : l.file.toList ≠ [] := by simpa using hne
    dsimp only
    rw [if_neg hfile, String.ofList_toList]
    rfl

/-- A location starts its text with its file. -/
theorem exists_trim_of_parse {s : String} {l : SpecLocation}
    (h : parse s = .ok l) :
    ∃ ending, Text.trim s.toList = l.file.toList ++ ending := by
  obtain ⟨-, rest, hd, hl⟩ := parse_eq_ok_iff_ends.mp h
  obtain ⟨_, hrest⟩ := hl.exists_append
  obtain ⟨_, hinput⟩ := hd.exists_append
  rw [hrest, List.append_assoc] at hinput
  exact ⟨_, hinput⟩

-- =============================================== what can be written

/-- Every number of a location fits in a word. -/
structure Fits (l : SpecLocation) : Prop where
  line : l.line < Text.wordBound
  column : ∀ n ∈ l.column, n < Text.wordBound
  discriminator : ∀ n ∈ l.discriminator, n < Text.wordBound

/-- The file is told from the white space before it and from the numbers
after it: without a discriminator it has no hash, and without a column
it does not end like a line. -/
structure Separable (l : SpecLocation) : Prop where
  file_ne : l.file ≠ ""
  not_blank : ∀ c ∈ l.file.toList.head?, Text.isBlank c = false
  no_hash : l.discriminator = none → '#' ∉ l.file.toList
  no_number : l.column = none → ¬ EndsInNumber l.file.toList

/-- What is read from a text fits. -/
theorem fits_of_parse {s : String} {l : SpecLocation}
    (h : parse s = .ok l) : l.Fits := by
  obtain ⟨-, rest, hd, hl⟩ := parse_eq_ok_iff_ends.mp h
  exact ⟨hl.lt.1, hl.lt.2, hd.lt⟩

/-- What is read from a text can be told apart again. -/
theorem separable_of_parse {s : String} {l : SpecLocation}
    (h : parse s = .ok l) : l.Separable := by
  obtain ⟨hne, rest, hd, hl⟩ := parse_eq_ok_iff_ends.mp h
  refine ⟨hne, ?_, ?_, ?_⟩
  · intro c hc
    obtain ⟨_, htrim⟩ := exists_trim_of_parse h
    have hstart : c ∈ (Text.trim s.toList).head? := by
      rw [htrim, List.head?_append, Option.mem_def.mp hc]
      rfl
    exact Text.not_isBlank_of_head?_trim hstart
  · intro hnone hmem
    rw [hnone] at hd
    obtain ⟨_, hrest⟩ := hl.exists_append
    exact hd.not_mem (hrest ▸ List.mem_append_left _ hmem)
  · intro hnone
    rw [hnone] at hl
    exact hl.no_column

/-- The text form, part by part. -/
theorem toList_display (l : SpecLocation) :
    l.display.toList = l.file.toList ++ ':' ::
      (Text.digits l.line ++ l.column.elim [] (':' :: Text.digits ·)) ++
        l.discriminator.elim [] ('#' :: Text.digits ·) := by
  unfold display
  cases l.column <;> cases l.discriminator <;>
    simp [Text.digits, toString]

/-- The text form has the characters of the file, digits and marks, and
no others. -/
theorem mem_display {l : SpecLocation} {c : Char}
    (h : c ∈ l.display.toList) :
    c ∈ l.file.toList ∨ c = ':' ∨ c = '#' ∨ c.isDigit = true := by
  have hpart : ∀ (mark : Char) (part : Option Nat),
      c ∈ part.elim [] (mark :: Text.digits ·) →
        c = mark ∨ c.isDigit = true := by
    intro mark part hc
    cases part with
    | none => cases hc
    | some n =>
        exact (List.mem_cons.mp hc).imp_right Text.isDigit_of_mem_digits
  rw [toList_display] at h
  simp only [List.mem_append, List.mem_cons] at h
  rcases h with (h | h | h | h) | h
  · exact .inl h
  · exact .inr (.inl h)
  · exact .inr (.inr (.inr (Text.isDigit_of_mem_digits h)))
  · exact .inr ((hpart ':' _ h).imp_right .inr)
  · exact .inr (.inr (hpart '#' _ h))

/-- The text form ends in a number. -/
theorem exists_display_eq_digits (l : SpecLocation) :
    ∃ front n, l.display.toList = front ++ Text.digits n := by
  rw [toList_display]
  cases l.discriminator with
  | some d => exact ⟨_ ++ ['#'], d, List.append_cons _ '#' _⟩
  | none =>
      rw [Option.elim_none, List.append_nil]
      cases l.column with
      | none => exact ⟨l.file.toList ++ [':'], l.line, by simp⟩
      | some c =>
          exact ⟨l.file.toList ++ ':' :: (Text.digits l.line ++ [':']), c,
            by simp⟩

/-- What is written has no white space around it: it starts with the
file and ends in digits. -/
@[simp]
theorem trim_display {l : SpecLocation} (separable : l.Separable) :
    Text.trim l.display.toList = l.display.toList := by
  refine Text.trim_eq_self ?_ ?_
  · intro c hc
    have hne : l.file.toList ≠ [] := by simpa using separable.file_ne
    refine separable.not_blank c ?_
    rw [toList_display, List.append_assoc, List.head?_append,
      List.head?_eq_some_head hne] at hc
    rwa [List.head?_eq_some_head hne]
  · intro c hc
    obtain ⟨front, n, hends⟩ := l.exists_display_eq_digits
    rw [hends, List.getLast?_append,
      List.getLast?_eq_some_getLast (Text.digits_ne_nil n)] at hc
    cases hc
    exact Text.not_isBlank_of_mem_digits (List.getLast_mem _)

private theorem natural?_trim_digits {n : Nat} (h : n < Text.wordBound) :
    Text.natural? Text.wordBound (Text.trim (Text.digits n)) = some n := by
  simp [Text.natural?_digits h]

/-- A location whose numbers fit and whose file is separable is read
back from its text form. -/
theorem parse_display {l : SpecLocation} (fits : l.Fits)
    (separable : l.Separable) : parse l.display = .ok l := by
  refine parse_eq_ok_iff_ends.mpr ⟨separable.file_ne, l.file.toList ++ ':' ::
    (Text.digits l.line ++ l.column.elim [] (':' :: Text.digits ·)), ?_, ?_⟩
  · rw [trim_display separable, toList_display]
    cases hd : l.discriminator with
    | some d =>
        exact .present (Text.not_mem_digits rfl d)
          (natural?_trim_digits (fits.discriminator d hd))
    | none =>
        rw [Option.elim_none, List.append_nil]
        refine .absent ?_
        have hfile := separable.no_hash hd
        have hdigits : ∀ n, '#' ∉ Text.digits n := Text.not_mem_digits rfl
        cases l.column <;> simp [hfile, hdigits]
  · cases hc : l.column with
    | some c =>
        exact .withColumn (Text.isDigits_digits _)
          (natural?_trim_digits fits.line) (Text.not_mem_digits rfl c)
          (natural?_trim_digits (fits.column c hc))
    | none =>
        rw [Option.elim_none, List.append_nil]
        exact .lineOnly (Text.not_mem_digits rfl _)
          (natural?_trim_digits fits.line) (separable.no_number hc)

/-- The locations that are read back from their text form are those with
a separable file and numbers that fit, and reading any text gives only
such locations. -/
theorem reads_back_iff :
    (∀ l : SpecLocation, parse l.display = .ok l ↔ l.Fits ∧ l.Separable) ∧
      ∀ s l, parse s = .ok l →
        (l.Fits ∧ l.Separable) ∧ parse l.display = .ok l := by
  have hread : ∀ {s l}, parse s = .ok l → l.Fits ∧ l.Separable :=
    fun h => ⟨fits_of_parse h, separable_of_parse h⟩
  refine ⟨fun l => ⟨hread, fun h => parse_display h.1 h.2⟩, ?_⟩
  intro s l h
  obtain ⟨fits, separable⟩ := hread h
  exact ⟨⟨fits, separable⟩, parse_display fits separable⟩

/-- A file with a drive, a blank, a sign and a number, which is read back
once the other blanks, the zeros and the second sign are gone. -/
theorem reads_back_specimen :
    parse " C:\\a b.py:+5:007:08 #+2 " =
        .ok ⟨"C:\\a b.py:+5", 7, some 8, some 2⟩ ∧
      parse "C:\\a b.py:+5:7:8#2" =
        .ok ⟨"C:\\a b.py:+5", 7, some 8, some 2⟩ := by
  have hread : parse " C:\\a b.py:+5:007:08 #+2 " =
      .ok ⟨"C:\\a b.py:+5", 7, some 8, some 2⟩ := by decide +kernel
  exact ⟨hread, (reads_back_iff.2 _ _ hread).2⟩

end SpecDebugger.SpecLocation
