/-
How a line falls into words. Three cuts are in use: at the first blank,
at every blank, and at the first few blanks with all that is left as one
more piece. Each is determined by what it does to a word, which is any
run of characters without a blank: with a blank or nothing after it, a
word is cut off whole. Conversely whatever a cut gives is a word, the
piece that is left as it is apart, which is trimmed.
-/
import SpecDebugger.Proofs.Trimming

namespace SpecDebugger.Text

variable {cs rest word : List Char} {b : Char}

-- ============================================================= words

/-- A solid text has no white space in it. -/
theorem isSolid_iff : isSolid cs = true ↔ ∀ c ∈ cs, isBlank c = false := by
  simp [isSolid]

/-- Two solid texts are solid one after the other. -/
@[simp]
theorem isSolid_append {ds : List Char} :
    isSolid (cs ++ ds) = true ↔ isSolid cs = true ∧ isSolid ds = true := by
  simp [isSolid]

/-- A word: at least one character, none of them blank. -/
structure IsWord (cs : List Char) : Prop where
  ne_nil : cs ≠ []
  solid : isSolid cs = true

/-- At least one character, and no blank at either end. -/
structure IsTrimmed (cs : List Char) : Prop where
  ne_nil : cs ≠ []
  start : ∀ c ∈ cs.head?, isBlank c = false
  ending : ∀ c ∈ cs.getLast?, isBlank c = false

theorem IsWord.not_isBlank (h : IsWord cs) : ∀ c ∈ cs, isBlank c = false :=
  isSolid_iff.mp h.solid

theorem IsWord.isTrimmed (h : IsWord cs) : IsTrimmed cs :=
  ⟨h.ne_nil, fun c hc => h.not_isBlank c (List.mem_of_mem_head? hc),
    fun c hc => h.not_isBlank c (List.mem_of_getLast? hc)⟩

theorem IsWord.exists_cons (h : IsWord word) :
    ∃ c cs, word = c :: cs ∧ isBlank c = false ∧ isSolid cs = true := by
  cases word with
  | nil => exact absurd rfl h.ne_nil
  | cons c cs =>
      obtain ⟨hc, hcs⟩ := List.forall_mem_cons.mp h.not_isBlank
      exact ⟨c, cs, rfl, hc, isSolid_iff.mpr hcs⟩

theorem IsTrimmed.trim_eq (h : IsTrimmed cs) : trim cs = cs :=
  trim_eq_self h.start h.ending

/-- Trimming at the end keeps the first character, if any is left. -/
theorem mem_head?_trimEnd {c : Char} (h : c ∈ (trimEnd cs).head?) :
    c ∈ cs.head? := by
  obtain ⟨-, ending, -, hcs⟩ := dropEndWhile_eq_iff.mp (Eq.refl (trimEnd cs))
  rw [hcs, List.head?_append, Option.mem_def.mp h]
  rfl

/-- A text that ends in a trimmed one is trimmed at its end. -/
theorem trimEnd_append (front : List Char) (h : IsTrimmed cs) :
    trimEnd (front ++ cs) = front ++ cs := by
  refine dropEndWhile_eq_iff.mpr ⟨?_, [], by simp, by simp⟩
  intro c hc
  rw [List.getLast?_append, List.getLast?_eq_some_getLast h.ne_nil] at hc
  exact h.ending c (by rwa [List.getLast?_eq_some_getLast h.ne_nil])

/-- What is left by trimming is trimmed. -/
theorem isTrimmed_trim (h : trim cs ≠ []) : IsTrimmed (trim cs) :=
  have hyp := trim_eq_iff.mp (Eq.refl (trim cs))
  ⟨h, hyp.1, hyp.2.1⟩

/-- A text between two trimmed ones may have white space in it. -/
theorem IsTrimmed.append {front ending : List Char} (hfront : IsTrimmed front)
    (hending : IsTrimmed ending) (middle : List Char) :
    IsTrimmed (front ++ middle ++ ending) := by
  refine ⟨by simp [hfront.ne_nil], ?_, ?_⟩
  · intro c hc
    rw [List.append_assoc, List.head?_append,
      List.head?_eq_some_head hfront.ne_nil] at hc
    exact hfront.start c (by rwa [List.head?_eq_some_head hfront.ne_nil])
  · intro c hc
    rw [List.getLast?_append,
      List.getLast?_eq_some_getLast hending.ne_nil] at hc
    exact hending.ending c
      (by rwa [List.getLast?_eq_some_getLast hending.ne_nil])

/-- Trimming a text that has a word in it drops only what is around. -/
theorem trim_append {front : List Char}
    (blank : ∀ c ∈ front, isBlank c = true) (h : IsWord word)
    (rest : List Char) :
    trim (front ++ word ++ rest) = word ++ trimEnd rest := by
  obtain ⟨hlast, ending, hending, hrest⟩ :=
    dropEndWhile_eq_iff.mp (Eq.refl (trimEnd rest))
  refine trim_eq_iff.mpr ⟨?_, ?_, front, ending, blank, hending, ?_⟩
  · intro c hc
    rw [List.head?_append, List.head?_eq_some_head h.ne_nil] at hc
    exact h.isTrimmed.start c (by rwa [List.head?_eq_some_head h.ne_nil])
  · intro c hc
    rw [List.getLast?_append] at hc
    rcases hends : (trimEnd rest).getLast? with _ | d <;> rw [hends] at hc
    · exact h.isTrimmed.ending c hc
    · exact hlast c (hends ▸ hc)
  · rw [List.append_assoc, List.append_assoc, List.append_assoc, ← hrest]

-- ================================================ up to the first blank

/-- A solid text is taken up to the white space after it. -/
theorem takeWhile_solid (h : isSolid word = true)
    (stop : ∀ c ∈ rest.head?, isBlank c = true) :
    (word ++ rest).takeWhile (!isBlank ·) = word ∧
      (word ++ rest).dropWhile (!isBlank ·) = rest := by
  have hword : ∀ c ∈ word, (!isBlank c) = true := by
    simpa using isSolid_iff.mp h
  rw [List.takeWhile_append_of_pos hword, List.dropWhile_append_of_pos hword]
  cases rest with
  | nil => simp
  | cons b rest => simp [stop b rfl]

/-- A text is cut at its first white space. -/
theorem cutAtBlank_append (h : isSolid word = true)
    (stop : ∀ c ∈ rest.head?, isBlank c = true) :
    cutAtBlank (word ++ rest) = (word, rest.drop 1) := by
  unfold cutAtBlank
  rw [(takeWhile_solid h stop).1, (takeWhile_solid h stop).2]

@[simp]
theorem isSolid_takeWhile (cs : List Char) :
    isSolid (cs.takeWhile (!isBlank ·)) = true := by
  refine isSolid_iff.mpr fun c hc => ?_
  simpa using List.mem_takeWhile_imp hc

-- ===================================================== at every blank

theorem words_cons_blank (h : isBlank b = true) :
    words (b :: rest) = words rest := by
  simp [words, h]

theorem words_singleton {c : Char} (h : isBlank c = false) :
    words [c] = [[c]] := by
  simp [words, h]

/-- A character before white space is a word. -/
theorem words_cons_of_blank {c : Char} (hc : isBlank c = false)
    (hb : isBlank b = true) :
    words (c :: b :: rest) = [c] :: words rest := by
  rw [← @words_cons_blank rest b hb]
  generalize hws : words (b :: rest) = ws
  unfold words
  rw [hws, if_neg (by simp [hc])]
  cases ws with
  | nil => rfl
  | cons w ws => simp [hb]

/-- A character before a word belongs to it. -/
theorem words_cons_of_solid {c d : Char} {w : List Char}
    {ws : List (List Char)} (hc : isBlank c = false)
    (hd : isBlank d = false) (h : words (d :: rest) = w :: ws) :
    words (c :: d :: rest) = (c :: w) :: ws := by
  unfold words
  rw [h, if_neg (by simp [hc])]
  simp [hd]

/-- A word is the first one, with a blank or nothing after it. -/
theorem words_append (h : IsWord word)
    (stop : ∀ c ∈ rest.head?, isBlank c = true) :
    words (word ++ rest) = word :: words rest := by
  obtain ⟨c, cs, rfl, hc, hcs⟩ := h.exists_cons
  clear h
  induction cs generalizing c with
  | nil =>
      cases rest with
      | nil => exact words_singleton hc
      | cons b rest =>
          rw [words_cons_blank (stop b rfl)]
          exact words_cons_of_blank hc (stop b rfl)
  | cons d cs ih =>
      rw [isSolid_iff, List.forall_mem_cons] at hcs
      exact words_cons_of_solid hc hcs.1
        (ih d hcs.1 (isSolid_iff.mpr hcs.2))

/-- A word is its only word. -/
theorem words_of_isWord (h : IsWord word) : words word = [word] := by
  have hall := @words_append [] word h (by simp)
  rwa [List.append_nil, words] at hall

theorem isWord_singleton {c : Char} (h : isBlank c = false) : IsWord [c] :=
  ⟨by simp, by simp [isSolid, h]⟩

/-- What a text is cut into are words. -/
theorem isWord_of_mem_words {w : List Char} (h : w ∈ words cs) :
    IsWord w := by
  induction cs generalizing w with
  | nil => cases h
  | cons c cs ih =>
      unfold words at h
      split at h
      next => exact ih h
      next hc =>
        have hsingle := isWord_singleton (Bool.eq_false_iff.mpr hc)
        split at h
        next d ds v ws hwords =>
          split at h
          next =>
            rcases List.mem_cons.mp h with rfl | h
            · exact hsingle
            · exact ih (hwords ▸ h)
          next =>
            rcases List.mem_cons.mp h with rfl | h
            · have hv := ih (hwords ▸ List.mem_cons_self)
              exact ⟨by simp, isSolid_append.mpr ⟨hsingle.solid, hv.solid⟩⟩
            · exact ih (hwords ▸ List.mem_cons_of_mem _ h)
        next =>
          rcases List.mem_cons.mp h with rfl | h
          · exact hsingle
          · exact ih h

-- ============================================== at the first few blanks

@[simp]
theorem splitWords_nil (limit : Nat) : splitWords limit [] = [] := by
  cases limit <;> rfl

theorem trimStart_cons_blank (h : isBlank b = true) :
    trimStart (b :: rest) = trimStart rest := by
  simp [trimStart, h]

/-- Blanks in front do not count. -/
theorem splitWords_append_blanks {front : List Char}
    (blank : ∀ c ∈ front, isBlank c = true) (limit : Nat) :
    splitWords limit (front ++ rest) = splitWords limit rest := by
  cases limit with
  | zero => rfl
  | succ limit =>
      have hstart : trimStart (front ++ rest) = trimStart rest :=
        List.dropWhile_append_of_pos blank
      rw [splitWords, splitWords, hstart]

/-- A word is the first piece, unless all that is left is to be one
piece. -/
theorem splitWords_append (h : IsWord word)
    (stop : ∀ c ∈ rest.head?, isBlank c = true) (limit : Nat) :
    splitWords (limit + 2) (word ++ rest) =
      word :: splitWords (limit + 1) rest := by
  obtain ⟨c, cs, rfl, hc, hcs⟩ := h.exists_cons
  have hstart : trimStart (c :: cs ++ rest) = c :: (cs ++ rest) := by
    simp [trimStart, hc]
  rw [splitWords, hstart]
  simp only [Nat.succ_ne_zero, if_false]
  rw [(takeWhile_solid hcs stop).1, (takeWhile_solid hcs stop).2]

theorem splitWords_of_isWord (h : IsWord word) (limit : Nat) :
    splitWords (limit + 2) word = [word] := by
  simpa using @splitWords_append [] word h (by simp) limit

/-- The last piece is all that is left. -/
theorem splitWords_one (h : IsTrimmed cs) : splitWords 1 cs = [cs] := by
  cases cs with
  | nil => exact absurd rfl h.ne_nil
  | cons c cs =>
      have hstart : trimStart (c :: cs) = c :: cs := by
        simp [trimStart, h.start c rfl]
      rw [splitWords, hstart]
      simp only [if_true]
      rw [← List.nil_append (c :: cs), trimEnd_append [] h]

/-- The first piece is a word, or all there is. -/
theorem splitWords_eq_cons {limit : Nat} {w : List Char}
    {ws : List (List Char)} (h : splitWords (limit + 1) cs = w :: ws) :
    (limit = 0 ∧ IsTrimmed w) ∨
      (0 < limit ∧ IsWord w ∧ ∃ rest, ws = splitWords limit rest) := by
  rw [splitWords] at h
  split at h
  next => cases h
  next c rest hstart =>
    have hc : isBlank c = false := by
      have := List.head?_dropWhile_not isBlank cs
      rw [trimStart] at hstart
      simpa [hstart] using this
    split at h
    next hlimit =>
      cases h
      refine .inl ⟨hlimit, ?_⟩
      rw [← hstart]
      refine isTrimmed_trim fun hnil => ?_
      rw [trim, hstart] at hnil
      obtain ⟨-, ending, hending, heq⟩ := dropEndWhile_eq_iff.mp hnil
      rw [List.nil_append] at heq
      have hblank := hending c (heq ▸ List.mem_cons_self)
      rw [hc] at hblank
      cases hblank
    next hlimit =>
      cases h
      refine .inr ⟨Nat.pos_of_ne_zero hlimit, ⟨by simp, ?_⟩, _, rfl⟩
      exact isSolid_append.mpr
        ⟨(isWord_singleton hc).solid, isSolid_takeWhile rest⟩

end SpecDebugger.Text
