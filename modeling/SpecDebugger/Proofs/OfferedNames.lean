/-
What completion offers for the beginning of a name.

The word and the names are lower-cased one by one before they are
compared. The lower-case form of a character depends on its neighbours
only for a capital sigma, which has one form inside a word and another at
the end. So the lower-case form of a beginning is the beginning of the
lower-case form, except where the beginning ends a word in a sigma that
the name goes on after (`Text.TearsSigma`).
-/
import SpecDebugger.Command.Completion
import SpecDebugger.Proofs.Index.Order

namespace SpecDebugger

namespace Text

-- ============================================ the beginning of a text

/-- Casing looks past what it ignores. -/
theorem startsCased_append_of_ignorable {cs : List Char}
    (h : ∀ c ∈ cs, isCaseIgnorable c = true) (ds : List Char) :
    startsCased (cs ++ ds) = startsCased ds := by
  rw [startsCased, List.dropWhile_append_of_pos h, ← startsCased]

theorem startsCased_of_ignorable {cs : List Char}
    (h : ∀ c ∈ cs, isCaseIgnorable c = true) : startsCased cs = false := by
  have happend := startsCased_append_of_ignorable h []
  rw [List.append_nil] at happend
  rw [happend]
  rfl

/-- Casing looks no further than the first character it does not ignore. -/
theorem startsCased_append_of_exists {cs : List Char}
    (h : ∃ c ∈ cs, isCaseIgnorable c = false) (ds : List Char) :
    startsCased (cs ++ ds) = startsCased cs := by
  induction cs with
  | nil => simp at h
  | cons c cs ih =>
      by_cases hc : isCaseIgnorable c = true
      · have hcs : ∃ d ∈ cs, isCaseIgnorable d = false := by
          simpa [hc] using h
        simpa [startsCased, hc] using ih hcs
      · simp [startsCased, hc]

/-- The lower-case form of `c` between the characters `before` it, the
nearest first, and those after it. -/
def lowerAt (before : List Char) (c : Char) (after : List Char) :
    List Char :=
  if c = 'Σ' then
    if startsCased before && !startsCased after then ['ς'] else ['σ']
  else lowerChar c

/-- Text is lower-cased character by character, each with what is around it. -/
@[simp]
theorem lowerAfter_cons (before : List Char) (c : Char) (cs : List Char) :
    lowerAfter before (c :: cs) =
      lowerAt before c cs ++ lowerAfter (c :: before) cs := rfl

/-- Whether `c` is a sigma that ends a word, as far as casing looks, in
what stands before `rest`, and no longer does so with `rest` after it. -/
structure IsTorn (before : List Char) (c : Char) (after rest : List Char) :
    Prop where
  sigma : c = 'Σ'
  before_cased : startsCased before = true
  after_ignorable : ∀ d ∈ after, isCaseIgnorable d = true
  rest_cased : startsCased rest = true

/-- Whether a word that follows `before` breaks off after a sigma that
the text goes on from. -/
def TearsSigma (before word rest : List Char) : Prop :=
  ∃ front c after, word = front ++ c :: after ∧
    IsTorn (front.reverse ++ before) c after rest

/-- A sigma is torn off at the first character, or further on. -/
@[simp]
theorem tearsSigma_cons {before cs rest : List Char} {c : Char} :
    TearsSigma before (c :: cs) rest ↔
      IsTorn before c cs rest ∨ TearsSigma (c :: before) cs rest := by
  constructor
  · intro h
    obtain ⟨front, d, after, hword, torn⟩ := h
    cases front with
    | nil =>
        obtain ⟨rfl, rfl⟩ := List.cons.inj hword
        exact Or.inl torn
    | cons e front =>
        obtain ⟨rfl, rfl⟩ := List.cons.inj hword
        rw [List.reverse_cons, List.append_assoc] at torn
        exact Or.inr ⟨front, d, after, rfl, torn⟩
  · intro h
    cases h with
    | inl torn => exact ⟨[], c, cs, rfl, torn⟩
    | inr h =>
        obtain ⟨front, d, after, rfl, torn⟩ := h
        refine ⟨c :: front, d, after, rfl, ?_⟩
        rw [List.reverse_cons, List.append_assoc]
        exact torn

/-- Only a sigma is ever torn off. -/
theorem mem_of_tearsSigma {before word rest : List Char}
    (h : TearsSigma before word rest) : 'Σ' ∈ word := by
  obtain ⟨front, c, after, rfl, torn⟩ := h
  rw [torn.sigma]
  simp

/-- Two different characters, if `c` is torn. -/
theorem IsTorn.lowerAt_eq {before after rest : List Char} {c : Char}
    (torn : IsTorn before c after rest) :
    lowerAt before c after = ['ς'] ∧
      lowerAt before c (after ++ rest) = ['σ'] := by
  obtain ⟨rfl, hbefore, hafter, hrest⟩ := torn
  have hend := startsCased_of_ignorable hafter
  constructor
  · simp [lowerAt, hbefore, hend]
  · simp [lowerAt, startsCased_append_of_ignorable hafter, hrest]

/-- What follows a text makes no difference to a character in it that is
not torn. -/
theorem lowerAt_append {before after rest : List Char} {c : Char}
    (whole : ¬IsTorn before c after rest) :
    lowerAt before c (after ++ rest) = lowerAt before c after := by
  by_cases hc : c = 'Σ'
  · by_cases hafter : ∀ d ∈ after, isCaseIgnorable d = true
    · rw [lowerAt, lowerAt, startsCased_append_of_ignorable hafter,
        startsCased_of_ignorable hafter]
      cases hbefore : startsCased before with
      | false => rfl
      | true =>
          have hrest : startsCased rest = false := by
            rw [← Bool.not_eq_true]
            exact fun hrest => whole ⟨hc, hbefore, hafter, hrest⟩
          rw [hrest]
    · have hexists : ∃ d ∈ after, isCaseIgnorable d = false := by
        simpa using hafter
      rw [lowerAt, lowerAt, startsCased_append_of_exists hexists]
  · rw [lowerAt, lowerAt, if_neg hc, if_neg hc]

/-- The beginning of a text in lower case is the beginning of its
lower-case form exactly when no sigma is torn off. -/
theorem lowerAfter_prefix_iff {before cs rest : List Char} :
    lowerAfter before cs <+: lowerAfter before (cs ++ rest) ↔
      ¬TearsSigma before cs rest := by
  induction cs generalizing before with
  | nil =>
      have hwhole : ¬TearsSigma before [] rest := by
        intro h
        cases mem_of_tearsSigma h
      exact iff_of_true List.nil_prefix hwhole
  | cons c cs ih =>
      rw [List.cons_append, lowerAfter_cons, lowerAfter_cons,
        tearsSigma_cons]
      -- the two texts part at a sigma that is torn, and share all else
      by_cases torn : IsTorn before c cs rest
      · obtain ⟨hfinal, hinner⟩ := torn.lowerAt_eq
        rw [hfinal, hinner, List.singleton_append, List.singleton_append,
          List.cons_prefix_cons]
        simp [torn]
      · rw [lowerAt_append torn, List.prefix_append_right_inj, ih]
        simp [torn]

-- ================================================== the first bracket

theorem eq_of_ofNat_eq_bracket {n : Nat} (h : Char.ofNat n = '[') :
    n = 0x5B := by
  unfold Char.ofNat at h
  by_cases hn : n.isValidChar
  · rw [dif_pos hn] at h
    exact congrArg Char.toNat h
  · rw [dif_neg hn] at h
    exact absurd h (by decide)

/-- The letters beyond ASCII have their lower-case forms past the
bracket. -/
theorem CaseRun.past_bracket :
    ∀ r ∈ caseRuns, 0x5B < r.first + r.distance := by
  decide +kernel

/-- A character has a lower-case form, which starts with a bracket only
for a bracket. -/
theorem exists_lowerChar_eq_cons (c : Char) :
    ∃ d ds, lowerChar c = d :: ds ∧ (d = '[' → c = '[') := by
  unfold lowerChar
  by_cases hascii : c.toNat < 0x80
  · have hall : ∀ n < 0x80, (Char.ofNat n).toLower = '[' →
        Char.ofNat n = '[' := by
      decide
    have hc := hall c.toNat hascii
    rw [Char.ofNat_toNat] at hc
    rw [if_pos hascii]
    exact ⟨_, [], rfl, hc⟩
  · rw [if_neg hascii]
    by_cases hdot : c = 'İ'
    · rw [if_pos hdot]
      exact ⟨_, _, rfl, fun h => absurd h (by decide)⟩
    · rw [if_neg hdot]
      cases hrun : caseRuns.find? (·.maps c) with
      | none => exact ⟨c, [], rfl, id⟩
      | some r =>
          refine ⟨_, [], rfl, fun h => ?_⟩
          have hlow := eq_of_ofNat_eq_bracket h
          have hpast := CaseRun.past_bracket r (List.mem_of_find?_eq_some hrun)
          have hmaps : r.first ≤ c.toNat := by
            have hsome := List.find?_some hrun
            simp only [CaseRun.maps, Bool.and_eq_true,
              decide_eq_true_eq] at hsome
            exact hsome.1.1
          omega

/-- Lower-casing neither puts a bracket at the start of a text nor takes
one away. -/
theorem bracket_isPrefixOf_lower (s : String) :
    ['['].isPrefixOf (lower s).toList = ['['].isPrefixOf s.toList := by
  rw [lower, String.toList_ofList]
  cases s.toList with
  | nil => rfl
  | cons c cs =>
      rw [lowerAfter_cons]
      by_cases hc : c = '['
      · subst hc
        rfl
      · by_cases hsigma : c = 'Σ'
        · subst hsigma
          rfl
        · obtain ⟨d, ds, hlow, hd⟩ := exists_lowerChar_eq_cons c
          have hne : d ≠ '[' := fun h => hc (hd h)
          rw [lowerAt, if_neg hsigma, hlow]
          simp [List.isPrefixOf, Ne.symm hc, Ne.symm hne]

end Text

namespace Completion

-- ========================================================= the names

/-- What is offered for a word: the names of properties that it begins,
the special ones only for a word with a bracket. -/
theorem mem_names_iff {ix : Index} {word name : String} :
    name ∈ names ix word ↔
      ∃ p ∈ ix.properties, (p.isSpecial = true →
        ['['].isPrefixOf word.toList = true) ∧
        startsLike word p.name = true ∧ p.name = name := by
  unfold names
  rw [Text.bracket_isPrefixOf_lower]
  simp only [List.mem_map, List.mem_filter, Bool.and_eq_true, Bool.or_eq_true,
    Bool.not_eq_true', ← Bool.not_eq_true, and_assoc]
  refine exists_congr fun p => and_congr_right fun _ => and_congr_left' ?_
  rw [or_comm, ← imp_iff_not_or]

/-- A beginning of a name is like it exactly when it tears off no
sigma. -/
theorem startsLike_append_iff {word rest : String} :
    startsLike word (word ++ rest) = true ↔
      ¬Text.TearsSigma [] word.toList rest.toList := by
  rw [startsLike, List.isPrefixOf_iff_prefix, Text.lower, Text.lower,
    String.toList_ofList, String.toList_ofList, String.toList_append,
    Text.lowerAfter_prefix_iff]

/-- A beginning that is not empty starts with the bracket of a special
name. -/
theorem bracket_isPrefixOf_of_append {p : Property} {word rest : String}
    (hname : p.name = word ++ rest) (special : p.isSpecial = true)
    (nonempty : word ≠ "") : ['['].isPrefixOf word.toList = true := by
  rw [Property.isSpecial, hname, String.toList_append] at special
  cases hword : word.toList with
  | nil => exact absurd (String.toList_eq_nil_iff.mp hword) nonempty
  | cons c cs =>
      rw [hword] at special
      simpa [List.isPrefixOf] using special

/-- Any beginning of the name of a property, not empty if the property is
special, offers the name unless it tears off a sigma. Whatever the word,
names are offered once each, in the order of the index, and that of a
special property only for a word that starts with a bracket. -/
theorem beginning_offers_iff {filename : String}
    {properties : List Property} {ix : Index}
    (accepted : Index.build filename properties = .ok ix) :
    (∀ p ∈ ix.properties, ∀ word rest : String, p.name = word ++ rest →
      (p.isSpecial = true → word ≠ "") →
      (p.name ∈ names ix word ↔
        ¬Text.TearsSigma [] word.toList rest.toList)) ∧
    ∀ word : String, (names ix word).Nodup ∧
      (names ix word).Sublist (ix.properties.map (·.name)) ∧
      ∀ p ∈ ix.properties, p.name ∈ names ix word → p.isSpecial = true →
        ['['].isPrefixOf word.toList = true := by
  have wf := Index.wellFormed_of_build accepted
  constructor
  · intro p hp word rest hname hspecial
    have hlike : startsLike word p.name = true ↔
        ¬Text.TearsSigma [] word.toList rest.toList := by
      rw [hname, startsLike_append_iff]
    rw [mem_names_iff, ← hlike]
    constructor
    · intro h
      obtain ⟨q, -, -, hq, hqname⟩ := h
      rw [← hqname]
      exact hq
    · intro h
      refine ⟨p, hp, fun special => ?_, h, rfl⟩
      exact bracket_isPrefixOf_of_append hname special (hspecial special)
  · intro word
    have hsub : (names ix word).Sublist (ix.properties.map (·.name)) :=
      List.filter_sublist.map _
    have hnodup : (ix.properties.map (·.name)).Nodup := by
      -- names that differ in lower case differ
      refine List.Nodup.of_map Text.lower ?_
      rw [List.map_map]
      exact wf.names
    refine ⟨hnodup.sublist hsub, hsub, fun p hp hmem special => ?_⟩
    obtain ⟨q, -, hbracket, -, hqname⟩ := mem_names_iff.mp hmem
    apply hbracket
    rw [Property.isSpecial, hqname]
    exact special

/-- The first letters of the name of the specimen offer it. -/
theorem beginning_offers_specimen :
    "Node.p_eval" ∈ names .specimen "Node" ∧
      (names .specimen "Node").Nodup := by
  obtain ⟨hoffers, hwords⟩ := beginning_offers_iff Index.build_specimen
  have hwhole : ¬Text.TearsSigma [] "Node".toList ".p_eval".toList :=
    fun torn => absurd (Text.mem_of_tearsSigma torn) (by decide)
  have hmem := (hoffers .specimen (List.mem_singleton.mpr rfl) "Node" ".p_eval"
    rfl (by decide)).mpr hwhole
  exact ⟨hmem, (hwords "Node").1⟩

/-- A property whose name has a capital sigma inside a word. -/
def withSigma : Property where
  lines := ⟨1, 9⟩
  bindings := []
  events := []
  name := "ΑΣΑ"

/-- Up to its sigma the name is not offered, though without the sigma, or
in full, it is. -/
theorem beginning_not_offered_at_sigma :
    ∃ ix, Index.build "gen.adb" [withSigma] = .ok ix ∧
      withSigma ∈ ix.properties ∧ withSigma.isSpecial = false ∧
      withSigma.name = "ΑΣ" ++ "Α" ∧
      names ix "Α" = ["ΑΣΑ"] ∧ names ix "ΑΣ" = [] ∧
      names ix "ΑΣΑ" = ["ΑΣΑ"] := by
  refine ⟨_, rfl, List.mem_singleton.mpr rfl, ?_, ?_, ?_, ?_, ?_⟩
  all_goals decide +kernel

end Completion

end SpecDebugger
