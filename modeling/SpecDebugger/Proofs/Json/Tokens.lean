/-
JSON text and its tokens: what is written is split into the tokens it
was written from.

Splitting goes from the front, so the statement about a piece of text
says what becomes of the pieces that follow it: `Spells` relates a piece
to its tokens when whatever comes next, as long as it does not continue a
numeral, is split after it as it is alone. Pieces are put together by
`Spells.append`, with brackets around them by `Spells.enclose`, with
commas between them by `spells_intercalate`.

# Sections

* strings: a character is read from the way it is written
* tokens: what a text is split into
* the pieces that values are written with
-/
import SpecDebugger.Proofs.Json.Numerals

namespace SpecDebugger.Json

-- ============================================================= strings

namespace Token

/-- A short escape adds the character it stands for. -/
theorem stringBody_escape {c e : Char} (hu : c ≠ 'u')
    (h : escape? c = some e) (seen : Option (List Char)) (rest : List Char) :
    stringBody seen ('\\' :: c :: rest) =
      stringBody (seen.map (e :: ·)) rest := by
  rw [stringBody.eq_def]
  split
  next heq => cases heq
  next heq => cases heq
  next heq =>
    cases heq
    exact absurd rfl hu
  next heq =>
    cases heq
    exact absurd rfl hu
  next heq =>
    cases heq
    rw [h]
  next hno heq =>
    cases heq
    exact (hno _ _ rfl rfl).elim

/-- An escape of a number that is no surrogate adds the character of
that number. -/
theorem stringBody_unicode {a b c d : Char} {u : Nat}
    (h : hex4? a b c d = some u) (high : isHigh u = false)
    (low : isLow u = false) (seen : Option (List Char)) (rest : List Char) :
    stringBody seen ('\\' :: 'u' :: a :: b :: c :: d :: rest) =
      stringBody (seen.map (Char.ofNat u :: ·)) rest := by
  rw [stringBody.eq_def]
  split
  next heq => cases heq
  next heq => cases heq
  next heq =>
    cases heq
    simp [h, high, low]
  next heq =>
    cases heq
    simp [h, high, low]
  next hno heq =>
    cases heq
    exact (hno _ _ _ _ _ rfl rfl).elim
  next hno heq =>
    cases heq
    exact (hno _ _ rfl rfl).elim

theorem stringBody_plain {c : Char} (hquote : c ≠ '"') (hslash : c ≠ '\\')
    (hc : ¬ c.toNat < 0x20) (seen : Option (List Char)) (rest : List Char) :
    stringBody seen (c :: rest) = stringBody (seen.map (c :: ·)) rest := by
  rw [stringBody.eq_def]
  split
  next heq => cases heq
  next heq =>
    cases heq
    exact absurd rfl hquote
  next heq =>
    cases heq
    exact absurd rfl hslash
  next heq =>
    cases heq
    exact absurd rfl hslash
  next heq =>
    cases heq
    exact absurd rfl hslash
  next heq =>
    cases heq
    rw [if_neg hc]

/-- The number of a control character takes two hexadecimal digits, so
that four are enough. -/
theorem hex4?_control : ∀ n < 0x20,
    List.replicate (4 - (Nat.toDigits 16 n).length) '0' ++ Nat.toDigits 16 n =
        ['0', '0', (n / 16).digitChar, (n % 16).digitChar] ∧
      hex4? '0' '0' (n / 16).digitChar (n % 16).digitChar = some n := by
  decide

/-- A character is read back from the way it is written in a string. -/
theorem stringBody_printChar (c : Char) (seen : Option (List Char))
    (rest : List Char) :
    stringBody seen ((printChar c).toList ++ rest) =
      stringBody (seen.map (c :: ·)) rest := by
  unfold printChar
  split
  next => exact stringBody_escape (by decide) rfl seen rest
  next => exact stringBody_escape (by decide) rfl seen rest
  next => exact stringBody_escape (by decide) rfl seen rest
  next => exact stringBody_escape (by decide) rfl seen rest
  next => exact stringBody_escape (by decide) rfl seen rest
  next => exact stringBody_escape (by decide) rfl seen rest
  next => exact stringBody_escape (by decide) rfl seen rest
  next hquote hslash _ _ _ _ _ =>
    split
    next hcontrol =>
      obtain ⟨hdigits, hhex⟩ := hex4?_control c.toNat hcontrol
      have hhigh : isHigh c.toNat = false := by
        simp [isHigh]
        omega
      have hlow : isLow c.toNat = false := by
        simp [isLow]
        omega
      dsimp only
      rw [List.append_assoc, hdigits, String.toList_ofList]
      have h := stringBody_unicode hhex hhigh hlow seen rest
      rw [Char.ofNat_toNat] at h
      exact h
    next hcontrol =>
      rw [Char.toString, String.toList_singleton]
      exact stringBody_plain hquote hslash hcontrol seen rest

/-- A text is read back from the way it is written in a string. -/
theorem stringBody_printText (s : String) (rest : List Char) :
    stringBody (some [])
        (s.toList.flatMap (fun c => (printChar c).toList) ++ '"' :: rest) =
      some (some s, rest) := by
  have hread (cs seen : List Char) :
      stringBody (some seen)
          (cs.flatMap (fun c => (printChar c).toList) ++ '"' :: rest) =
        some (some (String.ofList (seen.reverse ++ cs)), rest) := by
    induction cs generalizing seen with
    | nil =>
        rw [List.append_nil]
        rfl
    | cons c cs ih =>
        rw [List.flatMap_cons, List.append_assoc, stringBody_printChar,
          Option.map_some, ih, List.reverse_cons, List.append_assoc,
          List.singleton_append]
  rw [hread s.toList [], List.reverse_nil, List.nil_append,
    String.ofList_toList]

end Token

-- ============================================================== tokens

/-- The tokens that a text is split into, given enough rounds. -/
def Lexes (cs : List Char) (ts : List Token) : Prop :=
  ∀ rounds seen, cs.length ≤ rounds →
    Token.scan rounds seen cs = some (seen.reverse ++ ts)

/-- The tokens of a text are the only ones. -/
theorem Lexes.ofText?_eq {cs : List Char} {ts : List Token}
    (h : Lexes cs ts) : Token.ofText? cs = some ts :=
  h cs.length [] (Nat.le_refl _)

theorem Lexes.nil : Lexes [] [] := by
  intro rounds seen _
  cases rounds with
  | zero => simp [Token.scan]
  | succ rounds => simp [Token.scan]

theorem Lexes.cons {c : Char} {cs rest : List Char} {t : Token}
    {ts : List Token} (solid : Token.isSpace c = false)
    (next : Token.next? c cs = some (t, rest))
    (shorter : rest.length ≤ cs.length) (h : Lexes rest ts) :
    Lexes (c :: cs) (t :: ts) := by
  intro rounds seen hrounds
  cases rounds with
  | zero => cases hrounds
  | succ rounds =>
      rw [List.length_cons] at hrounds
      rw [Token.scan, List.dropWhile_cons, solid]
      simp only [Bool.false_eq_true, if_false, next]
      rw [h rounds (t :: seen) (by omega), List.reverse_cons,
        List.append_assoc, List.singleton_append]

/-- A token of one character. -/
theorem Lexes.mark {c : Char} {t : Token} {cs : List Char} {ts : List Token}
    (solid : Token.isSpace c = false)
    (next : Token.next? c cs = some (t, cs)) (h : Lexes cs ts) :
    Lexes (c :: cs) (t :: ts) :=
  .cons solid next (Nat.le_refl _) h

-- ============================================================== pieces

/-- Characters that are split into the same tokens whatever follows, as
long as that does not continue a numeral. -/
def Spells (cs : List Char) (ts : List Token) : Prop :=
  ∀ rest us, Ends rest → Lexes rest us → Lexes (cs ++ rest) (ts ++ us)

/-- A token that is the same whatever follows. -/
theorem spells_word {c : Char} {cs : List Char} {t : Token}
    (solid : Token.isSpace c = false)
    (next : ∀ rest, Token.next? c (cs ++ rest) = some (t, rest)) :
    Spells (c :: cs) [t] := by
  intro rest us _ h
  refine Lexes.cons solid (next rest) ?_ h
  show rest.length ≤ (cs ++ rest).length
  rw [List.length_append]
  omega

/-- A string is printed between quotes, character by character. -/
theorem toList_printText (s : String) :
    (printText s).toList =
      '"' :: (s.toList.flatMap (fun c => (printChar c).toList) ++ ['"']) := by
  unfold printText
  rw [String.toList_append, String.toList_append, String.toList_join,
    List.flatMap_map]
  rfl

/-- What is printed for a string spells that string. -/
theorem spells_printText (s : String) :
    Spells (printText s).toList [.string (some s)] := by
  rw [toList_printText]
  refine spells_word rfl fun rest => ?_
  rw [List.append_assoc, List.singleton_append, Token.next?,
    Token.stringBody_printText]
  rfl

theorem Token.next?_of_isDigit {c : Char} (hc : c.isDigit = true)
    (cs : List Char) :
    next? c cs =
      (numeral? (c :: cs)).map fun (n, rest) => (.number n, rest) := by
  unfold next?
  split
  all_goals first
    | rfl
    | cases hc

theorem Token.isSpace_of_isDigit {c : Char} (hc : c.isDigit = true) :
    isSpace c = false := by
  have hne (d : Char) (hd : d.isDigit = false) : c ≠ d := by
    intro heq
    rw [heq, hd] at hc
    cases hc
  simp [isSpace, hne ' ' rfl, hne '\n' rfl, hne '\t' rfl, hne '\r' rfl]

@[simp]
theorem toList_print_ofNat (n : Nat) :
    (Numeral.ofNat n).print.toList = Text.digits n := by
  simp [Numeral.ofNat, Numeral.print]

/-- What is printed for a number spells that number. -/
theorem spells_print_ofNat (n : Nat) :
    Spells (Numeral.ofNat n).print.toList [.number (.ofNat n)] := by
  intro rest us stop h
  have hread := numeral?_digits n stop
  rw [toList_print_ofNat]
  obtain ⟨c, ds, hcons⟩ := List.exists_cons_of_ne_nil (Text.digits_ne_nil n)
  have hc : c.isDigit = true :=
    Text.isDigit_of_mem_digits (hcons ▸ List.mem_cons_self)
  rw [hcons, List.cons_append] at hread ⊢
  have hnext : Token.next? c (ds ++ rest) =
      some (.number (.ofNat n), rest) := by
    rw [Token.next?_of_isDigit hc, hread]
    rfl
  refine Lexes.cons (Token.isSpace_of_isDigit hc) hnext ?_ h
  rw [List.length_append]
  omega

/-- Texts that spell tokens do so one after the other, if the second one
ends what may be a numeral. -/
theorem Spells.append {cs ds : List Char} {ts us : List Token}
    (hcs : Spells cs ts) (hds : Spells ds us)
    (stop : ∀ rest, Ends rest → Ends (ds ++ rest)) :
    Spells (cs ++ ds) (ts ++ us) := by
  intro rest vs hrest h
  rw [List.append_assoc, List.append_assoc]
  exact hcs _ _ (stop rest hrest) (hds rest vs hrest h)

/-- Between two brackets, the second of which ends what stands between. -/
theorem Spells.enclose {c d : Char} {t u : Token} {cs : List Char}
    {ts : List Token} (h : Spells cs ts)
    (opens : ∀ rest us, Lexes rest us → Lexes (c :: rest) (t :: us))
    (closes : ∀ rest us, Lexes rest us → Lexes (d :: rest) (u :: us))
    (stop : ∀ rest, Ends (d :: rest)) :
    Spells (c :: (cs ++ [d])) (t :: (ts ++ [u])) := by
  intro rest us _ hrest
  rw [List.cons_append, List.cons_append, List.append_assoc,
    List.append_assoc]
  exact opens _ _ (h _ _ (stop rest) (closes rest us hrest))

/-- A list between single separators, the first part apart. -/
theorem intercalate_cons {α : Type} (sep : α) (xs : List α)
    (xss : List (List α)) :
    [sep].intercalate (xs :: xss) = xs ++ xss.flatMap (sep :: ·) := by
  induction xss generalizing xs with
  | nil => simp
  | cons ys xss ih =>
      rw [List.intercalate_cons_cons, ih, List.flatMap_cons, List.append_assoc]
      rfl

section separated

variable {α : Type} {chars : α → List Char} {toks : α → List Token}

/-- A comma ends a numeral, and so does what ends the last one. -/
theorem ends_commas (xss : List (List Char)) {rest : List Char}
    (stop : Ends rest) : Ends (xss.flatMap (',' :: ·) ++ rest) := by
  cases xss with
  | nil => exact stop
  | cons xs xss => exact ends_cons (by decide)

/-- Texts with commas in front spell their tokens with commas in front. -/
theorem spells_commas {xs : List α}
    (h : ∀ x ∈ xs, Spells (chars x) (toks x)) :
    Spells ((xs.map chars).flatMap (',' :: ·))
      ((xs.map toks).flatMap (.comma :: ·)) := by
  induction xs with
  | nil =>
      intro rest us _ hrest
      exact hrest
  | cons x xs ih =>
      rw [List.forall_mem_cons] at h
      have hxs := h.1.append (ih h.2) fun rest stop => ends_commas _ stop
      intro rest us stop hrest
      exact .mark rfl rfl (hxs rest us stop hrest)

/-- What spells tokens spells them with commas in between. -/
theorem spells_intercalate {xs : List α}
    (h : ∀ x ∈ xs, Spells (chars x) (toks x)) :
    Spells ([','].intercalate (xs.map chars))
      ([.comma].intercalate (xs.map toks)) := by
  cases xs with
  | nil =>
      intro rest us _ hrest
      exact hrest
  | cons x xs =>
      rw [List.forall_mem_cons] at h
      rw [List.map_cons, List.map_cons, intercalate_cons, intercalate_cons]
      exact h.1.append (spells_commas h.2) fun rest stop => ends_commas _ stop

end separated

end SpecDebugger.Json
