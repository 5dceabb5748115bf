/-
The grammar of the machine interface, and the readers of its parts.

The grammar is written as relations between a text and what it stands
for, without any order of reading: a value is a quoted text, a tuple of
fields or a list of items, and a field is a name and a value. A reader is
right when what it takes off the front of a text has the form it reads
(`readName_sound`, `readQuoted_sound`), and when it takes off all of that
form that stands there (`readName_append`, `readQuoted_append`).

The readers of values count down a depth. Whatever they answer at any
depth is right (`readValue_sound` and its companions, by induction on
the depth, one reader after the other). Conversely they reach the end of
every value whose text is at most a third of the depth long
(`readValue_append`, by induction on how the value is put together): a
character is behind at most three readers.

# Sections

* the forms
* names and quoted texts
* soundness: a reader answers nothing else
* completeness: a reader answers
-/
import Mathlib.Data.List.TakeWhile
import SpecDebugger.MachineInterface.Reader
import SpecDebugger.Proofs.Results

namespace SpecDebugger.MachineInterface

-- ========================================================= the forms

/-- The inside of a quoted text. A plain character stands for itself,
and a backslash with a character for what the two escape. -/
inductive IsEscaped : List Char → List Char → Prop where
  | nil : IsEscaped [] []
  | plain {c : Char} {source text : List Char} (noQuote : c ≠ '"')
    (noBackslash : c ≠ '\\') (more : IsEscaped source text) :
    IsEscaped (c :: source) (c :: text)
  | pair (c : Char) {source text : List Char} (more : IsEscaped source text) :
    IsEscaped ('\\' :: c :: source) (unescape c :: text)

/-- A text in quotes. -/
inductive IsQuoted : List Char → String → Prop where
  | mk {source text : List Char} (inner : IsEscaped source text) :
    IsQuoted ('"' :: (source ++ ['"'])) (String.ofList text)

/-- The name of a class or of a field. -/
structure IsName (cs : List Char) : Prop where
  ne_nil : cs ≠ []
  chars : ∀ c ∈ cs, Text.isAlphanumeric c = true ∨ c = '-' ∨ c = '_'

mutual

/-- A value. -/
inductive IsValue : List Char → Value → Prop where
  | const {cs : List Char} {text : String} (quoted : IsQuoted cs text) :
    IsValue cs (.const text)
  | emptyTuple : IsValue ['\x7b', '\x7d'] (.tuple [])
  | tuple {cs : List Char} {fields : List (String × Value)}
    (inner : IsFields cs fields) :
    IsValue ('\x7b' :: (cs ++ ['\x7d'])) (.tuple fields)
  | emptyList : IsValue ['[', ']'] (.list [])
  | list {cs : List Char} {items : List Value} (inner : IsItems cs items) :
    IsValue ('[' :: (cs ++ [']'])) (.list items)

/-- A name, an equals sign and a value. -/
inductive IsField : List Char → String × Value → Prop where
  | mk {name cs : List Char} {v : Value} (isName : IsName name)
    (value : IsValue cs v) :
    IsField (name ++ '=' :: cs) (String.ofList name, v)

/-- One field or more, with commas between them. -/
inductive IsFields : List Char → List (String × Value) → Prop where
  | single {cs : List Char} {f : String × Value} (field : IsField cs f) :
    IsFields cs [f]
  | cons {cs ds : List Char} {f : String × Value}
    {fs : List (String × Value)} (field : IsField cs f)
    (more : IsFields ds fs) : IsFields (cs ++ ',' :: ds) (f :: fs)

/-- An item of a list: a value, or a field as a tuple of its own. -/
inductive IsItem : List Char → Value → Prop where
  | value {cs : List Char} {v : Value} (value : IsValue cs v) : IsItem cs v
  | field {cs : List Char} {f : String × Value} (field : IsField cs f) :
    IsItem cs (.tuple [f])

/-- One item or more, with commas between them. -/
inductive IsItems : List Char → List Value → Prop where
  | single {cs : List Char} {v : Value} (item : IsItem cs v) :
    IsItems cs [v]
  | cons {cs ds : List Char} {v : Value} {vs : List Value}
    (item : IsItem cs v) (more : IsItems ds vs) :
    IsItems (cs ++ ',' :: ds) (v :: vs)

end

-- ========================================== names and quoted texts

theorem isNameChar_iff {c : Char} :
    isNameChar c = true ↔
      Text.isAlphanumeric c = true ∨ c = '-' ∨ c = '_' := by
  simp [isNameChar, or_assoc]

/-- What stands around names is no part of them. -/
theorem isNameChar_delimiter :
    ∀ c ∈ ['"', ',', '=', '[', ']', '\x7b', '\x7d'], isNameChar c = false := by
  have hall : ['"', ',', '=', '[', ']', '\x7b', '\x7d'].all
      (fun c => !isNameChar c) = true := by
    decide +kernel
  intro c hc
  simpa using List.all_eq_true.mp hall c hc

/-- A name is split off as a whole. -/
theorem splitName_append {name rest : List Char} (isName : IsName name)
    (stop : ∀ c ∈ rest.head?, isNameChar c = false) :
    splitName (name ++ rest) = (name, rest) := by
  have hname : ∀ c ∈ name, isNameChar c = true :=
    fun c hc => isNameChar_iff.mpr (isName.chars c hc)
  unfold splitName
  rw [List.takeWhile_append_of_pos hname, List.dropWhile_append_of_pos hname]
  cases rest with
  | nil => simp
  | cons c rest => simp [stop c rfl]

/-- What is split off is a name, unless it is empty. -/
theorem splitName_eq_cons {cs name rest : List Char} {c : Char}
    (h : splitName cs = (c :: name, rest)) :
    IsName (c :: name) ∧ cs = c :: name ++ rest := by
  obtain ⟨htake, hdrop⟩ := Prod.mk.inj h
  rw [← htake, ← hdrop]
  refine ⟨⟨by simp [htake], ?_⟩, List.takeWhile_append_dropWhile.symm⟩
  intro d hd
  exact isNameChar_iff.mp (List.mem_takeWhile_imp hd)

theorem readName_append {source : List Char} (isName : IsName source)
    (rest : List Char) :
    readName (source ++ '=' :: rest) = .ok (String.ofList source, rest) := by
  have hsplit : splitName (source ++ '=' :: rest) = (source, '=' :: rest) := by
    apply splitName_append isName
    intro c hc
    cases hc
    exact isNameChar_delimiter '=' (by simp)
  unfold readName
  rw [hsplit]
  cases source with
  | nil => exact absurd rfl isName.ne_nil
  | cons c source => rfl

/-- What is read as a name was one, before an equals sign. -/
theorem readName_sound {cs rest : List Char} {name : String}
    (h : readName cs = .ok (name, rest)) :
    ∃ source, IsName source ∧ name = String.ofList source ∧
      cs = source ++ '=' :: rest := by
  unfold readName at h
  split at h
  next c source rest' hsplit =>
    cases h
    obtain ⟨hname, rfl⟩ := splitName_eq_cons hsplit
    exact ⟨c :: source, hname, rfl, rfl⟩
  next => cases h

theorem unquote?_append {source text : List Char}
    (h : IsEscaped source text) (rest : List Char) :
    unquote? (source ++ '"' :: rest) = some (text, rest) := by
  induction h with
  | nil => rfl
  | plain hquote hbackslash _ ih =>
      rw [List.cons_append, unquote?.eq_5 _ _ hquote ?_ ?_, ih]
      · rfl
      · rintro rfl
        exact absurd rfl hbackslash
      · rintro c tail rfl
        exact absurd rfl hbackslash
  | pair c _ ih =>
      rw [List.cons_append, List.cons_append, unquote?.eq_4, ih]
      rfl

/-- What is read up to a closing quote was escaped. -/
theorem unquote?_sound {cs text rest : List Char}
    (h : unquote? cs = some (text, rest)) :
    ∃ source, IsEscaped source text ∧ cs = source ++ '"' :: rest := by
  fun_induction unquote? cs generalizing text with
  | case1 => cases h
  | case2 tail =>
      cases h
      exact ⟨[], .nil, rfl⟩
  | case3 => cases h
  | case4 c tail ih =>
      obtain ⟨⟨text', rest'⟩, hread, heq⟩ := Option.map_eq_some_iff.mp h
      cases heq
      obtain ⟨source, hs, rfl⟩ := ih hread
      exact ⟨_, .pair c hs, rfl⟩
  | case5 c tail hquote hlast hpair ih =>
      obtain ⟨⟨text', rest'⟩, hread, heq⟩ := Option.map_eq_some_iff.mp h
      cases heq
      obtain ⟨source, hs, rfl⟩ := ih hread
      refine ⟨_, .plain hquote ?_ hs, rfl⟩
      rintro rfl
      -- a backslash is followed by a character, if only the last quote
      cases source with
      | nil => exact hpair _ _ rfl rfl
      | cons d source => exact hpair _ _ rfl rfl

theorem readQuoted_append {source : List Char} {text : String}
    (h : IsQuoted source text) (rest : List Char) :
    readQuoted (source ++ rest) = .ok (text, rest) := by
  obtain ⟨hinner⟩ := h
  simp [readQuoted, unquote?_append hinner]

/-- What is read as a quoted text was quoted. -/
theorem readQuoted_sound {cs rest : List Char} {text : String}
    (h : readQuoted cs = .ok (text, rest)) :
    ∃ source, IsQuoted source text ∧ cs = source ++ rest := by
  unfold readQuoted at h
  split at h
  next tail =>
    split at h
    next inner rest' hread =>
      cases h
      obtain ⟨source, hs, rfl⟩ := unquote?_sound hread
      exact ⟨_, .mk hs, by simp⟩
    next => cases h
  next => cases h

-- ========================================================= soundness

mutual

/-- What is read as a value was written as one: by induction on the
depth, together with fields and items. -/
theorem readValue_sound {cs rest : List Char} {v : Value} :
    ∀ {depth : Nat}, readValue depth cs = .ok (v, rest) →
      ∃ source, IsValue source v ∧ cs = source ++ rest
  | 0, h => by cases h
  | depth + 1, h => by
    unfold readValue at h
    split at h
    next tail =>
      obtain ⟨⟨text, rest'⟩, hread, heq⟩ := bind_eq_ok.mp h
      cases heq
      obtain ⟨source, hs, hcs⟩ := readQuoted_sound hread
      exact ⟨source, .const hs, hcs⟩
    next tail =>
      cases h
      exact ⟨_, .emptyTuple, rfl⟩
    next tail _ =>
      obtain ⟨⟨fields, rest'⟩, hread, heq⟩ := bind_eq_ok.mp h
      cases heq
      obtain ⟨source, hs, rfl⟩ := readFields_sound hread
      exact ⟨_, .tuple hs, by simp⟩
    next tail =>
      cases h
      exact ⟨_, .emptyList, rfl⟩
    next tail _ =>
      obtain ⟨⟨items, rest'⟩, hread, heq⟩ := bind_eq_ok.mp h
      cases heq
      obtain ⟨source, hs, rfl⟩ := readItems_sound hread
      exact ⟨_, .list hs, by simp⟩
    next => cases h

theorem readField_sound {cs rest : List Char} {f : String × Value} :
    ∀ {depth : Nat}, readField depth cs = .ok (f, rest) →
      ∃ source, IsField source f ∧ cs = source ++ rest
  | 0, h => by cases h
  | depth + 1, h => by
    unfold readField at h
    obtain ⟨⟨name, tail⟩, hname, hnext⟩ := bind_eq_ok.mp h
    obtain ⟨⟨v, rest'⟩, hvalue, heq⟩ := bind_eq_ok.mp hnext
    cases heq
    obtain ⟨front, hfront, rfl, rfl⟩ := readName_sound hname
    obtain ⟨source, hs, rfl⟩ := readValue_sound hvalue
    exact ⟨_, .mk hfront hs, by simp⟩

/-- The fields of a tuple end with its closing brace. -/
theorem readFields_sound {cs rest : List Char} {fs : List (String × Value)} :
    ∀ {depth : Nat}, readFields depth cs = .ok (fs, rest) →
      ∃ source, IsFields source fs ∧ cs = source ++ '\x7d' :: rest
  | 0, h => by cases h
  | depth + 1, h => by
    unfold readFields at h
    obtain ⟨⟨f, tail⟩, hfield, hnext⟩ := bind_eq_ok.mp h
    obtain ⟨source, hs, rfl⟩ := readField_sound hfield
    dsimp only at hnext
    split at hnext
    next tail' =>
      obtain ⟨⟨fs', rest'⟩, hmore, heq⟩ := bind_eq_ok.mp hnext
      cases heq
      obtain ⟨more, hm, rfl⟩ := readFields_sound hmore
      exact ⟨_, .cons hs hm, by simp⟩
    next tail' =>
      cases hnext
      exact ⟨_, .single hs, rfl⟩
    next => cases hnext

theorem readItem_sound {cs rest : List Char} {v : Value} :
    ∀ {depth : Nat}, readItem depth cs = .ok (v, rest) →
      ∃ source, IsItem source v ∧ cs = source ++ rest
  | 0, h => by cases h
  | depth + 1, h => by
    unfold readItem at h
    have hvalue : readValue depth cs = .ok (v, rest) →
        ∃ source, IsItem source v ∧ cs = source ++ rest := by
      intro hread
      obtain ⟨source, hs, hcs⟩ := readValue_sound hread
      exact ⟨source, .value hs, hcs⟩
    split at h
    next => exact hvalue h
    next => exact hvalue h
    next => exact hvalue h
    next =>
      obtain ⟨⟨f, rest'⟩, hfield, heq⟩ := bind_eq_ok.mp h
      cases heq
      obtain ⟨source, hs, hcs⟩ := readField_sound hfield
      exact ⟨source, .field hs, hcs⟩

/-- The items of a list end with its closing bracket. -/
theorem readItems_sound {cs rest : List Char} {vs : List Value} :
    ∀ {depth : Nat}, readItems depth cs = .ok (vs, rest) →
      ∃ source, IsItems source vs ∧ cs = source ++ ']' :: rest
  | 0, h => by cases h
  | depth + 1, h => by
    unfold readItems at h
    obtain ⟨⟨v, tail⟩, hitem, hnext⟩ := bind_eq_ok.mp h
    obtain ⟨source, hs, rfl⟩ := readItem_sound hitem
    dsimp only at hnext
    split at hnext
    next tail' =>
      obtain ⟨⟨vs', rest'⟩, hmore, heq⟩ := bind_eq_ok.mp hnext
      cases heq
      obtain ⟨more, hm, rfl⟩ := readItems_sound hmore
      exact ⟨_, .cons hs hm, by simp⟩
    next tail' =>
      cases hnext
      exact ⟨_, .single hs, rfl⟩
    next => cases hnext

end

-- ====================================================== completeness

theorem IsName.exists_cons {cs : List Char} (h : IsName cs) :
    ∃ c rest, cs = c :: rest ∧ isNameChar c = true := by
  obtain ⟨c, rest, rfl⟩ := List.exists_cons_of_ne_nil h.ne_nil
  exact ⟨c, rest, rfl, isNameChar_iff.mpr (h.chars c List.mem_cons_self)⟩

theorem IsField.exists_cons {cs : List Char} {f : String × Value}
    (h : IsField cs f) : ∃ c rest, cs = c :: rest ∧ isNameChar c = true := by
  obtain ⟨hname, -⟩ := h
  obtain ⟨c, rest, rfl, hc⟩ := hname.exists_cons
  exact ⟨c, _, rfl, hc⟩

/-- Fields do not start with a delimiter. -/
theorem IsFields.exists_cons {cs : List Char} {fs : List (String × Value)}
    (h : IsFields cs fs) : ∃ c rest, cs = c :: rest ∧ isNameChar c = true := by
  cases h with
  | single field => exact field.exists_cons
  | cons field more =>
      obtain ⟨c, rest, rfl, hc⟩ := field.exists_cons
      exact ⟨c, _, rfl, hc⟩

/-- The first character of a value tells its kind. -/
theorem IsValue.exists_cons {cs : List Char} {v : Value} (h : IsValue cs v) :
    ∃ c rest, cs = c :: rest ∧ (c = '"' ∨ c = '\x7b' ∨ c = '[') := by
  cases h with
  | const quoted =>
      obtain ⟨-⟩ := quoted
      exact ⟨_, _, rfl, by simp⟩
  | emptyTuple => exact ⟨_, _, rfl, by simp⟩
  | tuple inner => exact ⟨_, _, rfl, by simp⟩
  | emptyList => exact ⟨_, _, rfl, by simp⟩
  | list inner => exact ⟨_, _, rfl, by simp⟩

/-- No item begins with what ends a list. -/
theorem IsItem.exists_cons {cs : List Char} {v : Value} (h : IsItem cs v) :
    ∃ c rest, cs = c :: rest ∧ c ≠ ']' := by
  cases h with
  | value value =>
      obtain ⟨c, rest, rfl, hc⟩ := value.exists_cons
      refine ⟨c, rest, rfl, ?_⟩
      rintro rfl
      simp at hc
  | field field =>
      obtain ⟨c, rest, rfl, hc⟩ := field.exists_cons
      refine ⟨c, rest, rfl, ?_⟩
      rintro rfl
      rw [isNameChar_delimiter _ (by simp)] at hc
      cases hc

/-- Items do not start with the closing bracket. -/
theorem IsItems.exists_cons {cs : List Char} {vs : List Value}
    (h : IsItems cs vs) : ∃ c rest, cs = c :: rest ∧ c ≠ ']' := by
  cases h with
  | single item => exact item.exists_cons
  | cons item more =>
      obtain ⟨c, rest, rfl, hc⟩ := item.exists_cons
      exact ⟨c, _, rfl, hc⟩

/-- A brace that is not closed at once opens a tuple with fields. -/
theorem readValue_brace {depth : Nat} {c : Char} {cs rest : List Char}
    {fields : List (String × Value)} (notClosed : c ≠ '\x7d')
    (inner : readFields depth (c :: cs) = .ok (fields, rest)) :
    readValue (depth + 1) ('\x7b' :: c :: cs) = .ok (.tuple fields, rest) := by
  rw [readValue, inner]
  · rfl
  · intro tail heq
    exact notClosed (List.cons.inj heq).1

/-- A bracket that is not closed at once opens a list with items. -/
theorem readValue_bracket {depth : Nat} {c : Char} {cs rest : List Char}
    {items : List Value} (notClosed : c ≠ ']')
    (inner : readItems depth (c :: cs) = .ok (items, rest)) :
    readValue (depth + 1) ('[' :: c :: cs) = .ok (.list items, rest) := by
  rw [readValue, inner]
  · rfl
  · intro tail heq
    exact notClosed (List.cons.inj heq).1

/-- An item that begins as a value does is read as one. -/
theorem readItem_value {depth : Nat} {c : Char} {cs : List Char}
    (hc : c = '"' ∨ c = '\x7b' ∨ c = '[') :
    readItem (depth + 1) (c :: cs) = readValue depth (c :: cs) := by
  rcases hc with rfl | rfl | rfl <;> rfl

/-- An item that starts with a character of a name is a field. -/
theorem readItem_field {depth : Nat} {c : Char} {cs rest : List Char}
    {f : String × Value} (hc : isNameChar c = true)
    (field : readField depth (c :: cs) = .ok (f, rest)) :
    readItem (depth + 1) (c :: cs) = .ok (.tuple [f], rest) := by
  have hne : ∀ d ∈ ['"', '\x7b', '['], ∀ tail, c :: cs ≠ d :: tail := by
    intro d hd tail heq
    have hdelimiter := isNameChar_delimiter d (by grind)
    rw [← (List.cons.inj heq).1, hc] at hdelimiter
    cases hdelimiter
  rw [readItem, field]
  · rfl
  · exact hne '"' (by simp)
  · exact hne '\x7b' (by simp)
  · exact hne '[' (by simp)

mutual

/-- A value is read back whatever follows it, given the depth for its
length. -/
theorem readValue_append : ∀ {source : List Char} {v : Value},
    IsValue source v → ∀ (depth : Nat) (rest : List Char),
      3 * source.length ≤ depth →
      readValue depth (source ++ rest) = .ok (v, rest)
  | _, _, .const quoted, depth, rest, bound => by
    have hread := readQuoted_append quoted rest
    obtain ⟨-⟩ := quoted
    cases depth with
    | zero => cases bound
    | succ depth =>
      rw [List.cons_append, readValue, ← List.cons_append, hread]
      rfl
  | _, _, .emptyTuple, depth, rest, bound => by
    cases depth with
    | zero => cases bound
    | succ depth => rfl
  | _, _, .tuple inner, depth, rest, bound => by
    cases depth with
    | zero => cases bound
    | succ depth =>
      simp only [List.length_cons, List.length_append] at bound
      have hread := readFields_append inner depth rest (by omega)
      obtain ⟨c, tail, rfl, hc⟩ := inner.exists_cons
      have hopen : c ≠ '\x7d' := by
        rintro rfl
        rw [isNameChar_delimiter _ (by simp)] at hc
        cases hc
      simp only [List.cons_append, List.append_assoc] at hread ⊢
      exact readValue_brace hopen hread
  | _, _, .emptyList, depth, rest, bound => by
    cases depth with
    | zero => cases bound
    | succ depth => rfl
  | _, _, .list inner, depth, rest, bound => by
    cases depth with
    | zero => cases bound
    | succ depth =>
      simp only [List.length_cons, List.length_append] at bound
      have hread := readItems_append inner depth rest (by omega)
      obtain ⟨c, tail, rfl, hopen⟩ := inner.exists_cons
      simp only [List.cons_append, List.append_assoc] at hread ⊢
      exact readValue_bracket hopen hread

theorem readField_append : ∀ {source : List Char} {f : String × Value},
    IsField source f → ∀ (depth : Nat) (rest : List Char),
      3 * source.length ≤ depth →
      readField depth (source ++ rest) = .ok (f, rest)
  | _, _, .mk isName value, depth, rest, bound => by
    simp only [List.length_append, List.length_cons] at bound
    cases depth with
    | zero => omega
    | succ depth =>
      rw [List.append_assoc, List.cons_append, readField,
        readName_append isName]
      show (readValue depth _ >>= _) = _
      rw [readValue_append value depth rest (by omega)]
      rfl

/-- The fields of a tuple are read up to its end. -/
theorem readFields_append : ∀ {source : List Char}
    {fs : List (String × Value)}, IsFields source fs →
      ∀ (depth : Nat) (rest : List Char), 3 * source.length < depth →
      readFields depth (source ++ '\x7d' :: rest) = .ok (fs, rest)
  | _, _, .single field, depth, rest, bound => by
    cases depth with
    | zero => cases bound
    | succ depth =>
      rw [readFields, readField_append field depth _ (by omega)]
      rfl
  | _, _, .cons field more, depth, rest, bound => by
    cases depth with
    | zero => cases bound
    | succ depth =>
      simp only [List.length_append, List.length_cons] at bound
      rw [List.append_assoc, List.cons_append, readFields,
        readField_append field depth _ (by omega)]
      show (readFields depth _ >>= _) = _
      rw [readFields_append more depth rest (by omega)]
      rfl

theorem readItem_append : ∀ {source : List Char} {v : Value},
    IsItem source v → ∀ (depth : Nat) (rest : List Char),
      3 * source.length < depth →
      readItem depth (source ++ rest) = .ok (v, rest)
  | _, _, .value value, depth, rest, bound => by
    cases depth with
    | zero => cases bound
    | succ depth =>
      have hread := readValue_append value depth rest (by omega)
      obtain ⟨c, tail, rfl, hc⟩ := value.exists_cons
      rw [List.cons_append] at hread ⊢
      rw [readItem_value hc, hread]
  | _, _, .field field, depth, rest, bound => by
    cases depth with
    | zero => cases bound
    | succ depth =>
      have hread := readField_append field depth rest (by omega)
      obtain ⟨c, tail, rfl, hc⟩ := field.exists_cons
      rw [List.cons_append] at hread ⊢
      exact readItem_field hc hread

theorem readItems_append : ∀ {source : List Char} {vs : List Value},
    IsItems source vs → ∀ (depth : Nat) (rest : List Char),
      3 * source.length + 1 < depth →
      readItems depth (source ++ ']' :: rest) = .ok (vs, rest)
  | _, _, .single item, depth, rest, bound => by
    cases depth with
    | zero => cases bound
    | succ depth =>
      rw [readItems, readItem_append item depth _ (by omega)]
      rfl
  | _, _, .cons item more, depth, rest, bound => by
    cases depth with
    | zero => cases bound
    | succ depth =>
      simp only [List.length_append, List.length_cons] at bound
      rw [List.append_assoc, List.cons_append, readItems,
        readItem_append item depth _ (by omega)]
      show (readItems depth _ >>= _) = _
      rw [readItems_append more depth rest (by omega)]
      rfl

end

end SpecDebugger.MachineInterface
