/-
JSON values, read back from the text they are written as.

Writing and reading meet at the tokens of a value: its text is split into
them (`Plain.spells_print`), and they take the reader from where it awaits
a value to where that value is complete (`Plain.readsBack`), whatever
containers are open around it. Both are inductions over the value, on
which the commas between items and members are one list lemma
(`spells_intercalate`, `run_items`, `run_members`).

The values concerned are the ones made of texts and natural numbers
(`Plain`), as records are.
-/
import SpecDebugger.Json.Parser
import SpecDebugger.Proofs.Json.Tokens

namespace SpecDebugger.Json

-- ============================================================== values

mutual

/-- The tokens of a value. -/
def tokens : Json → List Token
  | .null => [.null]
  | .bool b => [.bool b]
  | .number n => [.number n]
  | .string s => [.string s]
  | .array items =>
    .openArray ::
      ([Token.comma].intercalate (itemTokens items) ++ [.closeArray])
  | .object members =>
    .openObject ::
      ([Token.comma].intercalate (memberTokens members) ++ [.closeObject])

/-- The tokens of each item. -/
def itemTokens : List Json → List (List Token)
  | [] => []
  | item :: items => tokens item :: itemTokens items

/-- The tokens of each member. -/
def memberTokens : List (Option String × Json) → List (List Token)
  | [] => []
  | (key, value) :: members =>
    (.string key :: .colon :: tokens value) :: memberTokens members

end

@[simp]
theorem itemTokens_eq_map (items : List Json) :
    itemTokens items = items.map tokens := by
  induction items with
  | nil => rfl
  | cons item items ih => rw [itemTokens, ih, List.map_cons]

/-- The tokens of a member are its key, a colon, and those of its value. -/
@[simp]
theorem memberTokens_eq_map (members : List (Option String × Json)) :
    memberTokens members =
      members.map fun m => .string m.1 :: .colon :: tokens m.2 := by
  induction members with
  | nil => rfl
  | cons m members ih => rw [memberTokens, ih, List.map_cons]

@[simp]
theorem printItems_eq_map (items : List Json) :
    printItems items = items.map print := by
  induction items with
  | nil => rfl
  | cons item items ih => rw [printItems, ih, List.map_cons]

/-- Members are printed one by one, each with its key. -/
theorem printMembers_eq_map (members : List (Option String × Json)) :
    printMembers members =
      members.map fun m => printString m.1 ++ ":" ++ print m.2 := by
  induction members with
  | nil => rfl
  | cons m members ih => rw [printMembers, ih, List.map_cons]

/-- The values made of texts and natural numbers. -/
inductive Plain : Json → Prop where
  | null : Plain .null
  | bool (b : Bool) : Plain (.bool b)
  | nat (n : Nat) : Plain (.nat n)
  | text (s : String) : Plain (.text s)
  | array {items : List Json} (plain : ∀ item ∈ items, Plain item) :
    Plain (.array items)
  | record {members : List (String × Json)}
    (plain : ∀ m ∈ members, Plain m.2) : Plain (.record members)

/-- What is printed spells the tokens of the value. -/
theorem Plain.spells_print {j : Json} (h : Plain j) :
    Spells (print j).toList (tokens j) := by
  induction h with
  | null => exact spells_word rfl fun _ => rfl
  | bool b =>
      cases b with
      | true => exact spells_word rfl fun _ => rfl
      | false => exact spells_word rfl fun _ => rfl
  | nat n => exact spells_print_ofNat n
  | text s => exact spells_printText s
  | @array items _ ih =>
      have hitems := spells_intercalate ih
      rw [print, tokens, String.toList_append, String.toList_append,
        String.toList_intercalate, printItems_eq_map, itemTokens_eq_map,
        List.map_map]
      exact hitems.enclose
        (fun _ _ => .mark rfl rfl) (fun _ _ => .mark rfl rfl)
        fun _ => ends_cons (by decide)
  | @record members _ ih =>
      have hmember : ∀ m ∈ members,
          Spells (printText m.1 ++ ":" ++ print m.2).toList
            (.string (some m.1) :: .colon :: tokens m.2) := by
        intro m hm rest us hrest h
        rw [String.toList_append, String.toList_append, List.append_assoc,
          List.append_assoc]
        exact spells_printText m.1 _ _ (ends_cons (by decide))
          (.mark rfl rfl (ih m hm rest us hrest h))
      have hmembers := spells_intercalate hmember
      rw [Json.record, print, tokens, String.toList_append,
        String.toList_append, String.toList_intercalate, printMembers_eq_map,
        memberTokens_eq_map, List.map_map, List.map_map, List.map_map]
      exact hmembers.enclose (fun _ _ => .mark rfl rfl)
        (fun _ _ => .mark rfl rfl) fun _ => ends_cons (by decide)

-- ============================================================= parsing

open Awaiting

/-- A token that is taken leads to the next state. -/
theorem Awaiting.run_cons {state state' : Awaiting} {t : Token}
    (h : state.step t = some state') (ts : List Token) :
    state.run (t :: ts) = state'.run ts := by
  rw [run, h]

/-- Where a value may start, an item may. -/
theorem run_firstItem (j : Json) (stack : List Open) (ts : List Token) :
    (firstItem stack).run (tokens j ++ ts) =
      (value (.array [] :: stack)).run (tokens j ++ ts) := by
  cases j with
  | null => rfl
  | bool b => rfl
  | number n => rfl
  | string s => rfl
  | array items => rfl
  | object members => rfl

/-- The tokens of a value are read as that value. -/
def ReadsBack (j : Json) : Prop :=
  ∀ stack ts, (value stack).run (tokens j ++ ts) = (complete j stack).run ts

/-- Items after the first are added to those that were read. -/
theorem run_items {items : List Json} (h : ∀ item ∈ items, ReadsBack item)
    (stack : List Open) (done : List Json) (ts : List Token) :
    (afterItem stack done).run
        ((items.map tokens).flatMap (.comma :: ·) ++ ts) =
      (afterItem stack (items.reverse ++ done)).run ts := by
  induction items generalizing done with
  | nil => rfl
  | cons item items ih =>
      rw [List.forall_mem_cons] at h
      rw [List.map_cons, List.flatMap_cons, List.cons_append, List.cons_append,
        List.append_assoc, run_cons rfl, h.1, complete, ih h.2,
        List.reverse_cons, List.append_assoc, List.singleton_append]

/-- An array is read back when its items are. -/
theorem readsBack_array {items : List Json}
    (h : ∀ item ∈ items, ReadsBack item) : ReadsBack (.array items) := by
  intro stack ts
  rw [tokens, List.cons_append, run_cons rfl, itemTokens_eq_map]
  cases items with
  | nil => rfl
  | cons item items =>
      rw [List.forall_mem_cons] at h
      rw [List.map_cons, intercalate_cons, List.append_assoc,
        List.append_assoc, run_firstItem, h.1, complete, run_items h.2,
        List.singleton_append, run_cons rfl, List.reverse_append,
        List.reverse_reverse]
      rfl

/-- Where an object may end, its first member starts as a further one. -/
theorem run_firstKey (stack : List Open) (key : Option String)
    (ts us : List Token) :
    (firstKey stack).run (.string key :: ts ++ us) =
      (nextKey stack []).run (.string key :: ts ++ us) := rfl

/-- A member is read as its key and its value. -/
theorem run_member {m : Option String × Json} (h : ReadsBack m.2)
    (stack : List Open) (done : List (Option String × Json))
    (ts : List Token) :
    (nextKey stack done).run (.string m.1 :: .colon :: tokens m.2 ++ ts) =
      (afterMember stack (m :: done)).run ts := by
  show (value (.object done m.1 :: stack)).run (tokens m.2 ++ ts) = _
  rw [h]
  rfl

/-- Members after the first are added to those that were read. -/
theorem run_members {members : List (Option String × Json)}
    (h : ∀ m ∈ members, ReadsBack m.2) (stack : List Open)
    (done : List (Option String × Json)) (ts : List Token) :
    (afterMember stack done).run
        ((members.map fun m => .string m.1 :: .colon :: tokens m.2).flatMap
          (.comma :: ·) ++ ts) =
      (afterMember stack (members.reverse ++ done)).run ts := by
  induction members generalizing done with
  | nil => rfl
  | cons m members ih =>
      rw [List.forall_mem_cons] at h
      rw [List.map_cons, List.flatMap_cons, List.append_assoc,
        List.cons_append, run_cons rfl, run_member h.1, ih h.2,
        List.reverse_cons, List.append_assoc, List.singleton_append]

/-- An object is read back when its members are. -/
theorem readsBack_object {members : List (Option String × Json)}
    (h : ∀ m ∈ members, ReadsBack m.2) : ReadsBack (.object members) := by
  intro stack ts
  rw [tokens, List.cons_append, run_cons rfl, memberTokens_eq_map]
  cases members with
  | nil => rfl
  | cons m members =>
      rw [List.forall_mem_cons] at h
      rw [List.map_cons, intercalate_cons, List.append_assoc,
        List.append_assoc, run_firstKey, run_member h.1, run_members h.2,
        List.singleton_append, run_cons rfl, List.reverse_append,
        List.reverse_reverse]
      rfl

/-- A plain value is read back from its tokens. -/
theorem Plain.readsBack {j : Json} (h : Plain j) : ReadsBack j := by
  induction h with
  | null => exact fun _ _ => rfl
  | bool b => exact fun _ _ => rfl
  | nat n => exact fun _ _ => rfl
  | text s => exact fun _ _ => rfl
  | array _ ih => exact readsBack_array ih
  | record _ ih =>
      refine readsBack_object fun m hm => ?_
      obtain ⟨m, hmem, rfl⟩ := List.mem_map.mp hm
      exact ih m hmem

/-- A plain value is read back from its text. -/
theorem Plain.parse?_print {j : Json} (h : Plain j) :
    parse? (print j) = some j := by
  have hlex := h.spells_print [] [] ends_nil .nil
  rw [List.append_nil, List.append_nil] at hlex
  have hrun := h.readsBack [] []
  rw [List.append_nil] at hrun
  rw [parse?, hlex.ofText?_eq, Option.bind_some, ofTokens?, hrun]
  rfl

end SpecDebugger.Json
