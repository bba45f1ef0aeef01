import MarketWire.Json.Reader
import MarketWire.Json.Writer
import MarketWire.Proofs.Members

namespace MarketWire.Json

def Glyph.ofChar (c : Char) : Glyph :=
  if c.toNat < 32 ∧ c ∉ ['\x08', '\x0c', '\n', '\r', '\t'] then .unit c.toNat else .char c

def Literal.ofText (s : String) : Literal := s.toList.map Glyph.ofChar

@[simp] theorem Literal.text?_ofText (s : String) : Literal.text? (Literal.ofText s) = some s := by
  have chars : ∀ cs : List Char, Literal.chars? (cs.map Glyph.ofChar) = some cs := by
    intro cs
    induction cs with
    | nil => rfl
    | cons c cs ih =>
        rw [List.map_cons, Glyph.ofChar]
        split
        · next control =>
            have high : isHighUnit c.toNat = false := by simp [isHighUnit]; omega
            have low : isLowUnit c.toNat = false := by simp [isLowUnit]; omega
            simp [Literal.chars?.eq_def (.unit c.toNat :: _), high, low, ih]
        · rw [Literal.chars?, ih, Option.map_some]
  rw [Literal.text?, Literal.ofText, chars, Option.map_some, String.ofList_toList]

theorem hexUnit_hexDigit : ∀ n < 32,
    hexUnit '0' '0' (Text.Quoted.hexDigit (n / 16)) (Text.Quoted.hexDigit (n % 16)) = some n := by
  decide

theorem readGlyphs_plain {c : Char} (quote : c ≠ '"') (slash : c ≠ '\\') (seen : ¬c.toNat < 32)
    (cs : List Char) :
    readGlyphs (c :: cs) = (readGlyphs cs).map fun r => (.char c :: r.1, r.2) := by
  rw [readGlyphs.eq_def]
  split
  · next e => cases e
  · next e => exact absurd (List.cons.inj e).1 quote
  · next e => exact absurd (List.cons.inj e).1 slash
  · next e => exact absurd (List.cons.inj e).1 slash
  · next e =>
      cases e
      rw [if_neg (by simp [seen, slash])]

theorem readGlyphs_simple {e c : Char} (simple : simpleEscape e = some c) (cs : List Char) :
    readGlyphs ('\\' :: e :: cs) = (readGlyphs cs).map fun r => (.char c :: r.1, r.2) := by
  rw [readGlyphs.eq_def]
  split
  · next h => cases h
  · next h => exact absurd (List.cons.inj h).1 (by decide)
  · next h =>
      cases h
      cases simple
  · next h =>
      cases h
      rw [simple]
  · next other h =>
      cases h
      exact (other e cs rfl rfl).elim

theorem readGlyphs_escapeChar (c : Char) (cs : List Char) :
    readGlyphs (escapeChar c ++ cs) =
      (readGlyphs cs).map fun r => (Glyph.ofChar c :: r.1, r.2) := by
  rw [escapeChar]
  split
  · next same =>
      subst same
      exact readGlyphs_simple rfl cs
  split
  · next same =>
      subst same
      exact readGlyphs_simple rfl cs
  split
  · next same =>
      subst same
      exact readGlyphs_simple rfl cs
  split
  · next same =>
      subst same
      exact readGlyphs_simple rfl cs
  split
  · next same =>
      subst same
      exact readGlyphs_simple rfl cs
  split
  · next same =>
      subst same
      exact readGlyphs_simple rfl cs
  split
  · next same =>
      subst same
      exact readGlyphs_simple rfl cs
  split
  · next control =>
      simp only [List.cons_append, List.nil_append, readGlyphs, hexUnit_hexDigit _ control]
      simp_all [Glyph.ofChar]
  -- What is not escaped is neither the end of the text nor a control.
  · next quote slash _ _ _ _ _ seen =>
      rw [Glyph.ofChar, if_neg fun control => seen control.1]
      exact readGlyphs_plain quote slash seen cs

theorem readGlyphs_writeString (s : String) (rest : List Char) :
    readGlyphs (s.toList.flatMap escapeChar ++ '"' :: rest) = some (Literal.ofText s, rest) := by
  have chars : ∀ cs : List Char,
      readGlyphs (cs.flatMap escapeChar ++ '"' :: rest) = some (cs.map Glyph.ofChar, rest) := by
    intro cs
    induction cs with
    | nil => simp [readGlyphs]
    | cons c cs ih =>
        rw [List.flatMap_cons, List.append_assoc, readGlyphs_escapeChar, ih, Option.map_some,
          List.map_cons]
  exact chars s.toList

mutual

def draft? : Json → Option Draft
  | .null => some .null
  | .bool b => some (.bool b)
  | .num _ => none
  | .str s => some (.str (Literal.ofText s))
  | .arr items => (itemDrafts? items).map .arr
  | .obj members => (memberDrafts? members).map .obj

def itemDrafts? : List Json → Option (List Draft)
  | [] => some []
  | v :: rest => (draft? v).bind fun d => (itemDrafts? rest).map (d :: ·)

def memberDrafts? : List (String × Json) → Option (List (Literal × Draft))
  | [] => some []
  | (k, v) :: rest =>
      (draft? v).bind fun d => (memberDrafts? rest).map ((Literal.ofText k, d) :: ·)

end

theorem write_head {v : Json} {d : Draft} (h : draft? v = some d) :
    ∃ c cs, write v = c :: cs ∧ isSpace c = false ∧ c ≠ ']' := by
  cases v with
  | null => exact ⟨_, _, rfl, rfl, by decide⟩
  | bool b => cases b <;> exact ⟨_, _, rfl, rfl, by decide⟩
  | num => simp [draft?] at h
  | str | arr | obj => exact ⟨_, _, rfl, rfl, by decide⟩

theorem skipSpace_cons {c : Char} {cs : List Char} (h : isSpace c = false) :
    skipSpace (c :: cs) = c :: cs := by
  rw [skipSpace, List.dropWhile_cons_of_neg (by simp [h])]

theorem skipSpace_writeString (s : String) (rest : List Char) :
    skipSpace (writeString s ++ rest) = writeString s ++ rest := skipSpace_cons rfl

theorem readMember_write {k : String} {d : Draft} {n : Nat} {cs rest : List Char}
    (value : readValue n cs = some (d, rest)) :
    readMember (n + 1) (writeString k ++ ':' :: cs) = some ((Literal.ofText k, d), rest) := by
  rw [readMember, skipSpace_writeString]
  simp only [writeString, List.cons_append, List.append_assoc, List.nil_append,
    readGlyphs_writeString]
  rw [skipSpace_cons rfl]
  simp only [value, Option.map_some]

theorem writeMoreItems_pos (items : List Json) : 0 < (writeMoreItems items).length := by
  cases items <;> simp [writeMoreItems]

theorem writeItems_pos (items : List Json) : 0 < (writeItems items).length := by
  cases items with
  | nil => simp [writeItems]
  | cons v rest =>
      rw [writeItems, List.length_append]
      exact Nat.add_pos_right _ (writeMoreItems_pos rest)

theorem writeMoreMembers_pos (members : List (String × Json)) :
    0 < (writeMoreMembers members).length := by
  cases members <;> simp [writeMoreMembers]

theorem writeMembers_pos (members : List (String × Json)) :
    0 < (writeMembers members).length := by
  cases members <;> simp [writeMembers, writeString]

mutual

theorem readValue_write : ∀ {v : Json} {d : Draft} {n : Nat} (rest : List Char),
    draft? v = some d → (write v).length ≤ n → readValue n (write v ++ rest) = some (d, rest)
  | v, _, 0, _, h, fuel => by
      obtain ⟨c, cs, first, _⟩ := write_head h
      simp [first] at fuel
  | .null, _, n + 1, rest, h, _ => by
      cases h
      rfl
  | .bool true, _, n + 1, rest, h, _ => by
      cases h
      rfl
  | .bool false, _, n + 1, rest, h, _ => by
      cases h
      rfl
  | .num _, _, n + 1, rest, h, _ => by
      simp [draft?] at h
  | .str s, _, n + 1, rest, h, _ => by
      cases h
      simp only [write, writeString, List.cons_append, List.append_assoc, List.nil_append]
      rw [readValue, skipSpace_cons rfl]
      simp [readGlyphs_writeString]
  | .arr items, _, n + 1, rest, h, fuel => by
      obtain ⟨ds, hds, rfl⟩ := Option.map_eq_some_iff.mp h
      have items := readItems_write rest hds (Nat.le_of_succ_le_succ fuel)
      rw [write, List.cons_append, readValue, skipSpace_cons rfl]
      simp [items]
  | .obj members, _, n + 1, rest, h, fuel => by
      obtain ⟨ds, hds, rfl⟩ := Option.map_eq_some_iff.mp h
      have members := readMembers_write rest hds (Nat.le_of_succ_le_succ fuel)
      rw [write, List.cons_append, readValue, skipSpace_cons rfl]
      simp [members]

theorem readItems_write : ∀ {items : List Json} {ds : List Draft} {n : Nat} (rest : List Char),
    itemDrafts? items = some ds → (writeItems items).length ≤ n →
      readItems n (writeItems items ++ rest) = some (ds, rest)
  | items, _, 0, _, _, fuel => absurd (writeItems_pos items) (Nat.not_lt.mpr fuel)
  | [], _, n + 1, rest, h, _ => by
      cases h
      rfl
  | v :: items, _, n + 1, rest, h, fuel => by
      obtain ⟨d, hd, h⟩ := Option.bind_eq_some_iff.mp h
      obtain ⟨ds, hds, rfl⟩ := Option.map_eq_some_iff.mp h
      have more := writeMoreItems_pos items
      obtain ⟨c, cs, first, seen, other⟩ := write_head hd
      have written : 0 < (write v).length := by simp [first]
      rw [writeItems, List.length_append] at fuel
      have value := readValue_write (n := n) (writeMoreItems items ++ rest) hd (by omega)
      have others := readMoreItems_write (n := n) rest hds (by omega)
      have unblank : skipSpace (write v ++ (writeMoreItems items ++ rest))
          = write v ++ (writeMoreItems items ++ rest) := by
        rw [first, List.cons_append, skipSpace_cons seen]
      -- So the reader does not take the value for the end of the array.
      have opening : ∀ cs, write v ++ (writeMoreItems items ++ rest) ≠ ']' :: cs := by
        simp [first, other]
      rw [writeItems, List.append_assoc, readItems, unblank]
      split
      · next e => exact absurd e (opening _)
      · simp [value, others]

theorem readMoreItems_write : ∀ {items : List Json} {ds : List Draft} {n : Nat}
    (rest : List Char), itemDrafts? items = some ds → (writeMoreItems items).length ≤ n →
      readMoreItems n (writeMoreItems items ++ rest) = some (ds, rest)
  | items, _, 0, _, _, fuel => absurd (writeMoreItems_pos items) (Nat.not_lt.mpr fuel)
  | [], _, n + 1, rest, h, _ => by
      cases h
      rfl
  | v :: items, _, n + 1, rest, h, fuel => by
      obtain ⟨d, hd, h⟩ := Option.bind_eq_some_iff.mp h
      obtain ⟨ds, hds, rfl⟩ := Option.map_eq_some_iff.mp h
      rw [writeMoreItems, List.length_cons, List.length_append] at fuel
      have value := readValue_write (n := n) (writeMoreItems items ++ rest) hd (by omega)
      have others := readMoreItems_write (n := n) rest hds (by omega)
      rw [writeMoreItems, List.cons_append, List.append_assoc, readMoreItems,
        skipSpace_cons rfl]
      simp [value, others]

theorem readMembers_write : ∀ {members : List (String × Json)} {ds : List (Literal × Draft)}
    {n : Nat} (rest : List Char), memberDrafts? members = some ds →
      (writeMembers members).length ≤ n →
      readMembers n (writeMembers members ++ rest) = some (ds, rest)
  | members, _, 0, _, _, fuel => absurd (writeMembers_pos members) (Nat.not_lt.mpr fuel)
  | [], _, n + 1, rest, h, _ => by
      cases h
      rfl
  | (k, v) :: members, _, n + 1, rest, h, fuel => by
      obtain ⟨d, hd, h⟩ := Option.bind_eq_some_iff.mp h
      obtain ⟨ds, hds, rfl⟩ := Option.map_eq_some_iff.mp h
      have more := writeMoreMembers_pos members
      simp only [writeMembers, writeString, List.length_append, List.length_cons] at fuel
      obtain ⟨m, rfl⟩ : ∃ m, n = m + 1 := ⟨n - 1, by omega⟩
      have value := readValue_write (n := m) (writeMoreMembers members ++ rest) hd (by omega)
      have named := readMember_write (k := k) value
      have others := readMoreMembers_write (n := m + 1) rest hds (by omega)
      simp only [writeMembers, List.append_assoc, List.cons_append]
      rw [readMembers, skipSpace_writeString]
      split
      · next e => cases e
      · simp [named, others]

theorem readMoreMembers_write : ∀ {members : List (String × Json)} {ds : List (Literal × Draft)}
    {n : Nat} (rest : List Char), memberDrafts? members = some ds →
      (writeMoreMembers members).length ≤ n →
      readMoreMembers n (writeMoreMembers members ++ rest) = some (ds, rest)
  | members, _, 0, _, _, fuel => absurd (writeMoreMembers_pos members) (Nat.not_lt.mpr fuel)
  | [], _, n + 1, rest, h, _ => by
      cases h
      rfl
  | (k, v) :: members, _, n + 1, rest, h, fuel => by
      obtain ⟨d, hd, h⟩ := Option.bind_eq_some_iff.mp h
      obtain ⟨ds, hds, rfl⟩ := Option.map_eq_some_iff.mp h
      simp only [writeMoreMembers, writeString, List.length_append, List.length_cons] at fuel
      obtain ⟨m, rfl⟩ : ∃ m, n = m + 1 := ⟨n - 1, by omega⟩
      have value := readValue_write (n := m) (writeMoreMembers members ++ rest) hd (by omega)
      have named := readMember_write (k := k) value
      have others := readMoreMembers_write (n := m + 1) rest hds (by omega)
      simp only [writeMoreMembers, List.append_assoc, List.cons_append]
      rw [readMoreMembers, skipSpace_cons rfl]
      simp [named, others]

end

theorem Draft.read?_write {v : Json} {d : Draft} (h : draft? v = some d) :
    Draft.read? (write v) = some d := by
  have value := readValue_write (n := 3 * (write v).length + 3) [] h (by omega)
  rw [List.append_nil] at value
  rw [Draft.read?, value]
  rfl

mutual

def tidy : Json → Json
  | .arr items => .arr (tidyItems items)
  | .obj members => object (tidyMembers members)
  | v => v

def tidyItems : List Json → List Json
  | [] => []
  | v :: rest => tidy v :: tidyItems rest

def tidyMembers : List (String × Json) → List (String × Json)
  | [] => []
  | (k, v) :: rest => (k, tidy v) :: tidyMembers rest

end

mutual

def depth : Json → Nat
  | .arr items => depthItems items + 1
  | .obj members => depthMembers members + 1
  | _ => 0

def depthItems : List Json → Nat
  | [] => 0
  | v :: rest => max (depth v) (depthItems rest)

def depthMembers : List (String × Json) → Nat
  | [] => 0
  | (_, v) :: rest => max (depth v) (depthMembers rest)

end

mutual

theorem value?_draft : ∀ {v : Json} {d : Draft} {levels : Nat},
    draft? v = some d → depth v ≤ levels → d.value? levels = some (tidy v)
  | .null, _, _, h, _ => by
      cases h
      rfl
  | .bool _, _, _, h, _ => by
      cases h
      rfl
  | .num _, _, _, h, _ => by
      simp [draft?] at h
  | .str s, _, _, h, _ => by
      cases h
      simp [Draft.value?, tidy]
  | .arr _, _, 0, _, shallow => by
      simp [depth] at shallow
  | .arr items, _, levels + 1, h, shallow => by
      obtain ⟨ds, hds, rfl⟩ := Option.map_eq_some_iff.mp h
      rw [Draft.value?, values?_itemDrafts hds (Nat.le_of_succ_le_succ shallow), tidy]
      rfl
  | .obj _, _, 0, _, shallow => by
      simp [depth] at shallow
  | .obj members, _, levels + 1, h, shallow => by
      obtain ⟨ds, hds, rfl⟩ := Option.map_eq_some_iff.mp h
      rw [Draft.value?, members?_memberDrafts hds (Nat.le_of_succ_le_succ shallow), tidy]
      rfl

theorem values?_itemDrafts : ∀ {items : List Json} {ds : List Draft} {levels : Nat},
    itemDrafts? items = some ds → depthItems items ≤ levels →
      Draft.values? levels ds = some (tidyItems items)
  | [], _, _, h, _ => by
      cases h
      rfl
  | v :: items, _, levels, h, shallow => by
      obtain ⟨d, hd, h⟩ := Option.bind_eq_some_iff.mp h
      obtain ⟨ds, hds, rfl⟩ := Option.map_eq_some_iff.mp h
      obtain ⟨here, there⟩ := Nat.max_le.mp shallow
      simp [Draft.values?, value?_draft hd here, values?_itemDrafts hds there, tidyItems]

theorem members?_memberDrafts : ∀ {members : List (String × Json)} {ds : List (Literal × Draft)}
    {levels : Nat}, memberDrafts? members = some ds → depthMembers members ≤ levels →
      Draft.members? levels ds = some (tidyMembers members)
  | [], _, _, h, _ => by
      cases h
      rfl
  | (k, v) :: members, _, levels, h, shallow => by
      obtain ⟨d, hd, h⟩ := Option.bind_eq_some_iff.mp h
      obtain ⟨ds, hds, rfl⟩ := Option.map_eq_some_iff.mp h
      obtain ⟨here, there⟩ := Nat.max_le.mp shallow
      simp [Draft.members?, value?_draft hd here, members?_memberDrafts hds there, tidyMembers]

end

theorem toList_text (v : Json) : v.text.toList = write v := by
  rw [text, String.toList_ofList]

theorem str?_tidy (v : Json) : (tidy v).str? = v.str? := by
  cases v <;> rfl

theorem tidyMembers_eq (members : List (String × Json)) :
    tidyMembers members = members.map fun m => (m.1, tidy m.2) := by
  induction members with
  | nil => rfl
  | cons m rest ih =>
      obtain ⟨k, v⟩ := m
      rw [tidyMembers, ih, List.map_cons]

theorem lookup_tidyMembers {members : List (String × Json)} {n : String} :
    (tidyMembers members).lookup n = (members.lookup n).map tidy := by
  rw [tidyMembers_eq]
  exact Members.lookup_map (f := fun m => (m.1, tidy m.2)) (fun _ => rfl) members

theorem distinct_tidyMembers {members : List (String × Json)} :
    Members.Distinct (tidyMembers members) ↔ Members.Distinct members := by
  rw [Members.Distinct, Members.Distinct, tidyMembers_eq, List.map_map]
  rfl

theorem tidyItems_eq (items : List Json) : tidyItems items = items.map tidy := by
  induction items with
  | nil => rfl
  | cons v rest ih => rw [tidyItems, ih, List.map_cons]

def Readable (levels : Nat) (v : Json) : Prop := (draft? v).isSome = true ∧ depth v ≤ levels

@[simp] theorem readable_str {levels : Nat} {s : String} : Readable levels (.str s) :=
  ⟨rfl, Nat.zero_le _⟩

@[simp] theorem readable_arr {levels : Nat} {items : List Json} :
    Readable (levels + 1) (.arr items) ↔ ∀ v ∈ items, Readable levels v := by
  simp only [Readable, draft?, depth, Option.isSome_map, Nat.add_le_add_iff_right]
  induction items with
  | nil => simp [itemDrafts?, depthItems]
  | cons v rest ih =>
      rw [List.forall_mem_cons, ← ih]
      cases hd : draft? v with
      | none => simp [itemDrafts?, hd]
      | some d => simp only [itemDrafts?, hd, Option.bind_some, Option.isSome_map, Option.isSome_some,
          depthItems, Nat.max_le, true_and, and_left_comm]

@[simp] theorem readable_obj {levels : Nat} {members : List (String × Json)} :
    Readable (levels + 1) (.obj members) ↔ ∀ m ∈ members, Readable levels m.2 := by
  simp only [Readable, draft?, depth, Option.isSome_map, Nat.add_le_add_iff_right]
  induction members with
  | nil => simp [memberDrafts?, depthMembers]
  | cons m rest ih =>
      obtain ⟨k, v⟩ := m
      rw [List.forall_mem_cons, ← ih]
      cases hd : draft? v with
      | none => simp [memberDrafts?, hd]
      | some d => simp only [memberDrafts?, hd, Option.bind_some, Option.isSome_map, Option.isSome_some,
          depthMembers, Nat.max_le, true_and, and_left_comm]

theorem read?_text {v : Json} (h : Readable maxLevels v) : read? v.text = some (tidy v) := by
  obtain ⟨written, shallow⟩ := h
  obtain ⟨d, hd⟩ := Option.isSome_iff_exists.mp written
  rw [read?, toList_text, Draft.read?_write hd, Option.bind_some, value?_draft hd shallow]

def Named {β : Type} (draftOf : β → Option Draft) (ds : List (Literal × Draft))
    (members : List (String × β)) : Prop :=
  List.Forall₂ (fun d m => Literal.text? d.1 = some m.1 ∧ draftOf m.2 = some d.2) ds members

theorem named_memberDrafts {members : List (String × Json)} {ds : List (Literal × Draft)}
    (written : memberDrafts? members = some ds) : Named draft? ds members := by
  induction members generalizing ds with
  | nil =>
      cases written
      exact .nil
  | cons m members ih =>
      obtain ⟨k, v⟩ := m
      obtain ⟨d, hd, written⟩ := Option.bind_eq_some_iff.mp written
      obtain ⟨ds, hds, rfl⟩ := Option.map_eq_some_iff.mp written
      exact .cons ⟨Literal.text?_ofText k, hd⟩ (ih hds)

def texts (es : List (String × String)) : List (String × Json) := es.map fun e => (e.1, .str e.2)

variable {es : List (String × String)}

theorem lookup_texts {n : String} : (texts es).lookup n = (es.lookup n).map .str :=
  Members.lookup_map (f := fun e => (e.1, Json.str e.2)) (fun _ => rfl) es

theorem distinct_texts : Members.Distinct (texts es) ↔ Members.Distinct es := by
  rw [Members.Distinct, Members.Distinct, texts, List.map_map]
  rfl

theorem lookup_ofList_texts {n : String} :
    (Members.ofList (texts es)).lookup n = (es.reverse.lookup n).map .str := by
  rw [Members.lookup_ofList, texts, ← List.map_reverse]
  exact lookup_texts

theorem object_texts : object (texts es) = .obj (texts (Members.ofList es)) := by
  have sorted : Members.Sorted (texts (Members.ofList es)) :=
    List.pairwise_map.mpr (Members.sorted_ofList es)
  refine congrArg Json.obj ((Members.sorted_ofList _).ext sorted fun n => ?_)
  rw [lookup_ofList_texts, lookup_texts, Members.lookup_ofList]

theorem tidy_texts : tidy (.obj (texts es)) = object (texts es) := by
  rw [tidy, tidyMembers_eq, texts, List.map_map]
  rfl

theorem memberDrafts?_texts :
    memberDrafts? (texts es)
      = some (es.map fun e => (Literal.ofText e.1, .str (Literal.ofText e.2))) := by
  induction es with
  | nil => rfl
  | cons e es ih =>
      rw [texts, List.map_cons, ← texts, memberDrafts?, ih]
      rfl

theorem readable_texts {levels : Nat} : Readable (levels + 1) (.obj (texts es)) := by
  rw [readable_obj]
  intro m hm
  obtain ⟨e, _, rfl⟩ := List.mem_map.mp hm
  exact readable_str

end MarketWire.Json
