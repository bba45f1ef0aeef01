import MarketWire.Json.Fields
import MarketWire.Proofs.Json.Reading

namespace MarketWire.Json

def Bounds (more : List Char) : Prop :=
  ∀ c ∈ more.head?, isDigit c = false ∧ c ≠ '.' ∧ c ≠ 'e' ∧ c ≠ 'E'

variable {cs rest more : List Char}

theorem skipSpace_append {c : Char} (h : skipSpace cs = c :: rest) :
    skipSpace (cs ++ more) = c :: (rest ++ more) := by
  rw [skipSpace, List.dropWhile_append, ← skipSpace, h]
  rfl

theorem skipSpace_blank (h : skipSpace cs = []) : skipSpace (cs ++ more) = skipSpace more := by
  rw [skipSpace, List.dropWhile_append, ← skipSpace, h]
  rfl

theorem readGlyphs_append {l : Literal} (h : readGlyphs cs = some (l, rest)) :
    readGlyphs (cs ++ more) = some (l, rest ++ more) := by
  induction cs using readGlyphs.induct generalizing l rest with
  | case1 => cases h
  | case2 cs =>
      cases h
      rfl
  | case3 a b c d cs u hex ih =>
      rw [readGlyphs, hex] at h
      obtain ⟨r, hr, e⟩ := Option.map_eq_some_iff.mp h
      cases e
      simp only [List.cons_append]
      rw [readGlyphs, hex]
      simp only [ih hr, Option.map_some]
  | case4 a b c d cs hex =>
      rw [readGlyphs, hex] at h
      cases h
  | case5 e cs other c simple ih =>
      rw [readGlyphs_simple simple] at h
      obtain ⟨r, hr, eq⟩ := Option.map_eq_some_iff.mp h
      cases eq
      rw [List.cons_append, List.cons_append, readGlyphs_simple simple, ih hr, Option.map_some]
  | case6 e cs other simple =>
      rw [readGlyphs.eq_4 e cs other, simple] at h
      cases h
  | case7 c cs quote hex slash bad =>
      rw [readGlyphs.eq_5 c cs quote hex slash, if_pos bad] at h
      cases h
  | case8 c cs quote hex slash good ih =>
      obtain ⟨seen, slash⟩ := not_or.mp good
      rw [readGlyphs_plain quote slash seen] at h
      obtain ⟨r, hr, eq⟩ := Option.map_eq_some_iff.mp h
      cases eq
      rw [List.cons_append, readGlyphs_plain quote slash seen, ih hr, Option.map_some]

theorem dropWord_append {w : List Char} (h : dropWord w cs = some rest) :
    dropWord w (cs ++ more) = some (rest ++ more) := by
  induction w generalizing cs with
  | nil =>
      cases h
      rfl
  | cons w ws ih =>
      cases cs with
      | nil => cases h
      | cons c cs =>
          rw [dropWord] at h
          split at h
          · next same => rw [List.cons_append, dropWord, if_pos same, ih h]
          · cases h

theorem spanDigits_append (bounds : Bounds more) :
    spanDigits (cs ++ more) = ((spanDigits cs).1, (spanDigits cs).2 ++ more) := by
  induction cs with
  | nil =>
      cases more with
      | nil => rfl
      | cons c cs => simp [spanDigits, (bounds c rfl).1]
  | cons c cs ih =>
      by_cases digit : isDigit c = true
      · simpa [spanDigits, digit] using ih
      · simp [spanDigits, digit]

theorem readWhole_append {w : List Char} (bounds : Bounds more)
    (h : readWhole cs = some (w, rest)) : readWhole (cs ++ more) = some (w, rest ++ more) := by
  rw [readWhole, spanDigits_append bounds]
  rw [readWhole] at h
  split at h
  · cases h
  · next seen =>
      rw [seen]
      split at h
      · cases h
      · next single =>
          cases h
          simp only [if_neg single]

theorem readFraction_none (h : ∀ c ∈ cs.head?, c ≠ '.') : readFraction cs = some (none, cs) := by
  rw [readFraction.eq_def]
  split
  · exact absurd rfl (h '.' rfl)
  · rfl

theorem readExponent_none (h : ∀ c ∈ cs.head?, c ≠ 'e' ∧ c ≠ 'E') :
    readExponent cs = some (none, cs) := by
  rw [readExponent.eq_def]
  split
  · exact absurd rfl (h 'e' rfl).1
  · exact absurd rfl (h 'E' rfl).2
  · rfl

theorem head?_append {p : Char → Prop} (here : ∀ c ∈ cs.head?, p c) (next : ∀ c ∈ more.head?, p c) :
    ∀ c ∈ (cs ++ more).head?, p c := by
  cases cs with
  | nil => exact next
  | cons c cs => exact here

theorem readFraction_append {f : Option (List Char)} (bounds : Bounds more)
    (h : readFraction cs = some (f, rest)) :
    readFraction (cs ++ more) = some (f, rest ++ more) := by
  rw [readFraction.eq_def] at h
  split at h
  · split at h
    · cases h
    · next solid seen =>
        cases h
        rw [List.cons_append, readFraction, spanDigits_append bounds, seen]
        split
        · next none => exact (solid (Prod.mk.inj none).1).elim
        · next digits =>
            cases digits
            rfl
  · next other =>
      cases h
      refine readFraction_none (head?_append ?_ fun c hc => (bounds c hc).2.1)
      rintro c hc rfl
      obtain ⟨cs, rfl⟩ := List.head?_eq_some_iff.mp hc
      exact other cs rfl

theorem readExponentDigits_append {minus : Bool} {e : Option (Bool × List Char)}
    (bounds : Bounds more) (h : readExponentDigits minus cs = some (e, rest)) :
    readExponentDigits minus (cs ++ more) = some (e, rest ++ more) := by
  rw [readExponentDigits] at h
  rw [readExponentDigits, spanDigits_append bounds]
  split at h
  · cases h
  · next solid seen =>
      cases h
      rw [seen]
      split
      · next none => exact (solid (Prod.mk.inj none).1).elim
      · next digits =>
          cases digits
          rfl

theorem readExponentSign_append {e : Option (Bool × List Char)} (bounds : Bounds more)
    (h : readExponentSign cs = some (e, rest)) :
    readExponentSign (cs ++ more) = some (e, rest ++ more) := by
  cases cs with
  | nil => cases h
  | cons c cs =>
      rw [readExponentSign.eq_def] at h
      rw [List.cons_append, readExponentSign.eq_def]
      split at h
      · next same =>
          cases same
          exact readExponentDigits_append bounds h
      · next same =>
          cases same
          exact readExponentDigits_append bounds h
      · next plus minus =>
          split
          · next same => exact (plus _ (congrArg (· :: cs) (List.cons.inj same).1)).elim
          · next same => exact (minus _ (congrArg (· :: cs) (List.cons.inj same).1)).elim
          · exact readExponentDigits_append bounds h

theorem readExponent_append {e : Option (Bool × List Char)} (bounds : Bounds more)
    (h : readExponent cs = some (e, rest)) :
    readExponent (cs ++ more) = some (e, rest ++ more) := by
  rw [readExponent.eq_def] at h
  split at h
  · exact readExponentSign_append bounds h
  · exact readExponentSign_append bounds h
  · next small great =>
      cases h
      refine readExponent_none (head?_append (fun c hc => ?_) fun c hc => (bounds c hc).2.2)
      obtain ⟨cs, rfl⟩ := List.head?_eq_some_iff.mp hc
      refine ⟨?_, ?_⟩
      · rintro rfl
        exact small cs rfl
      · rintro rfl
        exact great cs rfl

theorem readUnsigned_append {negative : Bool} {n : Numeral} (bounds : Bounds more)
    (h : readUnsigned negative cs = some (n, rest)) :
    readUnsigned negative (cs ++ more) = some (n, rest ++ more) := by
  obtain ⟨w, hw, h⟩ := Option.bind_eq_some_iff.mp h
  obtain ⟨f, hf, h⟩ := Option.bind_eq_some_iff.mp h
  obtain ⟨e, he, h⟩ := Option.map_eq_some_iff.mp h
  cases h
  rw [readUnsigned, readWhole_append bounds hw, Option.bind_some, readFraction_append bounds hf,
    Option.bind_some, readExponent_append bounds he, Option.map_some]

theorem readNumeral_append {n : Numeral} (bounds : Bounds more)
    (h : readNumeral cs = some (n, rest)) :
    readNumeral (cs ++ more) = some (n, rest ++ more) := by
  cases cs with
  | nil => cases h
  | cons c cs =>
      rw [readNumeral.eq_def] at h
      rw [List.cons_append, readNumeral.eq_def]
      split at h
      · next same =>
          cases same
          exact readUnsigned_append bounds h
      · next unsigned =>
          split
          · next same => exact (unsigned _ (congrArg (· :: cs) (List.cons.inj same).1)).elim
          · exact readUnsigned_append bounds h

theorem readValue_nil (n : Nat) : readValue n [] = none := by
  cases n <;> rfl

theorem readMember_nil (n : Nat) : readMember n [] = none := by
  cases n <;> rfl

def Passes {α : Type} (more : List Char) (o o' : Option (α × List Char)) : Prop :=
  ∀ v rest, o = some (v, rest) → o' = some (v, rest ++ more)

theorem Passes.ite {α : Type} {c : Prop} [Decidable c] {a b a' b' : Option (α × List Char)}
    (yes : Passes more a a') (no : Passes more b b') :
    Passes more (if c then a else b) (if c then a' else b') := by
  split
  · exact yes
  · exact no

theorem Passes.map {α β : Type} {o o' : Option (α × List Char)} (f : α → β)
    (h : Passes more o o') :
    Passes more (o.map fun r => (f r.1, r.2)) (o'.map fun r => (f r.1, r.2)) := by
  intro v rest read
  obtain ⟨r, hr, e⟩ := Option.map_eq_some_iff.mp read
  cases e
  rw [h _ _ hr, Option.map_some]

theorem Passes.word {word : List Char} (d : Draft) :
    Passes more ((dropWord word cs).map fun r => (d, r))
      ((dropWord word (cs ++ more)).map fun r => (d, r)) := by
  intro v rest read
  obtain ⟨r, hr, e⟩ := Option.map_eq_some_iff.mp read
  cases e
  rw [dropWord_append hr, Option.map_some]

mutual

theorem readValue_append : ∀ {n m : Nat} {cs rest more : List Char} {d : Draft}, n ≤ m →
    Bounds more → readValue n cs = some (d, rest) →
      readValue m (cs ++ more) = some (d, rest ++ more)
  | 0, _, _, _, _, _, _, _, h => by
      cases h
  | n + 1, m + 1, cs, rest, more, d, fuel, bounds, h => by
      have fuel := Nat.le_of_succ_le_succ fuel
      rw [readValue] at h
      cases first : skipSpace cs with
      | nil =>
          rw [first] at h
          cases h
      | cons c tail =>
          simp only [first] at h
          rw [readValue, skipSpace_append first]
          dsimp only
          have glyphs : Passes more (readGlyphs tail) (readGlyphs (tail ++ more)) :=
            fun _ _ => readGlyphs_append
          have items : Passes more (readItems n tail) (readItems m (tail ++ more)) :=
            fun _ _ => readItems_append fuel bounds
          have members : Passes more (readMembers n tail) (readMembers m (tail ++ more)) :=
            fun _ _ => readMembers_append fuel bounds
          have numeral : Passes more (readNumeral (c :: tail)) (readNumeral (c :: (tail ++ more))) :=
            fun _ _ => readNumeral_append bounds
          refine Passes.ite (glyphs.map _) (Passes.ite (items.map _)
            (Passes.ite (members.map _) ?_)) _ _ h
          exact Passes.ite (Passes.word _) (Passes.ite (Passes.word _)
            (Passes.ite (Passes.word _) (numeral.map _)))

theorem readItems_append : ∀ {n m : Nat} {cs rest more : List Char} {ds : List Draft}, n ≤ m →
    Bounds more → readItems n cs = some (ds, rest) →
      readItems m (cs ++ more) = some (ds, rest ++ more)
  | 0, _, _, _, _, _, _, _, h => by
      cases h
  | n + 1, m + 1, cs, rest, more, ds, fuel, bounds, h => by
      have fuel := Nat.le_of_succ_le_succ fuel
      rw [readItems] at h
      cases first : skipSpace cs with
      | nil =>
          simp only [first, readValue_nil] at h
          cases h
      | cons c tail =>
          simp only [first] at h
          rw [readItems, skipSpace_append first]
          split at h
          · next e =>
              cases e
              cases h
              rfl
          · next opening =>
              split at h
              · cases h
              · next v tail hv =>
                  obtain ⟨r, hr, e⟩ := Option.map_eq_some_iff.mp h
                  cases e
                  have value := readValue_append fuel bounds hv
                  have others := readMoreItems_append fuel bounds hr
                  split
                  · next e => exact (opening _ (congrArg (· :: _) (List.cons.inj e).1)).elim
                  · rw [← List.cons_append, value]
                    simp only [others, Option.map_some]

theorem readMoreItems_append : ∀ {n m : Nat} {cs rest more : List Char} {ds : List Draft}, n ≤ m →
    Bounds more → readMoreItems n cs = some (ds, rest) →
      readMoreItems m (cs ++ more) = some (ds, rest ++ more)
  | 0, _, _, _, _, _, _, _, h => by
      cases h
  | n + 1, m + 1, cs, rest, more, ds, fuel, bounds, h => by
      have fuel := Nat.le_of_succ_le_succ fuel
      rw [readMoreItems] at h
      split at h
      · next first =>
          cases h
          rw [readMoreItems, skipSpace_append first]
          rfl
      · next first =>
          split at h
          · cases h
          · next v tail hv =>
              obtain ⟨r, hr, e⟩ := Option.map_eq_some_iff.mp h
              cases e
              have value := readValue_append fuel bounds hv
              have others := readMoreItems_append fuel bounds hr
              rw [readMoreItems, skipSpace_append first]
              simp only [value, others, Option.map_some]
      · cases h

theorem readMembers_append : ∀ {n m : Nat} {cs rest more : List Char}
    {ds : List (Literal × Draft)}, n ≤ m → Bounds more → readMembers n cs = some (ds, rest) →
      readMembers m (cs ++ more) = some (ds, rest ++ more)
  | 0, _, _, _, _, _, _, _, h => by
      cases h
  | n + 1, m + 1, cs, rest, more, ds, fuel, bounds, h => by
      have fuel := Nat.le_of_succ_le_succ fuel
      rw [readMembers] at h
      cases first : skipSpace cs with
      | nil =>
          simp only [first, readMember_nil] at h
          cases h
      | cons c tail =>
          simp only [first] at h
          rw [readMembers, skipSpace_append first]
          split at h
          · next e =>
              cases e
              cases h
              rfl
          · next opening =>
              split at h
              · cases h
              · next v tail hv =>
                  obtain ⟨r, hr, e⟩ := Option.map_eq_some_iff.mp h
                  cases e
                  have member := readMember_append fuel bounds hv
                  have others := readMoreMembers_append fuel bounds hr
                  split
                  · next e => exact (opening _ (congrArg (· :: _) (List.cons.inj e).1)).elim
                  · rw [← List.cons_append, member]
                    simp only [others, Option.map_some]

theorem readMoreMembers_append : ∀ {n m : Nat} {cs rest more : List Char}
    {ds : List (Literal × Draft)}, n ≤ m → Bounds more → readMoreMembers n cs = some (ds, rest) →
      readMoreMembers m (cs ++ more) = some (ds, rest ++ more)
  | 0, _, _, _, _, _, _, _, h => by
      cases h
  | n + 1, m + 1, cs, rest, more, ds, fuel, bounds, h => by
      have fuel := Nat.le_of_succ_le_succ fuel
      rw [readMoreMembers] at h
      split at h
      · next first =>
          cases h
          rw [readMoreMembers, skipSpace_append first]
          rfl
      · next first =>
          split at h
          · cases h
          · next v tail hv =>
              obtain ⟨r, hr, e⟩ := Option.map_eq_some_iff.mp h
              cases e
              have member := readMember_append fuel bounds hv
              have others := readMoreMembers_append fuel bounds hr
              rw [readMoreMembers, skipSpace_append first]
              simp only [member, others, Option.map_some]
      · cases h

theorem readMember_append : ∀ {n m : Nat} {cs rest more : List Char} {d : Literal × Draft},
    n ≤ m → Bounds more → readMember n cs = some (d, rest) →
      readMember m (cs ++ more) = some (d, rest ++ more)
  | 0, _, _, _, _, _, _, _, h => by
      cases h
  | n + 1, m + 1, cs, rest, more, ds, fuel, bounds, h => by
      have fuel := Nat.le_of_succ_le_succ fuel
      rw [readMember] at h
      split at h
      · next first =>
          split at h
          · cases h
          · next name tail hn =>
              split at h
              · next colon =>
                  obtain ⟨r, hr, e⟩ := Option.map_eq_some_iff.mp h
                  cases e
                  have value := readValue_append fuel bounds hr
                  rw [readMember, skipSpace_append first]
                  simp only [readGlyphs_append hn, skipSpace_append colon, value, Option.map_some]
              · cases h
      · cases h

end

def joinMore : List (String × String) → List Char
  | [] => ['\x7d']
  | (name, value) :: rest => ',' :: (writeString name ++ ':' :: (value.toList ++ joinMore rest))

def join : List (String × String) → List Char
  | [] => ['\x7d']
  | (name, value) :: rest => writeString name ++ ':' :: (value.toList ++ joinMore rest)

def objectText (members : List (String × String)) : String := String.ofList ('\x7b' :: join members)

def Reads (text : String) (members : List (String × Draft)) : Prop :=
  ∃ ds, Draft.read? text.toList = some (.obj ds) ∧ Named some ds members

theorem bounds_joinMore (members : List (String × String)) : Bounds (joinMore members) := by
  rw [Bounds]
  cases members <;> simp [joinMore, isDigit]

theorem readValue_joined {t : String} {d : Draft} {n : Nat}
    (read : Draft.read? t.toList = some d) (fuel : 3 * t.toList.length + 3 ≤ n)
    (bounds : Bounds more) :
    ∃ blank, skipSpace blank = [] ∧ readValue n (t.toList ++ more) = some (d, blank ++ more) := by
  rw [Draft.read?] at read
  split at read
  · next blank value =>
      split at read
      · next empty =>
          cases read
          exact ⟨blank, List.isEmpty_iff.mp empty, readValue_append fuel bounds value⟩
      · cases read
  · cases read

def Spells (members : List (String × String)) (parts : List (String × Draft)) : Prop :=
  List.Forall₂ (fun m p => m.1 = p.1 ∧ Draft.read? m.2.toList = some p.2) members parts

def named (parts : List (String × Draft)) : List (Literal × Draft) :=
  parts.map fun p => (Literal.ofText p.1, p.2)

theorem named_some (parts : List (String × Draft)) : Named some (named parts) parts := by
  rw [Named, named, List.forall₂_map_left_iff]
  exact List.forall₂_same.mpr fun p _ => ⟨Literal.text?_ofText p.1, rfl⟩

theorem readMoreMembers_joinMore {members : List (String × String)} {parts : List (String × Draft)}
    (spelled : Spells members parts) :
    ∀ {n : Nat} {blank : List Char}, skipSpace blank = [] → 3 * (joinMore members).length ≤ n →
      readMoreMembers n (blank ++ joinMore members) = some (named parts, []) := by
  induction spelled with
  | nil =>
      intro n blank empty fuel
      obtain ⟨n, rfl⟩ : ∃ k, n = k + 1 := ⟨n - 1, by simp [joinMore] at fuel; omega⟩
      rw [readMoreMembers, skipSpace_blank empty]
      rfl
  | @cons m p members parts here _ ih =>
      obtain ⟨name, text⟩ := m
      obtain ⟨name, d⟩ := p
      obtain ⟨rfl, read⟩ : _ ∧ Draft.read? text.toList = some d := here
      intro n blank empty fuel
      simp only [joinMore, writeString, List.length_cons, List.length_append] at fuel
      obtain ⟨n, rfl⟩ : ∃ k, n = k + 2 := ⟨n - 2, by omega⟩
      obtain ⟨blank', empty', value⟩ :=
        readValue_joined (n := n) read (by omega) (bounds_joinMore members)
      have others := ih (n := n + 1) empty' (by omega)
      rw [readMoreMembers, skipSpace_blank empty, joinMore, skipSpace_cons rfl]
      simp only [readMember_write value, others, Option.map_some, named, List.map_cons]

theorem readMembers_join {members : List (String × String)} {parts : List (String × Draft)}
    {n : Nat} (spelled : Spells members parts) (fuel : 3 * (join members).length + 3 ≤ n) :
    readMembers n (join members) = some (named parts, []) := by
  obtain ⟨n, rfl⟩ : ∃ k, n = k + 2 := ⟨n - 2, by omega⟩
  cases spelled with
  | nil => rfl
  | @cons m p members parts here others =>
      obtain ⟨name, text⟩ := m
      obtain ⟨name, d⟩ := p
      obtain ⟨rfl, read⟩ : _ ∧ Draft.read? text.toList = some d := here
      simp only [join, writeString, List.length_cons, List.length_append] at fuel
      obtain ⟨blank, empty, value⟩ :=
        readValue_joined (n := n) read (by omega) (bounds_joinMore members)
      have others := readMoreMembers_joinMore others (n := n + 1) empty (by omega)
      rw [join, readMembers, skipSpace_writeString]
      split
      · next e => cases e
      · simp only [readMember_write value, others, Option.map_some, named, List.map_cons]

def Draft.ofText (text : String) : Draft := (Draft.read? text.toList).getD .null

theorem spells_ofText {members : List (String × String)}
    (valid : members.all (fun m => (Draft.read? m.2.toList).isSome) = true) :
    Spells members (members.map fun m => (m.1, Draft.ofText m.2)) := by
  rw [Spells, List.forall₂_map_right_iff]
  refine List.forall₂_same.mpr fun m hm => ⟨rfl, ?_⟩
  obtain ⟨d, hd⟩ := Option.isSome_iff_exists.mp (List.all_eq_true.mp valid m hm)
  rw [Draft.ofText, hd, Option.getD_some]

theorem reads_objectText {members : List (String × String)} {parts : List (String × Draft)}
    (spelled : Spells members parts) : Reads (objectText members) parts := by
  refine ⟨named parts, ?_, named_some parts⟩
  have members := readMembers_join (n := 3 * (join members).length + 5) spelled (by omega)
  rw [objectText, String.toList_ofList, Draft.read?, List.length_cons, Nat.mul_add, readValue,
    skipSpace_cons rfl]
  simp [members, skipSpace]

end MarketWire.Json
