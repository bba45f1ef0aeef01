import MarketWire.Rest.Url
import Mathlib.Data.List.Basic

namespace MarketWire.Text.Percent

variable {keep : Char → Bool} {cs : List Char} {c : Char}

theorem encodeChars_of_kept (kept : ∀ c ∈ cs, keep c = true) : encodeChars keep cs = cs := by
  induction cs with
  | nil => rfl
  | cons c cs ih =>
      rw [encodeChars, List.flatMap_cons, if_pos (kept c List.mem_cons_self)]
      exact congrArg (c :: ·) (ih fun d hd => kept d (List.mem_cons_of_mem _ hd))

theorem encodeChar_cons (c : Char) : ∃ b bs, Utf8.encodeChar c = b :: bs := by
  rw [Utf8.encodeChar]
  split
  · exact ⟨_, _, rfl⟩
  · split
    · exact ⟨_, _, rfl⟩
    · split
      · exact ⟨_, _, rfl⟩
      · exact ⟨_, _, rfl⟩

theorem length_le_encodeChars (keep : Char → Bool) (cs : List Char) :
    cs.length ≤ (encodeChars keep cs).length := by
  induction cs with
  | nil => exact Nat.le_refl _
  | cons c cs ih =>
      have step : encodeChars keep (c :: cs)
          = (if keep c then [c] else (Utf8.encodeChar c).flatMap escapeByte)
            ++ encodeChars keep cs := rfl
      have first : 1 ≤ (if keep c then [c] else (Utf8.encodeChar c).flatMap escapeByte).length := by
        split
        · exact Nat.le_refl _
        · obtain ⟨b, bs, bytes⟩ := encodeChar_cons c
          simp [bytes, escapeByte]
      rw [step, List.length_append, List.length_cons]
      omega

theorem mem_encodeChars (hc : c ∈ encodeChars keep cs) :
    c ∈ cs ∧ keep c = true ∨ c = '%' ∨ ∃ n < 16, c = upperDigit n := by
  obtain ⟨d, hd, hc⟩ := List.mem_flatMap.mp hc
  split at hc
  · next kept =>
      rw [List.mem_singleton.mp hc]
      exact Or.inl ⟨hd, kept⟩
  · obtain ⟨b, _, hc⟩ := List.mem_flatMap.mp hc
    have byte := b.toNat_lt
    simp only [escapeByte, List.mem_cons, List.not_mem_nil, or_false] at hc
    rcases hc with rfl | rfl | rfl
    · exact Or.inr (Or.inl rfl)
    · exact Or.inr (Or.inr ⟨_, by omega, rfl⟩)
    · exact Or.inr (Or.inr ⟨_, by omega, rfl⟩)

theorem upperDigit_dot : ∀ n < 16, ∀ m < 16, upperDigit n = '2' →
    upperDigit m = 'e' ∨ upperDigit m = 'E' → n * 16 + m = 46 := by
  decide

theorem encodeChar_dot {b : UInt8} {bs : List UInt8} (bytes : Utf8.encodeChar c = b :: bs)
    (dot : b.toNat = 46) : c = '.' := by
  have bound : c.toNat < 0x110000 := by
    have valid := c.valid
    rcases valid with h | h
    · exact Nat.lt_trans h (by decide)
    · exact h.2
  have of_head : ∀ {n : Nat} {more : List UInt8}, n < 256 → n.toUInt8 :: more = b :: bs →
      n = 46 := by
    intro n more small same
    rw [← (List.cons.inj same).1] at dot
    simpa [Nat.mod_eq_of_lt small] using dot
  simp only [Utf8.encodeChar] at bytes
  split at bytes
  · have code := of_head (by omega) bytes
    exact Char.toNat_inj.mp code
  · split at bytes
    · have := of_head (by omega) bytes
      omega
    · split at bytes
      · have := of_head (by omega) bytes
        omega
      · have := of_head (by omega) bytes
        omega

def InQuery (c : Char) : Prop :=
  keptInForm c = true ∨ c ∈ ['+', '%', '=', '&'] ∨ ∃ n < 16, c = upperDigit n

theorem mem_formText {text : String} (hc : c ∈ formText text) : InQuery c := by
  obtain ⟨d, hd, rfl⟩ := List.mem_map.mp hc
  split
  · exact Or.inr (Or.inl (by simp))
  · next unblank =>
      rcases mem_encodeChars hd with ⟨_, kept⟩ | rfl | digit
      · exact Or.inl (by simpa [unblank] using kept)
      · exact Or.inr (Or.inl (by simp))
      · exact Or.inr (Or.inr digit)

theorem mem_formPairs {query : List (String × String)} (hc : c ∈ formPairs query) : InQuery c := by
  have sign : ∀ d ∈ ['=', '&'], InQuery d := fun d hd => Or.inr (Or.inl (by simp_all))
  induction query using formPairs.induct with
  | case1 => simp [formPairs] at hc
  | case2 k v =>
      simp only [formPairs, List.mem_append, List.mem_cons] at hc
      rcases hc with hc | rfl | hc
      · exact mem_formText hc
      · exact sign _ (by simp)
      · exact mem_formText hc
  | case3 k v rest more ih =>
      simp only [formPairs, List.mem_append, List.mem_cons] at hc
      rcases hc with hc | rfl | hc | rfl | hc
      · exact mem_formText hc
      · exact sign _ (by simp)
      · exact mem_formText hc
      · exact sign _ (by simp)
      · exact ih hc

end MarketWire.Text.Percent

namespace MarketWire.Text

variable {separates : Char → Bool} {cs s : List Char} {c : Char}

theorem pieces_append_of_not (plain : ∀ c ∈ s, separates c = false) {first : List Char}
    {more : List (List Char)} (h : pieces separates cs = first :: more) :
    pieces separates (s ++ cs) = (s ++ first) :: more := by
  induction s with
  | nil => exact h
  | cons c s ih =>
      have rest := ih fun d hd => plain d (List.mem_cons_of_mem _ hd)
      simp [pieces, plain c List.mem_cons_self, rest]

theorem pieces_cons_of_separates (hc : separates c = true) :
    pieces separates (c :: cs) = [] :: pieces separates cs := by
  rw [pieces, if_pos hc]

theorem pieces_append (hc : separates c = true) (before after : List Char) :
    pieces separates (before ++ c :: after)
      = pieces separates before ++ pieces separates after := by
  induction before with
  | nil => exact pieces_cons_of_separates hc
  | cons d before ih =>
      rw [List.cons_append, pieces, ih, pieces]
      split
      · rfl
      · cases hp : pieces separates before with
        | nil => exact absurd hp (pieces_ne_nil _ _)
        | cons s more => rfl

theorem mem_pieces (hs : s ∈ pieces separates cs) : ∀ c ∈ s, c ∈ cs ∧ separates c = false := by
  induction cs generalizing s with
  | nil =>
      rw [pieces, List.mem_singleton] at hs
      simp [hs]
  | cons d cs ih =>
      have deeper : ∀ s ∈ pieces separates cs, ∀ c ∈ s, c ∈ d :: cs ∧ separates c = false :=
        fun s hs c hc => ⟨List.mem_cons_of_mem _ (ih hs c hc).1, (ih hs c hc).2⟩
      cases hd : separates d with
      | true =>
          rw [pieces_cons_of_separates hd] at hs
          rcases List.mem_cons.mp hs with rfl | hs
          · simp
          · exact deeper s hs
      | false =>
          cases hp : pieces separates cs with
          | nil => exact absurd hp (pieces_ne_nil _ _)
          | cons first more =>
              simp only [pieces, hd, Bool.false_eq_true, ↓reduceIte, hp] at hs
              rw [hp] at deeper
              rcases List.mem_cons.mp hs with rfl | hs
              · intro c hc
                rcases List.mem_cons.mp hc with rfl | hc
                · exact ⟨List.mem_cons_self, hd⟩
                · exact deeper first List.mem_cons_self c hc
              · exact deeper s (List.mem_cons_of_mem _ hs)

theorem pieces_congr {separates' : Char → Bool} (same : ∀ c ∈ cs, separates c = separates' c) :
    pieces separates cs = pieces separates' cs := by
  induction cs with
  | nil => rfl
  | cons c cs ih =>
      rw [pieces, pieces, same c List.mem_cons_self,
        ih fun d hd => same d (List.mem_cons_of_mem _ hd)]

end MarketWire.Text

namespace MarketWire.Rest.Url

open Text.Percent (upperDigit encodeChars)

variable {cs s : List Char} {c : Char}

theorem percent_mem_plainDots {l before rest : List Char} {x y : Char}
    (parts : l = before ++ '%' :: x :: y :: rest) (undotted : ¬(x = '2' ∧ (y = 'e' ∨ y = 'E'))) :
    '%' ∈ plainDots l := by
  induction l using plainDots.induct generalizing before with
  | case1 e rest' dotted ih =>
      rw [plainDots, if_pos dotted]
      match before with
      | [] =>
          simp only [List.nil_append, List.cons.injEq, true_and] at parts
          obtain ⟨rfl, rfl, _⟩ := parts
          exact absurd ⟨rfl, dotted⟩ undotted
      | [_] => simp at parts
      | [_, _] =>
          simp only [List.cons_append, List.nil_append, List.cons.injEq] at parts
          simp [parts.2.2.1] at dotted
      | _ :: _ :: _ :: before =>
          simp only [List.cons_append, List.cons.injEq] at parts
          exact List.mem_cons_of_mem _ (ih parts.2.2.2)
  | case2 e rest' plain ih =>
      rw [plainDots, if_neg plain]
      exact List.mem_cons_self
  | case3 c rest' other ih =>
      rw [plainDots]
      · match before with
        | [] =>
            cases parts
            exact List.mem_cons_self
        | _ :: before =>
            simp only [List.cons_append, List.cons.injEq] at parts
            exact List.mem_cons_of_mem _ (ih parts.2)
      · exact other
  | case4 => simp at parts

theorem encodeSegment_of_plainDots (h : '%' ∉ plainDots (encodeSegment s)) :
    encodeSegment s = s := by
  refine Text.Percent.encodeChars_of_kept fun c hc => Decidable.byContradiction fun unkept => ?_
  obtain ⟨before, after, rfl⟩ := List.append_of_mem hc
  obtain ⟨b, bs, bytes⟩ := Text.Percent.encodeChar_cons c
  have parts : encodeSegment (before ++ c :: after) = encodeSegment before
      ++ '%' :: upperDigit (b.toNat / 16) :: upperDigit (b.toNat % 16)
        :: (bs.flatMap Text.Percent.escapeByte ++ encodeSegment after) := by
    simp only [encodeSegment, encodeChars, List.flatMap_append, List.flatMap_cons,
      if_neg unkept, bytes, Text.Percent.escapeByte]
    simp
  refine h (percent_mem_plainDots parts ?_)
  rintro ⟨two, e⟩
  have byte := b.toNat_lt
  have dot := Text.Percent.upperDigit_dot _ (by omega) _ (by omega) two e
  rw [Text.Percent.encodeChar_dot bytes (by omega)] at unkept
  exact unkept (by decide)

theorem isSingleDot_encodeSegment (h : isSingleDot s = false) :
    isSingleDot (encodeSegment s) = false := by
  refine Bool.eq_false_iff.mpr fun dot => ?_
  rw [isSingleDot, beq_iff_eq] at dot
  rw [encodeSegment_of_plainDots (by simp [dot])] at dot
  simp [isSingleDot, dot] at h

theorem isDoubleDot_encodeSegment (h : isDoubleDot s = false) :
    isDoubleDot (encodeSegment s) = false := by
  refine Bool.eq_false_iff.mpr fun dots => ?_
  rw [isDoubleDot, beq_iff_eq] at dots
  rw [encodeSegment_of_plainDots (by simp [dots])] at dots
  simp [isDoubleDot, dots] at h

def slashed (segments : List (List Char)) : List Char := segments.flatMap ('/' :: ·)

@[simp] theorem slashed_nil : slashed [] = [] := rfl

@[simp] theorem slashed_cons (s : List Char) (more : List (List Char)) :
    slashed (s :: more) = '/' :: s ++ slashed more := rfl

@[simp] theorem slashed_append (xs ys : List (List Char)) :
    slashed (xs ++ ys) = slashed xs ++ slashed ys :=
  List.flatMap_append

theorem slashed_eq_join {xs : List (List Char)} (some' : xs ≠ []) :
    slashed xs = '/' :: Text.join '/' xs := by
  induction xs with
  | nil => exact absurd rfl some'
  | cons x xs ih =>
      cases xs with
      | nil => simp [Text.join]
      | cons y ys =>
          rw [slashed_cons, ih (by simp)]
          rfl

structure Plain (s : List Char) : Prop where
  kept : ∀ c ∈ s, keepsAllBut encodedInPath c = true ∧ isSlash c = false
  single : isSingleDot s = false
  double : isDoubleDot s = false

theorem plain_nil : Plain [] := ⟨by simp, rfl, rfl⟩

theorem plain_encodeSegment (unparted : ∀ c ∈ s, isSlash c = false) (single : isSingleDot s = false)
    (double : isDoubleDot s = false) : Plain (encodeSegment s) := by
  refine ⟨fun c hc => ?_, isSingleDot_encodeSegment single, isDoubleDot_encodeSegment double⟩
  have digits : ∀ n < 16, keepsAllBut encodedInPath (upperDigit n) = true ∧
      isSlash (upperDigit n) = false := by decide
  rcases Text.Percent.mem_encodeChars hc with ⟨hc, kept⟩ | rfl | ⟨n, hn, rfl⟩
  · exact ⟨kept, unparted c hc⟩
  · decide
  · exact digits n hn

theorem Plain.encodeSegment (h : Plain s) : encodeSegment s = s :=
  Text.Percent.encodeChars_of_kept fun c hc => (h.kept c hc).1

def climb (before : List (List Char)) (s : List Char) : List (List Char) :=
  if isDoubleDot s then leave before
  else if isSingleDot s then before
  else encodeSegment s :: before

theorem resolve_append {after : List (List Char)} (some' : after ≠ [])
    (segments before : List (List Char)) :
    resolve before (segments ++ after) = resolve (segments.foldl climb before) after := by
  induction segments generalizing before with
  | nil => rfl
  | cons s segments ih =>
      have more : segments ++ after ≠ [] := by simp [some']
      rw [List.cons_append, List.foldl_cons, ← ih, resolve, climb]
      · split
        · rfl
        · split <;> rfl
      · exact more

theorem resolve_plain {segments : List (List Char)} (plain : ∀ s ∈ segments, Plain s)
    (before : List (List Char)) : resolve before segments = before.reverse ++ segments := by
  induction segments generalizing before with
  | nil => rw [resolve, List.append_nil]
  | cons s segments ih =>
      have here := plain s List.mem_cons_self
      cases segments with
      | nil => simp [resolve, here.single, here.double, here.encodeSegment]
      | cons t segments =>
          have next := ih (fun u hu => plain u (List.mem_cons_of_mem _ hu)) (s :: before)
          simp [resolve, here.single, here.double, here.encodeSegment, next]

theorem climb_plain {before : List (List Char)} (plain : ∀ s ∈ before, Plain s)
    (unparted : ∀ c ∈ s, isSlash c = false) : ∀ t ∈ climb before s, Plain t := by
  rw [climb]
  split
  · rw [leave]
    split
    · exact plain
    · exact fun t ht => plain t (List.mem_of_mem_drop ht)
  · next double =>
      split
      · exact plain
      · next single =>
          intro t ht
          rcases List.mem_cons.mp ht with rfl | ht
          · exact plain_encodeSegment unparted (Bool.eq_false_iff.mpr single)
              (Bool.eq_false_iff.mpr double)
          · exact plain t ht

theorem resolve_last (before : List (List Char)) (s : List Char) :
    resolve before [s]
      = (if isDoubleDot s || isSingleDot s then [] :: climb before s
          else climb before s).reverse := by
  rw [resolve, climb]
  cases isDoubleDot s <;> cases isSingleDot s <;> rfl

theorem foldl_climb_plain {segments before : List (List Char)} (plain : ∀ s ∈ before, Plain s)
    (unparted : ∀ s ∈ segments, ∀ c ∈ s, isSlash c = false) :
    ∀ t ∈ segments.foldl climb before, Plain t := by
  induction segments generalizing before with
  | nil => exact plain
  | cons s segments ih =>
      exact ih (climb_plain plain (unparted s List.mem_cons_self)) fun t ht =>
        unparted t (List.mem_cons_of_mem _ ht)

theorem resolved_plain {segments : List (List Char)} (some' : segments ≠ [])
    (unparted : ∀ s ∈ segments, ∀ c ∈ s, isSlash c = false) :
    resolve [] segments ≠ [] ∧ ∀ t ∈ resolve [] segments, Plain t := by
  obtain ⟨early, last, rfl⟩ := (List.eq_nil_or_concat' segments).resolve_left some'
  have before : ∀ t ∈ early.foldl climb [], Plain t :=
    foldl_climb_plain (by simp) fun s hs => unparted s (List.mem_append_left _ hs)
  have lastly := climb_plain before (unparted last (by simp))
  rw [resolve_append (by simp), resolve_last]
  split
  · refine ⟨by simp, fun t ht => ?_⟩
    rcases List.mem_cons.mp (List.mem_reverse.mp ht) with rfl | ht
    · exact plain_nil
    · exact lastly t ht
  · next undotted =>
      simp only [Bool.or_eq_true, not_or] at undotted
      refine ⟨?_, fun t ht => lastly t (List.mem_reverse.mp ht)⟩
      simp [climb, undotted.1, undotted.2]

theorem segments_plain (cs : List Char) : segments cs ≠ [] ∧ ∀ t ∈ segments cs, Plain t := by
  have ofPieces : ∀ cs, resolve [] (Text.pieces isSlash cs) ≠ [] ∧
      ∀ t ∈ resolve [] (Text.pieces isSlash cs), Plain t :=
    fun cs => resolved_plain (Text.pieces_ne_nil _ _) fun s hs c hc => (Text.mem_pieces hs c hc).2
  cases cs with
  | nil => exact ⟨by simp [segments], by simp [segments, plain_nil]⟩
  | cons c rest =>
      rw [segments]
      split
      · exact ofPieces rest
      · exact ofPieces (c :: rest)

theorem pieces_slashed {xs : List (List Char)} (plain : ∀ s ∈ xs, Plain s) :
    Text.pieces isSlash (slashed xs) = [] :: xs := by
  induction xs with
  | nil => rfl
  | cons x xs ih =>
      have rest := ih fun s hs => plain s (List.mem_cons_of_mem _ hs)
      rw [slashed_cons, List.cons_append, Text.pieces_cons_of_separates (by decide),
        Text.pieces_append_of_not (fun c hc => ((plain x List.mem_cons_self).kept c hc).2) rest,
        List.append_nil]

theorem bne_of_not_mem (h : c ∉ cs) : ∀ d ∈ cs, (d != c) = true :=
  fun _ hd => bne_iff_ne.mpr (ne_of_mem_of_not_mem hd h)

theorem head_dropWhile_not {p : Char → Bool} (hc : (cs.dropWhile p).head? = some c) :
    p c = false := by
  have stop := List.head?_dropWhile_not p cs
  rw [hc] at stop
  simpa using stop

def targetOf (cs : List Char) : List Char :=
  slashed (segments (cs.takeWhile (· != '?')))
    ++ markedText '?' (encodeAfter '?' encodedInQuery (cs.dropWhile (· != '?')))

structure Canonical (cs : List Char) : Prop where
  rooted : cs.head? = some '/'
  path : ∀ c ∈ cs.takeWhile (· != '?'), keepsAllBut encodedInPath c = true ∧ c ≠ '\\'
  query : ∀ c ∈ cs.dropWhile (· != '?'), keepsAllBut encodedInQuery c = true
  undotted : ∀ s ∈ Text.pieces isSlash (cs.takeWhile (· != '?')),
    isSingleDot s = false ∧ isDoubleDot s = false

def isCanonical (cs : List Char) : Bool :=
  cs.head? == some '/'
    && (cs.takeWhile (· != '?')).all (fun c => keepsAllBut encodedInPath c && c != '\\')
    && (cs.dropWhile (· != '?')).all (keepsAllBut encodedInQuery)
    && (Text.pieces isSlash (cs.takeWhile (· != '?'))).all fun s => !isSingleDot s && !isDoubleDot s

theorem isCanonical_iff : isCanonical cs = true ↔ Canonical cs := by
  simp only [isCanonical, Bool.and_eq_true, List.all_eq_true, beq_iff_eq, bne_iff_ne,
    Bool.not_eq_true']
  exact ⟨fun h => ⟨h.1.1.1, h.1.1.2, h.1.2, h.2⟩,
    fun h => ⟨⟨⟨h.rooted, h.path⟩, h.query⟩, h.undotted⟩⟩

instance : DecidablePred Canonical := fun _ => decidable_of_iff _ isCanonical_iff

theorem slashed_plain {xs : List (List Char)} (plain : ∀ s ∈ xs, Plain s) :
    ∀ c ∈ slashed xs, keepsAllBut encodedInPath c = true ∧ c ≠ '\\' := by
  intro c hc
  obtain ⟨s, hs, hc⟩ := List.mem_flatMap.mp hc
  rcases List.mem_cons.mp hc with rfl | hc
  · decide
  · obtain ⟨kept, unparted⟩ := (plain s hs).kept c hc
    refine ⟨kept, ?_⟩
    rintro rfl
    cases unparted

theorem takeWhile_marked {path : List Char} (unmarked : ∀ c ∈ path, (c != '?') = true)
    (query : Option (List Char)) :
    (path ++ markedText '?' query).takeWhile (· != '?') = path ∧
      (path ++ markedText '?' query).dropWhile (· != '?') = markedText '?' query := by
  rw [List.takeWhile_append_of_pos unmarked, List.dropWhile_append_of_pos unmarked]
  cases query with
  | none => simp [markedText]
  | some q => simp [markedText]

theorem canonical_targetOf (cs : List Char) : Canonical (targetOf cs) := by
  obtain ⟨some', plain⟩ := segments_plain (cs.takeWhile (· != '?'))
  have kept := slashed_plain plain
  have unmarked := bne_of_not_mem fun marked => absurd (kept '?' marked).1 (by decide)
  obtain ⟨path, query⟩ := takeWhile_marked unmarked
    (encodeAfter '?' encodedInQuery (cs.dropWhile (· != '?')))
  refine ⟨?_, ?_, ?_, ?_⟩
  · rw [targetOf, slashed_eq_join some']
    rfl
  · rw [targetOf, path]
    exact kept
  · rw [targetOf, query]
    intro c hc
    have digits : ∀ n < 16, keepsAllBut encodedInQuery (upperDigit n) = true := by decide
    cases he : encodeAfter '?' encodedInQuery (cs.dropWhile (· != '?')) with
    | none => simp [he, markedText] at hc
    | some q =>
        rw [he] at hc
        rcases List.mem_cons.mp hc with rfl | hc
        · decide
        · cases hd : cs.dropWhile (· != '?') with
          | nil => simp [hd, encodeAfter] at he
          | cons d rest =>
              rw [hd, encodeAfter] at he
              split at he <;> cases he
              rcases Text.Percent.mem_encodeChars hc with ⟨_, kept⟩ | rfl | ⟨n, hn, rfl⟩
              · exact kept
              · decide
              · exact digits n hn
  · rw [targetOf, path, pieces_slashed plain]
    intro s hs
    rcases List.mem_cons.mp hs with rfl | hs
    · decide
    · exact ⟨(plain s hs).single, (plain s hs).double⟩

theorem marked_query {q : List Char} (kept : ∀ c ∈ q, keepsAllBut encodedInQuery c = true)
    (marked : ∀ c, q.head? = some c → c = '?') :
    markedText '?' (encodeAfter '?' encodedInQuery q) = q := by
  cases q with
  | nil => rfl
  | cons c q =>
      have mark : c = '?' := marked c rfl
      rw [encodeAfter, if_pos mark, Text.Percent.encodeChars_of_kept fun d hd =>
        kept d (List.mem_cons_of_mem _ hd), mark]
      rfl

theorem Canonical.slashed_pieces {path : List Char} (h : Canonical cs)
    (hp : cs.takeWhile (· != '?') = '/' :: path) :
    slashed (Text.pieces isSlash path) = '/' :: path ∧
      ∀ s ∈ Text.pieces isSlash path, Plain s := by
  have kept := h.path
  have undotted := h.undotted
  rw [hp] at kept undotted
  rw [Text.pieces_cons_of_separates (by decide)] at undotted
  have slash : ∀ c ∈ path, isSlash c = (c == '/') := by
    intro c hc
    simp [isSlash, (kept c (List.mem_cons_of_mem _ hc)).2]
  constructor
  · rw [slashed_eq_join (Text.pieces_ne_nil _ _), Text.pieces_congr slash, Text.join_pieces]
  · intro s hs
    obtain ⟨single, double⟩ := undotted s (List.mem_cons_of_mem _ hs)
    refine ⟨fun c hc => ?_, single, double⟩
    obtain ⟨within, unparted⟩ := Text.mem_pieces hs c hc
    exact ⟨(kept c (List.mem_cons_of_mem _ within)).1, unparted⟩

theorem Canonical.path_cons (h : Canonical cs) :
    ∃ path, cs.takeWhile (· != '?') = '/' :: path := by
  cases cs with
  | nil => cases h.rooted
  | cons c rest =>
      cases h.rooted
      exact ⟨_, List.takeWhile_cons_of_pos (by decide)⟩

theorem targetOf_below {above : List Char} (slash : ∀ c, above.head? = some c → isSlash c = true)
    (unmarked : '?' ∉ above) :
    ∃ kept, ∀ cs, Canonical cs → targetOf (above ++ cs) = kept ++ cs := by
  have marks := bne_of_not_mem unmarked
  have stack : ∃ before, ∀ path, (∀ s ∈ Text.pieces isSlash path, Plain s) →
      segments (above ++ '/' :: path) = before ++ Text.pieces isSlash path := by
    cases above with
    | nil =>
        refine ⟨[], fun path plain => ?_⟩
        rw [List.nil_append, segments, if_pos (by decide), resolve_plain plain]
        rfl
    | cons c rest =>
        refine ⟨((Text.pieces isSlash rest).foldl climb []).reverse, fun path plain => ?_⟩
        rw [List.cons_append, segments, if_pos (slash c rfl), Text.pieces_append (by decide),
          resolve_append (Text.pieces_ne_nil _ _), resolve_plain plain]
  obtain ⟨before, stack⟩ := stack
  refine ⟨slashed before, fun cs canonical => ?_⟩
  obtain ⟨path, hp⟩ := canonical.path_cons
  obtain ⟨whole, plain⟩ := canonical.slashed_pieces hp
  rw [targetOf, List.takeWhile_append_of_pos marks, List.dropWhile_append_of_pos marks, hp,
    stack path plain, slashed_append, whole, ← hp,
    marked_query canonical.query fun c hc => by simpa using head_dropWhile_not hc,
    List.append_assoc, List.takeWhile_append_dropWhile]

theorem canonical_root : Canonical ['/'] := by decide

theorem targetOf_canonical (h : Canonical cs) : targetOf cs = cs := by
  obtain ⟨kept, below⟩ :=
    @targetOf_below [] (by simp) List.not_mem_nil
  have root := below _ canonical_root
  have none : kept = [] := by
    rw [List.nil_append, show targetOf ['/'] = ['/'] by decide] at root
    simpa using root
  simpa [none] using below cs h

theorem kept_of_inQuery (h : Text.Percent.InQuery c) : keepsAllBut encodedInQuery c = true := by
  have signs : (['+', '%', '=', '&'] ++ ['*', '-', '.', '_']).all (keepsAllBut encodedInQuery)
      = true := by decide
  have others : encodedInQuery.all (fun d => !Text.Percent.isAlphanumeric d) = true := by decide
  have digits : ∀ n < 16, keepsAllBut encodedInQuery (upperDigit n) = true := by decide
  rcases h with kept | sign | ⟨n, hn, rfl⟩
  · rw [Text.Percent.keptInForm, Bool.or_eq_true] at kept
    rcases kept with letter | sign
    · have code : 0x30 ≤ c.toNat ∧ c.toNat ≤ 0x39 ∨ 0x61 ≤ c.toNat ∧ c.toNat ≤ 0x7a ∨
          0x41 ≤ c.toNat ∧ c.toNat ≤ 0x5a := by
        simpa [Text.Percent.isAlphanumeric, Char.le_def, UInt32.le_iff_toNat_le, or_assoc] using
          letter
      have unlisted : c ∉ encodedInQuery := fun listed => by
        have other := List.all_eq_true.mp others c listed
        simp [letter] at other
      simp only [keepsAllBut, Bool.and_eq_true, decide_eq_true_eq, Bool.not_eq_true',
        List.contains_eq_mem, decide_eq_false_iff_not]
      exact ⟨⟨by omega, by omega⟩, unlisted⟩
    · exact List.all_eq_true.mp signs c (List.mem_append_right _ (by simpa using sign))
  · exact List.all_eq_true.mp signs c (List.mem_append_left _ sign)
  · exact digits n hn

theorem Canonical.query_append {query : List (String × String)} (h : Canonical cs)
    (unmarked : '?' ∉ cs) : Canonical (cs ++ '?' :: Text.Percent.formPairs query) := by
  have marks := bne_of_not_mem unmarked
  have path := h.path
  have undotted := h.undotted
  have whole : cs.takeWhile (· != '?') = cs := by
    rw [← List.append_nil cs, List.takeWhile_append_of_pos marks]
    rfl
  rw [whole] at path undotted
  refine ⟨?_, ?_, ?_, ?_⟩
  · rw [List.head?_append, h.rooted]
    rfl
  · rwa [List.takeWhile_append_of_pos marks, List.takeWhile_cons_of_neg (by decide),
      List.append_nil]
  · rw [List.dropWhile_append_of_pos marks, List.dropWhile_cons_of_neg (by decide)]
    intro c hc
    rcases List.mem_cons.mp hc with rfl | hc
    · decide
    · exact kept_of_inQuery (Text.Percent.mem_formPairs hc)
  · rwa [List.takeWhile_append_of_pos marks, List.takeWhile_cons_of_neg (by decide),
      List.append_nil]

end MarketWire.Rest.Url
