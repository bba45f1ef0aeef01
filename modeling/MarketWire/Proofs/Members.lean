import MarketWire.Members
import Mathlib.Data.List.Nodup

namespace MarketWire.Members

variable {α β γ : Type} [DecidableEq α] {k name : α} {v : β}

def Distinct (xs : List (α × β)) : Prop := (xs.map Prod.fst).Nodup

theorem lookup_cons (xs : List (α × β)) :
    ((name, v) :: xs).lookup k = if k = name then some v else xs.lookup k := by
  rw [List.lookup_cons]
  by_cases hk : k = name
  · simp [hk]
  · rw [beq_false_of_ne hk, if_neg hk]

theorem lookup_map {f : α × β → α × γ} (hf : ∀ x, (f x).1 = x.1) (xs : List (α × β)) :
    (xs.map f).lookup k = (xs.lookup k).map fun v => (f (k, v)).2 := by
  induction xs with
  | nil => rfl
  | cons x xs ih =>
      rw [List.map_cons, List.lookup_cons, List.lookup_cons, hf]
      split
      · next same =>
          rw [beq_iff_eq.mp same]
          rfl
      · exact ih

theorem lookup_filter (xs : List (α × β)) :
    (xs.filter fun x => x.1 != name).lookup k = if k = name then none else xs.lookup k := by
  induction xs with
  | nil => simp
  | cons x xs ih =>
      obtain ⟨n, w⟩ := x
      by_cases hn : n = name
      · rw [List.filter_cons_of_neg (by simpa using hn), ih, lookup_cons, hn]
        split <;> rfl
      · rw [List.filter_cons_of_pos (by simpa using hn), lookup_cons, lookup_cons, ih]
        by_cases hk : k = n
        · rw [if_pos hk, if_neg (hk ▸ hn), if_pos hk]
        · rw [if_neg hk, if_neg hk]

theorem lookup_eq_none {xs : List (α × β)} : xs.lookup k = none ↔ k ∉ xs.map Prod.fst := by
  rw [← not_iff_not, not_not, ← ne_eq, ← Option.isSome_iff_ne_none, List.lookup_isSome_iff,
    List.mem_map]
  simp only [beq_iff_eq, eq_comm (a := k)]

def Single (names : List α) (xs : List (α × β)) : Prop :=
  xs.Pairwise fun x y => x.1 ∈ names → x.1 ≠ y.1

omit [DecidableEq α] in
theorem Distinct.single {xs : List (α × β)} (h : Distinct xs) (names : List α) :
    Single names xs := by
  rw [Distinct, List.Nodup, List.pairwise_map] at h
  refine List.Pairwise.imp ?_ h
  intro x y other _
  exact other

omit [DecidableEq α] in
theorem Distinct.single_append {xs ys : List (α × β)} {names : List α} (h : Distinct xs)
    (unknown : ∀ y ∈ ys, y.1 ∉ names) : Single names (xs ++ ys) := by
  refine List.pairwise_append.mpr ⟨h.single names, ?_, ?_⟩
  · exact List.pairwise_of_forall_mem_list fun y hy _ _ known => absurd known (unknown y hy)
  · intro x _ y hy known same
    exact unknown y hy (same ▸ known)

omit [DecidableEq α] in
theorem Single.perm {xs ys : List (α × β)} {names : List α} (h : Single names ys)
    (perm : xs.Perm ys) : Single names xs := by
  refine (perm.pairwise_iff fun other known same => ?_).mpr h
  exact other (same ▸ known) same.symm

theorem Single.lookup_eq_some {xs : List (α × β)} {names : List α} (h : Single names xs)
    (known : k ∈ names) : xs.lookup k = some v ↔ (k, v) ∈ xs := by
  induction xs with
  | nil => simp
  | cons x xs ih =>
      obtain ⟨n, w⟩ := x
      obtain ⟨new, rest⟩ := List.pairwise_cons.mp h
      rw [lookup_cons, List.mem_cons]
      by_cases hk : k = n
      · subst hk
        have absent : (k, v) ∉ xs := fun hx => new (k, v) hx known rfl
        simp [absent, eq_comm]
      · simp [ih rest, hk]

theorem Distinct.lookup_eq_some {xs : List (α × β)} (h : Distinct xs) :
    xs.lookup k = some v ↔ (k, v) ∈ xs :=
  (h.single [k]).lookup_eq_some (List.mem_singleton_self k)

theorem Distinct.lookup_perm {xs ys : List (α × β)} (h : Distinct xs) (perm : xs.Perm ys) :
    xs.lookup k = ys.lookup k := by
  have h' : Distinct ys := (perm.map Prod.fst).nodup_iff.mp h
  refine Option.ext fun v => ?_
  rw [h.lookup_eq_some, h'.lookup_eq_some, perm.mem_iff]

theorem Distinct.filterMap {xs : List (α × β)} (h : Distinct xs) {g : α × β → Option (α × γ)}
    (hg : ∀ x y, g x = some y → y.1 = x.1) :
    Distinct (xs.filterMap g) ∧
      (xs.filterMap g).lookup k = (xs.lookup k).bind fun v => (g (k, v)).map Prod.snd := by
  induction xs with
  | nil => exact ⟨List.nodup_nil, rfl⟩
  | cons x xs ih =>
      obtain ⟨n, w⟩ := x
      obtain ⟨new, rest⟩ := List.nodup_cons.mp h
      obtain ⟨distinct, found⟩ := ih rest
      have kept : ∀ y ∈ xs.filterMap g, y.1 ∈ xs.map Prod.fst := by
        intro y hy
        obtain ⟨z, hz, e⟩ := List.mem_filterMap.mp hy
        exact hg z y e ▸ List.mem_map_of_mem hz
      cases he : g (n, w) with
      | none =>
          rw [List.filterMap_cons_none he, lookup_cons, found]
          refine ⟨distinct, ?_⟩
          by_cases hk : k = n
          · subst hk
            simp [lookup_eq_none.mpr new, he]
          · rw [if_neg hk]
      | some y =>
          obtain ⟨n', w'⟩ := y
          cases hg _ _ he
          rw [List.filterMap_cons_some he, lookup_cons, lookup_cons, found]
          refine ⟨List.nodup_cons.mpr ⟨?_, distinct⟩, ?_⟩
          · intro held
            obtain ⟨y, hy, same⟩ := List.mem_map.mp held
            exact new (same ▸ kept y hy)
          · by_cases hk : k = n
            · subst hk
              simp [he]
            · rw [if_neg hk, if_neg hk]

section

variable {n m : String} {xs ys : List (String × β)}

theorem Sorted.distinct (h : Sorted xs) : Distinct xs := by
  rw [Distinct, List.Nodup, List.pairwise_map]
  exact List.Pairwise.imp (fun lt same => absurd (same ▸ lt) (String.lt_irrefl _)) h

theorem lookup_insert : (insert m v xs).lookup n = if n = m then some v else xs.lookup n := by
  induction xs with
  | nil => rw [insert, lookup_cons]
  | cons x xs ih =>
      obtain ⟨l, w⟩ := x
      rw [insert]
      split
      · next same =>
          rw [lookup_cons, lookup_cons, same]
          split <;> rfl
      · next other =>
          split
          · rw [lookup_cons]
          · rw [lookup_cons, lookup_cons, ih]
            by_cases hn : n = l
            · rw [if_pos hn, if_neg (hn ▸ Ne.symm other), if_pos hn]
            · rw [if_neg hn, if_neg hn]

theorem lookup_ofList : (ofList xs).lookup n = xs.reverse.lookup n := by
  have fold : ∀ acc : List (String × β),
      (xs.foldl (fun sorted x => insert x.1 x.2 sorted) acc).lookup n
        = (xs.reverse.lookup n).or (acc.lookup n) := by
    induction xs with
    | nil => exact fun _ => rfl
    | cons x xs ih =>
        intro acc
        rw [List.foldl_cons, ih, lookup_insert, List.reverse_cons, List.lookup_append,
          Option.or_assoc, lookup_cons]
        split <;> rfl
  rw [ofList, fold, List.lookup_nil, Option.or_none]

theorem Distinct.lookup_ofList (h : Distinct xs) : (ofList xs).lookup n = xs.lookup n := by
  rw [Members.lookup_ofList]
  exact (h.lookup_perm xs.reverse_perm.symm).symm

theorem Sorted.ext (hx : Sorted xs) (hy : Sorted ys) (same : ∀ n, xs.lookup n = ys.lookup n) :
    xs = ys := by
  have perm : xs.Perm ys := by
    refine (List.perm_ext_iff_of_nodup hx.distinct.of_map hy.distinct.of_map).mpr ?_
    rintro ⟨n, v⟩
    rw [← hx.distinct.lookup_eq_some, ← hy.distinct.lookup_eq_some, same]
  have antisymm : ∀ a b, a ∈ xs → b ∈ ys → a.1 < b.1 → b.1 < a.1 → a = b :=
    fun a b _ _ ab ba => absurd (String.lt_trans ab ba) (String.lt_irrefl _)
  exact List.Perm.eq_of_pairwise antisymm hx hy perm

theorem Sorted.ofList_eq (h : Sorted xs) : ofList xs = xs :=
  (sorted_ofList xs).ext h fun _ => h.distinct.lookup_ofList

end

end MarketWire.Members
