import MarketWire.Registry

namespace MarketWire.Registry

open Channel (Subscription)

variable {r : Registry} {x y : Subscription}

def keys (r : Registry) : List Subscription := r.entries.map (·.1)

structure Tidy (r : Registry) : Prop where
  keyed : r.keys.Nodup
  falling : r.entries.Pairwise fun a b => b.2.arrival < a.2.arrival
  below : ∀ e ∈ r.entries, e.2.arrival < r.nextArrival

theorem contains_iff : r.contains x = true ↔ x ∈ r.keys := by
  simp only [contains, find?, keys, List.lookup_isSome_iff, List.mem_map]
  constructor
  · rintro ⟨e, he, hx⟩
    exact ⟨e, he, (beq_iff_eq.mp hx).symm⟩
  · rintro ⟨e, he, rfl⟩
    exact ⟨e, he, beq_self_eq_true e.1⟩

theorem keys_add (h : r.contains x = false) : (r.add x).1.keys = x :: r.keys := by
  simp [add, h, keys]

theorem keys_remove : (r.remove x).1.keys = r.keys.filter (· != x) := by
  simp only [keys, remove, List.filter_map]
  rfl

@[simp] theorem keys_confirm : (r.confirm x).1.keys = r.keys := by
  simp only [keys, confirm, List.map_map]
  apply List.map_congr_left
  intro e _
  simp only [Function.comp_apply]
  split <;> rfl

@[simp] theorem keys_resetConfirmations : r.resetConfirmations.keys = r.keys := by
  simp [keys, resetConfirmations]

theorem contains_add : (r.add x).1.contains y = true ↔ y = x ∨ r.contains y = true := by
  cases h : r.contains x with
  | false => simp only [contains_iff, keys_add h, List.mem_cons]
  | true =>
      have same : (r.add x).1 = r := by simp [add, h]
      rw [same]
      constructor
      · exact Or.inr
      · rintro (rfl | hy)
        · exact h
        · exact hy

theorem contains_remove : (r.remove x).1.contains y = true ↔ y ≠ x ∧ r.contains y = true := by
  simp only [contains_iff, keys_remove, List.mem_filter, bne_iff_ne]
  exact And.comm

theorem tidy_empty : empty.Tidy :=
  ⟨List.nodup_nil, List.Pairwise.nil, fun _ he => absurd he List.not_mem_nil⟩

theorem Tidy.add (h : r.Tidy) : (r.add x).1.Tidy := by
  cases hx : r.contains x with
  | true => simpa [Registry.add, hx] using h
  | false =>
      have hn : x ∉ r.keys := by
        rw [← contains_iff, hx]
        exact Bool.false_ne_true
      refine ⟨?_, ?_, ?_⟩
      · rw [keys_add hx]
        exact List.nodup_cons.mpr ⟨hn, h.keyed⟩
      · simp only [Registry.add, hx]
        exact List.pairwise_cons.mpr ⟨h.below, h.falling⟩
      · simp only [Registry.add, hx]
        rintro e (_ | ⟨_, he⟩)
        · exact Nat.lt_succ_self _
        · exact Nat.lt_succ_of_lt (h.below e he)

theorem Tidy.remove (h : r.Tidy) : (r.remove x).1.Tidy := by
  refine ⟨?_, h.falling.filter _, ?_⟩
  · rw [keys_remove]
    exact h.keyed.filter _
  · exact fun e he => h.below e (List.mem_filter.mp he).1

theorem Tidy.map (h : r.Tidy) {f : Subscription × Entry → Subscription × Entry}
    (hk : ∀ e, (f e).1 = e.1) (ha : ∀ e, (f e).2.arrival = e.2.arrival) :
    Tidy { r with entries := r.entries.map f } := by
  refine ⟨?_, ?_, ?_⟩
  · have same : (Prod.fst ∘ f : Subscription × Entry → Subscription) = Prod.fst := funext hk
    rw [keys, List.map_map, same]
    exact h.keyed
  · simpa only [List.pairwise_map, ha] using h.falling
  · intro e he
    obtain ⟨d, hd, rfl⟩ := List.mem_map.mp he
    rw [ha]
    exact h.below d hd

theorem Tidy.confirm (h : r.Tidy) : (r.confirm x).1.Tidy := by
  refine h.map ?_ ?_
  · intro e
    split <;> rfl
  · intro e
    split <;> rfl

theorem Tidy.resetConfirmations (h : r.Tidy) : r.resetConfirmations.Tidy :=
  h.map (fun _ => rfl) fun _ => rfl

theorem place_perm (e : Subscription × Entry) :
    ∀ xs : List (Subscription × Entry), (place e xs).Perm (e :: xs) := by
  intro xs
  induction xs with
  | nil => exact List.Perm.refl _
  | cons y ys ih =>
      simp only [place]
      split
      · exact List.Perm.refl _
      · exact (ih.cons y).trans (List.Perm.swap e y ys)

theorem foldl_place_perm (xs : List (Subscription × Entry)) :
    ∀ acc, (xs.foldl (fun sorted e => place e sorted) acc).Perm (xs ++ acc) := by
  induction xs with
  | nil => intro acc; exact List.Perm.refl _
  | cons e xs ih =>
      intro acc
      refine (ih (place e acc)).trans ?_
      exact ((place_perm e acc).append_left xs).trans List.perm_middle

theorem byArrival_perm (xs : List (Subscription × Entry)) : (byArrival xs).Perm xs := by
  simpa [byArrival] using foldl_place_perm xs []

theorem all_perm_keys : r.all.Perm r.keys := (byArrival_perm r.entries).map _

theorem count_eq_length : r.count = r.all.length := by
  rw [count, all_perm_keys.length_eq, keys, List.length_map]

theorem mem_all : x ∈ r.all ↔ r.contains x = true := by
  rw [contains_iff]
  exact all_perm_keys.mem_iff

theorem Tidy.nodup_all (h : r.Tidy) : r.all.Nodup := all_perm_keys.nodup_iff.mpr h.keyed

theorem place_map {f : Subscription × Entry → Subscription × Entry}
    (hf : ∀ e, (f e).2.arrival = e.2.arrival) (e : Subscription × Entry) :
    ∀ xs : List (Subscription × Entry), place (f e) (xs.map f) = (place e xs).map f := by
  intro xs
  induction xs with
  | nil => rfl
  | cons y ys ih =>
      simp only [List.map_cons, place, hf]
      split
      · rfl
      · rw [List.map_cons, ih]

theorem byArrival_map {f : Subscription × Entry → Subscription × Entry}
    (hf : ∀ e, (f e).2.arrival = e.2.arrival) (xs : List (Subscription × Entry)) :
    byArrival (xs.map f) = (byArrival xs).map f := by
  have fold : ∀ (xs acc : List (Subscription × Entry)),
      (xs.map f).foldl (fun sorted e => place e sorted) (acc.map f)
        = (xs.foldl (fun sorted e => place e sorted) acc).map f := by
    intro xs
    induction xs with
    | nil => intro acc; rfl
    | cons e xs ih =>
        intro acc
        rw [List.map_cons, List.foldl_cons, place_map hf, ih, List.foldl_cons]
  exact fold xs []

theorem all_map {f : Subscription × Entry → Subscription × Entry}
    (hk : ∀ e, (f e).1 = e.1) (ha : ∀ e, (f e).2.arrival = e.2.arrival) :
    Registry.all { r with entries := r.entries.map f } = r.all := by
  have same : (Prod.fst ∘ f : Subscription × Entry → Subscription) = Prod.fst := funext hk
  simp only [all, byArrival_map ha, List.map_map]
  exact congrArg (List.map · _) same

@[simp] theorem all_resetConfirmations : r.resetConfirmations.all = r.all :=
  all_map (fun _ => rfl) fun _ => rfl

@[simp] theorem all_confirm : (r.confirm x).1.all = r.all := by
  refine all_map ?_ ?_
  · intro e
    split <;> rfl
  · intro e
    split <;> rfl

theorem foldl_place_falling {xs : List (Subscription × Entry)}
    (h : xs.Pairwise fun a b => b.2.arrival < a.2.arrival) :
    ∀ acc, (∀ e ∈ xs, ∀ d ∈ acc, e.2.arrival < d.2.arrival) →
      xs.foldl (fun sorted e => place e sorted) acc = xs.reverse ++ acc := by
  induction xs with
  | nil => intro acc _; rfl
  | cons e xs ih =>
      intro acc hacc
      obtain ⟨he, hxs⟩ := List.pairwise_cons.mp h
      have first : place e acc = e :: acc := by
        cases acc with
        | nil => rfl
        | cons d acc => exact if_pos (hacc e List.mem_cons_self d List.mem_cons_self)
      rw [List.foldl_cons, first, ih hxs, List.reverse_cons, List.append_assoc]
      · rfl
      · rintro d hd c (_ | ⟨_, hc⟩)
        · exact he d hd
        · exact hacc d (List.mem_cons_of_mem _ hd) c hc

theorem Tidy.all_eq (h : r.Tidy) : r.all = r.keys.reverse := by
  have nothing : ∀ e ∈ r.entries, ∀ d ∈ ([] : List (Subscription × Entry)),
      e.2.arrival < d.2.arrival := fun _ _ d hd => absurd hd List.not_mem_nil
  rw [all, byArrival, foldl_place_falling h.falling [] nothing, List.append_nil, List.map_reverse]
  rfl

theorem Tidy.all_add (h : r.Tidy) (hx : r.contains x = false) :
    (r.add x).1.all = r.all ++ [x] := by
  rw [h.add.all_eq, keys_add hx, List.reverse_cons, h.all_eq]

theorem Tidy.all_remove (h : r.Tidy) : (r.remove x).1.all = r.all.filter (· != x) := by
  rw [h.remove.all_eq, keys_remove, ← List.filter_reverse, h.all_eq]

structure Same (r r' : Registry) : Prop where
  tidy : r.Tidy → r'.Tidy
  all : r'.all = r.all

theorem Same.refl (r : Registry) : r.Same r := ⟨id, rfl⟩

theorem same_confirm (r : Registry) (x : Subscription) : r.Same (r.confirm x).1 :=
  ⟨Tidy.confirm, all_confirm⟩

theorem same_resetConfirmations (r : Registry) : r.Same r.resetConfirmations :=
  ⟨Tidy.resetConfirmations, all_resetConfirmations⟩

theorem Same.contains {r' : Registry} (h : r.Same r') : r'.contains x = r.contains x := by
  rw [Bool.eq_iff_iff, ← mem_all, ← mem_all, h.all]

end MarketWire.Registry
