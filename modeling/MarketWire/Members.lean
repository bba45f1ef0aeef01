namespace MarketWire.Members

variable {α : Type}

def Sorted (xs : List (String × α)) : Prop := xs.Pairwise fun a b => a.1 < b.1

def insert (name : String) (value : α) : List (String × α) → List (String × α)
  | [] => [(name, value)]
  | (k, v) :: rest =>
      if name = k then (name, value) :: rest
      else if name < k then (name, value) :: (k, v) :: rest
      else (k, v) :: insert name value rest

def ofList (xs : List (String × α)) : List (String × α) :=
  xs.foldl (fun sorted x => insert x.1 x.2 sorted) []

theorem mem_insert {name : String} {value : α} {x : String × α} :
    ∀ {xs : List (String × α)}, x ∈ insert name value xs → x = (name, value) ∨ x ∈ xs := by
  intro xs
  induction xs with
  | nil => intro h; simp [insert] at h; exact Or.inl h
  | cons y ys ih =>
      intro h
      obtain ⟨k, v⟩ := y
      simp only [insert] at h
      split at h
      · rcases List.mem_cons.mp h with h | h
        · exact Or.inl h
        · exact Or.inr (List.mem_cons_of_mem _ h)
      · split at h
        · rcases List.mem_cons.mp h with h | h
          · exact Or.inl h
          · exact Or.inr h
        · rcases List.mem_cons.mp h with h | h
          · exact Or.inr (by simp [h])
          · rcases ih h with h | h
            · exact Or.inl h
            · exact Or.inr (List.mem_cons_of_mem _ h)

theorem sorted_insert {name : String} {value : α} :
    ∀ {xs : List (String × α)}, Sorted xs → Sorted (insert name value xs) := by
  intro xs
  induction xs with
  | nil => intro _; simp [insert, Sorted]
  | cons y ys ih =>
      intro h
      obtain ⟨k, v⟩ := y
      have hk : ∀ a ∈ ys, k < a.1 := (List.pairwise_cons.mp h).1
      have hys : Sorted ys := (List.pairwise_cons.mp h).2
      simp only [insert]
      split
      · next heq =>
          subst heq
          exact List.pairwise_cons.mpr ⟨hk, hys⟩
      · next hne =>
          split
          · next hlt =>
              refine List.pairwise_cons.mpr ⟨?_, h⟩
              intro a ha
              rcases List.mem_cons.mp ha with ha | ha
              · simpa [ha] using hlt
              · exact String.lt_trans hlt (hk a ha)
          · next hnlt =>
              refine List.pairwise_cons.mpr ⟨?_, ih hys⟩
              intro a ha
              rcases mem_insert ha with ha | ha
              · have hle : k ≤ name := String.not_lt.mp hnlt
                have : k < name := by grind
                simpa [ha] using this
              · exact hk a ha

theorem sorted_ofList (xs : List (String × α)) : Sorted (ofList xs) := by
  have fold : ∀ (xs acc : List (String × α)), Sorted acc →
      Sorted (xs.foldl (fun sorted x => insert x.1 x.2 sorted) acc) := by
    intro xs
    induction xs with
    | nil => intro acc h; exact h
    | cons x xs ih => intro acc h; exact ih _ (sorted_insert h)
  exact fold xs [] List.Pairwise.nil

end MarketWire.Members
