import MarketWire.Stream.Mailbox

namespace MarketWire.Stream.Mailbox

variable {α : Type} {q q' : Mailbox α} {x : α}

theorem take_item (h : q.take = .item x q') :
    q.items = x :: q'.items ∧ q' = { q with items := q'.items } := by
  simp only [take] at h
  split at h
  · cases h
  · split at h
    · next y rest hi =>
        cases h
        exact ⟨hi, rfl⟩
    · split at h <;> cases h

theorem take_item_open (h : q.take = .item x q') : q.closed = false := by
  simp only [take] at h
  split at h
  · cases h
  · next open' => exact Bool.eq_false_iff.mpr open'

theorem takeNow_some (h : q.takeNow = (some x, q')) : q.take = .item x q' := by
  simp only [takeNow, take] at h ⊢
  split at h
  · cases h
  · next open' =>
      rw [if_neg open']
      split at h
      · next y rest hi =>
          cases h
          simp
      · cases h

theorem takeNow_none (h : q.takeNow = (none, q')) : q.closed = true ∨ q.items = [] := by
  simp only [takeNow] at h
  split at h
  · next closed => exact Or.inl closed
  · split at h
    · cases h
    · next hi => exact Or.inr hi

theorem offer_room (h : q.offer x = .taken q') :
    q.closed = false ∧ q.finished = false ∧ q.makeRoom.items.length < q.capacity ∧
      q' = { q.makeRoom with items := q.makeRoom.items ++ [x] } := by
  have capacity : q.makeRoom.capacity = q.capacity := by
    rw [makeRoom]
    split <;> rfl
  simp only [offer] at h
  split at h
  · cases h
  · next open' =>
      obtain ⟨hc, hf⟩ := Bool.or_eq_false_iff.mp (Bool.eq_false_iff.mpr open')
      split at h
      · next room =>
          cases h
          exact ⟨hc, hf, capacity ▸ room, rfl⟩
      · cases h

theorem offer_taken (h : q.offer x = .taken q') :
    q' = { q with items := q.items ++ [x] } ∨
      q.overflow = .dropOldest ∧ ∃ y rest, q.items = y :: rest ∧
        q' = { q with items := rest ++ [x], dropped := q.dropped + 1 } := by
  simp only [offer] at h
  split at h
  · cases h
  · split at h
    · next room =>
        cases h
        simp only [makeRoom] at room ⊢
        split at room
        · next full =>
            rw [if_pos full]
            cases hi : q.items with
            | nil =>
                simp only [hi, List.length_nil, List.drop_nil] at full room
                omega
            | cons y rest => exact Or.inr ⟨full.2, y, rest, rfl, rfl⟩
        · next space =>
            rw [if_neg space]
            exact Or.inl rfl
    · cases h

theorem offer_length (h : q.offer x = .taken q') :
    q'.capacity = q.capacity ∧
      (q.items.length < q.capacity ∧ q'.items.length = q.items.length + 1 ∨
        q.capacity ≤ q.items.length ∧ q'.items.length = q.items.length) := by
  obtain ⟨_, _, room, rfl⟩ := offer_room h
  by_cases full : q.capacity ≤ q.items.length ∧ q.overflow = .dropOldest
  · simp only [makeRoom, if_pos full, List.length_append, List.length_drop,
      List.length_singleton, true_and] at room ⊢
    omega
  · simp only [makeRoom, if_neg full, List.length_append, List.length_singleton, true_and] at room ⊢
    exact Or.inl ⟨room, trivial⟩

theorem offer_wait (h : q.offer x = .wait) :
    q.closed = false ∧ q.finished = false ∧ q.capacity ≤ q.items.length := by
  simp only [offer] at h
  split at h
  · cases h
  · next open' =>
      obtain ⟨hc, hf⟩ := Bool.or_eq_false_iff.mp (Bool.eq_false_iff.mpr open')
      refine ⟨hc, hf, ?_⟩
      split at h
      · cases h
      · next crowded =>
          simp only [makeRoom] at crowded
          split at crowded
          · next full => exact full.1
          · exact Nat.le_of_not_lt crowded

theorem waits_of_offer (h : q.offer x = .wait) (fits : q.items.length ≤ q.capacity)
    (positive : 0 < q.capacity) : q.overflow = .wait := by
  obtain ⟨hc, hf, full⟩ := offer_wait h
  cases ho : q.overflow with
  | wait => rfl
  | dropOldest =>
      have room : q.items.length - 1 < q.capacity := by omega
      simp [offer, makeRoom, hc, hf, ho, full, room] at h

theorem take_wait (h : q.take = .wait) : q.closed = false ∧ q.finished = false ∧ q.items = [] := by
  simp only [take] at h
  split at h
  · cases h
  · next open' =>
      split at h
      · cases h
      · next none =>
          split at h
          · cases h
          · next unfinished =>
              exact ⟨Bool.eq_false_iff.mpr open', Bool.eq_false_iff.mpr unfinished, none⟩

theorem take_ended (h : q.take = .ended) : q.closed = true ∨ q.finished = true := by
  simp only [take] at h
  split at h
  · next closed => exact Or.inl closed
  · split at h
    · cases h
    · split at h
      · next finished => exact Or.inr finished
      · cases h

theorem take_drained (open' : q.closed = false) (h : q.take = .ended) :
    q.finished = true ∧ q.items = [] := by
  simp only [take, open', Bool.false_eq_true, if_false] at h
  split at h
  · cases h
  · next none =>
      split at h
      · next finished => exact ⟨finished, none⟩
      · cases h

theorem offer_refused (h : q.offer x = .refused) : q.closed = true ∨ q.finished = true := by
  simp only [offer] at h
  split at h
  · next hc => simpa using hc
  · split at h <;> cases h

def displaced (q : Mailbox α) : Option α :=
  if q.capacity ≤ q.items.length ∧ q.overflow = .dropOldest then q.items.head? else none

theorem displaced_eq_some (h : q.displaced = some x) :
    q.overflow = .dropOldest ∧ q.items = x :: q.items.tail := by
  simp only [displaced] at h
  split at h
  · next full =>
      obtain ⟨rest, hi⟩ := List.head?_eq_some_iff.mp h
      exact ⟨full.2, by rw [hi, List.tail_cons]⟩
  · cases h

theorem offer_displaced (h : q.offer x = .taken q') :
    q.items ++ [x] = q.displaced.toList ++ q'.items ∧ q'.finished = q.finished ∧
      q'.overflow = q.overflow := by
  obtain ⟨_, _, _, rfl⟩ := offer_room h
  simp only [makeRoom, displaced]
  split
  · refine ⟨?_, rfl, rfl⟩
    cases q.items <;> simp
  · exact ⟨rfl, rfl, rfl⟩

end MarketWire.Stream.Mailbox
