import MarketWire.Proofs.Handover.Frame

namespace MarketWire.Stream.Handover

variable {α : Type} {q : Mailbox α} {es xs ys : List (Event α)} {id : Nat} {x : α}
  {h t : Handover α} {c : Call α}

def Event.apply (q : Mailbox α) : Event α → Mailbox α
  | .accepted _ x => { q with items := q.items ++ [x] }
  | .dropped _ _ => { q with items := q.items.drop 1, dropped := q.dropped + 1 }
  | .returned _ _ => { q with items := q.items.drop 1 }
  | .finished _ => q.finish
  | .reopened _ => { q with finished := false }
  | .shut _ => q.close
  | _ => q

def Event.Legal (q : Mailbox α) : Event α → Prop
  | .accepted _ _ => q.closed = false ∧ q.finished = false ∧ q.items.length < q.capacity
  | .dropped _ x =>
      q.closed = false ∧ q.finished = false ∧ q.overflow = .dropOldest ∧ q.items.head? = some x
  | .returned _ x => q.closed = false ∧ q.items.head? = some x
  | .reopened _ => q.closed = false
  | _ => True

def replay (q : Mailbox α) (es : List (Event α)) : Mailbox α := es.foldl Event.apply q

def Lawful (q : Mailbox α) : List (Event α) → Prop
  | [] => True
  | e :: es => e.Legal q ∧ Lawful (e.apply q) es

def Event.arrival : Event α → List (Nat × α)
  | .accepted id x => [(id, x)]
  | _ => []

def Event.delivery : Event α → List (Nat × α)
  | .returned id x => [(id, x)]
  | _ => []

def Event.loss : Event α → List (Nat × α)
  | .dropped id x => [(id, x)]
  | _ => []

def Event.departure (e : Event α) : List (Nat × α) := e.delivery ++ e.loss

def arrivals (es : List (Event α)) : List (Nat × α) := es.flatMap Event.arrival

def deliveries (es : List (Event α)) : List (Nat × α) := es.flatMap Event.delivery

def losses (es : List (Event α)) : List (Nat × α) := es.flatMap Event.loss

def departures (es : List (Event α)) : List (Nat × α) := es.flatMap Event.departure

theorem mem_arrivals : (id, x) ∈ arrivals es ↔ .accepted id x ∈ es := by
  simp only [arrivals, List.mem_flatMap]
  constructor
  · rintro ⟨e, he, found⟩
    cases e <;> simp_all [Event.arrival]
  · exact fun he => ⟨_, he, List.mem_singleton_self _⟩

theorem mem_deliveries : (id, x) ∈ deliveries es ↔ .returned id x ∈ es := by
  simp only [deliveries, List.mem_flatMap]
  constructor
  · rintro ⟨e, he, found⟩
    cases e <;> simp_all [Event.delivery]
  · exact fun he => ⟨_, he, List.mem_singleton_self _⟩

theorem departures_eq (none : losses es = []) : departures es = deliveries es := by
  induction es with
  | nil => rfl
  | cons e es ih =>
      obtain ⟨now, later⟩ := List.append_eq_nil_iff.mp none
      simp only [departures, deliveries, List.flatMap_cons, Event.departure, now, List.append_nil]
      exact congrArg _ (ih later)

theorem departures_nil (none : departures es = []) : deliveries es = [] ∧ losses es = [] := by
  simp only [departures, Event.departure, List.flatMap_eq_nil_iff, List.append_eq_nil_iff] at none
  exact ⟨List.flatMap_eq_nil_iff.mpr fun e he => (none e he).1,
    List.flatMap_eq_nil_iff.mpr fun e he => (none e he).2⟩

theorem replay_append : replay q (xs ++ ys) = replay (replay q xs) ys := List.foldl_append

theorem lawful_append : Lawful q (xs ++ ys) ↔ Lawful q xs ∧ Lawful (replay q xs) ys := by
  induction xs generalizing q with
  | nil => simp [Lawful, replay]
  | cons e xs ih => simp [Lawful, ih, replay, and_assoc]

theorem capacity_apply (e : Event α) : (e.apply q).capacity = q.capacity := by
  cases e <;> rfl

theorem overflow_apply (e : Event α) : (e.apply q).overflow = q.overflow := by
  cases e <;> rfl

theorem dropped_apply (e : Event α) : (e.apply q).dropped = q.dropped + e.loss.length := by
  cases e <;> rfl

@[simp] theorem capacity_replay : (replay q es).capacity = q.capacity := by
  induction es generalizing q with
  | nil => rfl
  | cons e es ih => exact ih.trans (capacity_apply e)

@[simp] theorem overflow_replay : (replay q es).overflow = q.overflow := by
  induction es generalizing q with
  | nil => rfl
  | cons e es ih => exact ih.trans (overflow_apply e)

theorem dropped_replay : (replay q es).dropped = q.dropped + (losses es).length := by
  induction es generalizing q with
  | nil => rfl
  | cons e es ih =>
      have rest : (replay q (e :: es)).dropped = (e.apply q).dropped + (losses es).length := ih
      simp only [rest, dropped_apply, losses, List.flatMap_cons, List.length_append, Nat.add_assoc]

def Event.Idle : Event α → Prop
  | .begun _ _ => True
  | .ended _ _ => True
  | .cancelled _ => True
  | _ => False

theorem Event.Idle.apply {e : Event α} (idle : e.Idle) : e.apply q = q := by
  cases e <;> first | rfl | exact idle.elim

theorem lawful_filter {p : Event α → Bool} (idle : ∀ e ∈ es, p e = false → e.Idle) :
    replay q (es.filter p) = replay q es ∧ (Lawful q es → Lawful q (es.filter p)) := by
  induction es generalizing q with
  | nil => exact ⟨rfl, id⟩
  | cons e es ih =>
      have rest (q : Mailbox α) := @ih q fun e he => idle e (List.mem_cons_of_mem _ he)
      cases keep : p e with
      | true =>
          simp only [List.filter_cons, keep, if_true]
          exact ⟨(rest (e.apply q)).1, fun legal => ⟨legal.1, (rest (e.apply q)).2 legal.2⟩⟩
      | false =>
          have same : e.apply q = q := (idle e List.mem_cons_self keep).apply
          have skip : replay q (e :: es) = replay (e.apply q) es := rfl
          rw [List.filter_cons, keep, skip, same]
          exact ⟨(rest q).1, fun legal => (rest q).2 (same ▸ legal.2)⟩

theorem Event.Legal.bounded {e : Event α} (legal : e.Legal q)
    (fits : q.items.length ≤ q.capacity) : (e.apply q).items.length ≤ q.capacity := by
  cases e with
  | accepted id x => simpa [Event.apply] using Nat.succ_le_of_lt legal.2.2
  | shut id => exact Nat.zero_le _
  | dropped id x => exact Nat.le_trans (List.drop_sublist 1 q.items).length_le fits
  | returned id x => exact Nat.le_trans (List.drop_sublist 1 q.items).length_le fits
  | _ => exact fits

theorem Lawful.bounded (legal : Lawful q es) (fits : q.items.length ≤ q.capacity) :
    (replay q es).items.length ≤ q.capacity := by
  induction es generalizing q with
  | nil => exact fits
  | cons e es ih =>
      obtain ⟨now, later⟩ := legal
      have same := capacity_apply (q := q) e
      exact same ▸ ih later (same.symm ▸ now.bounded fits)

theorem Event.Legal.conserves {e : Event α} (legal : e.Legal q) (unshut : ∀ id, e ≠ .shut id) :
    q.items ++ e.arrival.map Prod.snd = e.departure.map Prod.snd ++ (e.apply q).items := by
  have head {x : α} (hx : q.items.head? = some x) : q.items = x :: q.items.drop 1 := by
    obtain ⟨rest, hi⟩ := List.head?_eq_some_iff.mp hx
    simp [hi]
  cases e with
  | accepted id x => rfl
  | dropped id x => simpa [arrival, departure, delivery, loss, apply] using head legal.2.2.2
  | returned id x => simpa [arrival, departure, delivery, loss, apply] using head legal.2
  | shut id => exact absurd rfl (unshut id)
  | _ => exact List.append_nil _

theorem Lawful.conserves (legal : Lawful q es) (unshut : ∀ id, .shut id ∉ es) :
    q.items ++ (arrivals es).map Prod.snd
      = (departures es).map Prod.snd ++ (replay q es).items := by
  induction es generalizing q with
  | nil => simp [arrivals, departures, replay]
  | cons e es ih =>
      obtain ⟨now, later⟩ := legal
      have open' : ∀ id, e ≠ .shut id := by
        rintro id rfl
        exact unshut id List.mem_cons_self
      have step := now.conserves open'
      have rest := ih later fun id hid => unshut id (List.mem_cons_of_mem e hid)
      simp only [arrivals, departures, List.flatMap_cons, List.map_append] at rest ⊢
      rw [← List.append_assoc, step, List.append_assoc, rest, ← List.append_assoc]
      rfl

theorem Lawful.lossless (legal : Lawful q es) (waits : q.overflow = .wait) : losses es = [] := by
  induction es generalizing q with
  | nil => rfl
  | cons e es ih =>
      obtain ⟨now, later⟩ := legal
      have none : e.loss = [] := by
        cases e with
        | dropped id x => exact absurd (waits.symm.trans now.2.2.1) nofun
        | _ => rfl
      rw [losses, List.flatMap_cons, none, List.nil_append]
      exact ih later ((overflow_apply e).trans waits)

theorem Lawful.finished (legal : Lawful q es) (done : q.finished = true)
    (unopened : ∀ id, .reopened id ∉ es) :
    arrivals es = [] ∧ losses es = [] ∧ (replay q es).finished = true := by
  induction es generalizing q with
  | nil => exact ⟨rfl, rfl, done⟩
  | cons e es ih =>
      obtain ⟨now, later⟩ := legal
      have step : e.arrival = [] ∧ e.loss = [] ∧ (e.apply q).finished = true := by
        cases e with
        | accepted id x => exact absurd (done.symm.trans now.2.1) nofun
        | dropped id x => exact absurd (done.symm.trans now.2.1) nofun
        | reopened id => exact absurd List.mem_cons_self (unopened id)
        | finished id => exact ⟨rfl, rfl, rfl⟩
        | _ => exact ⟨rfl, rfl, done⟩
      obtain ⟨quiet, kept, done'⟩ := step
      have rest := ih later done' fun id hid => unopened id (List.mem_cons_of_mem e hid)
      simp only [arrivals, losses, List.flatMap_cons, quiet, kept, List.nil_append]
      exact rest

theorem Lawful.closed (legal : Lawful q es) (done : q.closed = true) (none : q.items = []) :
    arrivals es = [] ∧ departures es = [] ∧ (∀ id, .reopened id ∉ es) ∧
      (replay q es).closed = true ∧ (replay q es).items = [] := by
  induction es generalizing q with
  | nil => exact ⟨rfl, rfl, nofun, done, none⟩
  | cons e es ih =>
      obtain ⟨now, later⟩ := legal
      have step : e.arrival = [] ∧ e.departure = [] ∧ (∀ id, e ≠ .reopened id) ∧
          (e.apply q).closed = true ∧ (e.apply q).items = [] := by
        cases e with
        | accepted id x | dropped id x | returned id x => exact absurd (done.symm.trans now.1) nofun
        | reopened id => exact absurd (done.symm.trans now) nofun
        | shut id => exact ⟨rfl, rfl, nofun, rfl, rfl⟩
        | _ => exact ⟨rfl, rfl, nofun, done, none⟩
      obtain ⟨quiet, idle, kept, done', none'⟩ := step
      have rest := ih later done' none'
      refine ⟨?_, ?_, ?_, rest.2.2.2⟩
      · simpa only [arrivals, List.flatMap_cons, quiet, List.nil_append] using rest.1
      · simpa only [departures, List.flatMap_cons, idle, List.nil_append] using rest.2.1
      · intro id hid
        rcases List.mem_cons.mp hid with first | after
        · exact kept id first.symm
        · exact rest.2.2.1 id after

theorem lawful_taken {q' : Mailbox α} (hm : q.take = .item x q') :
    Lawful q [.returned id x] ∧ q' = replay q [.returned id x] := by
  obtain ⟨items, rest⟩ := Mailbox.take_item hm
  refine ⟨⟨⟨Mailbox.take_item_open hm, ?_⟩, trivial⟩, ?_⟩
  · exact List.head?_eq_some_iff.mpr ⟨_, items⟩
  · rw [rest]
    simp [replay, Event.apply, items]

theorem lawful_offered {q' : Mailbox α} (hm : q.offer x = .taken q') :
    Lawful q ((overflowing q).map (.dropped id) ++ [.accepted id x]) ∧
      q' = replay q ((overflowing q).map (.dropped id) ++ [.accepted id x]) := by
  obtain ⟨open', unfinished, room, rfl⟩ := Mailbox.offer_room hm
  by_cases full : q.capacity ≤ q.items.length ∧ q.overflow = .dropOldest
  · simp only [Mailbox.makeRoom, if_pos full] at room ⊢
    cases hi : q.items with
    | nil =>
        have := full.1
        simp only [hi, List.length_nil, List.drop_nil] at this room
        omega
    | cons y rest =>
        simp only [hi, List.drop_succ_cons, List.drop_zero] at room
        rw [overflowing, if_pos full, hi]
        exact ⟨⟨⟨open', unfinished, full.2, by rw [hi]; rfl⟩,
          ⟨open', unfinished, by simpa [Event.apply, hi] using room⟩, trivial⟩,
          by simp [replay, Event.apply, hi]⟩
  · simp only [Mailbox.makeRoom, if_neg full] at room ⊢
    rw [overflowing, if_neg full]
    exact ⟨⟨⟨open', unfinished, room⟩, trivial⟩, rfl⟩

theorem Deed.lawful (hd : Deed h c es t) :
    Lawful h.mailbox es ∧ t.mailbox = replay h.mailbox es := by
  cases hd with
  | polled _ _ hm => exact lawful_taken hm
  | missed _ _ _ => exact ⟨⟨trivial, trivial⟩, rfl⟩
  | finished _ _ => exact ⟨⟨trivial, trivial⟩, rfl⟩
  | shut _ _ => exact ⟨⟨trivial, trivial⟩, rfl⟩
  | reopened _ _ open' => exact ⟨⟨open', trivial, trivial⟩, rfl⟩
  | unopened _ _ _ => exact ⟨⟨trivial, trivial⟩, rfl⟩
  | accepted _ _ hm => exact lawful_offered hm
  | taken _ _ hm => exact lawful_taken hm
  | left _ => exact ⟨⟨trivial, trivial⟩, by simp [replay, Event.apply]⟩
  | settled _ => exact ⟨⟨trivial, trivial⟩, rfl⟩
  | _ => exact ⟨trivial, by simp [replay]⟩

def Event.answer : Event α → List (Nat × Answer α)
  | .ended id a => [(id, a)]
  | _ => []

theorem Deed.answers (hd : Deed h c es t) : t.answers = h.answers ++ es.flatMap Event.answer := by
  cases hd with
  | accepted _ _ _ =>
      have none (ys : List α) : (ys.map (Event.dropped c.id)).flatMap Event.answer = [] :=
        List.flatMap_eq_nil_iff.mpr (by simp [Event.answer])
      simp [List.flatMap_append, none, Event.answer]
  | _ => simp [Event.answer, conclude]

theorem Run.answers {capacity : Nat} {overflow : Overflow} (run : Run capacity overflow es h) :
    h.answers = es.flatMap Event.answer := by
  induction run with
  | opened => rfl
  | begun r _ _ ih => simpa [Event.answer, start] using ih
  | advanced _ _ ht ih => rw [(advance_deed ht).answers, ih, List.flatMap_append]
  | cancelled _ ht ih =>
      obtain ⟨c, _, _, k, _, rfl⟩ := cancel_eq ht
      simpa [Event.answer] using ih

theorem Run.lawful {capacity : Nat} {overflow : Overflow} (run : Run capacity overflow es h) :
    Lawful (.empty capacity overflow) es ∧ h.mailbox = replay (.empty capacity overflow) es := by
  have extend {es xs : List (Event α)} {h t : Handover α}
      (before : Lawful (.empty capacity overflow) es ∧
        h.mailbox = replay (.empty capacity overflow) es)
      (now : Lawful h.mailbox xs ∧ t.mailbox = replay h.mailbox xs) :
      Lawful (.empty capacity overflow) (es ++ xs) ∧
        t.mailbox = replay (.empty capacity overflow) (es ++ xs) := by
    rw [lawful_append, replay_append, ← before.2]
    exact ⟨⟨before.1, now.1⟩, now.2⟩
  induction run with
  | opened => exact ⟨trivial, rfl⟩
  | begun r _ _ ih => exact extend ih ⟨⟨trivial, trivial⟩, rfl⟩
  | advanced _ _ ht ih => exact extend ih (advance_deed ht).lawful
  | cancelled _ ht ih =>
      obtain ⟨c, _, _, k, _, rfl⟩ := cancel_eq ht
      exact extend ih ⟨⟨trivial, trivial⟩, by simp [replay, Event.apply]⟩

end MarketWire.Stream.Handover
