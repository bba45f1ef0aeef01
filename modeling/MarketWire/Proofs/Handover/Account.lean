import MarketWire.Proofs.Handover.History
import MarketWire.Proofs.Handover.Registration
import Mathlib.Data.List.Basic

namespace MarketWire.Stream.Handover

variable {α : Type} {h t : Handover α} {c : Call α} {id i : Nat} {r : Request α} {a : Answer α}
  {p : Phase α} {q : Mailbox α} {es xs ys made : List (Event α)} {capacity : Nat}
  {overflow : Overflow}

def record (es : List (Event α)) (id : Nat) : List (Event α) := es.filter fun e => e.call == id

inductive Deal (id : Nat) : Request α → Answer α → List (Event α) → Prop where
  | put (x : α) (lost : List α) :
      Deal id (.put x) (.done true) (lost.map (.dropped id) ++ [.accepted id x])
  | refused (x : α) : Deal id (.put x) (.done false) []
  | take (x : α) : Deal id .take (.got (some x)) [.returned id x]
  | drained : Deal id .take (.got none) []
  | takeNow (x : α) : Deal id .takeNow (.got (some x)) [.returned id x]
  | missed : Deal id .takeNow (.got none) []
  | finish : Deal id .finish .none [.finished id]
  | reopen : Deal id .reopen (.done true) [.reopened id]
  | unopened : Deal id .reopen (.done false) []
  | close : Deal id .close .none [.shut id]

def Phase.Pending : Phase α → Prop
  | .answering _ => False
  | _ => True

def Request.Stalls (q : Mailbox α) : Request α → Prop
  | .put x => q.offer x = .wait
  | _ => q.take = .wait

inductive Course (q : Mailbox α) (id : Nat) (r : Request α) :
    Phase α → List (Event α) → Option (Phase α) → Prop where
  | enters {p : Phase α} : p.Pending → Course q id r p [] (some .calling)
  | parks : r.Stalls q → Course q id r .calling [] (some .parked)
  | deals {a : Answer α} {made : List (Event α)} :
      Deal id r a made → Course q id r .calling made (some (.answering a))
  | stays {a : Answer α} : Course q id r (.answering a) [] (some (.answering a))
  | ends {a : Answer α} : Course q id r (.answering a) [.ended id a] none
  | replies {a : Answer α} {made : List (Event α)} :
      Deal id r a made → Course q id r .calling (made ++ [.ended id a]) none

inductive Form (id : Nat) : List (Event α) → Option (Request α × Phase α) → Prop where
  | unborn : Form id [] none
  | pending {r : Request α} {p : Phase α} : p.Pending → Form id [.begun id r] (some (r, p))
  | answering {r : Request α} {a : Answer α} {made : List (Event α)} :
      Deal id r a made → Form id (.begun id r :: made) (some (r, .answering a))
  | ended {r : Request α} {a : Answer α} {made : List (Event α)} :
      Deal id r a made → Form id (.begun id r :: made ++ [.ended id a]) none
  | cancelled (r : Request α) : Form id [.begun id r, .cancelled id] none

def Accounted (es : List (Event α)) (h : Handover α) : Prop :=
  ∀ id, Form id (record es id) (h.roll.lookup id)

theorem mem_record {e : Event α} : e ∈ record es id ↔ e ∈ es ∧ e.call = id := by
  simp [record]

theorem record_append : record (xs ++ ys) id = record xs id ++ record ys id := List.filter_append ..

theorem record_own (own : ∀ e ∈ es, e.call = id) : record es id = es :=
  List.filter_eq_self.mpr fun e he => beq_iff_eq.mpr (own e he)

theorem record_other (own : ∀ e ∈ es, e.call = id) (other : i ≠ id) : record es i = [] := by
  refine List.filter_eq_nil_iff.mpr fun e he same => other ?_
  exact (beq_iff_eq.mp same).symm.trans (own e he)

theorem record_singleton (e : Event α) : record [e] id = if e.call = id then [e] else [] := by
  simp [record, List.filter_cons]

theorem Deal.own (deal : Deal id r a made) : ∀ e ∈ made, e.call = id := by
  cases deal with
  | put x lost =>
      intro e he
      rcases List.mem_append.mp he with gone | last
      · obtain ⟨y, _, rfl⟩ := List.mem_map.mp gone
        rfl
      · rw [List.mem_singleton.mp last]
        rfl
  | _ => simp [Event.call]

theorem Course.own {p' : Option (Phase α)} (course : Course q id r p es p') :
    ∀ e ∈ es, e.call = id := by
  cases course with
  | deals deal => exact deal.own
  | replies deal =>
      intro e he
      rcases List.mem_append.mp he with before | last
      · exact deal.own e before
      · rw [List.mem_singleton.mp last]
        rfl
  | _ => simp [Event.call]

theorem Course.stalls (course : Course q id r p es (some .parked)) : r.Stalls q := by
  cases course with
  | parks stalls => exact stalls

theorem Form.course {p' : Option (Phase α)} (form : Form id xs (some (r, p)))
    (course : Course q id r p ys p') : Form id (xs ++ ys) (p'.map fun p => (r, p)) := by
  cases course with
  | enters hp =>
      cases form with
      | pending _ => exact .pending trivial
      | answering _ => exact hp.elim
  | parks _ =>
      cases form with
      | pending _ => exact .pending trivial
  | deals deal =>
      cases form with
      | pending _ => exact .answering deal
  | stays =>
      cases form with
      | pending hp => exact hp.elim
      | answering deal => simpa using Form.answering deal
  | ends =>
      cases form with
      | pending hp => exact hp.elim
      | answering deal => exact .ended deal
  | replies deal =>
      cases form with
      | pending _ => exact .ended deal

theorem Form.cancel (form : Form id es (some (r, p))) (pending : p.Pending) :
    Form id (es ++ [.cancelled id]) none := by
  cases form with
  | pending _ => exact .cancelled r
  | answering _ => exact pending.elim

theorem Form.unborn_of {s : Option (Request α × Phase α)} (form : Form id es s)
    (absent : ∀ r, .begun id r ∉ es) : es = [] ∧ s = none := by
  cases form with
  | unborn => exact ⟨rfl, rfl⟩
  | _ => exact absurd List.mem_cons_self (absent _)

theorem lookup_enrol_some {lines : List (Nat × Request α × Phase α)} :
    (enrol id (some p) lines).lookup i
      = if i = id then (lines.lookup id).map fun s => (s.1, p) else lines.lookup i := by
  induction lines with
  | nil => simp [enrol]
  | cons l lines ih =>
      obtain ⟨j, r, o⟩ := l
      simp only [enrol, List.map_cons] at ih ⊢
      by_cases own : j = id
      · by_cases here : i = id
        · simp [own, here]
        · simpa [own, here, List.lookup_cons, beq_false_of_ne here] using ih
      · by_cases here : i = id
        · simpa [own, here, List.lookup_cons, beq_false_of_ne (Ne.symm own)] using ih
        · simp only [own, here, if_false] at ih ⊢
          rw [List.lookup_cons, List.lookup_cons, ih]

theorem lookup_enrol_none {lines : List (Nat × Request α × Phase α)} :
    (enrol id none lines).lookup i = if i = id then none else lines.lookup i := by
  induction lines with
  | nil => simp [enrol]
  | cons l lines ih =>
      obtain ⟨j, r, o⟩ := l
      simp only [enrol, List.filter_cons] at ih ⊢
      by_cases own : j = id
      · by_cases here : i = id
        · simpa [own, here] using ih
        · simpa [own, here, List.lookup_cons, beq_false_of_ne here] using ih
      · have kept : (j != id) = true := bne_iff_ne.mpr own
        simp only [kept, if_true, List.lookup_cons]
        rw [ih]
        by_cases here : i = id
        · simp [here, beq_false_of_ne (Ne.symm own)]
        · simp [here]

theorem lookup_start :
    (h.start id r).roll.lookup i
      = (h.roll.lookup i).or (if i = id then some (r, .calling) else none) := by
  rw [roll_start, List.lookup_append]
  by_cases here : i = id
  · simp [here]
  · simp [here, List.lookup_cons, beq_false_of_ne here]

theorem Tidy.lookup (ht : h.Tidy) (hc : c ∈ h.calls) :
    h.roll.lookup c.id = some (c.request, c.stage.phase) := by
  obtain ⟨before, after, calls⟩ := List.append_of_mem hc
  refine List.lookup_eq_some_iff.mpr ⟨before.map Call.line, after.map Call.line, ?_, ?_⟩
  · simp [roll, calls, Call.line]
  · have apart := ht.distinct
    simp only [calls, List.map_append, List.map_cons, List.nodup_append] at apart
    intro l hl
    obtain ⟨d, hd, rfl⟩ := List.mem_map.mp hl
    exact bne_iff_ne.mpr (apart.2.2 d.id (List.mem_map_of_mem hd) c.id List.mem_cons_self).symm

theorem park_course {k : Ticket} (hr : r.Stalls q) :
    ∃ p, Course q id r .calling [] p ∧ (h.park i k).roll = enrol i p h.roll := by
  cases k with
  | queued => exact ⟨some .parked, .parks hr, roll_setStage _⟩
  | _ => exact ⟨some .calling, .enters trivial, roll_setStage _⟩

theorem Deed.course (gated : c.stage.Gated → c.request.gate? = some c.request.side)
    (hd : Deed h c es t) :
    ∃ p, Course h.mailbox c.id c.request c.stage.phase es p ∧
      t.roll = enrol c.id p h.roll := by
  have taker {k : Ticket} (hs : c.stage = .checking k) (hr : ∀ y, c.request ≠ .put y) :
      c.request = .take := by
    have gate := gated (by simp [hs])
    cases hc : c.request <;> simp_all [Request.gate?]
  cases hd with
  | registered hs _ =>
      exact ⟨some .calling, .enters (by rw [hs]; trivial), roll_register⟩
  | polled hs hr _ =>
      refine ⟨_, ?_, roll_setStage _⟩
      rw [hs, hr]
      exact .deals (.takeNow _)
  | missed hs hr _ =>
      refine ⟨_, ?_, roll_conclude _⟩
      rw [hs, hr]
      exact .replies .missed
  | finished hs hr =>
      refine ⟨_, ?_, roll_setStage _⟩
      rw [hs, hr]
      exact .deals .finish
  | shut hs hr =>
      refine ⟨_, ?_, roll_setStage _⟩
      rw [hs, hr]
      exact .deals .close
  | reopened hs hr _ =>
      refine ⟨_, ?_, roll_conclude _⟩
      rw [hs, hr]
      exact .replies .reopen
  | unopened hs hr _ =>
      refine ⟨_, ?_, roll_conclude _⟩
      rw [hs, hr]
      exact .replies .unopened
  | accepted hs hr _ =>
      refine ⟨_, ?_, roll_setStage _⟩
      rw [hs, hr]
      exact .deals (.put _ _)
  | refused hs hr _ =>
      refine ⟨_, ?_, roll_setStage _⟩
      rw [hs, hr]
      exact .deals (.refused _)
  | taken hs hr _ =>
      refine ⟨_, ?_, roll_setStage _⟩
      rw [taker hs hr, hs]
      exact .deals (.take _)
  | drained hs hr _ =>
      refine ⟨_, ?_, roll_setStage _⟩
      rw [taker hs hr, hs]
      exact .deals .drained
  | crowded hs hr hm =>
      rw [hs, hr]
      exact park_course hm
  | starved hs hr hm =>
      rw [hs, taker hs hr]
      exact park_course hm
  | woken hs _ =>
      exact ⟨some .calling, .enters (by rw [hs]; trivial), roll_setStage _⟩
  | signalled hs =>
      refine ⟨_, ?_, roll_signal.trans (roll_setStage _)⟩
      rw [hs]
      exact .stays
  | left hs =>
      refine ⟨_, ?_, (roll_conclude _).trans (by rw [roll_release])⟩
      rw [hs]
      exact .ends
  | roused hs =>
      refine ⟨_, ?_, (roll_setStage _).trans (by rw [roll_signalAll])⟩
      rw [hs]
      exact .stays
  | settled hs =>
      refine ⟨_, ?_, roll_conclude _⟩
      rw [hs]
      exact .ends

theorem Accounted.step (before : Accounted xs h) (status : h.roll.lookup id = some (r, p))
    {p' : Option (Phase α)} (course : Course q id r p ys p') (after : t.roll = enrol id p' h.roll) :
    Accounted (xs ++ ys) t := by
  intro i
  rw [record_append, after]
  by_cases own : i = id
  · subst own
    have form := (status ▸ before i).course course
    rw [record_own course.own]
    cases p' with
    | none => simpa [lookup_enrol_none] using form
    | some p' => simpa [lookup_enrol_some, status] using form
  · have form := before i
    rw [record_other course.own own, List.append_nil]
    cases p' with
    | none => simpa [lookup_enrol_none, own] using form
    | some p' => simpa [lookup_enrol_some, own] using form

theorem Accounted.cancel (before : Accounted es h) (status : h.roll.lookup id = some (r, p))
    (pending : p.Pending) (after : t.roll = enrol id none h.roll) :
    Accounted (es ++ [.cancelled id]) t := by
  intro i
  have form := before i
  rw [record_append, after, lookup_enrol_none]
  by_cases own : i = id
  · subst own
    rw [status] at form
    simpa [record_singleton, Event.call] using form.cancel pending
  · simpa [record_singleton, Event.call, own, Ne.symm own] using form

theorem Accounted.begin (before : Accounted es h) (fresh : ∀ r, .begun id r ∉ es) :
    Accounted (es ++ [.begun id r]) (h.start id r) := by
  intro i
  have form := before i
  rw [record_append, lookup_start]
  by_cases own : i = id
  · subst own
    obtain ⟨none, gone⟩ := form.unborn_of fun r he => fresh r (mem_record.mp he).1
    simpa [none, gone, record_singleton, Event.call] using
      Form.pending (r := r) (p := .calling) trivial
  · simpa [record_singleton, Event.call, own, Ne.symm own] using form

theorem Run.accounted (run : Run capacity overflow es h) : h.Tidy ∧ Accounted es h := by
  induction run with
  | opened => exact ⟨tidy_empty, fun id => .unborn⟩
  | begun r _ fresh ih =>
      obtain ⟨tidy, accounts⟩ := ih
      refine ⟨tidy.start r ?_, accounts.begin fresh⟩
      rintro c hc rfl
      have unborn := (accounts c.id).unborn_of fun r he => fresh r (mem_record.mp he).1
      exact absurd (unborn.2.symm.trans (tidy.lookup hc)) nofun
  | @advanced es h t c _ hc ht ih =>
      obtain ⟨tidy, accounts⟩ := ih
      have deed := advance_deed ht
      obtain ⟨p, course, roll⟩ := deed.course (tidy.gated c hc)
      exact ⟨tidy.step hc deed, accounts.step (tidy.lookup hc) course roll⟩
  | cancelled _ ht ih =>
      obtain ⟨tidy, accounts⟩ := ih
      obtain ⟨c, hc, rfl, k, hs, rfl⟩ := cancel_eq ht
      refine ⟨tidy.withdraw hc (by rw [hs]; rfl), accounts.cancel (tidy.lookup hc) ?_ ?_⟩
      · rw [hs]
        trivial
      · exact roll_release.trans roll_drop

theorem Form.begun_mem (form : Form id es (some (r, p))) : .begun id r ∈ es := by
  cases form <;> exact List.mem_cons_self

theorem Form.head {s : Option (Request α × Phase α)} (form : Form id es s) :
    es = [] ∨ ∃ r rest, es = .begun id r :: rest ∧ ∀ r, .begun id r ∉ rest := by
  have unmade {r : Request α} {a : Answer α} {made : List (Event α)} (deal : Deal id r a made) :
      ∀ r, .begun id r ∉ made := by
    intro r
    cases deal <;> simp
  cases form with
  | unborn => exact Or.inl rfl
  | pending _ => exact Or.inr ⟨_, _, rfl, fun _ => List.not_mem_nil⟩
  | answering deal => exact Or.inr ⟨_, _, rfl, unmade deal⟩
  | ended deal => exact Or.inr ⟨_, _, rfl, fun r => by simpa using unmade deal r⟩
  | cancelled r => exact Or.inr ⟨_, _, rfl, by simp⟩

theorem Form.begins {s : Option (Request α × Phase α)} (form : Form id (xs ++ ys) s)
    (begun : .begun id r ∈ ys) : xs = [] := by
  rcases form.head with none | ⟨r', rest, first, unbegun⟩
  · exact (List.append_eq_nil_iff.mp none).1
  · cases xs with
    | nil => rfl
    | cons e xs =>
        obtain ⟨-, rfl⟩ := List.cons.inj first
        exact absurd (List.mem_append_right xs begun) (unbegun r)

def Waited (q : Mailbox α) (es : List (Event α)) (id : Nat) (r : Request α) : Prop :=
  ∃ xs ys, es = xs ++ ys ∧ .begun id r ∈ xs ∧ r.Stalls (replay q xs)

theorem Waited.append (waited : Waited q xs id r) : Waited q (xs ++ ys) id r := by
  obtain ⟨before, after, rfl, begun, stalls⟩ := waited
  exact ⟨before, after ++ ys, List.append_assoc .., begun, stalls⟩

theorem parked_before {o : Option (Phase α)} (after : t.roll = enrol i o h.roll)
    (parked : t.roll.lookup id = some (r, .parked)) :
    h.roll.lookup id = some (r, .parked) ∨
      id = i ∧ o = some .parked ∧ ∃ p, h.roll.lookup id = some (r, p) := by
  rw [after] at parked
  by_cases own : id = i
  · subst own
    cases o with
    | none => simp [lookup_enrol_none] at parked
    | some o =>
        simp only [lookup_enrol_some, if_true, Option.map_eq_some_iff, Prod.mk.injEq] at parked
        obtain ⟨⟨r', p⟩, status, rfl, rfl⟩ := parked
        exact Or.inr ⟨rfl, rfl, p, status⟩
  · cases o with
    | none => exact Or.inl (by simpa [lookup_enrol_none, own] using parked)
    | some o => exact Or.inl (by simpa [lookup_enrol_some, own] using parked)

theorem Run.waited (run : Run capacity overflow es h)
    (parked : h.roll.lookup id = some (r, .parked)) : Waited (.empty capacity overflow) es id r := by
  induction run with
  | opened => exact absurd parked nofun
  | begun r' _ _ ih =>
      rw [lookup_start] at parked
      rcases Option.or_eq_some_iff.mp parked with old | ⟨-, new⟩
      · exact (ih old).append
      · split at new <;> cases new
  | @advanced es h t c run hc ht ih =>
      obtain ⟨tidy, accounts⟩ := run.accounted
      obtain ⟨o, course, after⟩ := (advance_deed ht).course (tidy.gated c hc)
      rcases parked_before after parked with old | ⟨rfl, rfl, p, status⟩
      · exact (ih old).append
      · have request : c.request = r := by
          have both := (tidy.lookup hc).symm.trans status
          exact (Prod.mk.inj (Option.some.inj both)).1
        have begun : .begun c.id r ∈ es := (mem_record.mp (status ▸ accounts c.id).begun_mem).1
        refine ⟨es, _, rfl, begun, ?_⟩
        rw [← run.lawful.2, ← request]
        exact course.stalls
  | cancelled run ht ih =>
      obtain ⟨c, hc, rfl, k, _, rfl⟩ := cancel_eq ht
      rcases parked_before (roll_release.trans roll_drop) parked with old | ⟨_, none, _⟩
      · exact (ih old).append
      · cases none

end MarketWire.Stream.Handover
