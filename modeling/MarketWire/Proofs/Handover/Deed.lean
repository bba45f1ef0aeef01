import MarketWire.Proofs.Queue
import MarketWire.Stream.Handover

namespace MarketWire.Stream.Handover

variable {α : Type}

inductive Event (α : Type) where
  | begun (id : Nat) (r : Request α)
  | accepted (id : Nat) (x : α)
  | dropped (id : Nat) (x : α)
  | returned (id : Nat) (x : α)
  | finished (id : Nat)
  | reopened (id : Nat)
  | shut (id : Nat)
  | ended (id : Nat) (a : Answer α)
  | cancelled (id : Nat)
  deriving DecidableEq, Repr

def Event.call : Event α → Nat
  | .begun id _ => id
  | .accepted id _ => id
  | .dropped id _ => id
  | .returned id _ => id
  | .finished id => id
  | .reopened id => id
  | .shut id => id
  | .ended id _ => id
  | .cancelled id => id

def overflowing (q : Mailbox α) : List α :=
  if q.capacity ≤ q.items.length ∧ q.overflow = .dropOldest then q.items.take 1 else []

def enterEvents (h : Handover α) (c : Call α) : List (Event α) :=
  match c.request with
  | .takeNow =>
      match h.mailbox.takeNow with
      | (some x, _) => [.returned c.id x]
      | (none, _) => [.ended c.id (.got none)]
  | .finish => [.finished c.id]
  | .close => [.shut c.id]
  | .reopen =>
      if h.mailbox.closed then [.ended c.id (.done false)]
      else [.reopened c.id, .ended c.id (.done true)]
  | _ => []

def checkEvents (h : Handover α) (c : Call α) : List (Event α) :=
  match c.request with
  | .put x =>
      match h.mailbox.offer x with
      | .taken _ => (overflowing h.mailbox).map (.dropped c.id) ++ [.accepted c.id x]
      | _ => []
  | _ =>
      match h.mailbox.take with
      | .item x _ => [.returned c.id x]
      | _ => []

def events (h : Handover α) (c : Call α) : List (Event α) :=
  match c.stage with
  | .entering => h.enterEvents c
  | .checking _ => h.checkEvents c
  | .leaving a _ => [.ended c.id a]
  | .rousing [] a => [.ended c.id a]
  | _ => []

inductive Run (capacity : Nat) (overflow : Overflow) : List (Event α) → Handover α → Prop where
  | opened : Run capacity overflow [] (.empty capacity overflow)
  | begun {es : List (Event α)} {h : Handover α} {id : Nat} (r : Request α) :
      Run capacity overflow es h → (∀ r, .begun id r ∉ es) →
      Run capacity overflow (es ++ [.begun id r]) (h.start id r)
  | advanced {es : List (Event α)} {h t : Handover α} {c : Call α} :
      Run capacity overflow es h → c ∈ h.calls → h.advance c = some t →
      Run capacity overflow (es ++ h.events c) t
  | cancelled {es : List (Event α)} {h t : Handover α} {id : Nat} :
      Run capacity overflow es h → h.cancel id = (t, true) →
      Run capacity overflow (es ++ [.cancelled id]) t

inductive Move (α : Type) where
  | start (id : Nat) (r : Request α)
  | advance (id : Nat)
  | cancel (id : Nat)
  deriving DecidableEq, Repr

def move (s : List (Event α) × Handover α) : Move α → Option (List (Event α) × Handover α)
  | .start id r =>
      if id ∈ s.1.map Event.call then none else some (s.1 ++ [.begun id r], s.2.start id r)
  | .advance id => do
      let c ← s.2.call? id
      let t ← s.2.advance c
      return (s.1 ++ s.2.events c, t)
  | .cancel id =>
      match s.2.cancel id with
      | (t, true) => some (s.1 ++ [.cancelled id], t)
      | (_, false) => none

def play (s : List (Event α) × Handover α) : List (Move α) → Option (List (Event α) × Handover α)
  | [] => some s
  | m :: ms => (move s m).bind fun t => play t ms

theorem Run.move {capacity : Nat} {overflow : Overflow} {m : Move α}
    {s t : List (Event α) × Handover α} (run : Run capacity overflow s.1 s.2)
    (ht : move s m = some t) : Run capacity overflow t.1 t.2 := by
  cases m with
  | start id r =>
      simp only [Handover.move] at ht
      split at ht
      · cases ht
      · next fresh =>
          cases ht
          exact .begun r run fun r he => fresh (List.mem_map.mpr ⟨_, he, rfl⟩)
  | advance id =>
      obtain ⟨c, hc, rest⟩ := Option.bind_eq_some_iff.mp ht
      obtain ⟨u, hu, last⟩ := Option.bind_eq_some_iff.mp rest
      cases last
      exact .advanced run (List.mem_of_find?_eq_some hc) hu
  | cancel id =>
      simp only [Handover.move] at ht
      split at ht
      · next u hu =>
          cases ht
          exact .cancelled run hu
      · cases ht

theorem Run.play {capacity : Nat} {overflow : Overflow} {ms : List (Move α)}
    {s t : List (Event α) × Handover α} (run : Run capacity overflow s.1 s.2)
    (ht : play s ms = some t) : Run capacity overflow t.1 t.2 := by
  induction ms generalizing s with
  | nil =>
      cases ht
      exact run
  | cons m ms ih =>
      obtain ⟨u, hu, rest⟩ := Option.bind_eq_some_iff.mp ht
      exact ih (run.move hu) rest

def Request.gate? : Request α → Option Side
  | .put _ => some .writable
  | .take => some .readable
  | _ => none

inductive Deed (h : Handover α) (c : Call α) : List (Event α) → Handover α → Prop where
  | registered {side : Side} :
      c.stage = .entering → c.request.gate? = some side → Deed h c [] (h.register side c.id)
  | polled {x : α} {q : Mailbox α} :
      c.stage = .entering → c.request = .takeNow → h.mailbox.take = .item x q →
      Deed h c [.returned c.id x]
        ({ h with mailbox := q }.setStage c.id (.signalling .writable (.got (some x)) .spent))
  | missed :
      c.stage = .entering → c.request = .takeNow → h.mailbox.closed = true ∨ h.mailbox.items = [] →
      Deed h c [.ended c.id (.got none)] (h.conclude c.id (.got none))
  | finished :
      c.stage = .entering → c.request = .finish →
      Deed h c [.finished c.id]
        ({ h with mailbox := h.mailbox.finish }.setStage c.id
          (.rousing [.readable, .writable] .none))
  | shut :
      c.stage = .entering → c.request = .close →
      Deed h c [.shut c.id]
        ({ h with mailbox := h.mailbox.close }.setStage c.id
          (.rousing [.readable, .writable] .none))
  | reopened :
      c.stage = .entering → c.request = .reopen → h.mailbox.closed = false →
      Deed h c [.reopened c.id, .ended c.id (.done true)]
        ({ h with mailbox := { h.mailbox with finished := false } }.conclude c.id (.done true))
  | unopened :
      c.stage = .entering → c.request = .reopen → h.mailbox.closed = true →
      Deed h c [.ended c.id (.done false)] (h.conclude c.id (.done false))
  | accepted {x : α} {t : Ticket} {q : Mailbox α} :
      c.stage = .checking t → c.request = .put x → h.mailbox.offer x = .taken q →
      Deed h c ((overflowing h.mailbox).map (.dropped c.id) ++ [.accepted c.id x])
        ({ h with mailbox := q }.setStage c.id (.signalling .readable (.done true) t))
  | refused {x : α} {t : Ticket} :
      c.stage = .checking t → c.request = .put x → h.mailbox.offer x = .refused →
      Deed h c [] (h.setStage c.id (.leaving (.done false) t))
  | taken {x : α} {t : Ticket} {q : Mailbox α} :
      c.stage = .checking t → (∀ y, c.request ≠ .put y) → h.mailbox.take = .item x q →
      Deed h c [.returned c.id x]
        ({ h with mailbox := q }.setStage c.id (.signalling .writable (.got (some x)) t))
  | drained {t : Ticket} :
      c.stage = .checking t → (∀ y, c.request ≠ .put y) → h.mailbox.take = .ended →
      Deed h c [] (h.setStage c.id (.leaving (.got none) t))
  | crowded {x : α} {t : Ticket} :
      c.stage = .checking t → c.request = .put x → h.mailbox.offer x = .wait →
      Deed h c [] (h.park c.id t)
  | starved {t : Ticket} :
      c.stage = .checking t → (∀ y, c.request ≠ .put y) → h.mailbox.take = .wait →
      Deed h c [] (h.park c.id t)
  | woken {t : Ticket} :
      c.stage = .parked t → t ≠ .queued → Deed h c [] (h.setStage c.id .entering)
  | signalled {side : Side} {a : Answer α} {t : Ticket} :
      c.stage = .signalling side a t →
      Deed h c [] ((h.setStage c.id (.leaving a t)).signal side)
  | left {a : Answer α} {t : Ticket} :
      c.stage = .leaving a t →
      Deed h c [.ended c.id a] ((h.release c.request.side c.id t).conclude c.id a)
  | roused {side : Side} {sides : List Side} {a : Answer α} :
      c.stage = .rousing (side :: sides) a →
      Deed h c [] ((h.signalAll side).setStage c.id (.rousing sides a))
  | settled {a : Answer α} :
      c.stage = .rousing [] a → Deed h c [.ended c.id a] (h.conclude c.id a)

variable {h t : Handover α} {c : Call α}

theorem enter_deed (hc : c.stage = .entering) : Deed h c (h.enterEvents c) (h.enter c) := by
  cases hr : c.request with
  | put x =>
      simp only [enterEvents, enter, hr]
      exact .registered hc (by rw [hr]; rfl)
  | take =>
      simp only [enterEvents, enter, hr]
      exact .registered hc (by rw [hr]; rfl)
  | takeNow =>
      simp only [enterEvents, enter, hr]
      cases hm : h.mailbox.takeNow with
      | mk found q =>
          cases found with
          | some x => exact .polled hc hr (Mailbox.takeNow_some hm)
          | none => exact .missed hc hr (Mailbox.takeNow_none hm)
  | finish =>
      simp only [enterEvents, enter, hr]
      exact .finished hc hr
  | reopen =>
      simp only [enterEvents, enter, hr, Mailbox.reopen]
      split
      · next closed => exact .unopened hc hr closed
      · next open' => exact .reopened hc hr (Bool.eq_false_iff.mpr open')
  | close =>
      simp only [enterEvents, enter, hr]
      exact .shut hc hr

theorem check_deed {k : Ticket} (hc : c.stage = .checking k) :
    Deed h c (h.checkEvents c) (h.check c k) := by
  cases hr : c.request with
  | put x =>
      simp only [checkEvents, check, hr]
      cases hm : h.mailbox.offer x with
      | taken q => exact .accepted hc hr hm
      | refused => exact .refused hc hr hm
      | wait => exact .crowded hc hr hm
  | _ =>
      have taker : ∀ y, c.request ≠ .put y := by simp [hr]
      simp only [checkEvents, check, hr]
      cases hm : h.mailbox.take with
      | item x q => exact .taken hc taker hm
      | ended => exact .drained hc taker hm
      | wait => exact .starved hc taker hm

theorem advance_deed (ht : h.advance c = some t) : Deed h c (h.events c) t := by
  cases hc : c.stage with
  | entering =>
      simp only [advance, events, hc, Option.some.injEq] at ht ⊢
      exact ht ▸ enter_deed hc
  | checking k =>
      simp only [advance, events, hc, Option.some.injEq] at ht ⊢
      exact ht ▸ check_deed hc
  | parked k =>
      cases k <;> simp only [advance, events, hc, Option.some.injEq, reduceCtorEq] at ht ⊢
      · exact ht ▸ .woken hc (by simp)
      · exact ht ▸ .woken hc (by simp)
  | signalling side a k =>
      simp only [advance, events, hc, Option.some.injEq] at ht ⊢
      exact ht ▸ .signalled hc
  | leaving a k =>
      simp only [advance, events, hc, Option.some.injEq] at ht ⊢
      exact ht ▸ .left hc
  | rousing sides a =>
      cases sides <;> simp only [advance, events, hc, Option.some.injEq] at ht ⊢
      · exact ht ▸ .settled hc
      · exact ht ▸ .roused hc

theorem cancel_eq {id : Nat} (ht : h.cancel id = (t, true)) :
    ∃ c ∈ h.calls, c.id = id ∧ ∃ k, c.stage = .parked k ∧
      t = { h with calls := h.calls.filter fun d => d.id != c.id }.release c.request.side c.id k := by
  simp only [cancel] at ht
  split at ht
  · next c found =>
      have same : c.id = id := by simpa using List.find?_some found
      split at ht
      · next k hc =>
          obtain ⟨rfl, _⟩ := Prod.mk.inj ht
          exact ⟨c, List.mem_of_find?_eq_some found, same, k, hc, by rw [same]⟩
      · simp at ht
  · simp at ht

end MarketWire.Stream.Handover
