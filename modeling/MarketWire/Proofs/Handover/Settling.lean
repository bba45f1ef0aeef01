import MarketWire.Proofs.Handover.Wakeup

namespace MarketWire.Stream.Handover

variable {α : Type} {h t : Handover α} {c : Call α} {id : Nat} {side : Side} {k : Ticket}
  {es : List (Event α)} {capacity : Nat} {overflow : Overflow}

def Goes (t h : Handover α) : Prop :=
  (∃ c ∈ h.calls, h.advance c = some t) ∨ ∃ id, h.cancel id = (t, true)

def Call.rank (c : Call α) : Nat :=
  match c.stage with
  | .entering => 4
  | .checking _ => 4
  | .parked _ => 4
  | .signalling _ _ _ => 2
  | .leaving _ _ => 1
  | .rousing sides _ => sides.length + 1

def Call.toil (c : Call α) : Nat :=
  match c.stage with
  | .entering => 2
  | .checking .queued => 1
  | .checking _ => 3
  | .parked .queued => 0
  | .parked _ => 3
  | _ => 0

def permits (h : Handover α) : Nat :=
  (if h.readable.permit then 2 else 0) + if h.writable.permit then 2 else 0

def burden (h : Handover α) : Nat × Nat := (tally Call.rank h, tally Call.toil h + h.permits)

theorem blind_rank : Blind (Call.rank : Call α → Nat) := by
  intro c k
  cases hs : c.stage <;> simp [Call.rank, withTicket, hs]

theorem Tidy.rank_setStage (ht : h.Tidy) (hc : c ∈ h.calls) {q : Mailbox α} {s : Stage α}
    (less : Call.rank { c with stage := s } < c.rank) :
    tally Call.rank ({ h with mailbox := q }.setStage c.id s) < tally Call.rank h := by
  have change : tally Call.rank ({ h with mailbox := q }.setStage c.id s) + c.rank
      = tally Call.rank h + _ := (ht.mailbox q).tally_setStage hc
  omega

theorem Tidy.rank_drop (ht : h.Tidy) (hc : c ∈ h.calls) :
    tally Call.rank (h.drop c.id) < tally Call.rank h := by
  have change : tally Call.rank (h.drop c.id) + c.rank = _ := ht.tally_drop hc
  have positive : 0 < c.rank := by
    cases hs : c.stage <;> simp [Call.rank, hs]
  omega

theorem Tidy.toil_setStage (ht : h.Tidy) (hc : c ∈ h.calls) {s : Stage α}
    (same : Call.rank { c with stage := s } = c.rank)
    (less : Call.toil { c with stage := s } < c.toil) :
    Prod.Lex (· < ·) (· < ·) (h.setStage c.id s).burden h.burden := by
  have ranks : tally Call.rank (h.setStage c.id s) + c.rank = tally Call.rank h + _ :=
    ht.tally_setStage hc
  have toils : tally Call.toil (h.setStage c.id s) + c.toil = tally Call.toil h + _ :=
    ht.tally_setStage hc
  have equal : tally Call.rank (h.setStage c.id s) = tally Call.rank h := by omega
  rw [burden, burden, equal]
  refine Prod.Lex.right _ ?_
  change _ + h.permits < _
  omega

theorem permits_register :
    (h.register side id).permits + (if (h.turnstile side).permit then 2 else 0) = h.permits := by
  simp only [register, Turnstile.enter]
  cases side <;> split <;> simp_all [permits, setTurnstile, setStage, turnstile, Nat.add_comm]

theorem Tidy.register_lightens (ht : h.Tidy) (hc : c ∈ h.calls) (hs : c.stage = .entering) :
    Prod.Lex (· < ·) (· < ·) (h.register side c.id).burden h.burden := by
  let k : Ticket := if (h.turnstile side).permit then .spent else .queued
  have entered (f : Call α → Nat) :
      tally f (h.register side c.id) + f c = tally f h + f { c with stage := .checking k } := by
    rw [tally_register]
    exact ht.tally_setStage hc
  have equal : tally Call.rank (h.register side c.id) = tally Call.rank h := by
    have ranks := entered Call.rank
    simp only [Call.rank, hs] at ranks
    exact Nat.add_right_cancel ranks
  have toils := entered Call.toil
  have spent : (h.register side c.id).permits + _ = _ := permits_register
  rw [burden, burden, equal]
  refine Prod.Lex.right _ ?_
  cases permit : (h.turnstile side).permit <;>
    simp [Call.toil, hs, k, permit] at toils spent <;> omega

theorem Tidy.park_lightens (ht : h.Tidy) (hc : c ∈ h.calls) (hs : c.stage = .checking k) :
    Prod.Lex (· < ·) (· < ·) (h.park c.id k).burden h.burden := by
  cases k <;> exact ht.toil_setStage hc (by simp [Call.rank, hs]) (by simp [Call.toil, hs])

theorem Deed.lightens (ht : h.Tidy) (hc : c ∈ h.calls) (hd : Deed h c es t) :
    Prod.Lex (· < ·) (· < ·) t.burden h.burden := by
  have onward (q : Mailbox α) {s : Stage α} (less : Call.rank { c with stage := s } < c.rank) :
      Prod.Lex (· < ·) (· < ·) ({ h with mailbox := q }.setStage c.id s).burden h.burden :=
    .left _ _ (ht.rank_setStage hc less)
  have gone {u : Handover α} (same : tally Call.rank u = tally Call.rank (h.drop c.id)) :
      Prod.Lex (· < ·) (· < ·) u.burden h.burden :=
    .left _ _ (same ▸ ht.rank_drop hc)
  cases hd with
  | registered hs _ => exact ht.register_lightens hc hs
  | polled hs _ _ => exact onward _ (by simp [Call.rank, hs])
  | missed _ _ _ => exact gone rfl
  | finished hs _ => exact onward _ (by simp [Call.rank, hs])
  | shut hs _ => exact onward _ (by simp [Call.rank, hs])
  | reopened _ _ _ => exact gone rfl
  | unopened _ _ _ => exact gone rfl
  | accepted hs _ _ => exact onward _ (by simp [Call.rank, hs])
  | refused hs _ _ => exact onward h.mailbox (by simp [Call.rank, hs])
  | taken hs _ _ => exact onward _ (by simp [Call.rank, hs])
  | drained hs _ _ => exact onward h.mailbox (by simp [Call.rank, hs])
  | crowded hs _ _ => exact ht.park_lightens hc hs
  | starved hs _ _ => exact ht.park_lightens hc hs
  | @woken k hs hk =>
      refine ht.toil_setStage hc (by simp [Call.rank, hs]) ?_
      cases k <;> simp_all [Call.toil]
  | @signalled side a k hs =>
      refine .left _ _ ?_
      rw [blind_rank.tally_signal]
      exact ht.rank_setStage (q := h.mailbox) hc (by simp [Call.rank, hs])
  | @left a k hs =>
      refine gone ?_
      change tally Call.rank ((h.release c.request.side c.id k).drop c.id) = _
      rw [drop_release, blind_rank.tally_release]
  | @roused side sides a hs =>
      have idle : ¬ c.stage.Queued := by simp [hs]
      have here : c ∈ (h.signalAll side).calls := mem_signalAll hc (ht.not_waiting hc idle)
      refine .left _ _ ?_
      have less : tally Call.rank ((h.signalAll side).setStage c.id (.rousing sides a)) < _ :=
        ht.signalAll.rank_setStage (q := (h.signalAll side).mailbox) here (by simp [Call.rank, hs])
      rwa [blind_rank.tally_signalAll] at less
  | settled _ => exact gone rfl

theorem Goes.lightens (ht : h.Tidy) (goes : Goes t h) :
    Prod.Lex (· < ·) (· < ·) t.burden h.burden ∧ t.Tidy := by
  rcases goes with ⟨c, hc, hd⟩ | ⟨id, hd⟩
  · exact ⟨(advance_deed hd).lightens ht hc, ht.step hc (advance_deed hd)⟩
  · obtain ⟨c, hc, rfl, k, hs, rfl⟩ := cancel_eq hd
    refine ⟨.left _ _ ?_, ht.withdraw hc (by rw [hs]; rfl)⟩
    rw [blind_rank.tally_release]
    exact ht.rank_drop hc

theorem Tidy.settles (ht : h.Tidy) : Acc Goes h := by
  have order : WellFounded (Prod.Lex (· < ·) (· < ·) : Nat × Nat → Nat × Nat → Prop) :=
    (Prod.lex Nat.lt_wfRel Nat.lt_wfRel).wf
  generalize hb : h.burden = b
  induction b using order.induction generalizing h with
  | _ b ih =>
      refine Acc.intro h fun t goes => ?_
      obtain ⟨less, tidy⟩ := goes.lightens ht
      exact ih t.burden (hb ▸ less) tidy rfl

def Quiet (h : Handover α) : Prop := ∀ c ∈ h.calls, h.advance c = none

structure Rests (capacity : Nat) (overflow : Overflow) (h : Handover α) : Prop where
  parked : ∀ c ∈ h.calls, c.stage = .parked .queued ∧ (c.request = .take ∨ ∃ x, c.request = .put x)
  takes : (∃ c ∈ h.calls, c.request = .take) →
    h.mailbox.items = [] ∧ h.mailbox.finished = false ∧ h.mailbox.closed = false
  puts : (∃ c ∈ h.calls, ∃ x, c.request = .put x) →
    overflow = .wait ∧ h.mailbox.length = max capacity 1 ∧
      h.mailbox.finished = false ∧ h.mailbox.closed = false
  apart : ¬ ((∃ c ∈ h.calls, c.request = .take) ∧ ∃ c ∈ h.calls, ∃ x, c.request = .put x)

theorem quiet_of_parked (parked : h.calls.all Call.isParked = true) : h.Quiet := by
  intro c hc
  have stage := List.all_eq_true.mp parked c hc
  simp only [Call.isParked] at stage
  split at stage
  · next hs => simp [advance, hs]
  · cases stage

theorem parked_of_quiet (quiet : h.advance c = none) : c.stage = .parked .queued := by
  cases hs : c.stage with
  | parked k => cases k <;> simp_all [advance]
  | rousing sides a => cases sides <;> simp [advance, hs] at quiet
  | _ => simp [advance, hs] at quiet

theorem Run.starved (run : Run capacity overflow es h) (quiet : h.Quiet) (hc : c ∈ h.calls)
    (hr : c.request.gate? = some side) :
    h.mailbox.closed = false ∧ h.mailbox.finished = false ∧ h.mailbox.supply side = 0 := by
  have waiting : 0 < tally (Call.waits side) h :=
    tally_pos.mpr ⟨c, hc, by simp [Call.waits, parked_of_quiet (quiet c hc), hr]⟩
  have nobody : tally (Call.rouses side) h = 0 := tally_zero fun d hd => by
    simp [Call.rouses, parked_of_quiet (quiet d hd)]
  have helpless : tally (Call.help side) h = 0 := tally_zero fun d hd => by
    rw [help_parked (parked_of_quiet (quiet d hd))]
    simp
  rcases run.watched side waiting with roused | ⟨closed, finished, enough⟩
  · omega
  · exact ⟨closed, finished, by omega⟩

theorem Run.waits_of_parked (run : Run capacity overflow es h) (hc : c ∈ h.calls)
    (hs : c.stage = .parked k) {x : α} (hr : c.request = .put x) : overflow = .wait := by
  have status := run.accounted.1.lookup hc
  rw [hs, hr] at status
  obtain ⟨xs, ys, rfl, _, stalls⟩ := run.waited status
  have fits := (lawful_append.mp run.lawful.1).1.bounded (Nat.zero_le _)
  have positive : 0 < (Mailbox.empty capacity overflow : Mailbox α).capacity :=
    Nat.lt_of_lt_of_le Nat.one_pos (Nat.le_max_right capacity 1)
  have waits := Mailbox.waits_of_offer stalls (by simpa using fits) (by simpa using positive)
  rw [overflow_replay] at waits
  exact waits

theorem Run.rests (run : Run capacity overflow es h) (quiet : h.Quiet) :
    Rests capacity overflow h := by
  obtain ⟨tidy, _⟩ := run.accounted
  obtain ⟨legal, mailbox⟩ := run.lawful
  have bounded : h.mailbox.items.length ≤ max capacity 1 := by
    rw [mailbox]
    exact legal.bounded (Nat.zero_le _)
  have capacity' : h.mailbox.capacity = max capacity 1 := by
    rw [mailbox, capacity_replay]
    rfl
  have takes : (∃ c ∈ h.calls, c.request = .take) →
      h.mailbox.items = [] ∧ h.mailbox.finished = false ∧ h.mailbox.closed = false := by
    rintro ⟨c, hc, hr⟩
    have gate : c.request.gate? = some .readable := by rw [hr]; rfl
    obtain ⟨closed, finished, none⟩ := run.starved quiet hc gate
    exact ⟨List.length_eq_zero_iff.mp none, finished, closed⟩
  have puts : (∃ c ∈ h.calls, ∃ x, c.request = .put x) →
      overflow = .wait ∧ h.mailbox.length = max capacity 1 ∧
        h.mailbox.finished = false ∧ h.mailbox.closed = false := by
    rintro ⟨c, hc, x, hr⟩
    have gate : c.request.gate? = some .writable := by rw [hr]; rfl
    obtain ⟨closed, finished, none⟩ := run.starved quiet hc gate
    have full : h.mailbox.capacity - h.mailbox.items.length = 0 := none
    refine ⟨run.waits_of_parked hc (parked_of_quiet (quiet c hc)) hr, ?_, finished, closed⟩
    change h.mailbox.items.length = _
    omega
  refine ⟨?_, takes, puts, ?_⟩
  · intro c hc
    have stage := parked_of_quiet (quiet c hc)
    have gate := tidy.gated c hc (by simp [stage])
    refine ⟨stage, ?_⟩
    cases hr : c.request <;> simp_all [Request.gate?]
  · rintro ⟨taking, putting⟩
    have full := (puts putting).2.1
    rw [Mailbox.length, (takes taking).1, List.length_nil] at full
    omega

theorem run_settles (run : Run capacity overflow es h) :
    Acc Goes h ∧ (h.Quiet → Rests capacity overflow h) :=
  ⟨run.accounted.1.settles, run.rests⟩

def succession : List (Move Nat) :=
  [.start 0 .take, .advance 0, .advance 0, .start 1 .take, .advance 1, .advance 1,
    .start 2 (.put 7), .advance 2, .advance 2, .advance 2, .advance 2, .cancel 0, .advance 1,
    .advance 1, .advance 1, .advance 1, .advance 1, .start 3 .take, .advance 3, .advance 3]

theorem succession_settles :
    ∃ s, play ([], .empty 2 .wait) succession = some s ∧
      s.2.answers = [(2, .done true), (1, .got (some 7))] ∧
      s.2.calls = [⟨3, .take, .parked .queued⟩] ∧
      Acc Goes s.2 ∧ Rests 2 .wait s.2 := by
  have played : (play ([], .empty 2 .wait) succession).map (fun s => (s.2.answers, s.2.calls))
      = some ([(2, .done true), (1, .got (some 7))], [⟨3, .take, .parked .queued⟩]) := rfl
  obtain ⟨s, hs, same⟩ := Option.map_eq_some_iff.mp played
  obtain ⟨answers, calls⟩ := Prod.mk.inj same
  have settles := run_settles (Run.opened.play hs)
  exact ⟨s, hs, answers, calls, settles.1, settles.2 (quiet_of_parked (by rw [calls]; rfl))⟩

end MarketWire.Stream.Handover
