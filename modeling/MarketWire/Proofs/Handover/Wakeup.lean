import MarketWire.Proofs.Handover.Account
import MarketWire.Proofs.Handover.Tally

namespace MarketWire.Stream

def Mailbox.supply {α : Type} (q : Mailbox α) : Handover.Side → Nat
  | .readable => q.items.length
  | .writable => q.capacity - q.items.length

namespace Handover

variable {α : Type} {h t : Handover α} {c d : Call α} {id : Nat} {side side' : Side} {k : Ticket}
  {q : Mailbox α} {s : Stage α} {es : List (Event α)}

namespace Call

def looks (side : Side) (c : Call α) : Nat :=
  match c.stage with
  | .entering => if c.request.gate? = some side then 1 else 0
  | .checking _ => if c.request.gate? = some side then 1 else 0
  | _ => 0

def called (side : Side) (c : Call α) : Nat :=
  if c.request.side = side ∧ c.stage.ticket? = some .called then 1 else 0

def signals (side : Side) (c : Call α) : Nat :=
  match c.stage with
  | .signalling side' _ _ => if side' = side then 1 else 0
  | _ => 0

def help (side : Side) (c : Call α) : Nat := c.looks side + c.called side + c.signals side

def waits (side : Side) (c : Call α) : Nat :=
  match c.stage with
  | .parked .queued => if c.request.gate? = some side then 1 else 0
  | _ => 0

def rouses (side : Side) (c : Call α) : Nat :=
  match c.stage with
  | .rousing sides _ => if side ∈ sides then 1 else 0
  | _ => 0

end Call

def Watched (h : Handover α) (side : Side) (due : Nat) : Prop :=
  0 < tally (Call.waits side) h →
    0 < tally (Call.rouses side) h ∨
      h.mailbox.closed = false ∧ h.mailbox.finished = false ∧
        h.mailbox.supply side ≤ tally (Call.help side) h + due

theorem help_entering (hs : c.stage = .entering) :
    c.help side = if c.request.gate? = some side then 1 else 0 := by
  simp [Call.help, Call.looks, Call.called, Call.signals, Stage.ticket?, hs]

theorem help_checking (hs : c.stage = .checking k) :
    c.help side = (if c.request.gate? = some side then 1 else 0)
      + if c.request.side = side ∧ k = .called then 1 else 0 := by
  simp [Call.help, Call.looks, Call.called, Call.signals, Stage.ticket?, hs]

theorem help_parked (hs : c.stage = .parked k) :
    c.help side = if c.request.side = side ∧ k = .called then 1 else 0 := by
  simp [Call.help, Call.looks, Call.called, Call.signals, Stage.ticket?, hs]

theorem help_signalling {a : Answer α} (hs : c.stage = .signalling side' a k) :
    c.help side = (if c.request.side = side ∧ k = .called then 1 else 0)
      + if side' = side then 1 else 0 := by
  simp [Call.help, Call.looks, Call.called, Call.signals, Stage.ticket?, hs]

theorem help_leaving {a : Answer α} (hs : c.stage = .leaving a k) :
    c.help side = if c.request.side = side ∧ k = .called then 1 else 0 := by
  simp [Call.help, Call.looks, Call.called, Call.signals, Stage.ticket?, hs]

theorem help_rousing {sides : List Side} {a : Answer α} (hs : c.stage = .rousing sides a) :
    c.help side = 0 := by
  simp [Call.help, Call.looks, Call.called, Call.signals, Stage.ticket?, hs]

theorem blind_looks : Blind (Call.looks side : Call α → Nat) := by
  intro c k
  cases hs : c.stage <;> simp [Call.looks, withTicket, hs]

theorem blind_signals : Blind (Call.signals side : Call α → Nat) := by
  intro c k
  cases hs : c.stage <;> simp [Call.signals, withTicket, hs]

theorem blind_rouses : Blind (Call.rouses side : Call α → Nat) := by
  intro c k
  cases hs : c.stage <;> simp [Call.rouses, withTicket, hs]

theorem waits_withTicket (hk : k ≠ .queued) :
    Call.waits side { c with stage := withTicket k c.stage } ≤ c.waits side := by
  cases hs : c.stage <;> simp [Call.waits, withTicket, hs]
  cases k <;> simp_all

theorem help_called (here : c.request.side = side) (queued : c.stage.Queued) :
    Call.help side { c with stage := withTicket .called c.stage } = c.help side + 1 := by
  have called : Call.called side { c with stage := withTicket .called c.stage } = 1 ∧
      c.called side = 0 := by
    have ticket : c.stage.ticket? = some .queued := queued
    cases hs : c.stage <;> simp_all [Call.called, withTicket, Stage.ticket?]
  rw [Call.help, Call.help, blind_looks, blind_signals, called.1, called.2]
  omega

theorem help_away (away : c.request.side ≠ side) :
    Call.help side { c with stage := withTicket k c.stage } = c.help side := by
  rw [Call.help, Call.help, blind_looks, blind_signals]
  simp [Call.called, away]

theorem Tidy.waits_zero (ht : h.Tidy) (nobody : (h.turnstile side).waiting = []) :
    tally (Call.waits side) h = 0 := by
  refine tally_zero fun c hc => ?_
  by_contra waiting
  have here : c.request.gate? = some side ∧ c.stage = .parked .queued := by
    revert waiting
    simp only [Call.waits]
    split
    · next hs =>
        intro waiting
        refine ⟨?_, hs⟩
        by_contra other
        simp [other] at waiting
    · simp
  have inside := (ht.registered c hc side).mpr ⟨gate_side here.1, by simp [here.2]⟩
  simp [nobody] at inside

theorem Tidy.waits_signal (ht : h.Tidy) :
    tally (Call.waits side') (h.signal side) ≤ tally (Call.waits side') h := by
  rcases ht.tally_signal side with ⟨_, same⟩ | ⟨d, _, _, _, change⟩
  · exact Nat.le_of_eq (same _)
  · have both := change (Call.waits side')
    have less : Call.waits side' { d with stage := withTicket .called d.stage } ≤ d.waits side' :=
      waits_withTicket nofun
    omega

theorem Tidy.help_signal_away (ht : h.Tidy) (away : side' ≠ side) :
    tally (Call.help side') (h.signal side) = tally (Call.help side') h := by
  rcases ht.tally_signal side with ⟨_, same⟩ | ⟨d, _, here, _, change⟩
  · exact same _
  · have both := change (Call.help side')
    rw [help_away (here ▸ away.symm)] at both
    exact Nat.add_right_cancel both

theorem Tidy.help_signal (ht : h.Tidy) (side : Side) :
    tally (Call.waits side) (h.signal side) = 0 ∨
      tally (Call.help side) (h.signal side) = tally (Call.help side) h + 1 := by
  rcases ht.tally_signal side with ⟨nobody, same⟩ | ⟨d, _, here, queued, change⟩
  · exact Or.inl ((same _).trans (ht.waits_zero nobody))
  · have both := change (Call.help side)
    rw [help_called here queued] at both
    exact Or.inr (by omega)

theorem Watched.signal (ht : h.Tidy) (watched : h.Watched side' (if side = side' then 1 else 0)) :
    (h.signal side).Watched side' 0 := by
  intro waiting
  have before := Nat.lt_of_lt_of_le waiting ht.waits_signal
  rw [blind_rouses.tally_signal, mailbox_signal]
  refine (watched before).imp_right fun ⟨closed, finished, enough⟩ => ⟨closed, finished, ?_⟩
  by_cases own : side' = side
  · subst own
    rcases ht.help_signal side' with none | more
    · omega
    · rw [if_pos rfl] at enough
      omega
  · rw [if_neg (Ne.symm own)] at enough
    rw [ht.help_signal_away own]
    exact enough

theorem Watched.release (ht : k = .called → h.Tidy)
    (watched : h.Watched side' (if side = side' ∧ k = .called then 1 else 0)) :
    (h.release side id k).Watched side' 0 := by
  cases k with
  | queued => simpa [Watched, Handover.release, tally_setTurnstile] using watched
  | called => exact Watched.signal (ht rfl) (by simpa using watched)
  | spent => simpa [Handover.release] using watched

theorem Tidy.waits_signalAll (ht : h.Tidy) : tally (Call.waits side) (h.signalAll side) = 0 :=
  ht.signalAll.waits_zero (by
    rw [signalAll_eq, turnstile_restage, turnstile_setTurnstile, if_pos rfl])

theorem waits_of_signalAll (waiting : 0 < tally (Call.waits side') (h.signalAll side)) :
    0 < tally (Call.waits side') h := by
  rw [signalAll_eq, tally_pos] at waiting
  obtain ⟨d, hd, positive⟩ := waiting
  obtain ⟨c, hc, rfl⟩ := List.mem_map.mp hd
  rw [calls_setTurnstile] at hc
  refine tally_pos.mpr ⟨c, hc, ?_⟩
  by_cases here : c.id ∈ (h.turnstile side).waiting
  · simp only [here, if_true] at positive
    exact Nat.lt_of_lt_of_le positive (waits_withTicket nofun)
  · simpa [here] using positive

theorem Tidy.help_signalAll (ht : h.Tidy) :
    tally (Call.help side') (h.signalAll side) = tally (Call.help side') h := by
  rw [signalAll_eq, tally_congr, tally_setTurnstile]
  intro c hc
  rw [calls_setTurnstile] at hc
  by_cases here : c.id ∈ (h.turnstile side).waiting
  · have queued := ((ht.registered c hc side).mp here).2
    simp only [here, if_true]
    rw [Call.help, Call.help, blind_looks, blind_signals]
    have ticket : c.stage.ticket? = some .queued := queued
    have none : (withTicket .spent c.stage).ticket? ≠ some .called := by
      cases hs : c.stage <;> simp [withTicket, Stage.ticket?]
    simp [Call.called, none, ticket]
  · simp [here]

theorem Watched.signalAll (ht : h.Tidy) (watched : h.Watched side' 0) :
    (h.signalAll side).Watched side' 0 := by
  intro waiting
  rw [blind_rouses.tally_signalAll, mailbox_signalAll, ht.help_signalAll]
  exact watched (waits_of_signalAll waiting)

variable {due : Nat}

theorem Watched.move (ht : h.Tidy) (hc : c ∈ h.calls) (watched : h.Watched side 0)
    (waits : Call.waits side { c with stage := s } ≤ c.waits side)
    (rouses : c.rouses side ≤ Call.rouses side { c with stage := s })
    (closed : h.mailbox.closed = false → q.closed = false)
    (finished : h.mailbox.finished = false → q.finished = false)
    (slack : h.mailbox.closed = false → h.mailbox.finished = false →
      q.supply side + c.help side
        ≤ h.mailbox.supply side + Call.help side { c with stage := s } + due) :
    ({ h with mailbox := q }.setStage c.id s).Watched side due := by
  have change (f : Call α → Nat) : tally f ({ h with mailbox := q }.setStage c.id s) + f c
      = tally f h + f { c with stage := s } := (ht.mailbox q).tally_setStage hc
  have waiting := change (Call.waits side)
  have rousing := change (Call.rouses side)
  have helping := change (Call.help side)
  intro some
  rcases watched (by omega) with roused | ⟨closed', finished', enough⟩
  · exact Or.inl (by omega)
  · have less := slack closed' finished'
    exact Or.inr ⟨closed closed', finished finished', by
      simp only [mailbox_setStage]
      omega⟩

theorem Watched.gone (ht : h.Tidy) (hc : c ∈ h.calls) (watched : h.Watched side 0)
    (rouses : c.rouses side = 0) (help : c.help side ≤ due) : (h.drop c.id).Watched side due := by
  have waiting : tally (Call.waits side) (h.drop c.id) + _ = _ := ht.tally_drop hc
  have rousing : tally (Call.rouses side) (h.drop c.id) + _ = _ := ht.tally_drop hc
  have helping : tally (Call.help side) (h.drop c.id) + _ = _ := ht.tally_drop hc
  intro some
  rcases watched (by omega) with roused | ⟨closed, finished, enough⟩
  · exact Or.inl (by omega)
  · exact Or.inr ⟨closed, finished, by
      change h.mailbox.supply side ≤ _
      omega⟩

theorem Watched.ceased (ht : h.Tidy) (hc : c ∈ h.calls) (watched : h.Watched side 0)
    (waits : Call.waits side { c with stage := s } ≤ c.waits side)
    (rouses : c.rouses side ≤ Call.rouses side { c with stage := s })
    (ceased : h.mailbox.closed = true ∨ h.mailbox.finished = true) :
    (h.setStage c.id s).Watched side 0 := by
  refine watched.move ht hc waits rouses id id fun open' unfinished => ?_
  rcases ceased with closed | finished
  · exact absurd (open'.symm.trans closed) Bool.false_ne_true
  · exact absurd (unfinished.symm.trans finished) Bool.false_ne_true

theorem watched_hungry (closed : h.mailbox.closed = false) (finished : h.mailbox.finished = false)
    (none : h.mailbox.supply side = 0) : h.Watched side due :=
  fun _ => Or.inr ⟨closed, finished, none ▸ Nat.zero_le _⟩

theorem watched_roused (roused : 0 < tally (Call.rouses side) h) : h.Watched side due :=
  fun _ => Or.inl roused

theorem Tidy.register_watched (ht : h.Tidy) (hc : c ∈ h.calls) (watched : h.Watched side 0)
    (hs : c.stage = .entering) : (h.register side' c.id).Watched side 0 := by
  let k : Ticket := if (h.turnstile side').permit then .spent else .queued
  have uncalled : k ≠ .called := by
    dsimp only [k]
    split <;> simp
  have entered : ({ h with mailbox := h.mailbox }.setStage c.id (.checking k)).Watched side 0 := by
    refine watched.move ht hc (by simp [Call.waits]) (by simp [Call.rouses, hs]) id id ?_
    intro _ _
    simp [help_entering hs, help_checking, uncalled]
  simpa [Watched, tally_register] using entered

theorem Tidy.park_watched (ht : h.Tidy) (hc : c ∈ h.calls) (watched : h.Watched side 0)
    (hs : c.stage = .checking k) (closed : h.mailbox.closed = false)
    (finished : h.mailbox.finished = false) (none : h.mailbox.supply c.request.side = 0) :
    (h.park c.id k).Watched side 0 := by
  have gate : c.request.gate? = some c.request.side := ht.gated c hc (by simp [hs])
  by_cases own : c.request.side = side
  · subst own
    refine watched_hungry ?_ ?_ ?_ <;> simpa
  · have away : c.request.gate? ≠ some side := gate ▸ fun same => own (Option.some.inj same)
    cases k <;>
      refine watched.move ht hc ?_ ?_ id id ?_ <;>
      simp [Call.waits, Call.rouses, help_checking hs, help_parked, help_entering, hs, own, away]

theorem side_of_taker (hr : ∀ y, c.request ≠ .put y) : c.request.side = .readable := by
  cases hc : c.request <;> simp_all [Request.side]

theorem Tidy.rousing_watched (ht : h.Tidy) (hc : c ∈ h.calls) {a : Answer α}
    (hs : c.stage = .entering) :
    ({ h with mailbox := q }.setStage c.id (.rousing [.readable, .writable] a)).Watched side 0 := by
  have change : tally (Call.rouses side)
      ({ h with mailbox := q }.setStage c.id (.rousing [.readable, .writable] a)) + _ = _ :=
    (ht.mailbox q).tally_setStage hc
  refine watched_roused ?_
  cases side <;> simp [Call.rouses, hs] at change <;> omega

theorem Tidy.accepted_watched (ht : h.Tidy) (hc : c ∈ h.calls) (watched : h.Watched side 0)
    {x : α} (hs : c.stage = .checking k) (hr : c.request = .put x)
    (hm : h.mailbox.offer x = .taken q) :
    ({ h with mailbox := q }.setStage c.id (.signalling .readable (.done true) k)).Watched side
      0 := by
  obtain ⟨closed, finished, _, rest⟩ := Mailbox.offer_room hm
  obtain ⟨capacity, sizes⟩ := Mailbox.offer_length hm
  have flags : q.closed = false ∧ q.finished = false := by
    rw [rest, Mailbox.makeRoom]
    split <;> exact ⟨closed, finished⟩
  by_cases full : side = .writable ∧ h.mailbox.capacity ≤ h.mailbox.items.length
  · obtain ⟨rfl, full⟩ := full
    refine watched_hungry flags.1 flags.2 ?_
    change q.capacity - q.items.length = 0
    omega
  · refine watched.move ht hc (by simp [Call.waits]) (by simp [Call.rouses, hs])
      (fun _ => flags.1) (fun _ => flags.2) fun _ _ => ?_
    rw [help_checking hs, help_signalling rfl]
    cases side with
    | readable =>
        simp [hr, Request.gate?, Request.side, Mailbox.supply]
        omega
    | writable =>
        simp [hr, Request.gate?, Request.side, Mailbox.supply] at full ⊢
        omega

theorem Tidy.given_watched (ht : h.Tidy) (hc : c ∈ h.calls) (watched : h.Watched side 0) {x : α}
    (hm : h.mailbox.take = .item x q)
    (waits : Call.waits side { c with stage := s } ≤ c.waits side)
    (rouses : c.rouses side ≤ Call.rouses side { c with stage := s })
    (help : c.help side + (if side = .writable then 1 else 0)
      ≤ Call.help side { c with stage := s } + if side = .readable then 1 else 0) :
    ({ h with mailbox := q }.setStage c.id s).Watched side 0 := by
  obtain ⟨items, rest⟩ := Mailbox.take_item hm
  refine watched.move ht hc waits rouses ?_ ?_ fun _ _ => ?_
  · rw [rest]; exact id
  · rw [rest]; exact id
  · rw [rest]
    cases side <;> simp [Mailbox.supply, items] at help ⊢ <;> omega

theorem Tidy.roused_watched (ht : h.Tidy) (hc : c ∈ h.calls) (watched : h.Watched side 0)
    {sides : List Side} {a : Answer α} (hs : c.stage = .rousing (side' :: sides) a) :
    ((h.signalAll side').setStage c.id (.rousing sides a)).Watched side 0 := by
  have idle : ¬ c.stage.Queued := by simp [hs]
  have here : c ∈ (h.signalAll side').calls := mem_signalAll hc (ht.not_waiting hc idle)
  by_cases own : side = side'
  · subst own
    intro waiting
    have none : tally (Call.waits side) (h.signalAll side) = 0 := ht.waits_signalAll
    have change : tally (Call.waits side) ((h.signalAll side).setStage c.id (.rousing sides a)) + _
        = _ := ht.signalAll.tally_setStage here
    simp [Call.waits, hs] at change
    omega
  · refine (watched.signalAll ht).move ht.signalAll here ?_ ?_ id id ?_
    · simp [Call.waits]
    · simp [Call.rouses, hs, own]
    · simp [help_rousing hs]

theorem Deed.watched (ht : h.Tidy) (hc : c ∈ h.calls) (hd : Deed h c es t)
    (watched : ∀ side, h.Watched side 0) (side : Side) : t.Watched side 0 := by
  have before := watched side
  have gated := ht.gated c hc
  cases hd with
  | registered hs _ => exact ht.register_watched hc before hs
  | polled hs hr hm =>
      refine ht.given_watched hc before hm (by simp [Call.waits]) (by simp [Call.rouses, hs]) ?_
      rw [help_entering hs, help_signalling rfl]
      cases side <;> simp [hr, Request.gate?]
  | missed hs hr _ =>
      refine before.gone ht hc (by simp [Call.rouses, hs]) ?_
      simp [help_entering hs, hr, Request.gate?]
  | finished hs _ => exact ht.rousing_watched hc hs
  | shut hs _ => exact ht.rousing_watched hc hs
  | reopened hs hr open' =>
      have still : Watched { h with mailbox := { h.mailbox with finished := false } } side 0 :=
        fun waiting => (before waiting).imp_right fun held => ⟨held.1, rfl, held.2.2⟩
      refine still.gone (ht.mailbox _) hc (by simp [Call.rouses, hs]) ?_
      simp [help_entering hs, hr, Request.gate?]
  | unopened hs hr _ =>
      refine before.gone ht hc (by simp [Call.rouses, hs]) ?_
      simp [help_entering hs, hr, Request.gate?]
  | accepted hs hr hm => exact ht.accepted_watched hc before hs hr hm
  | refused hs hr hm =>
      exact before.ceased ht hc (by simp [Call.waits]) (by simp [Call.rouses, hs])
        (Mailbox.offer_refused hm)
  | taken hs hr hm =>
      refine ht.given_watched hc before hm (by simp [Call.waits]) (by simp [Call.rouses, hs]) ?_
      rw [help_checking hs, help_signalling rfl, gated (by simp [hs]), side_of_taker hr]
      cases side with
      | readable =>
          simp
          omega
      | writable => simp
  | drained hs hr hm =>
      exact before.ceased ht hc (by simp [Call.waits]) (by simp [Call.rouses, hs])
        (Mailbox.take_ended hm)
  | crowded hs hr hm =>
      obtain ⟨closed, finished, full⟩ := Mailbox.offer_wait hm
      refine ht.park_watched hc before hs closed finished ?_
      rw [hr]
      exact Nat.sub_eq_zero_of_le full
  | starved hs hr hm =>
      obtain ⟨closed, finished, none⟩ := Mailbox.take_wait hm
      refine ht.park_watched hc before hs closed finished ?_
      rw [side_of_taker hr]
      exact List.length_eq_zero_iff.mpr none
  | woken hs hk =>
      refine before.move ht hc (by simp [Call.waits]) (by simp [Call.rouses, hs]) id id ?_
      intro _ _
      rw [help_parked hs, help_entering rfl]
      simp only [gated (by simp [hs]), Option.some.injEq]
      split <;> split <;> simp_all
  | signalled hs =>
      refine Watched.signal (ht.setStage hc (by simp [hs]) False.elim) ?_
      refine before.move ht hc (by simp [Call.waits]) (by simp [Call.rouses, hs]) id id ?_
      intro _ _
      rw [help_signalling hs, help_leaving rfl]
      dsimp only
      omega
  | @left a k hs =>
      change Watched ((h.release c.request.side c.id k).drop c.id) side 0
      rw [drop_release]
      refine Watched.release (fun hk => ht.drop hc (by simp [hs, hk])) ?_
      exact before.gone ht hc (by simp [Call.rouses, hs]) (Nat.le_of_eq (help_leaving hs))
  | roused hs => exact ht.roused_watched hc before hs
  | settled hs =>
      exact before.gone ht hc (by simp [Call.rouses, hs]) (Nat.le_of_eq (help_rousing hs))

theorem Watched.start (watched : h.Watched side 0) (r : Request α) :
    (h.start id r).Watched side 0 := by
  intro waiting
  rw [tally_start] at waiting ⊢
  rw [tally_start]
  refine (watched waiting).imp_right fun held => ⟨held.1, held.2.1, ?_⟩
  exact Nat.le_trans held.2.2 (Nat.le_add_right _ _)

theorem Run.watched {capacity : Nat} {overflow : Overflow} (run : Run capacity overflow es h)
    (side : Side) : h.Watched side 0 := by
  induction run generalizing side with
  | opened => exact fun waiting => absurd waiting (Nat.lt_irrefl 0)
  | begun r _ _ ih => exact (ih side).start r
  | advanced run hc ht ih => exact (advance_deed ht).watched run.accounted.1 hc ih side
  | cancelled run ht ih =>
      obtain ⟨c, hc, rfl, k, hs, rfl⟩ := cancel_eq ht
      have tidy := run.accounted.1
      refine Watched.release (fun hk => tidy.drop hc (by simp [hs, hk])) ?_
      exact (ih side).gone tidy hc (by simp [Call.rouses, hs]) (Nat.le_of_eq (help_parked hs))

end Handover

end MarketWire.Stream
