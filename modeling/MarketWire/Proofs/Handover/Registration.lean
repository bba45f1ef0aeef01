import MarketWire.Proofs.Handover.Frame
import Mathlib.Data.List.Nodup

namespace MarketWire.Stream.Handover

variable {α : Type} {h t : Handover α} {c d : Call α} {id : Nat} {side : Side} {k : Ticket}
  {es : List (Event α)} {capacity : Nat} {overflow : Overflow}

def Stage.ticket? : Stage α → Option Ticket
  | .entering => none
  | .checking k => some k
  | .parked k => some k
  | .signalling _ _ k => some k
  | .leaving _ k => some k
  | .rousing _ _ => none

def Stage.Queued (s : Stage α) : Prop := s.ticket? = some .queued

@[simp] theorem queued_entering : ¬ (.entering : Stage α).Queued := nofun

@[simp] theorem queued_checking : (.checking k : Stage α).Queued ↔ k = .queued := Option.some_inj

@[simp] theorem queued_parked : (.parked k : Stage α).Queued ↔ k = .queued := Option.some_inj

@[simp] theorem queued_signalling {a : Answer α} :
    (.signalling side a k : Stage α).Queued ↔ k = .queued := Option.some_inj

@[simp] theorem queued_leaving {a : Answer α} :
    (.leaving a k : Stage α).Queued ↔ k = .queued := Option.some_inj

@[simp] theorem queued_rousing {sides : List Side} {a : Answer α} :
    ¬ (.rousing sides a : Stage α).Queued := nofun

theorem not_queued_withTicket {s : Stage α} (hk : k ≠ .queued) : ¬ (withTicket k s).Queued := by
  cases s <;> simp [withTicket, hk]

@[simp]
def Stage.Gated : Stage α → Prop
  | .checking _ => True
  | .parked _ => True
  | _ => False

structure Tidy (h : Handover α) : Prop where
  distinct : (h.calls.map Call.id).Nodup
  ordered : ∀ side, (h.turnstile side).waiting.Nodup
  known : ∀ side, ∀ id ∈ (h.turnstile side).waiting, ∃ c ∈ h.calls, c.id = id
  registered : ∀ c ∈ h.calls, ∀ side,
    c.id ∈ (h.turnstile side).waiting ↔ c.request.side = side ∧ c.stage.Queued
  gated : ∀ c ∈ h.calls, c.stage.Gated → c.request.gate? = some c.request.side

theorem gate_side (hr : c.request.gate? = some side) : c.request.side = side := by
  cases hc : c.request <;> simp_all [Request.gate?, Request.side]

@[simp] theorem gated_withTicket {s : Stage α} : (withTicket k s).Gated ↔ s.Gated := by
  cases s <;> rfl

namespace Tidy

theorem unique (ht : h.Tidy) (hc : c ∈ h.calls) (hd : d ∈ h.calls) (same : d.id = c.id) : d = c :=
  List.inj_on_of_nodup_map ht.distinct hd hc same

theorem not_waiting (ht : h.Tidy) (hd : d ∈ h.calls) (hs : ¬ d.stage.Queued) :
    d.id ∉ (h.turnstile side).waiting := fun hw => hs ((ht.registered d hd side).mp hw).2

theorem change (ht : h.Tidy) {u : Turnstile} {g : Call α → Stage α}
    (ordered : u.waiting.Nodup) (known : ∀ id ∈ u.waiting, ∃ c ∈ h.calls, c.id = id)
    (registered : ∀ d ∈ h.calls,
      d.id ∈ u.waiting ↔ d.request.side = side ∧ (g d).Queued)
    (elsewhere : ∀ d ∈ h.calls, d.request.side ≠ side → ((g d).Queued ↔ d.stage.Queued))
    (gated : ∀ d ∈ h.calls, (g d).Gated → d.request.gate? = some d.request.side) :
    ((h.setTurnstile side u).restage g).Tidy := by
  refine ⟨?_, ?_, ?_, ?_, ?_⟩
  · simpa [restage, Function.comp_def] using ht.distinct
  · intro side'
    rw [turnstile_restage, turnstile_setTurnstile]
    split
    · exact ordered
    · exact ht.ordered side'
  · intro side' id hid
    have source : ∃ c ∈ h.calls, c.id = id := by
      rw [turnstile_restage, turnstile_setTurnstile] at hid
      split at hid
      · exact known id hid
      · exact ht.known side' id hid
    simpa [restage] using source
  · simp only [restage, calls_setTurnstile, List.forall_mem_map]
    intro d hd side'
    change _ ∈ (((h.setTurnstile side u).restage g).turnstile side').waiting ↔ _
    rw [turnstile_restage, turnstile_setTurnstile]
    split
    · next same => exact same ▸ registered d hd
    · next other =>
        rw [ht.registered d hd]
        exact and_congr_right fun at' => (elsewhere d hd (at' ▸ other)).symm
  · simpa [restage] using gated

theorem mailbox (ht : h.Tidy) (q : Mailbox α) : Tidy { h with mailbox := q } :=
  ⟨ht.distinct, ht.ordered, ht.known, ht.registered, ht.gated⟩

theorem answers (ht : h.Tidy) (as : List (Nat × Answer α)) : Tidy { h with answers := as } :=
  ⟨ht.distinct, ht.ordered, ht.known, ht.registered, ht.gated⟩

theorem restage (ht : h.Tidy) {g : Call α → Stage α}
    (queued : ∀ d ∈ h.calls, (g d).Queued ↔ d.stage.Queued)
    (gated : ∀ d ∈ h.calls, (g d).Gated → d.request.gate? = some d.request.side) :
    (h.restage g).Tidy := by
  have same : h.setTurnstile .readable (h.turnstile .readable) = h := rfl
  rw [← same]
  refine ht.change (ht.ordered _) (ht.known _) ?_ (fun d hd _ => queued d hd) gated
  intro d hd
  rw [queued d hd]
  exact ht.registered d hd _

theorem setStage (ht : h.Tidy) (hc : c ∈ h.calls) {s : Stage α}
    (queued : s.Queued ↔ c.stage.Queued)
    (gated : s.Gated → c.request.gate? = some c.request.side) : (h.setStage c.id s).Tidy := by
  rw [setStage_eq]
  refine ht.restage ?_ ?_
  · intro d hd
    split
    · next here => exact ht.unique hc hd here ▸ queued
    · exact Iff.rfl
  · intro d hd
    split
    · next here => exact ht.unique hc hd here ▸ gated
    · exact ht.gated d hd

theorem setPermit (ht : h.Tidy) (permit : Bool) :
    (h.setTurnstile side { h.turnstile side with permit }).Tidy := by
  rw [← restage_stage (h.setTurnstile side _)]
  exact ht.change (ht.ordered _) (ht.known _) (fun d hd => ht.registered d hd _)
    (fun _ _ _ => Iff.rfl) ht.gated

theorem register (ht : h.Tidy) (hc : c ∈ h.calls) (hs : c.stage = .entering)
    (hr : c.request.gate? = some side) : (h.register side c.id).Tidy := by
  have idle : ¬ c.stage.Queued := by simp [hs]
  obtain rfl := gate_side hr
  simp only [Handover.register, Turnstile.enter]
  split
  · refine (ht.setPermit false).setStage (by simpa using hc) ?_ fun _ => hr
    simp [hs]
  · rw [setStage_eq]
    refine ht.change ?_ ?_ ?_ ?_ ?_
    · exact List.nodup_append.mpr ⟨ht.ordered _, List.nodup_singleton _, by
        rintro x hx y hy rfl
        exact ht.not_waiting hc idle (List.mem_singleton.mp hy ▸ hx)⟩
    · intro id hid
      rcases List.mem_append.mp hid with old | new
      · exact ht.known _ id old
      · exact ⟨c, hc, (List.mem_singleton.mp new).symm⟩
    · intro d hd
      by_cases here : d.id = c.id
      · obtain rfl := ht.unique hc hd here
        simp
      · simp [here, ht.registered d hd]
    · intro d hd away
      have other : d.id ≠ c.id := fun here => away (ht.unique hc hd here ▸ rfl)
      simp [other]
    · intro d hd
      split
      · next here => exact fun _ => ht.unique hc hd here ▸ hr
      · exact ht.gated d hd

theorem signal (ht : h.Tidy) : (h.signal side).Tidy := by
  cases hw : (h.turnstile side).waiting with
  | nil =>
      rw [signal_nobody hw, ← hw]
      exact ht.setPermit true
  | cons i rest =>
      obtain ⟨outside, nodup⟩ := List.nodup_cons.mp (hw ▸ ht.ordered side)
      rw [signal_first hw, setTicket_eq]
      refine ht.change nodup ?_ ?_ ?_ ?_
      · exact fun id hid => ht.known side id (hw ▸ List.mem_cons_of_mem i hid)
      · intro d hd
        have before := ht.registered d hd side
        by_cases here : d.id = i
        · simp [here, outside, not_queued_withTicket]
        · simpa [here, hw] using before
      · intro d hd away
        have other : d.id ≠ i := by
          rintro rfl
          exact away ((ht.registered d hd side).mp (hw ▸ List.mem_cons_self)).1
        simp [other]
      · intro d hd
        split
        · exact fun gated => ht.gated d hd (gated_withTicket.mp gated)
        · exact ht.gated d hd

theorem signalAll (ht : h.Tidy) : (h.signalAll side).Tidy := by
  rw [signalAll_eq]
  refine ht.change List.nodup_nil (by simp) ?_ ?_ ?_
  · intro d hd
    by_cases here : d.id ∈ (h.turnstile side).waiting
    · simp [here, not_queued_withTicket]
    · simpa [here] using (ht.registered d hd side).not.mp here
  · intro d hd away
    have other : d.id ∉ (h.turnstile side).waiting := fun here =>
      away ((ht.registered d hd side).mp here).1
    simp [other]
  · intro d hd
    split
    · exact fun gated => ht.gated d hd (gated_withTicket.mp gated)
    · exact ht.gated d hd

theorem drop (ht : h.Tidy) (hc : c ∈ h.calls) (hs : ¬ c.stage.Queued) : (h.drop c.id).Tidy := by
  refine ⟨ht.distinct.sublist (List.filter_sublist.map _), by simpa using ht.ordered, ?_, ?_, ?_⟩
  · intro side id hid
    rw [turnstile_drop] at hid
    obtain ⟨d, hd, rfl⟩ := ht.known side id hid
    refine ⟨d, List.mem_filter.mpr ⟨hd, ?_⟩, rfl⟩
    simp only [bne_iff_ne]
    intro same
    exact ht.not_waiting hc hs (same ▸ hid)
  · intro d hd side
    rw [turnstile_drop]
    exact ht.registered d (List.mem_filter.mp hd).1 side
  · exact fun d hd => ht.gated d (List.mem_filter.mp hd).1

theorem withdraw (ht : h.Tidy) (hc : c ∈ h.calls) (hs : c.stage.ticket? = some k) :
    ((h.drop c.id).release c.request.side c.id k).Tidy := by
  cases k with
  | queued =>
      have calls : ((h.drop c.id).release c.request.side c.id .queued).calls = (h.drop c.id).calls :=
        calls_setTurnstile _
      have others : ∀ d ∈ (h.drop c.id).calls, d ∈ h.calls ∧ d.id ≠ c.id := by
        simp [Handover.drop]
      refine ⟨calls ▸ ht.distinct.sublist (List.filter_sublist.map _), ?_, ?_, ?_, ?_⟩
      · intro side
        simp only [release, Turnstile.leave, turnstile_setTurnstile, turnstile_drop]
        split
        · exact (ht.ordered _).erase _
        · exact ht.ordered _
      · intro side id hid
        simp only [release, Turnstile.leave, turnstile_setTurnstile, turnstile_drop] at hid
        have still : id ∈ (h.turnstile side).waiting ∧ id ≠ c.id := by
          split at hid
          · next same =>
              obtain ⟨other, old⟩ := (ht.ordered _).mem_erase_iff.mp hid
              exact ⟨same ▸ old, other⟩
          · next away =>
              refine ⟨hid, ?_⟩
              rintro rfl
              exact away ((ht.registered c hc side).mp hid).1.symm
        obtain ⟨d, hd, rfl⟩ := ht.known side id still.1
        exact ⟨d, calls ▸ List.mem_filter.mpr ⟨hd, bne_iff_ne.mpr still.2⟩, rfl⟩
      · intro d hd side
        obtain ⟨hd, other⟩ := others d (calls ▸ hd)
        simp only [release, Turnstile.leave, turnstile_setTurnstile, turnstile_drop]
        split
        · next same =>
            rw [List.mem_erase_of_ne other, ← same]
            exact ht.registered d hd side
        · exact ht.registered d hd side
      · exact fun d hd => ht.gated d (others d (calls ▸ hd)).1
  | called => exact (ht.drop hc (by simp [Stage.Queued, hs])).signal
  | spent => exact ht.drop hc (by simp [Stage.Queued, hs])

theorem start (ht : h.Tidy) (r : Request α) (fresh : ∀ c ∈ h.calls, c.id ≠ id) :
    (h.start id r).Tidy := by
  have outside (side : Side) : id ∉ (h.turnstile side).waiting := by
    intro here
    obtain ⟨c, hc, same⟩ := ht.known side id here
    exact fresh c hc same
  refine ⟨?_, ht.ordered, ?_, ?_, ?_⟩
  · simp only [Handover.start, List.map_append, List.map_cons, List.map_nil]
    exact List.nodup_append.mpr ⟨ht.distinct, List.nodup_singleton _, by simpa using fresh⟩
  · intro side i hi
    obtain ⟨c, hc, same⟩ := ht.known side i hi
    exact ⟨c, List.mem_append_left _ hc, same⟩
  · intro d hd side
    rcases List.mem_append.mp hd with old | new
    · exact ht.registered d old side
    · obtain rfl := List.mem_singleton.mp new
      simpa using outside side
  · intro d hd
    rcases List.mem_append.mp hd with old | new
    · exact ht.gated d old
    · obtain rfl := List.mem_singleton.mp new
      exact False.elim

theorem conclude (ht : h.Tidy) (hc : c ∈ h.calls) (hs : ¬ c.stage.Queued) (a : Answer α) :
    (h.conclude c.id a).Tidy :=
  (ht.drop hc hs).answers _

theorem park (ht : h.Tidy) (hc : c ∈ h.calls) (hs : c.stage = .checking k) :
    (h.park c.id k).Tidy := by
  have gated := ht.gated c hc
  simp only [hs, Stage.Gated, true_imp_iff] at gated
  cases k <;> exact ht.setStage hc (by simp [hs]) (by simp [gated])

theorem step (ht : h.Tidy) (hc : c ∈ h.calls) (hd : Deed h c es t) : t.Tidy := by
  have moves (q : Mailbox α) (s : Stage α) (queued : s.Queued ↔ c.stage.Queued)
      (free : ¬ s.Gated) : ({ h with mailbox := q }.setStage c.id s).Tidy :=
    (ht.mailbox q).setStage hc queued fun gated => absurd gated free
  cases hd with
  | registered hs hr => exact ht.register hc hs hr
  | polled hs _ _ => exact moves _ _ (by simp [hs]) id
  | missed hs _ _ => exact ht.conclude hc (by simp [hs]) _
  | finished hs _ => exact moves _ _ (by simp [hs]) id
  | shut hs _ => exact moves _ _ (by simp [hs]) id
  | reopened hs _ _ =>
      refine (ht.mailbox { h.mailbox with finished := false }).conclude hc ?_ _
      simp [hs]
  | unopened hs _ _ => exact ht.conclude hc (by simp [hs]) _
  | accepted hs _ _ => exact moves _ _ (by simp [hs]) id
  | refused hs _ _ => exact moves h.mailbox _ (by simp [hs]) id
  | taken hs _ _ => exact moves _ _ (by simp [hs]) id
  | drained hs _ _ => exact moves h.mailbox _ (by simp [hs]) id
  | crowded hs _ _ => exact ht.park hc hs
  | starved hs _ _ => exact ht.park hc hs
  | woken hs hk => exact moves h.mailbox _ (by simp [hs, hk]) id
  | signalled hs => exact Tidy.signal (moves h.mailbox _ (by simp [hs]) id)
  | left hs =>
      have gone := ht.withdraw hc (by rw [hs]; rfl)
      rw [← drop_release] at gone
      exact gone.answers _
  | @roused side sides a hs =>
      have idle : ¬ c.stage.Queued := by simp [hs]
      refine ht.signalAll.setStage (mem_signalAll hc (ht.not_waiting hc idle)) ?_ False.elim
      simp [hs]
  | settled hs => exact ht.conclude hc (by simp [hs]) _

end Tidy

theorem tidy_empty : (empty capacity overflow : Handover α).Tidy := by
  refine ⟨List.nodup_nil, ?_, ?_, nofun, nofun⟩
  · intro side
    cases side <;> exact List.nodup_nil
  · intro side
    cases side <;> nofun

end MarketWire.Stream.Handover
