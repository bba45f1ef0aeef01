import MarketWire.Proofs.Handover.Registration
import Mathlib.Algebra.GroupWithZero.Nat

namespace MarketWire.Stream.Handover

variable {α : Type} {h : Handover α} {c d : Call α} {id : Nat} {side side' : Side} {k : Ticket}
  {f : Call α → Nat} {s : Stage α}

def tally (f : Call α → Nat) (h : Handover α) : Nat := (h.calls.map f).sum

def Blind (f : Call α → Nat) : Prop := ∀ c k, f { c with stage := withTicket k c.stage } = f c

theorem tally_pos : 0 < tally f h ↔ ∃ c ∈ h.calls, 0 < f c := by
  rw [tally, List.sum_pos_iff_exists_pos_nat]
  simp

theorem tally_zero (zero : ∀ c ∈ h.calls, f c = 0) : tally f h = 0 := by
  refine Nat.eq_zero_of_not_pos fun positive => ?_
  obtain ⟨c, hc, hf⟩ := tally_pos.mp positive
  exact Nat.ne_of_gt hf (zero c hc)

theorem tally_start (r : Request α) : tally f (h.start id r) = tally f h + f ⟨id, r, .entering⟩ := by
  simp [tally, start]

theorem tally_setTurnstile (t : Turnstile) : tally f (h.setTurnstile side t) = tally f h := by
  rw [tally, calls_setTurnstile, tally]

theorem tally_congr {g : Call α → Stage α} (same : ∀ c ∈ h.calls, f { c with stage := g c } = f c) :
    tally f (h.restage g) = tally f h := by
  simp only [tally, restage, List.map_map]
  exact congrArg List.sum (List.map_congr_left same)

theorem Tidy.split (ht : h.Tidy) (hc : c ∈ h.calls) :
    ∃ before after, h.calls = before ++ c :: after ∧
      (∀ d ∈ before, d.id ≠ c.id) ∧ ∀ d ∈ after, d.id ≠ c.id := by
  obtain ⟨before, after, split⟩ := List.append_of_mem hc
  have apart := ht.distinct
  rw [split, List.map_append, List.map_cons] at apart
  obtain ⟨-, rest, cross⟩ := List.nodup_append.mp apart
  refine ⟨before, after, split, ?_, ?_⟩
  · exact fun d hd => cross d.id (List.mem_map_of_mem hd) c.id List.mem_cons_self
  · intro d hd same
    exact (List.nodup_cons.mp rest).1 (same ▸ List.mem_map_of_mem hd)

theorem Tidy.tally_restage (ht : h.Tidy) (hc : c ∈ h.calls) {g : Call α → Stage α}
    (others : ∀ d, d.id ≠ c.id → g d = d.stage) :
    tally f (h.restage g) + f c = tally f h + f { c with stage := g c } := by
  obtain ⟨before, after, split, first, last⟩ := ht.split hc
  have same {ds : List (Call α)} (apart : ∀ d ∈ ds, d.id ≠ c.id) :
      ds.map (fun d => f { d with stage := g d }) = ds.map f :=
    List.map_congr_left fun d hd => by rw [others d (apart d hd)]
  simp only [tally, Handover.restage, split, List.map_append, List.map_cons, List.map_map,
    Function.comp_def, List.sum_append_nat, List.sum_cons, same first, same last]
  omega

theorem Tidy.tally_setStage (ht : h.Tidy) (hc : c ∈ h.calls) :
    tally f (h.setStage c.id s) + f c = tally f h + f { c with stage := s } := by
  rw [setStage_eq, ht.tally_restage hc fun d other => if_neg other, if_pos rfl]

theorem tally_register :
    tally f (h.register side id)
      = tally f (h.setStage id
          (.checking (if (h.turnstile side).permit then .spent else .queued))) := by
  simp only [register, Turnstile.enter]
  split <;> simp [tally, setStage]

theorem Tidy.tally_drop (ht : h.Tidy) (hc : c ∈ h.calls) :
    tally f (h.drop c.id) + f c = tally f h := by
  obtain ⟨before, after, split, first, last⟩ := ht.split hc
  have kept {ds : List (Call α)} (apart : ∀ d ∈ ds, d.id ≠ c.id) :
      ds.filter (fun d => d.id != c.id) = ds :=
    List.filter_eq_self.mpr fun d hd => bne_iff_ne.mpr (apart d hd)
  have gone : (c.id != c.id) = false := bne_self_eq_false c.id
  simp only [tally, Handover.drop, split, List.filter_append, List.filter_cons, gone, kept first,
    kept last, List.map_append, List.map_cons, List.sum_append_nat, List.sum_cons,
    Bool.false_eq_true, if_false]
  omega

theorem Tidy.tally_signal (ht : h.Tidy) (side : Side) :
    ((h.turnstile side).waiting = [] ∧ ∀ f, tally f (h.signal side) = tally f h) ∨
      ∃ d ∈ h.calls, d.request.side = side ∧ d.stage.Queued ∧
        ∀ f, tally f (h.signal side) + f d
          = tally f h + f { d with stage := withTicket .called d.stage } := by
  cases hw : (h.turnstile side).waiting with
  | nil =>
      refine Or.inl ⟨rfl, fun f => ?_⟩
      rw [signal_nobody hw, tally_setTurnstile]
  | cons i rest =>
      obtain ⟨d, hd, rfl⟩ := ht.known side i (hw ▸ List.mem_cons_self)
      obtain ⟨here, queued⟩ := (ht.registered d hd side).mp (hw ▸ List.mem_cons_self)
      refine Or.inr ⟨d, hd, here, queued, fun f => ?_⟩
      have turn (t : Turnstile) (g : Call α → Stage α) :
          tally f ((h.setTurnstile side t).restage g) = tally f (h.restage g) := by
        simp only [tally, Handover.restage, calls_setTurnstile]
      rw [signal_first hw, setTicket_eq, turn, ht.tally_restage hd fun e other => if_neg other,
        if_pos rfl]

theorem Blind.tally_signal (blind : Blind f) : tally f (h.signal side) = tally f h := by
  cases hw : (h.turnstile side).waiting with
  | nil => rw [signal_nobody hw, tally_setTurnstile]
  | cons i rest =>
      rw [signal_first hw, setTicket_eq, tally_congr, tally_setTurnstile]
      intro c _
      split
      · exact blind c .called
      · rfl

theorem Blind.tally_signalAll (blind : Blind f) : tally f (h.signalAll side) = tally f h := by
  rw [signalAll_eq, tally_congr, tally_setTurnstile]
  intro c _
  split
  · exact blind c .spent
  · rfl

theorem Blind.tally_release (blind : Blind f) : tally f (h.release side id k) = tally f h := by
  cases k with
  | queued => exact tally_setTurnstile _
  | called => exact blind.tally_signal
  | spent => rfl

end MarketWire.Stream.Handover
