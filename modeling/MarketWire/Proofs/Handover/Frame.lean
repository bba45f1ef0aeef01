import MarketWire.Proofs.Handover.Deed

namespace MarketWire.Stream.Handover

variable {α : Type} {h : Handover α} {c d : Call α} {id : Nat} {side side' : Side} {k : Ticket}

inductive Phase (α : Type) where
  | calling
  | parked
  | answering (a : Answer α)
  deriving DecidableEq, Repr

def Stage.phase : Stage α → Phase α
  | .entering => .calling
  | .checking _ => .calling
  | .parked _ => .parked
  | .signalling _ a _ => .answering a
  | .leaving a _ => .answering a
  | .rousing _ a => .answering a

def Call.line (c : Call α) : Nat × Request α × Phase α := (c.id, c.request, c.stage.phase)

def roll (h : Handover α) : List (Nat × Request α × Phase α) := h.calls.map Call.line

def enrol (id : Nat) (p : Option (Phase α)) (lines : List (Nat × Request α × Phase α)) :
    List (Nat × Request α × Phase α) :=
  match p with
  | some p => lines.map fun l => if l.1 = id then (l.1, l.2.1, p) else l
  | none => lines.filter fun l => l.1 != id

def drop (h : Handover α) (id : Nat) : Handover α :=
  { h with calls := h.calls.filter fun c => c.id != id }

def restage (h : Handover α) (g : Call α → Stage α) : Handover α :=
  { h with calls := h.calls.map fun c => { c with stage := g c } }

@[simp] theorem phase_withTicket (s : Stage α) : (withTicket k s).phase = s.phase := by
  cases s <;> rfl

theorem restage_stage (h : Handover α) : h.restage Call.stage = h := by
  simp [restage]

theorem setStage_eq (s : Stage α) :
    h.setStage id s = h.restage fun c => if c.id = id then s else c.stage := by
  simp only [setStage, restage, Handover.mk.injEq, true_and, and_true]
  apply List.map_congr_left
  intro c _
  split <;> rfl

theorem setTicket_eq :
    h.setTicket id k = h.restage fun c => if c.id = id then withTicket k c.stage else c.stage := by
  simp only [setTicket, restage, Handover.mk.injEq, true_and, and_true]
  apply List.map_congr_left
  intro c _
  split <;> rfl

theorem withTicket_withTicket (j : Ticket) (s : Stage α) :
    withTicket k (withTicket j s) = withTicket k s := by
  cases s <;> rfl

theorem turnstile_setTurnstile (t : Turnstile) :
    (h.setTurnstile side t).turnstile side' = if side' = side then t else h.turnstile side' := by
  cases side <;> cases side' <;> rfl

@[simp] theorem turnstile_restage (g : Call α → Stage α) :
    (h.restage g).turnstile side = h.turnstile side := by
  cases side <;> rfl

@[simp] theorem turnstile_drop : (h.drop id).turnstile side = h.turnstile side := by
  cases side <;> rfl

@[simp] theorem turnstile_start (r : Request α) :
    (h.start id r).turnstile side = h.turnstile side := by
  cases side <;> rfl

@[simp] theorem calls_setTurnstile (t : Turnstile) : (h.setTurnstile side t).calls = h.calls := by
  cases side <;> rfl

theorem signal_nobody (hw : (h.turnstile side).waiting = []) :
    h.signal side = h.setTurnstile side { waiting := [], permit := true } := by
  simp [signal, Turnstile.signal, hw]

theorem signal_first {rest : List Nat} (hw : (h.turnstile side).waiting = id :: rest) :
    h.signal side
      = (h.setTurnstile side { h.turnstile side with waiting := rest }).setTicket id .called := by
  simp [signal, Turnstile.signal, hw]

theorem foldl_setTicket (ids : List Nat) :
    ids.foldl (fun h id => h.setTicket id k) h
      = h.restage fun c => if c.id ∈ ids then withTicket k c.stage else c.stage := by
  induction ids generalizing h with
  | nil => simp [restage]
  | cons i ids ih =>
      rw [List.foldl_cons, ih, setTicket_eq]
      simp only [restage, List.map_map, Handover.mk.injEq, true_and, and_true]
      apply List.map_congr_left
      intro c _
      by_cases first : c.id = i
      · by_cases later : i ∈ ids
        · simp [first, later, withTicket_withTicket]
        · simp [first, later]
      · simp [first]

theorem signalAll_eq :
    h.signalAll side
      = (h.setTurnstile side { h.turnstile side with waiting := [] }).restage fun c =>
          if c.id ∈ (h.turnstile side).waiting then withTicket .spent c.stage else c.stage := by
  simp [signalAll, Turnstile.signalAll, foldl_setTicket]

theorem mem_signalAll (hc : c ∈ h.calls) (hw : c.id ∉ (h.turnstile side).waiting) :
    c ∈ (h.signalAll side).calls := by
  rw [signalAll_eq]
  exact List.mem_map.mpr ⟨c, by simpa using hc, by simp [hw]⟩

@[simp] theorem mailbox_setTurnstile (t : Turnstile) :
    (h.setTurnstile side t).mailbox = h.mailbox := by
  cases side <;> rfl

@[simp] theorem mailbox_restage (g : Call α → Stage α) : (h.restage g).mailbox = h.mailbox := rfl

@[simp] theorem mailbox_setStage (s : Stage α) : (h.setStage id s).mailbox = h.mailbox := rfl

@[simp] theorem mailbox_setTicket : (h.setTicket id k).mailbox = h.mailbox := rfl

@[simp] theorem mailbox_conclude (a : Answer α) : (h.conclude id a).mailbox = h.mailbox := rfl

@[simp] theorem mailbox_signal : (h.signal side).mailbox = h.mailbox := by
  cases hw : (h.turnstile side).waiting with
  | nil => simp [signal_nobody hw]
  | cons i rest => simp [signal_first hw]

@[simp] theorem mailbox_signalAll : (h.signalAll side).mailbox = h.mailbox := by
  simp [signalAll_eq]

@[simp] theorem mailbox_release : (h.release side id k).mailbox = h.mailbox := by
  cases k <;> simp [release]

@[simp] theorem mailbox_register : (h.register side id).mailbox = h.mailbox := by
  simp [register]

@[simp] theorem mailbox_park : (h.park id k).mailbox = h.mailbox := by
  cases k <;> rfl

@[simp] theorem answers_setTurnstile (t : Turnstile) :
    (h.setTurnstile side t).answers = h.answers := by
  cases side <;> rfl

@[simp] theorem answers_restage (g : Call α → Stage α) : (h.restage g).answers = h.answers := rfl

@[simp] theorem answers_setStage (s : Stage α) : (h.setStage id s).answers = h.answers := rfl

@[simp] theorem answers_setTicket : (h.setTicket id k).answers = h.answers := rfl

@[simp] theorem answers_signal : (h.signal side).answers = h.answers := by
  cases hw : (h.turnstile side).waiting with
  | nil => simp [signal_nobody hw]
  | cons i rest => simp [signal_first hw]

@[simp] theorem answers_signalAll : (h.signalAll side).answers = h.answers := by
  simp [signalAll_eq]

@[simp] theorem answers_release : (h.release side id k).answers = h.answers := by
  cases k <;> simp [release]

@[simp] theorem answers_register : (h.register side id).answers = h.answers := by
  simp [register]

@[simp] theorem answers_park : (h.park id k).answers = h.answers := by
  cases k <;> rfl

theorem roll_restage {g : Call α → Stage α} (hg : ∀ c ∈ h.calls, (g c).phase = c.stage.phase) :
    (h.restage g).roll = h.roll := by
  simp only [roll, restage, List.map_map]
  apply List.map_congr_left
  intro c hc
  simp [Call.line, hg c hc]

theorem roll_setStage (s : Stage α) : (h.setStage id s).roll = enrol id (some s.phase) h.roll := by
  simp only [roll, setStage, enrol, List.map_map]
  apply List.map_congr_left
  intro c _
  by_cases hc : c.id = id
  · simp [hc, Call.line]
  · simp [hc, Call.line]

theorem roll_drop : (h.drop id).roll = enrol id none h.roll := by
  simp only [roll, drop, enrol, List.filter_map]
  rfl

theorem roll_conclude (a : Answer α) : (h.conclude id a).roll = enrol id none h.roll := roll_drop

@[simp] theorem roll_setTurnstile (t : Turnstile) : (h.setTurnstile side t).roll = h.roll := by
  simp [roll]

@[simp] theorem roll_setTicket : (h.setTicket id k).roll = h.roll := by
  rw [setTicket_eq]
  refine roll_restage fun c _ => ?_
  split
  · exact phase_withTicket c.stage
  · rfl

@[simp] theorem roll_signal : (h.signal side).roll = h.roll := by
  cases hw : (h.turnstile side).waiting with
  | nil => simp [signal_nobody hw]
  | cons i rest => simp [signal_first hw]

@[simp] theorem roll_signalAll : (h.signalAll side).roll = h.roll := by
  rw [signalAll_eq, roll_restage, roll_setTurnstile]
  intro c _
  split
  · exact phase_withTicket c.stage
  · rfl

@[simp] theorem roll_release : (h.release side id k).roll = h.roll := by
  cases k <;> simp [release]

theorem roll_register : (h.register side id).roll = enrol id (some .calling) h.roll := by
  simp [register, roll_setStage, Stage.phase]

theorem roll_start (r : Request α) : (h.start id r).roll = h.roll ++ [(id, r, .calling)] := by
  simp [roll, start, Call.line, Stage.phase]

theorem drop_release : (h.release side id k).drop id = (h.drop id).release side id k := by
  have ticket (i : Nat) (j : Ticket) (g : Handover α) :
      (g.setTicket i j).drop id = (g.drop id).setTicket i j := by
    simp only [setTicket, drop, List.filter_map, Handover.mk.injEq, true_and, and_true]
    refine congrArg _ (List.filter_congr ?_)
    intro c _
    simp only [Function.comp_apply]
    split <;> rfl
  have set (t : Turnstile) (g : Handover α) :
      (g.setTurnstile side t).drop id = (g.drop id).setTurnstile side t := by
    cases side <;> rfl
  cases k with
  | queued => simp [release, set]
  | spent => rfl
  | called =>
      cases hw : (h.turnstile side).waiting with
      | nil =>
          have hw' : ((h.drop id).turnstile side).waiting = [] := by rwa [turnstile_drop]
          rw [release, release, signal_nobody hw, signal_nobody hw', set]
      | cons i rest =>
          have hw' : ((h.drop id).turnstile side).waiting = i :: rest := by rwa [turnstile_drop]
          rw [release, release, signal_first hw, signal_first hw', ticket, set, turnstile_drop]

end MarketWire.Stream.Handover
