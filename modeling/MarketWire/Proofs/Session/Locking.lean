import MarketWire.Proofs.Session.Frame
import Mathlib.Data.List.Nodup

namespace MarketWire.Stream

def Stage.underLock : Stage → Bool
  | .changing _ => true
  | .observing _ => true
  | .sending _ => true
  | .stopping _ => true
  | .handing _ => true
  | .joining _ _ => true
  | _ => false

def Stage.isFirst : Stage → Bool
  | .begun => true
  | .attempting _ => true
  | .over _ => true
  | _ => false

def Call.holdsLock (c : Call) : Bool :=
  match c.stage with
  | .attempting _ => c.action != .connect
  | stage => stage.underLock

def Call.at (c : Call) (stage : Stage) : Call := { c with stage }

@[simp] theorem Call.at_stage (c : Call) (stage : Stage) : (c.at stage).stage = stage := rfl

@[simp] theorem Call.at_id (c : Call) (stage : Stage) : (c.at stage).id = c.id := rfl

@[simp] theorem Call.at_action (c : Call) (stage : Stage) : (c.at stage).action = c.action := rfl

namespace Session

variable {s t : Session} {c d : Call}

structure Locking (s : Session) : Prop where
  numbered : s.calls.map Call.id = List.range s.calls.length
  held_iff : ∀ c ∈ s.calls, c.holdsLock = true ↔ s.lock = some c.id
  lock_lt : ∀ id, s.lock = some id → id < s.calls.length
  first : ∀ c ∈ s.calls, c.action = .connect → c.stage.isFirst = true

theorem Locking.nodup (h : s.Locking) : (s.calls.map Call.id).Nodup := by
  rw [h.numbered]
  exact List.nodup_range

theorem Locking.eq_of_id (h : s.Locking) (hc : c ∈ s.calls) (hd : d ∈ s.calls)
    (same : c.id = d.id) : c = d :=
  List.inj_on_of_nodup_map h.nodup hc hd same

theorem Locking.id_lt (h : s.Locking) (hc : c ∈ s.calls) : c.id < s.calls.length := by
  rw [← List.mem_range, ← h.numbered]
  exact List.mem_map_of_mem hc

theorem Locking.eq_of_holdsLock (h : s.Locking) (hc : c ∈ s.calls) (hd : d ∈ s.calls)
    (lc : c.holdsLock = true) (ld : d.holdsLock = true) : c = d := by
  have hl : some c.id = some d.id := by
    rw [← (h.held_iff c hc).mp lc, (h.held_iff d hd).mp ld]
  exact h.eq_of_id hc hd (Option.some.inj hl)

theorem Locking.mem_setStage (h : s.Locking) (hc : c ∈ s.calls) {stage : Stage} :
    d ∈ (s.setStage c.id stage).calls ↔ d = c.at stage ∨ d ∈ s.calls ∧ d.id ≠ c.id := by
  simp only [setStage, List.mem_map]
  constructor
  · rintro ⟨e, he, rfl⟩
    by_cases hid : e.id = c.id
    · rw [if_pos hid, h.eq_of_id he hc hid]
      exact Or.inl rfl
    · rw [if_neg hid]
      exact Or.inr ⟨he, hid⟩
  · rintro (rfl | ⟨hd, hid⟩)
    · exact ⟨c, hc, if_pos rfl⟩
    · exact ⟨d, hd, if_neg hid⟩

theorem Locking.mem_turned (h : s.Locking) (hc : c ∈ s.calls) {stage : Stage}
    (calls : t.calls = (s.setStage c.id stage).calls) :
    d ∈ t.calls ↔ d = c.at stage ∨ d ∈ s.calls ∧ d.id ≠ c.id := by
  rw [calls]
  exact h.mem_setStage hc

theorem map_id_setStage (s : Session) (id : Nat) (stage : Stage) :
    (s.setStage id stage).calls.map Call.id = s.calls.map Call.id := by
  simp only [setStage, List.map_map]
  apply List.map_congr_left
  intro e _
  simp only [Function.comp_apply]
  split <;> rfl

def lockAt (s : Session) (c : Call) (stage : Stage) : Option Nat :=
  if (c.at stage).holdsLock then some c.id else if s.lock = some c.id then none else s.lock

theorem Locking.turn (h : s.Locking) (hc : c ∈ s.calls) {stage : Stage}
    (first : c.action = .connect → stage.isFirst = true)
    (free : (c.at stage).holdsLock = true → s.lock = none ∨ s.lock = some c.id)
    (calls : t.calls = (s.setStage c.id stage).calls) (lock : t.lock = s.lockAt c stage) :
    t.Locking := by
  have length : t.calls.length = s.calls.length := by
    rw [calls, setStage, List.length_map]
  refine ⟨?_, ?_, ?_, ?_⟩
  · rw [calls, map_id_setStage, ← calls, length]
    exact h.numbered
  · intro d hd
    rw [lock, lockAt]
    rcases (h.mem_turned hc calls).mp hd with rfl | ⟨hd, hid⟩
    · by_cases hs : (c.at stage).holdsLock = true
      · simp [hs]
      · have hl : (if s.lock = some c.id then none else s.lock) ≠ some c.id := by
          split
          · simp
          · assumption
        simp [hs, hl]
    · rw [h.held_iff d hd]
      have hne : c.id ≠ d.id := fun e => hid e.symm
      by_cases hs : (c.at stage).holdsLock = true
      · rcases free hs with hl | hl <;> simp [hs, hl, hne]
      · by_cases hl : s.lock = some c.id <;> simp [hs, hl, hne]
  · intro id hid
    rw [length]
    rw [lock, lockAt] at hid
    split at hid
    · exact Option.some.inj hid ▸ h.id_lt hc
    · split at hid
      · cases hid
      · exact h.lock_lt id hid
  · intro d hd ha
    rcases (h.mem_turned hc calls).mp hd with rfl | ⟨hd, _⟩
    · exact first ha
    · exact h.first d hd ha

theorem lockAt_of_not_holdsLock {stage : Stage} (h : (c.at stage).holdsLock = false) :
    s.lockAt c stage = if s.lock = some c.id then none else s.lock := by
  simp [lockAt, h]

theorem lockAt_of_holdsLock {stage : Stage} (h : (c.at stage).holdsLock = true) :
    s.lockAt c stage = some c.id := by
  simp [lockAt, h]

theorem Locking.finishCall (h : s.Locking) (hc : c ∈ s.calls) (a : Answer)
    (calls : t.calls = (s.finishCall c.id a).calls) (lock : t.lock = (s.finishCall c.id a).lock) :
    t.Locking :=
  h.turn hc (fun _ => rfl) (fun hl => Bool.noConfusion hl) calls lock

theorem Locking.outside (h : s.Locking) (hc : c ∈ s.calls) {stage : Stage}
    (first : c.action = .connect → stage.isFirst = true)
    (before : c.holdsLock = false) (after : (c.at stage).holdsLock = false)
    (calls : t.calls = (s.setStage c.id stage).calls) (lock : t.lock = s.lock) : t.Locking := by
  have hl : s.lock ≠ some c.id := by
    intro e
    rw [← h.held_iff c hc, before] at e
    cases e
  refine h.turn hc first (fun e => ?_) calls ?_
  · rw [after] at e
    cases e
  · rw [lock, lockAt_of_not_holdsLock after, if_neg hl]

theorem Locking.inside (h : s.Locking) (hc : c ∈ s.calls) {stage : Stage}
    (first : c.action = .connect → stage.isFirst = true)
    (before : c.holdsLock = true) (after : (c.at stage).holdsLock = true)
    (calls : t.calls = (s.setStage c.id stage).calls) (lock : t.lock = s.lock) : t.Locking := by
  have hl : s.lock = some c.id := (h.held_iff c hc).mp before
  refine h.turn hc first (fun _ => Or.inr hl) calls ?_
  rw [lock, hl, lockAt_of_holdsLock after]

theorem Locking.congr (h : s.Locking) (calls : t.calls = s.calls) (lock : t.lock = s.lock) :
    t.Locking := by
  refine ⟨?_, ?_, ?_, ?_⟩
  · rw [calls]
    exact h.numbered
  · rw [calls, lock]
    exact h.held_iff
  · rw [calls, lock]
    exact h.lock_lt
  · rw [calls]
    exact h.first

theorem locking_initial (p : Profile) (seconds : List Int) (draws : List Float) :
    (initial p seconds draws).Locking where
  numbered := rfl
  held_iff _ hc := absurd hc List.not_mem_nil
  lock_lt _ h := by cases h
  first _ hc := absurd hc List.not_mem_nil

theorem Locking.invoke (h : s.Locking) {a : Action}
    (calls : t.calls = s.calls ++ [⟨s.calls.length, a, .begun⟩]) (lock : t.lock = s.lock) :
    t.Locking := by
  have length : t.calls.length = s.calls.length + 1 := by simp [calls]
  refine ⟨?_, ?_, ?_, ?_⟩
  · rw [length, List.range_succ, ← h.numbered, calls, List.map_append]
    rfl
  · intro d hd
    rw [lock]
    rcases List.mem_append.mp (calls ▸ hd) with hd | hd
    · exact h.held_iff d hd
    · rw [List.mem_singleton.mp hd]
      simp only [Call.holdsLock, Stage.underLock, Bool.false_eq_true, false_iff]
      exact fun hl => Nat.lt_irrefl _ (h.lock_lt _ hl)
  · intro id hid
    rw [length]
    exact Nat.lt_succ_of_lt (h.lock_lt id (lock ▸ hid))
  · intro d hd ha
    rcases List.mem_append.mp (calls ▸ hd) with hd | hd
    · exact h.first d hd ha
    · rw [List.mem_singleton.mp hd]
      rfl

theorem holdsLock_eq {stage : Stage} (hs : c.stage = stage) : c.holdsLock = (c.at stage).holdsLock := by
  simp only [Call.holdsLock, hs, Call.at_stage, Call.at_action]

theorem Locking.not_connect (h : s.Locking) (hc : c ∈ s.calls) {stage : Stage}
    (hs : c.stage = stage) (later : stage.isFirst = false) : c.action ≠ .connect := by
  intro ha
  have := h.first c hc ha
  rw [hs, later] at this
  cases this

theorem Locking.progress (h : s.Locking) (hc : c ∈ s.calls) {a : Attempt}
    (hs : c.stage = .attempting a) (p : Progress) : (s.onCallProgress c p).Locking := by
  cases p with
  | more b =>
      by_cases ha : c.action = .connect
      · refine h.outside hc (fun _ => rfl) ?_ ?_ rfl rfl
        · simp [Call.holdsLock, hs, ha]
        · simp [Call.holdsLock, ha]
      · refine h.inside hc (fun _ => rfl) ?_ ?_ rfl rfl
        · simp [Call.holdsLock, hs, ha]
        · simp [Call.holdsLock, ha]
  | done n => exact h.finishCall hc _ rfl rfl
  | failed e =>
      simp only [onCallProgress]
      split
      · exact h.finishCall hc _ rfl rfl
      · exact h.finishCall hc _ rfl rfl

theorem Locking.within (h : s.Locking) (hc : c ∈ s.calls) {before after : Stage}
    (hs : c.stage = before) (hb : before.underLock = true) (ha : after.underLock = true)
    (calls : t.calls = (s.setStage c.id after).calls) (lock : t.lock = s.lock) : t.Locking := by
  refine h.inside hc (fun hf => ?_) ?_ ?_ calls lock
  · have := h.first c hc hf
    rw [hs] at this
    cases before <;> simp_all [Stage.underLock, Stage.isFirst]
  · rw [holdsLock_eq hs]
    cases before <;> simp_all [Stage.underLock, Call.holdsLock]
  · cases after <;> simp_all [Stage.underLock, Call.holdsLock]

theorem Locking.call (h : s.Locking) (hc : c ∈ s.calls) {es : List Event}
    (deed : CallDeed s c es t) : t.Locking := by
  have free : ∀ {stage : Stage}, c.stage = stage → (c.at stage).holdsLock = false →
      c.holdsLock = false := fun hs hf => (holdsLock_eq hs).trans hf
  cases deed with
  | declined | received | unchanged | skipped | unsent | sent | ended =>
      exact h.finishCall hc _ rfl rfl
  | asked hs ha => exact h.outside hc (fun e => absurd e ha) (free hs rfl) rfl rfl rfl
  | shut hs ha => exact h.outside hc (fun e => by simp [ha] at e) (free hs rfl) rfl rfl rfl
  | begun hs ha =>
      exact h.outside hc (fun _ => rfl) (free hs rfl) (by simp [Call.holdsLock, ha]) rfl rfl
  | discarded hs =>
      exact h.outside hc (fun e => absurd e (h.not_connect hc hs rfl)) (free hs rfl) rfl rfl rfl
  | locked hs hl =>
      exact h.turn hc (fun e => absurd e (h.not_connect hc hs rfl)) (fun _ => Or.inl hl) rfl
        (lockAt_of_holdsLock rfl).symm
  | added hs | removed hs | replacing hs | closing hs | noticed hs | handing hs | unled hs
  | unheard hs | handed hs =>
      exact h.within hc hs rfl rfl rfl rfl
  | redialled hs =>
      have ha := h.not_connect hc hs rfl
      refine h.inside hc (fun _ => rfl) ?_ ?_ rfl rfl
      · rw [holdsLock_eq hs]
        rfl
      · simp [Call.holdsLock, ha]
  | attempted hs hd =>
      have h' : Locking _ := h.congr hd.frame.calls hd.frame.lock
      exact h'.progress (hd.frame.calls.symm ▸ hc) hs _

theorem Locking.step (h : s.Locking) {m : Move} (hs : s.step m = some t) : t.Locking := by
  cases step_deed hs with
  | elapsed => exact h.congr rfl rfl
  | invoked => exact h.invoke rfl rfl
  | abandoned hc ha hb =>
      exact h.outside hc (fun _ => rfl) ((holdsLock_eq hb).trans rfl) rfl rfl rfl
  | called hc deed => exact h.call hc deed
  | cutOff => exact h.congr rfl rfl
  | worked deed => exact h.congr deed.frame.calls deed.frame.lock
  | answered => exact h.congr rfl rfl
  | arrived => exact h.congr rfl rfl

end Session

end MarketWire.Stream
