import MarketWire.Proofs.Session.Locking

namespace MarketWire.Stream

def Stage.ending : Stage → Bool
  | .handing _ => true
  | .joining _ _ => true
  | _ => false

namespace Session

variable {s t : Session} {c d : Call}

structure Orderly (s : Session) : Prop where
  locking : s.Locking
  dialling : ∀ c ∈ s.calls, ∀ a, c.stage = .attempting a → s.worker = .idle
  emptied : s.worker = .idle → s.channel.buffer = []
  unopened : s.opened = false →
    s.worker = .idle ∧ s.registry = .empty ∧ s.calls.length ≤ 1 ∧
      ∀ c ∈ s.calls, c.action = .connect
  opened : s.opened = true →
    s.calls ≠ [] ∧ ∀ c ∈ s.calls, c.action = .connect → ∃ a, c.stage = .over a
  handled : s.channel.sender = false →
    s.worker = .idle ∨ ∃ c ∈ s.calls, c.stage.ending = true

theorem orderly_initial (p : Profile) (seconds : List Int) (draws : List Float) :
    (initial p seconds draws).Orderly where
  locking := locking_initial p seconds draws
  dialling _ hc := absurd hc List.not_mem_nil
  emptied _ := rfl
  unopened _ := ⟨rfl, rfl, Nat.zero_le 1, fun _ hc => absurd hc List.not_mem_nil⟩
  opened h := by cases h
  handled _ := Or.inl rfl

theorem Orderly.eq_of_attempting (h : s.Orderly) (hc : c ∈ s.calls) (hd : d ∈ s.calls)
    (alone : c.holdsLock = true ∨ s.opened = false) {a : Attempt} (ad : d.stage = .attempting a) :
    c = d := by
  cases ho : s.opened with
  | false =>
      have hlen : s.calls.length ≤ 1 := (h.unopened ho).2.2.1
      have hlc := h.locking.id_lt hc
      have hld := h.locking.id_lt hd
      exact h.locking.eq_of_id hc hd (by omega)
  | true =>
      have hne : d.action ≠ .connect := by
        intro ha
        obtain ⟨_, hov⟩ := (h.opened ho).2 d hd ha
        rw [ad] at hov
        cases hov
      have ld : d.holdsLock = true := by simpa [Call.holdsLock, ad] using hne
      rcases alone with lc | ho'
      · exact h.locking.eq_of_holdsLock hc hd lc ld
      · rw [ho] at ho'
        cases ho'

theorem Orderly.alone_of_attempting (h : s.Orderly) (hc : c ∈ s.calls) {a : Attempt}
    (ac : c.stage = .attempting a) : c.holdsLock = true ∨ s.opened = false := by
  by_cases ha : c.action = .connect
  · right
    cases ho : s.opened with
    | false => rfl
    | true =>
        obtain ⟨_, hov⟩ := (h.opened ho).2 c hc ha
        rw [ac] at hov
        cases hov
  · left
    simpa [Call.holdsLock, ac] using ha

theorem Orderly.not_attempting (h : s.Orderly) (hc : c ∈ s.calls)
    (alone : c.holdsLock = true ∨ s.opened = false) (hs : ∀ a, c.stage ≠ .attempting a) :
    ∀ d ∈ s.calls, ∀ a, d.stage ≠ .attempting a := by
  intro d hd a ad
  exact hs a (h.eq_of_attempting hc hd alone ad ▸ ad)

theorem Orderly.opened_of_action (h : s.Orderly) (hc : c ∈ s.calls) (ha : c.action ≠ .connect) :
    s.opened = true := by
  cases ho : s.opened with
  | true => rfl
  | false => exact absurd ((h.unopened ho).2.2.2 c hc) ha

theorem Orderly.unopened_of_connect (h : s.Orderly) (hc : c ∈ s.calls) (ha : c.action = .connect)
    (hs : ∀ a, c.stage ≠ .over a) : s.opened = false := by
  cases ho : s.opened with
  | false => rfl
  | true =>
      obtain ⟨a, hov⟩ := (h.opened ho).2 c hc ha
      exact absurd hov (hs a)

theorem Orderly.idle_of_unsent (h : s.Orderly) (hc : c ∈ s.calls) (held : c.holdsLock = true)
    (ending : c.stage.ending = false) (hu : s.worker = .idle ∨ s.channel.sender = false) :
    s.worker = .idle := by
  rcases hu with idle | sender
  · exact idle
  · rcases h.handled sender with idle | ⟨d, hd, hd'⟩
    · exact idle
    · have held' : d.holdsLock = true := by
        cases hst : d.stage <;> simp_all [Stage.ending, Call.holdsLock, Stage.underLock]
      rw [← h.locking.eq_of_holdsLock hc hd held held', ending] at hd'
      cases hd'

theorem Orderly.turn (h : s.Orderly) (hc : c ∈ s.calls) (locking : t.Locking)
    (stage : Stage) (calls : t.calls = (s.setStage c.id stage).calls)
    (worker : t.worker = s.worker) (opened : t.opened = s.opened)
    (emptied : s.worker = .idle → t.channel.buffer = [])
    (registry : c.action = .connect → t.registry = s.registry)
    (dialling : ∀ a, stage = .attempting a → s.worker = .idle)
    (sender : t.channel.sender = s.channel.sender ∨ stage.ending = true)
    (ending : c.stage.ending = true → stage.ending = true ∨ s.worker = .idle)
    (going : ∀ a, c.stage ≠ .over a) : t.Orderly := by
  have mem : ∀ {d}, d ∈ t.calls ↔ d = c.at stage ∨ d ∈ s.calls ∧ d.id ≠ c.id :=
    h.locking.mem_turned hc calls
  refine ⟨locking, ?_, ?_, ?_, ?_, ?_⟩
  · intro d hd a ha
    rw [worker]
    rcases mem.mp hd with rfl | ⟨hd, _⟩
    · exact dialling a ha
    · exact h.dialling d hd a ha
  · rw [worker]
    exact emptied
  · rw [opened, worker]
    intro ho
    obtain ⟨hw, hr, hlen, hall⟩ := h.unopened ho
    refine ⟨hw, ?_, ?_, ?_⟩
    · rw [registry (hall c hc), hr]
    · rw [calls, setStage, List.length_map]
      exact hlen
    · intro d hd
      rcases mem.mp hd with rfl | ⟨hd, _⟩
      · exact hall c hc
      · exact hall d hd
  · rw [opened]
    intro ho
    obtain ⟨hne, hall⟩ := h.opened ho
    refine ⟨?_, ?_⟩
    · rw [calls, setStage]
      exact fun e => hne (List.map_eq_nil_iff.mp e)
    · intro d hd ha
      rcases mem.mp hd with rfl | ⟨hd, _⟩
      · obtain ⟨a, hov⟩ := hall c hc ha
        exact absurd hov (going a)
      · exact hall d hd ha
  · rw [worker]
    intro hs
    have here : stage.ending = true → ∃ d ∈ t.calls, d.stage.ending = true :=
      fun he => ⟨c.at stage, mem.mpr (Or.inl rfl), he⟩
    rcases sender with same | he
    · rcases h.handled (same ▸ hs) with hw | ⟨d, hd, he⟩
      · exact Or.inl hw
      · by_cases hid : d.id = c.id
        · rw [h.locking.eq_of_id hd hc hid] at he
          rcases ending he with he | hw
          · exact Or.inr (here he)
          · exact Or.inl hw
        · exact Or.inr ⟨d, mem.mpr (Or.inr ⟨hd, hid⟩), he⟩
    · exact Or.inr (here he)

theorem Orderly.attempt (h : s.Orderly) {a : Attempt} {es : List Event} {p : Progress}
    (deed : AttemptDeed s a es t p) : t.Orderly := by
  have frame := deed.frame
  refine ⟨h.locking.congr frame.calls frame.lock, ?_, ?_, ?_, ?_, ?_⟩
  · rw [frame.calls, frame.worker]
    exact h.dialling
  · rw [frame.worker, frame.channel]
    exact h.emptied
  · rw [frame.opened, frame.worker, frame.calls]
    intro ho
    obtain ⟨hw, hr, hrest⟩ := h.unopened ho
    refine ⟨hw, ?_, hrest⟩
    rcases deed.registry with e | e
    · rw [e, hr]
    · rw [e, hr]
      rfl
  · rw [frame.opened, frame.calls]
    exact h.opened
  · rw [frame.channel, frame.worker, frame.calls]
    exact h.handled

theorem Orderly.started (h : s.Orderly) (hc : c ∈ s.calls) {a : Attempt}
    (hs : c.stage = .attempting a) (n : Nat) (locking : (s.onCallProgress c (.done n)).Locking) :
    (s.onCallProgress c (.done n)).Orderly := by
  have others : ∀ d ∈ (s.onCallProgress c (.done n)).calls,
      d = c.at (.over .done) ∨ d ∈ s.calls ∧ d.id ≠ c.id :=
    fun _ hd => (h.locking.mem_setStage hc).mp hd
  refine ⟨locking, ?_, ?_, ?_, ?_, ?_⟩
  · intro d hd b hb
    rcases others d hd with rfl | ⟨hd, hid⟩
    · cases hb
    · have same := h.eq_of_attempting hc hd (h.alone_of_attempting hc hs) hb
      exact absurd (congrArg Call.id same).symm hid
  · intro hw
    cases hw
  · intro ho
    cases ho
  · intro _
    refine ⟨?_, ?_⟩
    · intro e
      have none : s.calls = [] := List.map_eq_nil_iff.mp e
      rw [none] at hc
      cases hc
    · intro d hd ha
      rcases others d hd with rfl | ⟨hd, hid⟩
      · exact ⟨_, rfl⟩
      · cases ho : s.opened with
        | true => exact (h.opened ho).2 d hd ha
        | false =>
            have hlen : s.calls.length ≤ 1 := (h.unopened ho).2.2.1
            have hlc := h.locking.id_lt hc
            have hld := h.locking.id_lt hd
            omega
  · intro hs
    cases hs

theorem Orderly.progress (h : s.Orderly) (hc : c ∈ s.calls) {a : Attempt}
    (hs : c.stage = .attempting a) (p : Progress) (locking : (s.onCallProgress c p).Locking) :
    (s.onCallProgress c p).Orderly := by
  have idle : s.worker = .idle := h.dialling c hc a hs
  have next : ∀ (stage : Stage) {u : Session}, u.Locking →
      u.calls = (s.setStage c.id stage).calls → u.worker = s.worker → u.opened = s.opened →
      u.channel = s.channel → u.registry = s.registry → u.Orderly := by
    intro stage u hu calls worker opened channel registry
    refine h.turn hc hu stage calls worker opened ?_ (fun _ => registry) (fun _ _ => idle) ?_
      (fun _ => Or.inr idle) (by simp [hs])
    · rw [channel]
      exact h.emptied
    · rw [channel]
      exact Or.inl rfl
  cases p with
  | more b => exact next (.attempting b) locking rfl rfl rfl rfl rfl
  | done n => exact h.started hc hs n locking
  | failed e =>
      simp only [onCallProgress] at locking ⊢
      split at locking
      · next ha =>
          rw [if_pos ha]
          exact next (.over (.failed e)) locking rfl rfl rfl rfl rfl
      · next ha =>
          rw [if_neg ha]
          exact next (.over (.failed e)) locking rfl rfl rfl rfl rfl

theorem Orderly.quiet (h : s.Orderly) (hc : c ∈ s.calls) {before after : Stage}
    (hu : t.Locking) (hs : c.stage = before)
    (ending : before.ending = true → after.ending = true ∨ s.worker = .idle)
    (going : ∀ a, before ≠ .over a) (dialling : ∀ a, after = .attempting a → s.worker = .idle)
    (calls : t.calls = (s.setStage c.id after).calls) (worker : t.worker = s.worker)
    (opened : t.opened = s.opened) (channel : t.channel = s.channel)
    (registry : c.action = .connect → t.registry = s.registry) : t.Orderly := by
  subst hs
  refine h.turn hc hu after calls worker opened ?_ registry dialling ?_ ending going
  · rw [channel]
    exact h.emptied
  · rw [channel]
    exact Or.inl rfl

theorem Orderly.calm (h : s.Orderly) (hc : c ∈ s.calls) {before after : Stage}
    (hu : t.Locking) (hs : c.stage = before) (ending : before.ending = false)
    (going : ∀ a, before ≠ .over a) (dialling : ∀ a, after ≠ .attempting a)
    (calls : t.calls = (s.setStage c.id after).calls) (worker : t.worker = s.worker)
    (opened : t.opened = s.opened) (channel : t.channel = s.channel)
    (registry : c.action = .connect → t.registry = s.registry) : t.Orderly :=
  h.quiet hc hu hs (fun e => by rw [ending] at e; cases e) going
    (fun a e => absurd e (dialling a)) calls worker opened channel registry

theorem Orderly.call (h : s.Orderly) (hc : c ∈ s.calls) {es : List Event}
    (deed : CallDeed s c es t) : t.Orderly := by
  have locking : t.Locking := h.locking.call hc deed
  cases deed with
  | declined hs | asked hs | shut hs | received hs | discarded hs | locked hs | unchanged hs
  | replacing hs | closing hs | noticed hs | skipped hs | unsent hs | unled hs =>
      exact h.calm hc locking hs rfl (by simp) (by simp) rfl rfl rfl rfl (fun _ => rfl)
  | begun hs ha =>
      have idle : s.worker = .idle :=
        (h.unopened (h.unopened_of_connect hc ha (by simp [hs]))).1
      exact h.quiet hc locking hs (by simp [Stage.ending]) (by simp) (fun _ _ => idle) rfl rfl rfl
        rfl (fun _ => rfl)
  | added hs | removed hs =>
      exact h.calm hc locking hs rfl (by simp) (by simp) rfl rfl rfl rfl
        (fun e => absurd e (h.locking.not_connect hc hs rfl))
  | sent hs hw =>
      exact h.turn hc locking (.over .done) rfl rfl rfl (fun e => absurd e hw)
        (fun _ => rfl) (by simp) (Or.inl rfl) (by simp [hs, Stage.ending]) (by simp [hs])
  | handing hs =>
      rename_i cmd _
      exact h.turn hc locking (.handing cmd) rfl rfl rfl h.emptied (fun _ => rfl) (by simp)
        (Or.inr rfl) (by simp [hs, Stage.ending]) (by simp [hs])
  | unheard hs hw =>
      exact h.quiet hc locking hs (fun _ => Or.inr hw) (by simp) (by simp) rfl rfl rfl rfl
        (fun _ => rfl)
  | handed hs hw =>
      rename_i cmd
      exact h.turn hc locking (.joining cmd _) rfl rfl rfl (fun e => absurd e hw)
        (fun _ => rfl) (by simp) (Or.inl rfl) (fun _ => Or.inl rfl) (by simp [hs])
  | redialled hs hw =>
      exact h.quiet hc locking hs (fun _ => Or.inr hw) (by simp) (fun _ _ => hw) rfl rfl rfl rfl
        (fun _ => rfl)
  | ended hs _ hw =>
      exact h.quiet hc locking hs (fun _ => Or.inr hw) (by simp) (by simp) rfl rfl rfl rfl
        (fun _ => rfl)
  | attempted hs deed =>
      have hc' : c ∈ _ := deed.frame.calls.symm ▸ hc
      exact (h.attempt deed).progress hc' hs _ locking

theorem WorkerDeed.busy {es : List Event} (deed : WorkerDeed s es t) : s.worker ≠ .idle := by
  intro hw
  cases deed with
  | ponged h | consumed h | routed h | answered h | ignored h | lost h | overdue h | pinged h
  | subscribed h | unsubscribed h | unready h | told h | pushed h | barred h | stopped h | paused h
  | gaveUp h | drained h | redialled h | attempted h =>
      simp [h] at hw

theorem WorkerDeed.emptied {es : List Event} (deed : WorkerDeed s es t) (hw : t.worker = .idle) :
    t.channel.buffer = [] := by
  cases deed with
  | stopped _ =>
      rename_i why _
      cases why <;> rfl
  | gaveUp _ => rfl
  | drained h hn =>
      rename_i cmd s'
      have hs' : s'.worker = s.worker := by
        rcases nextCommand_eq hn with ⟨rest, _, rfl⟩ | ⟨_, _, _, _, rfl⟩ <;> rfl
      cases cmd with
      | close => rfl
      | detach => rfl
      | subscribe x =>
          simp only [onPauseCommand, hs', h] at hw
          cases hw
      | unsubscribe x =>
          simp only [onPauseCommand, hs', h] at hw
          cases hw
  | attempted _ _ =>
      rename_i p _ _
      cases p with
      | more b => cases hw
      | done n => cases hw
      | failed e =>
          simp only [onProgress] at hw ⊢
          split at hw
          · next he =>
              rw [if_pos he]
              rfl
          · cases hw
  | _ => cases hw

theorem Orderly.worker (h : s.Orderly) {es : List Event} (deed : WorkerDeed s es t) :
    t.Orderly := by
  have frame := deed.frame
  have busy := deed.busy
  refine ⟨h.locking.congr frame.calls frame.lock, ?_, deed.emptied, ?_, ?_, ?_⟩
  · rw [frame.calls]
    exact fun d hd a ha => absurd (h.dialling d hd a ha) busy
  · rw [frame.opened]
    exact fun ho => absurd (h.unopened ho).1 busy
  · rw [frame.opened, frame.calls]
    exact h.opened
  · rw [frame.sender, frame.calls]
    intro hs
    rcases h.handled hs with hw | he
    · exact absurd hw busy
    · exact Or.inr he

theorem Orderly.cutOff (h : s.Orderly) (busy : s.worker ≠ .idle) : s.abortWorker.Orderly where
  locking := h.locking.congr rfl rfl
  dialling _ _ _ _ := rfl
  emptied _ := rfl
  unopened ho := absurd (h.unopened ho).1 busy
  opened := h.opened
  handled _ := Or.inl rfl

theorem Orderly.invoke (h : s.Orderly) {a : Action}
    (ha : a = .connect ∧ s.calls = [] ∨ a ≠ .connect ∧ s.opened = true) :
    Orderly { s with calls := s.calls ++ [⟨s.calls.length, a, .begun⟩] } := by
  have mem : ∀ {d : Call}, d ∈ s.calls ++ [⟨s.calls.length, a, .begun⟩] ↔
      d ∈ s.calls ∨ d = ⟨s.calls.length, a, .begun⟩ := by simp
  refine ⟨h.locking.invoke rfl rfl, ?_, h.emptied, ?_, ?_, ?_⟩
  · intro d hd b hb
    rcases mem.mp hd with hd | rfl
    · exact h.dialling d hd b hb
    · cases hb
  · intro ho
    obtain ⟨hw, hr, _, hall⟩ := h.unopened ho
    rcases ha with ⟨rfl, hnil⟩ | ⟨_, ho'⟩
    · refine ⟨hw, hr, by simp [hnil], ?_⟩
      intro d hd
      rcases mem.mp hd with hd | rfl
      · exact hall d hd
      · rfl
    · rw [show s.opened = false from ho] at ho'
      cases ho'
  · intro ho
    obtain ⟨hne, hall⟩ := h.opened ho
    refine ⟨by simp, ?_⟩
    intro d hd hact
    rcases mem.mp hd with hd | rfl
    · exact hall d hd hact
    · rcases ha with ⟨_, hnil⟩ | ⟨hne', _⟩
      · exact absurd hnil hne
      · exact absurd hact hne'
  · intro hs
    rcases h.handled hs with hw | ⟨d, hd, he⟩
    · exact Or.inl hw
    · exact Or.inr ⟨d, mem.mpr (Or.inl hd), he⟩

theorem Orderly.step (h : s.Orderly) {m : Move} (hs : s.step m = some t) : t.Orderly := by
  have locking : t.Locking := h.locking.step hs
  cases step_deed hs with
  | elapsed => exact ⟨locking, h.dialling, h.emptied, h.unopened, h.opened, h.handled⟩
  | invoked ha => exact h.invoke ha
  | abandoned hc _ hb =>
      exact h.turn hc locking (.over .done) rfl rfl rfl h.emptied (fun _ => rfl)
        (by simp) (Or.inl rfl) (by simp [hb, Stage.ending]) (by simp [hb])
  | called hc deed => exact h.call hc deed
  | cutOff _ _ _ busy => exact h.cutOff busy
  | worked deed => exact h.worker deed
  | answered => exact ⟨locking, h.dialling, h.emptied, h.unopened, h.opened, h.handled⟩
  | arrived => exact ⟨locking, h.dialling, h.emptied, h.unopened, h.opened, h.handled⟩

theorem Run.orderly {p : Profile} {seconds : List Int} {draws : List Float} {ms : List Move}
    (run : Run (initial p seconds draws) ms t) : t.Orderly :=
  Run.keeps (I := fun s _ => s.Orderly) (h := []) (fun hi hs => hi.step hs) run
    (orderly_initial p seconds draws)

end Session

end MarketWire.Stream
