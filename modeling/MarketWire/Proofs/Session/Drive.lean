import MarketWire.Proofs.Session.Closing
import MarketWire.Proofs.Session.Hearing
import MarketWire.Proofs.Session.Work

namespace MarketWire.Stream

inductive Driver where
  | resting
  | serving (link : Nat)
  | stopping (link : Nat)
  | deciding
  | waiting
  | attempting (a : Attempt)

def Worker.driver : Worker → Driver
  | .idle => .resting
  | .reading n _ => .serving n
  | .pushing n _ _ => .serving n
  | .stopping n _ => .stopping n
  | .deciding _ _ => .deciding
  | .waiting _ _ => .waiting
  | .attempting _ a => .attempting a

inductive Progress.Leads : Progress → Driver → Prop where
  | more (a : Attempt) : Leads (.more a) (.attempting a)
  | done (n : Nat) : Leads (.done n) (.serving n)
  | retried (e : StreamError) : Leads (.failed e) .deciding
  | ended (e : StreamError) : Leads (.failed e) .resting

def Call.Purposeful (c : Call) : Prop := c.stage.isReplacing = true → c.action = .reconnect

namespace Session

variable {s t : Session} {c : Call} {h : List Event}

def attemptNotices (s : Session) (a : Attempt) (b : Branch) : List Nat :=
  match s.attemptStep a b with
  | some (_, .failed _) => a.link?.toList
  | _ => []

def readNotices (s : Session) (n : Nat) : List Nat :=
  match s.nextArrival n with
  | some (.close _, _) => [n]
  | some (.failure _, _) => [n]
  | some (.endOfStream, _) => [n]
  | _ => []

def commandNotices (s : Session) (n : Nat) : List Nat :=
  match s.nextCommand with
  | some (.close, _) => [n]
  | some (.detach, _) => [n]
  | _ => []

def workerNotices (s : Session) (b : Branch) : List Nat :=
  match s.worker, b with
  | .reading n _, .read => s.readNotices n
  | .reading n _, .command => s.commandNotices n
  | .reading n k, .timer => if k.pongDeadline.isSome then [n] else []
  | .pushing n m _, .proceed =>
      match s.mailbox.offer m with
      | .refused => [n]
      | _ => []
  | .attempting _ a, b => s.attemptNotices a b
  | _, _ => []

def callNotices (s : Session) (c : Call) (b : Branch) : List Nat :=
  match c.stage with
  | .attempting a => s.attemptNotices a b
  | _ => []

def notices (s : Session) : Move → List Nat
  | .call id b => (s.call? id).elim [] fun c => s.callNotices c b
  | .worker b => s.workerNotices b
  | _ => []

inductive Driven (s : Session) : Driver → Prop where
  | worker : (∀ c ∈ s.calls, ∀ a, c.stage ≠ .attempting a) → Driven s s.worker.driver
  | call {c : Call} {a : Attempt} :
      c ∈ s.calls → c.stage = .attempting a → Driven s (.attempting a)

theorem exists_driven (s : Session) : ∃ d, s.Driven d := by
  by_cases attempts : ∃ c ∈ s.calls, ∃ a, c.stage = .attempting a
  · obtain ⟨c, hc, a, ha⟩ := attempts
    exact ⟨_, .call hc ha⟩
  · exact ⟨_, .worker fun c hc a ha => attempts ⟨c, hc, a, ha⟩⟩

inductive Drive (s : Session) (m : Move) (t : Session) : Driver → Driver → Prop where
  | still {d : Driver} : t.phase = s.phase → s.notices m = [] → Drive s m t d d
  | lost {n : Nat} : s.notices m = [n] → Drive s m t (.serving n) .deciding
  | parting {n : Nat} : s.notices m = [n] → Drive s m t (.serving n) (.stopping n)
  | parted {n : Nat} : s.notices m = [] → t.phase = .closed → Drive s m t (.stopping n) .resting
  | paused {attempts wakeAt : Nat} {e : StreamError} :
      s.notices m = [] → s.worker = .deciding attempts e →
      t.worker = .waiting (attempts + 1) wakeAt → Drive s m t .deciding .waiting
  | gaveUp : s.notices m = [] → t.phase = .closed → Drive s m t .deciding .resting
  | halted :
      s.notices m = [] → t.phase = .closed ∨ t.phase = s.phase → Drive s m t .waiting .resting
  | redialled : s.notices m = [] → Drive s m t .waiting (.attempting .starting)
  | begun {c : Call} :
      s.notices m = [] → c ∈ s.calls → c.action = .connect → c.stage = .begun →
      Drive s m t .resting (.attempting .starting)
  | reconnected {c : Call} {b : Branch} :
      s.notices m = [] → c ∈ s.calls → c.action = .reconnect → m = .call c.id b →
      Drive s m t .resting (.attempting .starting)
  | ended : s.notices m = [] → t.phase = .closed → Drive s m t .resting .resting
  | tried {a : Attempt} {b : Branch} {s' : Session} {p : Progress} {d : Driver} :
      s.notices m = s.attemptNotices a b → s.attemptStep a b = some (s', p) →
      t.links = s'.links → t.phase = s'.phase ∨ t.phase = .closed → p.Leads d →
      Drive s m t (.attempting a) d

theorem begin_purposeful (ht : s.begin c.id c.action = some t) :
    ∃ stage, t.calls = (s.setStage c.id stage).calls ∧ (c.at stage).Purposeful := by
  have asked : ∀ {u : Session} {stage : Stage}, u.calls = (s.setStage c.id stage).calls →
      stage.isReplacing = false →
      ∃ stage, u.calls = (s.setStage c.id stage).calls ∧ (c.at stage).Purposeful := by
    intro u stage calls other
    refine ⟨stage, calls, fun replacing => ?_⟩
    rw [Call.at_stage, other] at replacing
    cases replacing
  have subscribed : ∀ x : Channel.Subscription,
      ∃ stage, (s.beginSubscribe c.id x).calls = (s.setStage c.id stage).calls ∧
        (c.at stage).Purposeful := by
    intro x
    simp only [beginSubscribe]
    split
    · exact asked rfl rfl
    · split <;> exact asked rfl rfl
  cases ha : c.action with
  | connect =>
      simp only [Session.begin, ha, Option.some.injEq] at ht
      subst ht
      exact asked rfl rfl
  | follow f =>
      simp only [Session.begin, ha] at ht
      split at ht <;> cases ht
      · exact asked rfl rfl
      · exact subscribed _
  | subscribe x =>
      simp only [Session.begin, ha, Option.some.injEq] at ht
      subst ht
      exact subscribed x
  | unsubscribe x =>
      simp only [Session.begin, ha, Option.some.injEq, beginLocked] at ht
      subst ht
      split <;> exact asked rfl rfl
  | reconnect =>
      simp only [Session.begin, ha, Option.some.injEq, beginLocked] at ht
      subst ht
      split
      · exact asked rfl rfl
      · exact ⟨_, rfl, fun _ => ha⟩
  | close =>
      simp only [Session.begin, ha] at ht
      split at ht <;> cases ht <;> exact asked rfl rfl
  | receive =>
      simp only [Session.begin, ha, receive] at ht
      split at ht <;> cases ht <;> exact asked rfl rfl

theorem callStep_purposeful {b : Branch} (hp : c.Purposeful) (ht : s.callStep c b = some t) :
    ∃ stage, t.calls = (s.setStage c.id stage).calls ∧ (c.at stage).Purposeful := by
  by_cases hc : c.stage = .begun
  · cases b <;> simp only [callStep, hc, reduceCtorEq] at ht
    exact begin_purposeful ht
  · obtain ⟨stage, calls, next⟩ := (callStep_deed ht).next
    refine ⟨stage, calls, ?_⟩
    have goesOn : ∀ before : Stage, c.stage = before → stage.isReplacing = before.isReplacing →
        (c.at stage).Purposeful := by
      intro before hst same replacing
      exact hp ((congrArg Stage.isReplacing hst).trans (same.symm.trans replacing))
    cases next with
    | asked before => exact absurd before hc
    | @locked a before => exact goesOn _ before (by cases a <;> rfl)
    | replacing before => exact goesOn _ before rfl
    | @handing cmd before => exact goesOn _ before (by cases cmd <;> rfl)
    | @joining cmd d before =>
        rcases before with before | before
        · exact goesOn _ before (by cases cmd <;> rfl)
        · exact goesOn _ before (by cases cmd <;> rfl)
    | _ => exact fun replacing => by cases replacing

theorem step_purposeful {m : Move} (hl : s.Locking) (hp : ∀ c ∈ s.calls, c.Purposeful)
    (ht : s.step m = some t) : ∀ c ∈ t.calls, c.Purposeful := by
  intro d hd
  cases m with
  | call id b =>
      obtain ⟨c, found, hs⟩ := Option.bind_eq_some_iff.mp ht
      obtain ⟨hc, rfl⟩ := call?_some found
      obtain ⟨stage, calls, purposeful⟩ := callStep_purposeful (hp c hc) hs
      rcases (hl.mem_turned hc calls).mp hd with rfl | ⟨hd, _⟩
      · exact purposeful
      · exact hp d hd
  | worker b =>
      cases step_deed ht with
      | worked deed => exact hp d (deed.frame.calls ▸ hd)
  | invoke a =>
      cases step_deed ht
      rcases List.mem_append.mp hd with hd | hd
      · exact hp d hd
      · rw [List.mem_singleton.mp hd]
        exact fun replacing => by cases replacing
  | abandon id =>
      cases step_deed ht with
      | abandoned hc =>
          rcases (hl.mem_setStage hc).mp hd with rfl | ⟨hd, _⟩
          · exact fun replacing => by cases replacing
          · exact hp d hd
  | cutOff id =>
      cases step_deed ht
      exact hp d hd
  | elapse span =>
      cases step_deed ht
      exact hp d hd
  | answer n u =>
      cases step_deed ht
      exact hp d hd
  | arrive n a =>
      cases step_deed ht
      exact hp d hd

theorem Driven.of_calls {d : Driver} (hd : t.Driven d) (worker : t.worker = s.worker)
    (calls : t.calls = s.calls) : s.Driven d := by
  cases hd with
  | worker none =>
      rw [worker]
      exact .worker (calls ▸ none)
  | call hc ha => exact .call (calls ▸ hc) ha

theorem Orderly.resting (ho : s.Orderly) (hc : c ∈ s.calls)
    (alone : c.holdsLock = true ∨ s.opened = false) (calm : ∀ a, c.stage ≠ .attempting a)
    (idle : s.worker = .idle) : s.Driven .resting := by
  have driven : s.Driven s.worker.driver := .worker (ho.not_attempting hc alone calm)
  rw [idle] at driven
  exact driven

theorem Orderly.driven_turned (ho : s.Orderly) (hc : c ∈ s.calls) {stage : Stage} {d : Driver}
    (calm : ∀ a, c.stage ≠ .attempting a) (calls : t.calls = (s.setStage c.id stage).calls)
    (worker : t.worker = s.worker) (hd : t.Driven d) :
    s.Driven d ∨ ∃ a, stage = .attempting a ∧ d = .attempting a := by
  have mem : ∀ {e}, e ∈ t.calls ↔ e = c.at stage ∨ e ∈ s.calls ∧ e.id ≠ c.id :=
    ho.locking.mem_turned hc calls
  cases hd with
  | worker none =>
      rw [worker]
      refine Or.inl (.worker fun e he a ha => ?_)
      by_cases same : e.id = c.id
      · exact calm a (ho.locking.eq_of_id he hc same ▸ ha)
      · exact none e (mem.mpr (Or.inr ⟨he, same⟩)) a ha
  | @call e a he ha =>
      rcases mem.mp he with rfl | ⟨he, _⟩
      · exact Or.inr ⟨a, ha, rfl⟩
      · exact Or.inl (.call he ha)

theorem Orderly.driven_alone (ho : s.Orderly) (hc : c ∈ s.calls) {stage : Stage} {d : Driver}
    (others : ∀ e ∈ s.calls, e.id ≠ c.id → ∀ a, e.stage ≠ .attempting a)
    (calls : t.calls = (s.setStage c.id stage).calls) (hd : t.Driven d) :
    (∃ a, stage = .attempting a ∧ d = .attempting a) ∨
      (∀ a, stage ≠ .attempting a) ∧ d = t.worker.driver := by
  have mem : ∀ {e}, e ∈ t.calls ↔ e = c.at stage ∨ e ∈ s.calls ∧ e.id ≠ c.id :=
    ho.locking.mem_turned hc calls
  cases hd with
  | worker none => exact Or.inr ⟨none _ (mem.mpr (Or.inl rfl)), rfl⟩
  | @call e a he ha =>
      rcases mem.mp he with rfl | ⟨he, other⟩
      · exact Or.inl ⟨a, ha, rfl⟩
      · exact absurd ha (others e he other a)

theorem WorkerDeed.driven {es : List Event} (deed : WorkerDeed s es t) (ho : s.Orderly) {d : Driver}
    (hd : t.Driven d) : s.Driven s.worker.driver ∧ d = t.worker.driver := by
  have none := ho.unattempted deed.busy
  cases hd with
  | worker => exact ⟨.worker none, rfl⟩
  | call hc ha => exact absurd ha (none _ (deed.frame.calls ▸ hc) _)

theorem onProgress_leads (s : Session) (attempts : Nat) (p : Progress) :
    p.Leads (s.onProgress attempts p).worker.driver := by
  cases p with
  | more a => exact .more a
  | done n => exact .done n
  | failed e =>
      simp only [onProgress]
      split
      · exact .ended e
      · exact .retried e

theorem read_drives {n : Nat} {k : Keepalive} {a : Arrival} {s' : Session}
    (hw : s.worker = .reading n k) (hr : s.nextArrival n = some (a, s')) :
    Drive s (.worker .read) (s'.onArrival n k a) (.serving n)
      (s'.onArrival n k a).worker.driver := by
  have notices : s.notices (.worker .read) = s.readNotices n := by
    simp only [notices, workerNotices, hw]
  obtain ⟨rest, rfl⟩ := nextArrival_eq hr
  rw [readNotices, hr] at notices
  cases a with
  | text content =>
      simp only [onArrival, onText]
      split
      · exact .still rfl notices
      · exact .still rfl notices
      · exact .still rfl notices
  | ping payload => exact .still rfl notices
  | pong payload => exact .still rfl notices
  | binary => exact .still rfl notices
  | close frame => exact .lost notices
  | failure fault => exact .lost notices
  | endOfStream => exact .lost notices

theorem command_drives {n : Nat} {k : Keepalive} {cmd : Command} {s' : Session}
    (hw : s.worker = .reading n k) (ready : s.phase = .ready)
    (hn : s.nextCommand = some (cmd, s')) :
    Drive s (.worker .command) (s'.onCommand n k cmd) (.serving n)
      (s'.onCommand n k cmd).worker.driver := by
  have notices : s.notices (.worker .command) = s.commandNotices n := by
    simp only [notices, workerNotices, hw]
  rw [commandNotices, hn] at notices
  have phase := nextCommand_phase hn
  have up := phase.trans ready
  cases cmd with
  | subscribe x =>
      simp only [onCommand, up, true_or, if_true]
      exact .still phase notices
  | unsubscribe x =>
      simp only [onCommand, up, if_true]
      exact .still phase notices
  | close => exact .parting notices
  | detach => exact .parting notices

theorem wake_drives {n : Nat} {k : Keepalive} (hw : s.worker = .reading n k) :
    Drive s (.worker .timer) (s.onWake n k) (.serving n) (s.onWake n k).worker.driver := by
  have notices : s.notices (.worker .timer) = if k.pongDeadline.isSome then [n] else [] := by
    simp only [notices, workerNotices, hw]
  simp only [onWake]
  cases hk : k.pongDeadline with
  | some d =>
      rw [hk] at notices
      exact .lost notices
  | none =>
      rw [hk] at notices
      exact .still rfl notices

theorem push_drives {n : Nat} {m : Message} {k : Keepalive} (hw : s.worker = .pushing n m k)
    (ht : s.onPush n m k = some t) :
    Drive s (.worker .proceed) t (.serving n) t.worker.driver := by
  have notices : s.notices (.worker .proceed) = match s.mailbox.offer m with
      | .refused => [n]
      | _ => [] := by
    simp only [notices, workerNotices, hw]
  simp only [onPush] at ht
  split at ht <;> cases ht
  · next hq =>
      rw [hq] at notices
      exact .still rfl notices
  · next hq =>
      rw [hq] at notices
      exact .parting notices

theorem decide_drives {attempts : Nat} {e : StreamError} (hw : s.worker = .deciding attempts e) :
    Drive s (.worker .proceed) (s.decide attempts e) .deciding
      (s.decide attempts e).worker.driver := by
  have notices : s.notices (.worker .proceed) = [] := by simp only [notices, workerNotices, hw]
  simp only [Session.decide]
  split
  · exact .paused notices hw rfl
  · exact .gaveUp notices rfl

theorem drain_drives {attempts wakeAt : Nat} {cmd : Command} {s' : Session}
    (hw : s.worker = .waiting attempts wakeAt) (hn : s.nextCommand = some (cmd, s')) :
    Drive s (.worker .command) (s'.onPauseCommand cmd) .waiting
      (s'.onPauseCommand cmd).worker.driver := by
  have notices : s.notices (.worker .command) = [] := by simp only [notices, workerNotices, hw]
  have waits : s'.worker.driver = .waiting :=
    congrArg Worker.driver ((nextCommand_worker hn).trans hw)
  have phase := nextCommand_phase hn
  cases cmd with
  | close => exact .halted notices (Or.inl rfl)
  | detach => exact .halted notices (Or.inr phase)
  | subscribe x =>
      simp only [onPauseCommand, waits]
      exact .still phase notices
  | unsubscribe x =>
      simp only [onPauseCommand, waits]
      exact .still phase notices

theorem Work.drive {b : Branch} (hs : s.Conduct h) (work : Work s b t) :
    Drive s (.worker b) t s.worker.driver t.worker.driver := by
  cases work with
  | read hw hr =>
      have drives := read_drives hw hr
      rw [hw]
      exact drives
  | command hw hn =>
      have stands := hs.busy (by simp [hw])
      rw [hw] at stands ⊢
      exact command_drives hw stands.1 hn
  | wake hw =>
      have drives := wake_drives hw
      rw [hw]
      exact drives
  | push hw ht =>
      have drives := push_drives hw ht
      rw [hw]
      exact drives
  | @stop n why hw =>
      have notices : s.notices (.worker .proceed) = [] := by simp only [notices, workerNotices, hw]
      rw [hw]
      cases why with
      | closed => exact .parted notices rfl
      | detached => exact .parted notices rfl
  | decide hw =>
      have deciding : s.worker.driver = .deciding := congrArg Worker.driver hw
      rw [deciding]
      exact decide_drives hw
  | drain hw hn =>
      have drives := drain_drives hw hn
      rw [hw]
      exact drives
  | redial hw =>
      have notices : s.notices (.worker .timer) = [] := by simp only [notices, workerNotices, hw]
      rw [hw]
      exact .redialled notices
  | @attempt attempts a b s' p hw ha =>
      have notices : s.notices (.worker b) = s.attemptNotices a b := by
        simp only [notices, workerNotices, hw]
      have deed := attemptStep_deed ha
      have adv := (hs.orderly.attempt deed).advance_worker (deed.frame.worker.trans hw) p
      rw [hw]
      have phase := adv.phase.imp_right And.left
      exact .tried notices ha adv.links phase (onProgress_leads s' attempts p)

theorem CallDeed.drives (hs : s.Conduct h) (hc : c ∈ s.calls)
    (purposeful : c.Purposeful) {b : Branch} {es : List Event} {d : Driver}
    (calm : ∀ a, c.stage ≠ .attempting a) (notices : s.notices (.call c.id b) = [])
    (deed : CallDeed s c es t) (hd : t.Driven d) :
    ∃ d', s.Driven d' ∧ Drive s (.call c.id b) t d' d := by
  have worker := deed.calm calm
  have still : t.phase = s.phase → ∀ {stage : Stage}, t.calls = (s.setStage c.id stage).calls →
      (∀ a, stage ≠ .attempting a) → ∃ d', s.Driven d' ∧ Drive s (.call c.id b) t d' d := by
    intro phase stage calls after
    rcases hs.orderly.driven_turned hc calm calls worker hd with hd | ⟨a, started, _⟩
    · exact ⟨d, hd, .still phase notices⟩
    · exact absurd started (after a)
  have started : ∀ {a : Attempt}, c.holdsLock = true ∨ s.opened = false →
      t.calls = (s.setStage c.id (.attempting a)).calls → d = .attempting a := by
    intro a alone calls
    have none := hs.orderly.not_attempting hc alone calm
    rcases hs.orderly.driven_alone hc (fun e he _ => none e he) calls hd with
      ⟨_, same, rfl⟩ | ⟨never, _⟩
    · cases same
      rfl
    · exact absurd rfl (never a)
  cases deed with
  | begun hst ha =>
      have unopened := hs.orderly.unopened_of_connect hc ha (by simp [hst])
      have idle : s.worker = .idle := (hs.orderly.unopened unopened).1
      rw [started (Or.inr unopened) rfl]
      exact ⟨.resting, hs.orderly.resting hc (Or.inr unopened) calm idle, .begun notices hc ha hst⟩
  | redialled hst idle =>
      have held : c.holdsLock = true := (holdsLock_eq hst).trans rfl
      have action : c.action = .reconnect := purposeful (by rw [hst]; rfl)
      rw [started (Or.inl held) rfl]
      exact ⟨.resting, hs.orderly.resting hc (Or.inl held) calm idle,
        .reconnected notices hc action rfl⟩
  | ended hst _ idle =>
      have held : c.holdsLock = true := (holdsLock_eq hst).trans rfl
      have none := hs.orderly.not_attempting hc (Or.inl held) calm
      have calls : ((s.withPhase .closed).finishCall c.id .done).calls
          = (s.setStage c.id (.over .done)).calls := rfl
      rcases hs.orderly.driven_alone hc (fun e he _ => none e he) calls hd with
        ⟨a, same, _⟩ | ⟨_, rfl⟩
      · cases same
      · refine ⟨.resting, hs.orderly.resting hc (Or.inl held) calm idle, ?_⟩
        have ended : ((s.withPhase .closed).finishCall c.id .done).worker.driver = .resting :=
          congrArg Worker.driver idle
        rw [ended]
        exact .ended notices rfl
  | attempted hst => exact absurd hst (calm _)
  | _ => exact still rfl rfl (by simp)

theorem attempt_drives (hs : s.Conduct h) (hc : c ∈ s.calls) {a : Attempt} {b : Branch}
    {s' : Session} {p : Progress} {d : Driver} (ha : c.stage = .attempting a)
    (notices : s.notices (.call c.id b) = s.attemptNotices a b)
    (step : s.attemptStep a b = some (s', p)) (hd : (s'.onCallProgress c p).Driven d) :
    ∃ d', s.Driven d' ∧ Drive s (.call c.id b) (s'.onCallProgress c p) d' d := by
  have deed := attemptStep_deed step
  have orderly := hs.orderly.attempt deed
  have hc' : c ∈ s'.calls := deed.frame.calls.symm ▸ hc
  have adv := orderly.advance_call hc' ha p
  have others : ∀ e ∈ s'.calls, e.id ≠ c.id → ∀ b, e.stage ≠ .attempting b := by
    intro e he other b hb
    have same := orderly.eq_of_attempting hc' he (orderly.alone_of_attempting hc' ha) hb
    exact other (congrArg Call.id same).symm
  have leads : p.Leads d := by
    cases p with
    | more a' =>
        rcases orderly.driven_alone hc' others rfl hd with ⟨_, same, rfl⟩ | ⟨never, _⟩
        · cases same
          exact .more a'
        · exact absurd rfl (never a')
    | done n =>
        have calls : (s'.onCallProgress c (.done n)).calls
            = (s'.setStage c.id (.over .done)).calls := rfl
        rcases orderly.driven_alone hc' others calls hd with ⟨_, same, _⟩ | ⟨_, rfl⟩
        · cases same
        · exact .done n
    | failed e =>
        have idle := orderly.dialling c hc' a ha
        have closing : (s'.onCallProgress c (.failed e)).calls
              = (s'.setStage c.id (.over (.failed e))).calls ∧
            (s'.onCallProgress c (.failed e)).worker = s'.worker := by
          simp only [onCallProgress]
          split <;> exact ⟨rfl, rfl⟩
        rcases orderly.driven_alone hc' others closing.1 hd with ⟨_, same, _⟩ | ⟨_, rfl⟩
        · cases same
        · rw [closing.2, idle]
          exact .ended e
  exact ⟨.attempting a, .call hc ha,
    .tried notices step adv.links (adv.phase.imp_right And.left) leads⟩

theorem step_drives {m : Move} {d : Driver} (hs : s.Conduct h)
    (purposeful : ∀ c ∈ s.calls, c.Purposeful) (uncut : ∀ id, m ≠ .cutOff id)
    (ht : s.step m = some t) (hd : t.Driven d) : ∃ d', s.Driven d' ∧ Drive s m t d' d := by
  have beside : s.notices m = [] → t.phase = s.phase → t.worker = s.worker → t.calls = s.calls →
      ∃ d', s.Driven d' ∧ Drive s m t d' d := fun notices phase worker calls =>
    ⟨d, hd.of_calls worker calls, .still phase notices⟩
  cases m with
  | call id b =>
      obtain ⟨c, found, step⟩ := Option.bind_eq_some_iff.mp ht
      obtain ⟨hc, rfl⟩ := call?_some found
      have notices : s.notices (.call c.id b) = s.callNotices c b := by
        simp only [notices, found, Option.elim_some]
      by_cases attempting : ∃ a, c.stage = .attempting a
      · obtain ⟨a, ha⟩ := attempting
        rw [callNotices, ha] at notices
        simp only [callStep, ha] at step
        obtain ⟨⟨s', p⟩, attempted, rfl⟩ := Option.map_eq_some_iff.mp step
        exact attempt_drives hs hc ha notices attempted hd
      · have calm : ∀ a, c.stage ≠ .attempting a := fun a ha => attempting ⟨a, ha⟩
        refine (callStep_deed step).drives hs hc (purposeful c hc) calm ?_ hd
        rw [notices, callNotices]
        split
        · next a ha => exact absurd ha (calm a)
        · rfl
  | worker b =>
      have work := workerStep_work ht
      obtain ⟨driven, rfl⟩ := (workerStep_deed ht).driven hs.orderly hd
      exact ⟨_, driven, work.drive hs⟩
  | cutOff id => exact absurd rfl (uncut id)
  | invoke a =>
      cases step_deed ht
      refine ⟨d, ?_, .still rfl rfl⟩
      cases hd with
      | worker none => exact .worker fun c hc => none c (List.mem_append_left _ hc)
      | call hc ha =>
          rcases List.mem_append.mp hc with hc | hc
          · exact .call hc ha
          · rw [List.mem_singleton.mp hc] at ha
            cases ha
  | abandon id =>
      cases step_deed ht with
      | abandoned hc _ hst =>
          rcases hs.orderly.driven_turned hc (by simp [hst]) rfl rfl hd with hd | ⟨a, stage, _⟩
          · exact ⟨d, hd, .still rfl rfl⟩
          · cases stage
  | elapse span =>
      cases step_deed ht
      exact beside rfl rfl rfl rfl
  | answer n u =>
      cases step_deed ht
      exact beside rfl rfl rfl rfl
  | arrive n a =>
      cases step_deed ht
      exact beside rfl rfl rfl rfl

end Session

end MarketWire.Stream
