import MarketWire.Proofs.Listing
import MarketWire.Proofs.Session.Chronicle

namespace MarketWire.Stream

open Channel (Subscription)

namespace Session

variable {s t : Session}

inductive AttemptDeed (s : Session) : Attempt → List Event → Session → Progress → Prop where
  | undialled {e : StreamError} : AttemptDeed s .starting [] (s.withPhase .closed) (.failed e)
  | dialled (address : Address) :
      AttemptDeed s .starting []
        { s with links :=
            s.links ++ [Link.opening (s.links.length + 1) address s.profile.endpoint.headers] }
        (.more (.upgrading (s.links.length + 1) (s.now + s.settings.connectTimeout)))
  | admitted {n d : Nat} :
      s.profile.access = .marketData →
      AttemptDeed s (.upgrading n d) [] (s.withPhase .ready) (.more (.connected n))
  | signed {n d : Nat} {c : Credentials} :
      s.profile.access = .account c →
      AttemptDeed s (.upgrading n d) [] (s.login n c).1 (s.login n c).2
  | refused {n d : Nat} {e : StreamError} :
      AttemptDeed s (.upgrading n d) [] (s.failAttempt n e).1 (.failed e)
  | welcomed {n d : Nat} {content : String} {s' : Session} :
      s.nextArrival n = some (.text content, s') → loginVerdict content = some (.ok ()) →
      AttemptDeed s (.loggingIn n d) [.loggedIn n] (s'.withPhase .ready) (.more (.connected n))
  | ponged {n d : Nat} {payload : String} {s' : Session} :
      s.nextArrival n = some (.ping payload, s') →
      AttemptDeed s (.loggingIn n d) [] (s'.write n (.pong payload)) (.more (.loggingIn n d))
  | ignored {n d : Nat} {a : Arrival} {s' : Session} :
      s.nextArrival n = some (a, s') →
      AttemptDeed s (.loggingIn n d) [] s' (.more (.loggingIn n d))
  | rejected {n d : Nat} {a : Arrival} {s' : Session} {e : StreamError} :
      s.nextArrival n = some (a, s') →
      AttemptDeed s (.loggingIn n d) [] (s'.failAttempt n e).1 (.failed e)
  | unanswered {n d : Nat} {e : StreamError} :
      AttemptDeed s (.loggingIn n d) [] (s.failAttempt n e).1 (.failed e)
  | listed {n : Nat} :
      AttemptDeed s (.connected n) [.listed n s.registry.all]
        { s with registry := s.registry.resetConfirmations } (.more (.replaying n s.registry.all))
  | replayed {n : Nat} {x : Subscription} {rest : List Subscription} :
      s.phase = .ready →
      AttemptDeed s (.replaying n (x :: rest)) [] (s.onLink n (·.subscribe x))
        (.more (.replaying n rest))
  | unready {n : Nat} {x : Subscription} {rest : List Subscription} :
      s.phase ≠ .ready →
      AttemptDeed s (.replaying n (x :: rest)) [] (s.dropLink n) (.failed .notConnected)
  | replayEnded {n : Nat} : AttemptDeed s (.replaying n []) [] s (.done n)

theorem onLoginArrival_deed {s' : Session} {n d : Nat} {a : Arrival}
    (hr : s.nextArrival n = some (a, s')) :
    AttemptDeed s (.loggingIn n d) (s.attemptEvents (.loggingIn n d) .read)
      (s'.onLoginArrival n d a).1 (s'.onLoginArrival n d a).2 := by
  cases a with
  | text content =>
      cases hv : loginVerdict content with
      | none =>
          simp only [attemptEvents, hr, hv, onLoginArrival]
          exact .ignored hr
      | some verdict =>
          cases verdict with
          | ok u =>
              simp only [attemptEvents, hr, hv, onLoginArrival]
              exact .welcomed hr hv
          | error e =>
              simp only [attemptEvents, hr, hv, onLoginArrival]
              exact .rejected hr
  | ping payload =>
      simp only [attemptEvents, hr, onLoginArrival]
      exact .ponged hr
  | pong payload =>
      simp only [attemptEvents, hr, onLoginArrival]
      exact .ignored hr
  | binary =>
      simp only [attemptEvents, hr, onLoginArrival]
      exact .ignored hr
  | close frame =>
      simp only [attemptEvents, hr, onLoginArrival]
      exact .rejected hr
  | failure fault =>
      simp only [attemptEvents, hr, onLoginArrival]
      exact .rejected hr
  | endOfStream =>
      simp only [attemptEvents, hr, onLoginArrival]
      exact .rejected hr

theorem attemptStep_deed {s' : Session} {a : Attempt} {b : Branch} {p : Progress}
    (h : s.attemptStep a b = some (s', p)) :
    AttemptDeed s a (s.attemptEvents a b) s' p := by
  cases a with
  | starting =>
      cases b <;> simp only [attemptStep, Option.some.injEq, reduceCtorEq] at h
      simp only [dial] at h
      split at h <;> cases h
      · exact .undialled
      · exact .dialled _
  | upgrading n d =>
      cases b <;> simp only [attemptStep, reduceCtorEq] at h
      · obtain ⟨u, _, hu⟩ := Option.map_eq_some_iff.mp h
        cases u with
        | refused fault =>
            cases hu
            exact .refused
        | accepted =>
            simp only [onUpgrade] at hu
            split at hu
            · next c hc =>
                cases hu
                exact .signed hc
            · next hc =>
                cases hu
                exact .admitted hc
      · split at h <;> cases h
        exact .refused
  | loggingIn n d =>
      cases b <;> simp only [attemptStep, reduceCtorEq] at h
      · obtain ⟨⟨a, s₁⟩, hr, hu⟩ := Option.map_eq_some_iff.mp h
        have deed := onLoginArrival_deed (d := d) hr
        rw [show s₁.onLoginArrival n d a = (s', p) from hu] at deed
        exact deed
      · split at h <;> cases h
        exact .unanswered
  | connected n =>
      cases b <;> simp only [attemptStep, Option.some.injEq, reduceCtorEq] at h
      cases h
      simp only [attemptEvents, Registry.all_resetConfirmations]
      exact .listed
  | replaying n rest =>
      cases rest with
      | nil =>
          cases b <;> simp only [attemptStep, Option.some.injEq, reduceCtorEq] at h
          cases h
          exact .replayEnded
      | cons x rest =>
          cases b <;> simp only [attemptStep, Option.some.injEq, reduceCtorEq] at h
          simp only [replayOne] at h
          split at h
          · next hp =>
              cases h
              exact .replayed hp
          · next hp =>
              cases h
              exact .unready hp

inductive CallDeed (s : Session) (c : Call) : List Event → Session → Prop where
  | declined {a : Answer} :
      c.stage = .begun → c.action ≠ .connect → CallDeed s c [] (s.finishCall c.id a)
  | asked {a : Action} :
      c.stage = .begun → c.action ≠ .connect → s.shut = false → a ≠ .close →
      CallDeed s c [] (s.setStage c.id (.locking a))
  | shut :
      c.stage = .begun → c.action = .close → s.shut = false →
      CallDeed s c [.shut c.id] ({ s with shut := true }.setStage c.id .discarding)
  | begun :
      c.stage = .begun → c.action = .connect →
      CallDeed s c [] ((s.withPhase .connecting).setStage c.id (.attempting .starting))
  | received {m : Message} {q : Mailbox Message} :
      c.stage = .begun → c.action ≠ .connect → s.mailbox.take = .item m q →
      CallDeed s c [.returned m] ({ s with mailbox := q }.finishCall c.id (.message m))
  | discarded :
      c.stage = .discarding →
      CallDeed s c [] ({ s with mailbox := s.mailbox.close }.setStage c.id (.locking .close))
  | locked {a : Action} :
      c.stage = .locking a → s.lock = none →
      CallDeed s c [] ({ s with lock := some c.id }.setStage c.id (.changing a))
  | added {x : Subscription} :
      c.stage = .changing (.subscribe x) → s.registry.contains x = false →
      CallDeed s c [.added x]
        ({ s with registry := (s.registry.add x).1 }.setStage c.id (.sending (.subscribe x)))
  | removed {x : Subscription} :
      c.stage = .changing (.unsubscribe x) → s.registry.contains x = true →
      CallDeed s c [.removed x]
        ({ s with registry := (s.registry.remove x).1 }.setStage c.id (.observing x))
  | unchanged {a : Action} :
      c.stage = .changing a → CallDeed s c [] (s.finishCall c.id .done)
  | replacing :
      c.stage = .changing .reconnect → CallDeed s c [] (s.setStage c.id (.stopping .detach))
  | closing :
      c.stage = .changing .close → CallDeed s c [] (s.setStage c.id (.stopping .close))
  | noticed {x : Subscription} :
      c.stage = .observing x → s.phase = .ready →
      CallDeed s c [] (s.setStage c.id (.sending (.unsubscribe x)))
  | skipped {x : Subscription} :
      c.stage = .observing x → s.phase ≠ .ready →
      CallDeed s c [.skipped x] (s.finishCall c.id .done)
  | unsent {cmd : Command} :
      c.stage = .sending cmd → s.worker = .idle ∨ s.channel.sender = false →
      CallDeed s c [] (s.finishCall c.id .done)
  | sent {cmd : Command} :
      c.stage = .sending cmd → s.worker ≠ .idle → s.channel.sender = true →
      CallDeed s c [] ((s.send cmd).finishCall c.id .done)
  | handing {cmd : Command} :
      c.stage = .stopping cmd → s.channel.sender = true →
      CallDeed s c []
        ({ s with channel := { s.channel with sender := false } }.setStage c.id (.handing cmd))
  | unled {cmd : Command} :
      c.stage = .stopping cmd → s.channel.sender = false →
      CallDeed s c [] (s.setStage c.id (.joining cmd (s.now + stopTimeout)))
  | unheard {cmd : Command} :
      c.stage = .handing cmd → s.worker = .idle →
      CallDeed s c [] (s.setStage c.id (.joining cmd (s.now + stopTimeout)))
  | handed {cmd : Command} :
      c.stage = .handing cmd → s.worker ≠ .idle →
      CallDeed s c [] ((s.send cmd).setStage c.id (.joining cmd (s.now + stopTimeout)))
  | redialled {d : Nat} :
      c.stage = .joining .detach d → s.worker = .idle →
      CallDeed s c [.redialled c.id]
        ((s.withPhase .connecting).setStage c.id (.attempting .starting))
  | ended {cmd : Command} {d : Nat} :
      c.stage = .joining cmd d → cmd ≠ .detach → s.worker = .idle →
      CallDeed s c (if cmd = .close then [.closed c.id] else [])
        ((s.withPhase .closed).finishCall c.id .done)
  | attempted {a : Attempt} {es : List Event} {s' : Session} {p : Progress} :
      c.stage = .attempting a → AttemptDeed s a es s' p →
      CallDeed s c es (s'.onCallProgress c p)

theorem begin_deed {c : Call} (hc : c.stage = .begun) (h : s.begin c.id c.action = some t) :
    CallDeed s c (s.beginEvents c.id c.action) t := by
  have subscribe : ∀ x : Subscription, c.action ≠ .connect →
      CallDeed s c [] (s.beginSubscribe c.id x) := by
    intro x ha
    simp only [beginSubscribe]
    split
    · exact .declined hc ha
    · next hs =>
        split
        · exact .declined hc ha
        · exact .asked hc ha (Bool.eq_false_iff.mpr hs) (by simp)
  have locked : ∀ a : Action, c.action ≠ .connect → a ≠ .close →
      CallDeed s c [] (s.beginLocked c.id a) := by
    intro a ha hne
    simp only [beginLocked]
    split
    · exact .declined hc ha
    · next hs => exact .asked hc ha (Bool.eq_false_iff.mpr hs) hne
  cases ha : c.action with
  | connect =>
      simp only [Session.begin, ha, Option.some.injEq] at h
      cases h
      exact .begun hc ha
  | follow f =>
      simp only [Session.begin, ha] at h
      split at h <;> cases h
      · exact .declined hc (by simp [ha])
      · exact subscribe _ (by simp [ha])
  | subscribe x =>
      simp only [Session.begin, ha, Option.some.injEq] at h
      cases h
      exact subscribe x (by simp [ha])
  | unsubscribe x =>
      simp only [Session.begin, ha, Option.some.injEq] at h
      cases h
      exact locked _ (by simp [ha]) (by simp)
  | reconnect =>
      simp only [Session.begin, ha, Option.some.injEq] at h
      cases h
      exact locked _ (by simp [ha]) (by simp)
  | close =>
      simp only [Session.begin, ha] at h
      simp only [beginEvents]
      split at h
      · next hs =>
          cases h
          rw [if_pos hs]
          exact .declined hc (by simp [ha])
      · next hs =>
          cases h
          rw [if_neg hs]
          exact .shut hc ha (Bool.eq_false_iff.mpr hs)
  | receive =>
      simp only [Session.begin, ha, Session.receive] at h
      simp only [beginEvents]
      split at h
      · next m q hq =>
          cases h
          rw [hq]
          exact .received hc (by simp [ha]) hq
      · next hq =>
          cases h
          rw [hq]
          exact .declined hc (by simp [ha])
      · cases h

theorem change_deed {c : Call} {a : Action} (hc : c.stage = .changing a) :
    CallDeed s c (s.changeEvents a) (s.change c.id a) := by
  cases a with
  | subscribe x =>
      cases hx : s.registry.contains x with
      | true =>
          have hadd : s.registry.add x = (s.registry, false) := by simp [Registry.add, hx]
          simp only [changeEvents, change, hadd, hx]
          exact .unchanged hc
      | false =>
          have hadd : s.registry.add x = ((s.registry.add x).1, true) := by simp [Registry.add, hx]
          simp only [changeEvents, change, hx]
          rw [hadd]
          exact .added hc hx
  | unsubscribe x =>
      have hrem : s.registry.remove x = ((s.registry.remove x).1, s.registry.contains x) := rfl
      cases hx : s.registry.contains x with
      | true =>
          simp only [changeEvents, change, hx]
          rw [hrem, hx]
          exact .removed hc hx
      | false =>
          simp only [changeEvents, change, hx]
          rw [hrem, hx]
          exact .unchanged hc
  | reconnect => exact .replacing hc
  | close => exact .closing hc
  | connect => exact .unchanged hc
  | follow f => exact .unchanged hc
  | receive => exact .unchanged hc

section Stages

variable {c : Call} {b : Branch}

theorem observe_deed {x : Subscription} (hc : c.stage = .observing x)
    (h : s.callStep c b = some t) : CallDeed s c (s.callEvents c b) t := by
  cases b <;> simp only [callStep, hc, reduceCtorEq] at h
  simp only [callEvents, hc]
  split at h
  · next ready =>
      cases h
      rw [if_pos ready]
      exact .noticed hc ready
  · next unready =>
      cases h
      rw [if_neg unready]
      exact .skipped hc unready

theorem send_deed {cmd : Command} (hc : c.stage = .sending cmd) (h : s.callStep c b = some t) :
    CallDeed s c (s.callEvents c b) t := by
  cases b <;> simp only [callStep, hc, reduceCtorEq] at h
  simp only [callEvents, hc]
  simp only [sendCommand] at h
  split at h
  · next deaf =>
      cases h
      exact .unsent hc (by simpa using deaf)
  · next hears =>
      split at h <;> cases h
      have hears : s.worker ≠ .idle ∧ s.channel.sender = true := by simpa using hears
      exact .sent hc hears.1 hears.2

theorem stop_deed {cmd : Command} (hc : c.stage = .stopping cmd) (h : s.callStep c b = some t) :
    CallDeed s c (s.callEvents c b) t := by
  cases b <;> simp only [callStep, hc, Option.some.injEq, reduceCtorEq] at h
  cases h
  simp only [callEvents, hc, stop]
  split
  · next sender => exact .handing hc sender
  · next unled => exact .unled hc (Bool.eq_false_iff.mpr unled)

theorem hand_deed {cmd : Command} (hc : c.stage = .handing cmd) (h : s.callStep c b = some t) :
    CallDeed s c (s.callEvents c b) t := by
  cases b <;> simp only [callStep, hc, reduceCtorEq] at h
  simp only [callEvents, hc]
  simp only [hand] at h
  split at h
  · next idle =>
      cases h
      exact .unheard hc idle
  · next busy =>
      split at h <;> cases h
      exact .handed hc busy

theorem join_deed {cmd : Command} {d : Nat} (hc : c.stage = .joining cmd d)
    (h : s.callStep c b = some t) : CallDeed s c (s.callEvents c b) t := by
  have ended : cmd ≠ .detach → s.worker = .idle →
      CallDeed s c (if cmd = .close then [.closed c.id] else [])
        ((s.withPhase .closed).finishCall c.id .done) := .ended hc
  cases b <;> simp only [callStep, hc, reduceCtorEq] at h
  simp only [join] at h
  split at h
  · next idle =>
      cases cmd with
      | detach =>
          cases h
          simp only [callEvents, hc]
          exact .redialled hc idle
      | close =>
          cases h
          simp only [callEvents, hc]
          exact ended (by simp) idle
      | _ =>
          cases h
          simp only [callEvents, hc]
          exact ended (by simp) idle
  · cases h

theorem callStep_deed (h : s.callStep c b = some t) : CallDeed s c (s.callEvents c b) t := by
  cases hc : c.stage with
  | begun =>
      cases b <;> simp only [callStep, hc, reduceCtorEq] at h
      simp only [callEvents, hc]
      exact begin_deed hc h
  | discarding =>
      cases b <;> simp only [callStep, hc, Option.some.injEq, reduceCtorEq] at h
      cases h
      simp only [callEvents, hc]
      exact .discarded hc
  | locking a =>
      cases b <;> simp only [callStep, hc, reduceCtorEq] at h
      simp only [callEvents, hc]
      split at h <;> cases h
      next free => exact .locked hc free
  | changing a =>
      cases b <;> simp only [callStep, hc, Option.some.injEq, reduceCtorEq] at h
      cases h
      simp only [callEvents, hc]
      exact change_deed hc
  | observing x => exact observe_deed hc h
  | sending cmd => exact send_deed hc h
  | stopping cmd => exact stop_deed hc h
  | handing cmd => exact hand_deed hc h
  | joining cmd d => exact join_deed hc h
  | attempting a =>
      simp only [callStep, hc] at h
      obtain ⟨⟨s', p⟩, hs, rfl⟩ := Option.map_eq_some_iff.mp h
      simp only [callEvents, hc]
      exact .attempted hc (attemptStep_deed hs)
  | _ => cases b <;> simp only [callStep, hc, reduceCtorEq] at h

end Stages

def heard (s : Session) (k : Keepalive) : Keepalive := { k with lastActivity := s.now }

inductive WorkerDeed (s : Session) : List Event → Session → Prop where
  | ponged {n : Nat} {k : Keepalive} {content : String} {s' : Session} {r : Registry} :
      s.worker = .reading n k → s.nextArrival n = some (.text content, s') →
      Router.route s.settings.forwardAcks s.registry content = (r, .pong) →
      WorkerDeed s []
        { s' with registry := r, worker := .reading n ⟨s.now, none⟩ }
  | consumed {n : Nat} {k : Keepalive} {content : String} {s' : Session} {r : Registry} :
      s.worker = .reading n k → s.nextArrival n = some (.text content, s') →
      Router.route s.settings.forwardAcks s.registry content = (r, .consumed) →
      WorkerDeed s [] { s' with registry := r, worker := .reading n (s.heard k) }
  | routed {n : Nat} {k : Keepalive} {content : String} {s' : Session} {r : Registry}
      {m : Message} :
      s.worker = .reading n k → s.nextArrival n = some (.text content, s') →
      Router.route s.settings.forwardAcks s.registry content = (r, .deliver m) →
      WorkerDeed s [.routed n m] { s' with registry := r, worker := .pushing n m (s.heard k) }
  | answered {n : Nat} {k : Keepalive} {payload : String} {s' : Session} :
      s.worker = .reading n k → s.nextArrival n = some (.ping payload, s') →
      WorkerDeed s [] { s'.write n (.pong payload) with worker := .reading n (s.heard k) }
  | ignored {n : Nat} {k : Keepalive} {a : Arrival} {s' : Session} :
      s.worker = .reading n k → s.nextArrival n = some (a, s') →
      WorkerDeed s [] { s' with worker := .reading n (s.heard k) }
  | lost {n : Nat} {k : Keepalive} {a : Arrival} {s' : Session} {e : StreamError} :
      s.worker = .reading n k → s.nextArrival n = some (a, s') → WorkerDeed s [] (s'.failLink n e)
  | overdue {n : Nat} {k : Keepalive} {e : StreamError} :
      s.worker = .reading n k → WorkerDeed s [] (s.failLink n e)
  | pinged {n : Nat} {k : Keepalive} :
      s.worker = .reading n k → k.pongDeadline = none →
      WorkerDeed s []
        { s.write n .ping with
          worker := .reading n ⟨s.now, some (s.now + s.settings.pongTimeout)⟩ }
  | subscribed {n : Nat} {k : Keepalive} {x : Subscription} {s' : Session} :
      s.worker = .reading n k → s.nextCommand = some (.subscribe x, s') →
      WorkerDeed s [.taken n (.subscribe x)]
        { s'.onLink n (·.subscribe x) with worker := .reading n (s.heard k) }
  | unsubscribed {n : Nat} {k : Keepalive} {x : Subscription} {s' : Session} :
      s.worker = .reading n k → s.nextCommand = some (.unsubscribe x, s') →
      WorkerDeed s [.taken n (.unsubscribe x)]
        { s'.onLink n (·.unsubscribe x) with worker := .reading n (s.heard k) }
  | unready {n : Nat} {k : Keepalive} {cmd : Command} {s' : Session} :
      s.worker = .reading n k → s.nextCommand = some (cmd, s') → s.phase ≠ .ready →
      WorkerDeed s [.taken n cmd] (s'.failLink n .notConnected)
  | told {n : Nat} {k : Keepalive} {cmd : Command} {why : Farewell} {s' : Session} :
      s.worker = .reading n k → s.nextCommand = some (cmd, s') →
      cmd = .close ∧ why = .closed ∨ cmd = .detach ∧ why = .detached →
      WorkerDeed s [.taken n cmd] (s'.beginStop n why)
  | pushed {n : Nat} {m : Message} {k : Keepalive} {q : Mailbox Message} :
      s.worker = .pushing n m k → s.mailbox.offer m = .taken q →
      WorkerDeed s [] { s with mailbox := q, worker := .reading n k }
  | barred {n : Nat} {m : Message} {k : Keepalive} :
      s.worker = .pushing n m k → s.mailbox.offer m = .refused →
      WorkerDeed s [] (s.beginStop n .closed)
  | stopped {n : Nat} {why : Farewell} :
      s.worker = .stopping n why → WorkerDeed s [] (s.endStop n why)
  | paused {attempts wakeAt : Nat} {e : StreamError} :
      s.worker = .deciding attempts e →
      WorkerDeed s []
        { s.withPhase .disconnected with
          draws := s.draws.drop 1, worker := .waiting (attempts + 1) wakeAt }
  | gaveUp {attempts : Nat} {e e' : StreamError} :
      s.worker = .deciding attempts e → WorkerDeed s [] (s.giveUp e')
  | drained {attempts wakeAt : Nat} {cmd : Command} {s' : Session} :
      s.worker = .waiting attempts wakeAt → s.nextCommand = some (cmd, s') →
      WorkerDeed s [] (s'.onPauseCommand cmd)
  | redialled {attempts wakeAt : Nat} :
      s.worker = .waiting attempts wakeAt →
      WorkerDeed s [] { s.withPhase .connecting with worker := .attempting attempts .starting }
  | attempted {attempts : Nat} {a : Attempt} {es : List Event} {s' : Session} {p : Progress} :
      s.worker = .attempting attempts a → AttemptDeed s a es s' p →
      WorkerDeed s es (s'.onProgress attempts p)

theorem nextArrival_eq {s' : Session} {n : Nat} {a : Arrival}
    (h : s.nextArrival n = some (a, s')) :
    ∃ rest, s' = s.onLink n fun l => { l with inbound := rest } := by
  obtain ⟨l, _, hl⟩ := Option.bind_eq_some_iff.mp h
  split at hl <;> cases hl
  next rest _ => exact ⟨rest, rfl⟩

theorem nextCommand_eq {s' : Session} {cmd : Command} (h : s.nextCommand = some (cmd, s')) :
    (∃ rest, s.channel.buffer = cmd :: rest ∧
      s' = { s with channel := { s.channel with buffer := rest } }) ∨
    (s.channel.buffer = [] ∧ s.channel.sender = false ∧ s.isSending = false ∧ cmd = .close ∧
      s' = s) := by
  simp only [nextCommand] at h
  split at h
  · next c rest hb =>
      cases h
      exact Or.inl ⟨rest, hb, rfl⟩
  · next hb =>
      split at h <;> cases h
      next hs =>
        simp only [Bool.or_eq_true, not_or, Bool.not_eq_true] at hs
        exact Or.inr ⟨hb, hs.1, hs.2, rfl, rfl⟩

theorem read_deed {s' : Session} {n : Nat} {k : Keepalive} {a : Arrival}
    (hw : s.worker = .reading n k) (hr : s.nextArrival n = some (a, s')) :
    WorkerDeed s (s.readEvents n) (s'.onArrival n k a) := by
  obtain ⟨rest, hs'⟩ := nextArrival_eq hr
  have now : s'.now = s.now := by
    rw [hs']
    rfl
  have heard : ({ k with lastActivity := s'.now } : Keepalive) = s.heard k := by
    rw [now]
    rfl
  have route : ∀ content, Router.route s'.settings.forwardAcks s'.registry content
      = Router.route s.settings.forwardAcks s.registry content := by
    rw [hs']
    exact fun _ => rfl
  cases a with
  | text content =>
      simp only [readEvents, hr, onArrival, onText, heard, route]
      cases hroute : Router.route s.settings.forwardAcks s.registry content with
      | mk r routed =>
          cases routed with
          | pong =>
              have deed := WorkerDeed.ponged hw hr hroute
              rw [← now] at deed
              exact deed
          | consumed => exact .consumed hw hr hroute
          | deliver m => exact .routed hw hr hroute
  | ping payload =>
      simp only [readEvents, hr, onArrival, heard]
      exact .answered hw hr
  | pong payload =>
      simp only [readEvents, hr, onArrival, heard]
      exact .ignored hw hr
  | binary =>
      simp only [readEvents, hr, onArrival, heard]
      exact .ignored hw hr
  | close frame =>
      simp only [readEvents, hr, onArrival]
      exact .lost hw hr
  | failure fault =>
      simp only [readEvents, hr, onArrival]
      exact .lost hw hr
  | endOfStream =>
      simp only [readEvents, hr, onArrival]
      exact .lost hw hr

theorem command_deed {s' : Session} {n : Nat} {k : Keepalive} {cmd : Command}
    (hw : s.worker = .reading n k) (hn : s.nextCommand = some (cmd, s')) :
    WorkerDeed s [.taken n cmd] (s'.onCommand n k cmd) := by
  have same : ({ k with lastActivity := s'.now } : Keepalive) = s.heard k ∧ s'.phase = s.phase := by
    rcases nextCommand_eq hn with ⟨rest, _, rfl⟩ | ⟨_, _, _, _, rfl⟩
    · exact ⟨rfl, rfl⟩
    · exact ⟨rfl, rfl⟩
  cases cmd with
  | subscribe x =>
      simp only [onCommand, same.1, same.2]
      split
      · exact .subscribed hw hn
      · next hp => exact .unready hw hn (fun h => hp (Or.inl h))
  | unsubscribe x =>
      simp only [onCommand, same.1, same.2]
      split
      · exact .unsubscribed hw hn
      · next hp => exact .unready hw hn hp
  | close => exact .told hw hn (Or.inl ⟨rfl, rfl⟩)
  | detach => exact .told hw hn (Or.inr ⟨rfl, rfl⟩)

theorem workerStep_deed {b : Branch} (h : s.workerStep b = some t) :
    WorkerDeed s (s.workerEvents b) t := by
  cases hw : s.worker with
  | idle => cases b <;> simp only [workerStep, hw, reduceCtorEq] at h
  | reading n k =>
      cases b <;> simp only [workerStep, hw, reduceCtorEq] at h
      · obtain ⟨⟨a, s'⟩, hr, rfl⟩ := Option.map_eq_some_iff.mp h
        simp only [workerEvents, hw]
        exact read_deed hw hr
      · obtain ⟨⟨cmd, s'⟩, hn, rfl⟩ := Option.map_eq_some_iff.mp h
        simp only [workerEvents, hw, hn]
        exact command_deed hw hn
      · split at h <;> cases h
        simp only [workerEvents, hw, onWake]
        split
        · exact .overdue hw
        · next hk => exact .pinged hw hk
  | pushing n m k =>
      cases b <;> simp only [workerStep, hw, reduceCtorEq] at h
      simp only [workerEvents, hw]
      simp only [onPush] at h
      split at h <;> cases h
      · next hq => exact .pushed hw hq
      · next hq => exact .barred hw hq
  | stopping n why =>
      cases b <;> simp only [workerStep, hw, Option.some.injEq, reduceCtorEq] at h
      cases h
      simp only [workerEvents, hw]
      exact .stopped hw
  | deciding attempts e =>
      cases b <;> simp only [workerStep, hw, Option.some.injEq, reduceCtorEq] at h
      cases h
      simp only [workerEvents, hw, Session.decide]
      split
      · exact .paused hw
      · exact .gaveUp hw
  | waiting attempts wakeAt =>
      cases b <;> simp only [workerStep, hw, reduceCtorEq] at h
      · obtain ⟨⟨cmd, s'⟩, hn, rfl⟩ := Option.map_eq_some_iff.mp h
        simp only [workerEvents, hw]
        exact .drained hw hn
      · split at h <;> cases h
        simp only [workerEvents, hw]
        exact .redialled hw
  | attempting attempts a =>
      simp only [workerStep, hw] at h
      obtain ⟨⟨s', p⟩, hs, rfl⟩ := Option.map_eq_some_iff.mp h
      simp only [workerEvents, hw]
      exact .attempted hw (attemptStep_deed hs)

inductive Deed (s : Session) : Move → List Event → Session → Prop where
  | elapsed (span : Nat) : Deed s (.elapse span) [] { s with now := s.now + span }
  | invoked {a : Action} :
      a = .connect ∧ s.calls = [] ∨ a ≠ .connect ∧ s.opened = true →
      Deed s (.invoke a) [] { s with calls := s.calls ++ [⟨s.calls.length, a, .begun⟩] }
  | abandoned {c : Call} :
      c ∈ s.calls → c.action = .receive → c.stage = .begun →
      Deed s (.abandon c.id) [] (s.setStage c.id (.over .done))
  | called {c : Call} {b : Branch} {es : List Event} {t : Session} :
      c ∈ s.calls → CallDeed s c es t → Deed s (.call c.id b) es t
  | cutOff {c : Call} {cmd : Command} {d : Nat} :
      c ∈ s.calls → c.stage = .joining cmd d → d ≤ s.now → s.worker ≠ .idle →
      Deed s (.cutOff c.id) [] s.abortWorker
  | worked {b : Branch} {es : List Event} {t : Session} :
      WorkerDeed s es t → Deed s (.worker b) es t
  | answered {n : Nat} {u : Upgrade} :
      Deed s (.answer n u) [] (s.onLink n fun l => { l with answer := some u })
  | arrived {n : Nat} {a : Arrival} :
      Deed s (.arrive n a) [] (s.onLink n fun l => { l with inbound := l.inbound ++ [a] })

theorem call?_some {id : Nat} {c : Call} (h : s.call? id = some c) : c ∈ s.calls ∧ c.id = id := by
  have found : (c.id == id) = true := List.find?_some (p := fun c : Call => c.id == id) h
  exact ⟨List.mem_of_find?_eq_some h, beq_iff_eq.mp found⟩

theorem step_deed {m : Move} (h : s.step m = some t) : Deed s m (s.events m) t := by
  cases m with
  | elapse span =>
      simp only [step, Option.some.injEq] at h
      cases h
      exact .elapsed span
  | invoke a =>
      simp only [step, invoke] at h
      split at h <;> cases h
      next ha => exact .invoked (by simpa [List.isEmpty_iff] using ha)
  | abandon id =>
      obtain ⟨c, hc, hs⟩ := Option.bind_eq_some_iff.mp h
      obtain ⟨hm, rfl⟩ := call?_some hc
      split at hs <;> cases hs
      next ha => exact .abandoned hm ha.1 ha.2
  | call id b =>
      obtain ⟨c, hc, hs⟩ := Option.bind_eq_some_iff.mp h
      obtain ⟨hm, rfl⟩ := call?_some hc
      simp only [events, hc, Option.elim_some]
      exact .called hm (callStep_deed hs)
  | cutOff id =>
      obtain ⟨c, hc, hs⟩ := Option.bind_eq_some_iff.mp h
      obtain ⟨hm, rfl⟩ := call?_some hc
      simp only [Session.cutOff] at hs
      split at hs
      · next cmd d hst =>
          split at hs <;> cases hs
          next late => exact .cutOff hm hst late.1 late.2
      · cases hs
  | worker b => exact .worked (workerStep_deed h)
  | answer n u =>
      obtain ⟨l, _, hl⟩ := Option.bind_eq_some_iff.mp h
      split at hl <;> cases hl
      exact .answered
  | arrive n a =>
      obtain ⟨l, _, hl⟩ := Option.bind_eq_some_iff.mp h
      split at hl <;> cases hl
      exact .arrived

end Session

end MarketWire.Stream
