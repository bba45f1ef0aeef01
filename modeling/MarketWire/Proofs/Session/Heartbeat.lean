import MarketWire.Proofs.Session.Hearing
import MarketWire.Proofs.Session.Keepalive
import MarketWire.Proofs.Session.Record
import MarketWire.Proofs.Session.Work

namespace MarketWire.Stream

inductive Act where
  | heard (a : Arrival)
  | ran (cmd : Command)
  | pinged
  deriving DecidableEq

structure Tick where
  link : Nat
  time : Nat
  act : Act
  deriving DecidableEq

def Worker.keepalive? : Worker → Option (Nat × Keepalive)
  | .reading n k => some (n, k)
  | .pushing n _ k => some (n, k)
  | _ => none

def Unanswered (n sent : Nat) : List Tick → Prop :=
  Since (fun _ e => e = ⟨n, sent, .pinged⟩) fun e => e.link = n ∧ e.act = .heard (.text Router.pong)

namespace Session

variable {s t s' : Session} {h : List Event} {n : Nat} {k : Keepalive} {m : Move} {log : List Tick}

def written (s : Session) (n : Nat) : List Frame := (s.link? n).elim [] Link.written

def acts (s : Session) (n : Nat) : Branch → List Act
  | .read => (s.nextArrival n).toList.map fun r => .heard r.1
  | .command => s.nextCommand.toList.map fun r => .ran r.1
  | .timer =>
      if (s.workerStep .timer).any fun t => t.written n = s.written n ++ [.ping] then [.pinged]
      else []
  | .proceed => []

def ticks (s : Session) : Move → List Tick
  | .worker b =>
      match s.worker with
      | .reading n _ => (s.acts n b).map fun act => ⟨n, s.now, act⟩
      | _ => []
  | _ => []

theorem ticks_reading (hw : s.worker = .reading n k) (b : Branch) :
    s.ticks (.worker b) = (s.acts n b).map fun act => ⟨n, s.now, act⟩ := by
  simp only [ticks, hw]

theorem reading_of_ticks {e : Tick} (he : e ∈ s.ticks m) :
    e.time = s.now ∧ ∃ k, s.worker = .reading e.link k := by
  cases m with
  | worker b =>
      cases hw : s.worker with
      | reading n k =>
          rw [ticks_reading hw] at he
          obtain ⟨act, _, rfl⟩ := List.mem_map.mp he
          exact ⟨rfl, k, rfl⟩
      | _ =>
          simp only [ticks, hw] at he
          cases he
  | _ => cases he

theorem onArrival_keepalive (s : Session) (n : Nat) (k : Keepalive) (a : Arrival) :
    (s.onArrival n k a).worker.keepalive? = none ∨
      (s.onArrival n k a).worker.keepalive?
        = some (n, ⟨s.now, if a = .text Router.pong then none else k.pongDeadline⟩) := by
  cases a with
  | text content =>
      by_cases pong : content = Router.pong
      · subst pong
        exact Or.inr rfl
      · have other : Arrival.text content ≠ .text Router.pong := fun e => pong (Arrival.text.inj e)
        refine Or.inr ?_
        rw [if_neg other]
        have fate := Router.route_fate s.settings.forwardAcks s.registry content
        simp only [onArrival, onText]
        split
        · next routed =>
            rw [routed] at fate
            cases fate with
            | pong here => exact absurd here pong
        · rfl
        · rfl
  | close frame => exact Or.inl rfl
  | failure fault => exact Or.inl rfl
  | endOfStream => exact Or.inl rfl
  | _ => exact Or.inr rfl

theorem onCommand_keepalive (s : Session) (n : Nat) (k : Keepalive) (cmd : Command) :
    (s.onCommand n k cmd).worker.keepalive? = none ∨
      (s.onCommand n k cmd).worker.keepalive? = some (n, ⟨s.now, k.pongDeadline⟩) := by
  cases cmd with
  | subscribe x =>
      simp only [onCommand]
      split
      · exact Or.inr rfl
      · exact Or.inl rfl
  | unsubscribe x =>
      simp only [onCommand]
      split
      · exact Or.inr rfl
      · exact Or.inl rfl
  | close => exact Or.inl rfl
  | detach => exact Or.inl rfl

theorem timer_reading (hw : s.worker = .reading n k) (ht : s.workerStep .timer = some t) :
    k.wakeAt s.settings ≤ s.now ∧ t = s.onWake n k := by
  simp only [workerStep, hw] at ht
  split at ht <;> cases ht
  next due => exact ⟨due, rfl⟩

theorem InUse.found {P : List Frame → List Channel.Subscription → Prop} (hi : s.InUse h n P) :
    ∃ l, s.link? n = some l := by
  obtain ⟨past, l, links, _, _, number, _⟩ := hi
  refine Option.isSome_iff_exists.mp (List.find?_isSome.mpr ⟨l, ?_, by simpa using number⟩)
  rw [links]
  exact List.mem_append_right _ (List.mem_singleton_self l)

theorem written_onLink {f : Link → Link} (number : ∀ l, (f l).number = l.number) {l : Link}
    (hl : s.link? n = some l) : (s.onLink n f).written n = (f l).written := by
  rw [written, link?_onLink number, hl, Option.map_some, if_pos (link?_number hl), Option.elim_some]

theorem acts_timer {l : Link} (hw : s.worker = .reading n k) (hl : s.link? n = some l)
    (ht : s.workerStep .timer = some t) :
    s.acts n .timer = if k.pongDeadline = none then [.pinged] else [] := by
  obtain ⟨_, rfl⟩ := timer_reading hw ht
  have before : s.written n = l.written := by rw [written, hl, Option.elim_some]
  rw [acts, ht, Option.any_some]
  cases hk : k.pongDeadline with
  | none =>
      have after : (s.onWake n k).written n = l.written ++ [.ping] := by
        simp only [onWake, hk]
        exact written_onLink (f := (·.write .ping)) (fun _ => rfl) hl
      simp [before, after]
  | some d =>
      have after : (s.onWake n k).written n = l.written := by
        simp only [onWake, hk]
        exact written_onLink (f := Link.drop) (fun _ => rfl) hl
      simp [before, after]

inductive Tending (s : Session) (m : Move) (t : Session) : Prop where
  | still : s.ticks m = [] → t.worker.keepalive? = s.worker.keepalive? → Tending s m t
  | began {n : Nat} : s.Tries n → s.ticks m = [] → t.worker.keepalive? = some (n, ⟨s.now, none⟩) →
      Tending s m t
  | heard {n : Nat} {k : Keepalive} (a : Arrival) :
      s.worker = .reading n k → s.ticks m = [⟨n, s.now, .heard a⟩] →
      (t.worker.keepalive? = none ∨ t.worker.keepalive?
        = some (n, ⟨s.now, if a = .text Router.pong then none else k.pongDeadline⟩)) →
      Tending s m t
  | ran {n : Nat} {k : Keepalive} (cmd : Command) :
      s.worker = .reading n k → s.ticks m = [⟨n, s.now, .ran cmd⟩] →
      (t.worker.keepalive? = none ∨
        t.worker.keepalive? = some (n, ⟨s.now, k.pongDeadline⟩)) → Tending s m t
  | pinged {n : Nat} {k : Keepalive} :
      s.worker = .reading n k → k.pongDeadline = none →
      k.lastActivity + s.settings.pingInterval ≤ s.now → s.ticks m = [⟨n, s.now, .pinged⟩] →
      t.worker.keepalive? = some (n, ⟨s.now, some (s.now + s.settings.pongTimeout)⟩) →
      Tending s m t
  | ended : s.ticks m = [] → t.worker.keepalive? = none → Tending s m t

theorem AttemptDeed.done {a : Attempt} {es : List Event} (deed : AttemptDeed s a es t (.done n)) :
    a = .replaying n [] ∧ t = s := by
  generalize hp : Progress.done n = p at deed
  cases deed <;> cases hp
  exact ⟨rfl, rfl⟩

theorem tending_call {c : Call} {id : Nat} {b : Branch} {es : List Event} (hc : c ∈ s.calls)
    (deed : CallDeed s c es t) : Tending s (.call id b) t := by
  cases deed with
  | @attempted a es s' p hst hd =>
      have worker := hd.frame.worker
      cases p with
      | more a => exact .still rfl (congrArg Worker.keepalive? worker)
      | done n =>
          obtain ⟨rfl, rfl⟩ := hd.done
          exact .began ⟨_, rfl, Or.inr ⟨c, hc, hst⟩⟩ rfl rfl
      | failed e =>
          refine .still rfl ?_
          simp only [onCallProgress]
          split <;> exact congrArg Worker.keepalive? worker
  | _ => exact .still rfl rfl

theorem tending_reading {b : Branch} {l : Link} (hw : s.worker = .reading n k)
    (hl : s.link? n = some l) (ht : s.workerStep b = some t) : Tending s (.worker b) t := by
  have ticks := ticks_reading hw b
  cases b with
  | proceed => simp only [workerStep, hw, reduceCtorEq] at ht
  | read =>
      simp only [workerStep, hw] at ht
      obtain ⟨⟨a, s'⟩, hr, rfl⟩ := Option.map_eq_some_iff.mp ht
      rw [acts, hr] at ticks
      have kept := onArrival_keepalive s' n k a
      rw [nextArrival_now hr] at kept
      exact .heard a hw ticks kept
  | command =>
      simp only [workerStep, hw] at ht
      obtain ⟨⟨cmd, s'⟩, hn, rfl⟩ := Option.map_eq_some_iff.mp ht
      rw [acts, hn] at ticks
      have kept := onCommand_keepalive s' n k cmd
      rw [nextCommand_now hn] at kept
      exact .ran cmd hw ticks kept
  | timer =>
      rw [acts_timer hw hl ht] at ticks
      obtain ⟨due, rfl⟩ := timer_reading hw ht
      cases hk : k.pongDeadline with
      | none =>
          rw [Keepalive.wakeAt, hk] at due
          rw [hk, if_pos rfl] at ticks
          exact .pinged hw hk due ticks (by simp [onWake, hk, Worker.keepalive?])
      | some d =>
          rw [hk, if_neg (by simp)] at ticks
          exact .ended ticks (by simp [onWake, hk, failLink, Worker.keepalive?])

theorem tending_worker {b : Branch} (hs : s.Conduct h) (ht : s.workerStep b = some t) :
    Tending s (.worker b) t := by
  have stands := hs.busy (workerStep_deed ht).busy
  have silent : (∀ n k, s.worker ≠ .reading n k) → s.ticks (.worker b) = [] := by
    intro other
    rw [List.eq_nil_iff_forall_not_mem]
    intro e he
    obtain ⟨_, k, hw⟩ := reading_of_ticks he
    exact other _ k hw
  cases workerStep_work ht with
  | read hw _ =>
      rw [hw] at stands
      obtain ⟨l, hl⟩ := stands.2.found
      exact tending_reading hw hl ht
  | command hw _ =>
      rw [hw] at stands
      obtain ⟨l, hl⟩ := stands.2.found
      exact tending_reading hw hl ht
  | wake hw =>
      rw [hw] at stands
      obtain ⟨l, hl⟩ := stands.2.found
      exact tending_reading hw hl ht
  | push hw hp =>
      have none := silent (by simp [hw])
      simp only [onPush] at hp
      split at hp <;> cases hp
      · exact .still none (by simp [hw, Worker.keepalive?])
      · exact .ended none rfl
  | stop hw =>
      rename_i n why
      exact .ended (silent (by simp [hw])) (by cases why <;> rfl)
  | decide hw =>
      refine .ended (silent (by simp [hw])) ?_
      simp only [Session.decide]
      split <;> rfl
  | drain hw hn =>
      rename_i cmd s'
      have none := silent (by simp [hw])
      have worker := nextCommand_worker hn
      cases cmd with
      | close => exact .ended none rfl
      | detach => exact .ended none rfl
      | subscribe x => exact .still none (congrArg Worker.keepalive? worker)
      | unsubscribe x => exact .still none (congrArg Worker.keepalive? worker)
  | redial hw => exact .ended (silent (by simp [hw])) rfl
  | attempt hw ha =>
      rename_i attempts a s' p
      have none := silent (by simp [hw])
      cases p with
      | more a => exact .ended none rfl
      | done n =>
          obtain ⟨rfl, rfl⟩ := (attemptStep_deed ha).done
          exact .began ⟨_, rfl, Or.inl ⟨attempts, hw⟩⟩ none rfl
      | failed e =>
          refine .ended none ?_
          simp only [onProgress]
          split <;> rfl

theorem step_tending (hs : s.Conduct h) (ht : s.step m = some t) : Tending s m t := by
  cases step_deed ht with
  | called hc deed => exact tending_call hc deed
  | worked _ => exact tending_worker hs ht
  | cutOff => exact .ended rfl rfl
  | _ => exact .still rfl rfl

def pinged (s : Session) : List (Nat × Nat) :=
  s.links.map fun l => (l.number, l.written.count .ping)

def Unpinged (s t : Session) : Prop :=
  t.pinged = s.pinged ∨ t.pinged = s.pinged ++ [(s.links.length + 1, 0)]

theorem pinged_onLink {f : Link → Link}
    (kept : ∀ l, (f l).number = l.number ∧ (f l).written.count .ping = l.written.count .ping) :
    (s.onLink n f).pinged = s.pinged := by
  rw [pinged, pinged, onLink, List.map_map]
  apply List.map_congr_left
  intro l _
  rw [Function.comp_apply]
  split
  · rw [(kept l).1, (kept l).2]
  · rfl

theorem pinged_abortWorker : s.abortWorker.pinged = s.pinged := by
  simp only [pinged, abortWorker, List.map_map]
  apply List.map_congr_left
  intro l _
  rw [Function.comp_apply]
  split <;> rfl

theorem pinged_write {f : Frame} (other : f ≠ .ping) : (s.write n f).pinged = s.pinged :=
  pinged_onLink fun _ =>
    ⟨rfl, by simpa [Link.write, List.count_append, List.count_eq_zero] using Ne.symm other⟩

theorem pinged_dropLink : (s.dropLink n).pinged = s.pinged := pinged_onLink fun _ => ⟨rfl, rfl⟩

theorem pinged_subscribe {x : Channel.Subscription} :
    (s.onLink n (·.subscribe x)).pinged = s.pinged := by
  refine pinged_onLink fun l => ?_
  rw [Link.subscribe]
  split
  · exact ⟨rfl, rfl⟩
  · exact ⟨rfl, by simp [Link.write, List.count_append]⟩

theorem pinged_unsubscribe {x : Channel.Subscription} :
    (s.onLink n (·.unsubscribe x)).pinged = s.pinged :=
  pinged_onLink fun _ => ⟨rfl, by simp [Link.unsubscribe, Link.write, List.count_append]⟩

theorem nextArrival_pinged {a : Arrival} (hr : s.nextArrival n = some (a, t)) :
    t.pinged = s.pinged := by
  obtain ⟨rest, rfl⟩ := nextArrival_eq hr
  exact pinged_onLink fun _ => ⟨rfl, rfl⟩

theorem nextCommand_pinged {cmd : Command} (hn : s.nextCommand = some (cmd, t)) :
    t.pinged = s.pinged := by
  rcases nextCommand_eq hn with ⟨rest, _, rfl⟩ | ⟨_, _, _, _, rfl⟩ <;> rfl

theorem onArrival_pinged (s : Session) (n : Nat) (k : Keepalive) (a : Arrival) :
    (s.onArrival n k a).pinged = s.pinged := by
  cases a with
  | text content =>
      simp only [onArrival, onText]
      split <;> rfl
  | ping payload => exact pinged_write (by simp)
  | close frame => exact pinged_dropLink
  | failure fault => exact pinged_dropLink
  | endOfStream => exact pinged_dropLink
  | _ => rfl

theorem onCommand_pinged (s : Session) (n : Nat) (k : Keepalive) (cmd : Command) :
    (s.onCommand n k cmd).pinged = s.pinged := by
  cases cmd with
  | subscribe x =>
      simp only [onCommand]
      split
      · exact pinged_subscribe
      · exact pinged_dropLink
  | unsubscribe x =>
      simp only [onCommand]
      split
      · exact pinged_unsubscribe
      · exact pinged_dropLink
  | close => exact pinged_write (by simp [Link.farewell])
  | detach => exact pinged_write (by simp [Link.farewell])

theorem AttemptDeed.unpinged {a : Attempt} {es : List Event} {p : Progress}
    (deed : AttemptDeed s a es t p) : Unpinged s t := by
  cases deed with
  | dialled address => exact Or.inr (by simp [pinged, Link.opening])
  | signed => exact Or.inl (pinged_write (f := .request (.login _)) (by simp))
  | refused => exact Or.inl pinged_dropLink
  | welcomed hr => exact Or.inl (nextArrival_pinged hr :)
  | ponged hr => exact Or.inl ((pinged_write (by simp)).trans (nextArrival_pinged hr))
  | ignored hr => exact Or.inl (nextArrival_pinged hr)
  | rejected hr => exact Or.inl (pinged_dropLink.trans (nextArrival_pinged hr))
  | unanswered => exact Or.inl pinged_dropLink
  | replayed => exact Or.inl pinged_subscribe
  | unready => exact Or.inl pinged_dropLink
  | _ => exact Or.inl rfl

theorem CallDeed.unpinged {c : Call} {es : List Event} (deed : CallDeed s c es t) :
    Unpinged s t := by
  cases deed with
  | attempted _ hd =>
      rw [Unpinged, pinged, onCallProgress_links]
      exact hd.unpinged
  | _ => exact Or.inl rfl

def pings (n : Nat) (log : List Tick) : Nat := log.countP fun e => e.link = n ∧ e.act = .pinged

theorem pings_calm {es : List Tick} (calm : ∀ e ∈ es, e.act ≠ .pinged) :
    pings n (log ++ es) = pings n log := by
  have none : pings n es = 0 := by
    rw [pings, List.countP_eq_zero]
    intro e he
    simp [calm e he]
  rw [pings, List.countP_append]
  exact congrArg (_ + ·) none

theorem pings_pinged {j time : Nat} :
    pings j (log ++ [⟨n, time, .pinged⟩]) = pings j log + if j = n then 1 else 0 := by
  rw [pings, pings, List.countP_append]
  by_cases same : j = n <;> simp [same, eq_comm]

theorem workerStep_pinged {b : Branch} (hs : s.Conduct h) (ht : s.workerStep b = some t) :
    Unpinged s t ∧ (∀ e ∈ s.ticks (.worker b), e.act ≠ .pinged) ∨
      ∃ n, t.links = (s.write n .ping).links ∧ s.ticks (.worker b) = [⟨n, s.now, .pinged⟩] := by
  have aside : (∀ n k, s.worker ≠ .reading n k) → t.pinged = s.pinged →
      Unpinged s t ∧ ∀ e ∈ s.ticks (.worker b), e.act ≠ .pinged := by
    intro other same
    refine ⟨Or.inl same, fun e he => ?_⟩
    obtain ⟨_, k, hw⟩ := reading_of_ticks he
    exact absurd hw (other _ k)
  cases workerStep_work ht with
  | @read n k a s' hw hr =>
      refine Or.inl ⟨Or.inl ((onArrival_pinged ..).trans (nextArrival_pinged hr)), ?_⟩
      simp [ticks_reading hw, acts, hr]
  | @command n k cmd s' hw hn =>
      refine Or.inl ⟨Or.inl ((onCommand_pinged ..).trans (nextCommand_pinged hn)), ?_⟩
      simp [ticks_reading hw, acts, hn]
  | @wake n k hw =>
      have stands := hs.busy (workerStep_deed ht).busy
      rw [hw] at stands
      obtain ⟨l, hl⟩ := stands.2.found
      have ticks := ticks_reading hw .timer
      rw [acts_timer hw hl ht] at ticks
      cases hk : k.pongDeadline with
      | none => exact Or.inr ⟨n, by simp [onWake, hk], by simpa [hk] using ticks⟩
      | some d =>
          refine Or.inl ⟨Or.inl ?_, by simp [ticks, hk]⟩
          simp only [onWake, hk]
          exact pinged_dropLink
  | push hw hp =>
      refine Or.inl (aside (by simp [hw]) ?_)
      simp only [onPush] at hp
      split at hp <;> cases hp
      · rfl
      · exact pinged_write (by simp [Link.farewell])
  | stop hw =>
      rename_i n why
      refine Or.inl (aside (by simp [hw]) ?_)
      cases why <;> exact pinged_dropLink
  | decide hw =>
      refine Or.inl (aside (by simp [hw]) ?_)
      simp only [Session.decide]
      split <;> rfl
  | drain hw hn =>
      rename_i cmd s'
      refine Or.inl (aside (by simp [hw]) (Eq.trans ?_ (nextCommand_pinged hn)))
      cases cmd <;> rfl
  | redial hw => exact Or.inl (aside (by simp [hw]) rfl)
  | attempt hw ha =>
      have unpinged := (attemptStep_deed ha).unpinged
      refine Or.inl ⟨?_, fun e he => ?_⟩
      · rw [Unpinged, pinged, onProgress_links]
        exact unpinged
      · obtain ⟨_, k, hw'⟩ := reading_of_ticks he
        rw [hw] at hw'
        cases hw'

theorem step_pinged (hs : s.Conduct h) (ht : s.step m = some t) :
    Unpinged s t ∧ (∀ e ∈ s.ticks m, e.act ≠ .pinged) ∨
      ∃ n, t.links = (s.write n .ping).links ∧ s.ticks m = [⟨n, s.now, .pinged⟩] := by
  cases step_deed ht with
  | called _ deed => exact Or.inl ⟨deed.unpinged, by simp [ticks]⟩
  | worked deed => exact workerStep_pinged hs ht
  | cutOff => exact Or.inl ⟨Or.inl pinged_abortWorker, by simp [ticks]⟩
  | answered => exact Or.inl ⟨Or.inl (pinged_onLink fun _ => ⟨rfl, rfl⟩), by simp [ticks]⟩
  | arrived => exact Or.inl ⟨Or.inl (pinged_onLink fun _ => ⟨rfl, rfl⟩), by simp [ticks]⟩
  | _ => exact Or.inl ⟨Or.inl rfl, by simp [ticks]⟩

structure Keeps (s : Session) (log : List Tick) (n : Nat) (k : Keepalive) : Prop where
  last : k.lastActivity ≤ s.now
  past : ∀ e ∈ log, e.link = n → e.time ≤ k.lastActivity
  awaited : ∀ d, k.pongDeadline = some d ↔
    ∃ sent, Unanswered n sent log ∧ sent + s.settings.pongTimeout = d

def Spaced (s : Session) : List Tick → Prop :=
  Throughout fun before e => e.act = .pinged →
    (∀ d ∈ before, d.link = e.link → d.time + s.settings.pingInterval ≤ e.time) ∧
      ∀ sent, ¬Unanswered e.link sent before

structure Timed (s : Session) (log : List Tick) : Prop where
  known : ∀ e ∈ log, e.link ≤ s.links.length
  fresh : ∀ n, s.Tries n → ∀ e ∈ log, e.link ≠ n
  told : ∀ e ∈ s.pinged, e.2 = pings e.1 log
  kept : ∀ n k, s.worker.keepalive? = some (n, k) → s.Keeps log n k
  spaced : s.Spaced log

theorem timed_initial (p : Profile) (seconds : List Int) (draws : List Float) :
    (initial p seconds draws).Timed [] where
  known _ he := absurd he List.not_mem_nil
  fresh _ _ _ he := absurd he List.not_mem_nil
  told _ he := absurd he List.not_mem_nil
  kept _ _ hk := by cases hk
  spaced := throughout_nil

theorem untried (hs : s.Conduct h) (hk : s.worker.keepalive? = some (n, k)) (j : Nat) :
    ¬s.Tries j := by
  have busy : s.worker ≠ .idle ∧ ∀ attempts a, s.worker ≠ .attempting attempts a := by
    cases hw : s.worker <;> simp [hw, Worker.keepalive?] at hk ⊢
  rintro ⟨a, _, ⟨attempts, attempting⟩ | ⟨c, hc, hst⟩⟩
  · exact busy.2 attempts a attempting
  · exact busy.1 (hs.orderly.dialling c hc a hst)

theorem link_of_ticks (hs : s.Conduct h) {e : Tick} (he : e ∈ s.ticks m) :
    e.link = s.links.length := by
  obtain ⟨_, k, hw⟩ := reading_of_ticks he
  have stands := hs.busy (by simp [hw])
  rw [hw] at stands
  exact stands.2.last

theorem Timed.remembers (hi : s.Timed log) (hs : s.Conduct h) (ht : s.step m = some t) :
    (∀ e ∈ log ++ s.ticks m, e.link ≤ t.links.length) ∧
      ∀ n, t.Tries n → ∀ e ∈ log ++ s.ticks m, e.link ≠ n := by
  have links := step_links_le ht
  constructor
  · intro e he
    rcases List.mem_append.mp he with he | he
    · exact Nat.le_trans (hi.known e he) links
    · exact (link_of_ticks hs he) ▸ links
  · intro n tries e he
    rcases step_tries hs ht tries with before | last
    · rcases List.mem_append.mp he with he | he
      · exact hi.fresh n before e he
      · obtain ⟨_, k, hw⟩ := reading_of_ticks he
        exact absurd before (untried hs (congrArg Worker.keepalive? hw) n)
    · have : e.link ≤ s.links.length := by
        rcases List.mem_append.mp he with he | he
        · exact hi.known e he
        · exact Nat.le_of_eq (link_of_ticks hs he)
      omega

theorem Timed.tells (hi : s.Timed log) (hs : s.Conduct h) (ht : s.step m = some t) :
    ∀ e ∈ t.pinged, e.2 = pings e.1 (log ++ s.ticks m) := by
  rcases step_pinged hs ht with ⟨unpinged, calm⟩ | ⟨n, links, ticks⟩
  · intro e he
    rw [pings_calm calm]
    rcases unpinged with same | more
    · exact hi.told e (same ▸ he)
    · rw [more] at he
      rcases List.mem_append.mp he with he | he
      · exact hi.told e he
      · rw [List.mem_singleton.mp he]
        -- a new transport has a number that is not noted yet
        refine (List.countP_eq_zero.mpr fun d hd => ?_).symm
        have := hi.known d hd
        simp only [decide_eq_true_eq, not_and]
        omega
  · rw [pinged, links, ticks, write, onLink, List.map_map]
    intro e he
    obtain ⟨l, hl, rfl⟩ := List.mem_map.mp he
    have before : l.written.count .ping = pings l.number log :=
      hi.told _ (List.mem_map_of_mem hl)
    rw [Function.comp_apply]
    split
    · next same => simpa [Link.write, List.count_append, pings_pinged, same] using before
    · next other => simp [pings_pinged, other, before]

theorem unanswered_append {sent : Nat} {e : Tick} :
    Unanswered n sent (log ++ [e]) ↔
      e = ⟨n, sent, .pinged⟩ ∨
        ¬(e.link = n ∧ e.act = .heard (.text Router.pong)) ∧ Unanswered n sent log :=
  since_append

theorem exists_of_unanswered {sent : Nat} (hu : Unanswered n sent log) :
    ∃ e ∈ log, e.link = n := by
  obtain ⟨before, e, after, rfl, rfl, _⟩ := hu
  exact ⟨_, List.mem_append_right _ List.mem_cons_self, rfl⟩

theorem Keeps.unawaited (hk : s.Keeps log n k) (none : k.pongDeadline = none) (sent : Nat) :
    ¬Unanswered n sent log := by
  intro hu
  have := (hk.awaited _).mpr ⟨sent, hu, rfl⟩
  rw [none] at this
  cases this

theorem Keeps.later (hk : s.Keeps log n k) (now : s.now ≤ t.now)
    (settings : t.settings = s.settings) : t.Keeps log n k :=
  ⟨Nat.le_trans hk.last now, hk.past, by rw [settings]; exact hk.awaited⟩

theorem keeps_fresh (fresh : ∀ e ∈ log, e.link ≠ n) : s.Keeps log n ⟨s.now, none⟩ where
  last := Nat.le_refl _
  past e he link := absurd link (fresh e he)
  awaited d := by
    constructor
    · rintro ⟨⟩
    · rintro ⟨sent, hu, -⟩
      obtain ⟨e, he, link⟩ := exists_of_unanswered hu
      exact absurd link (fresh e he)

theorem Keeps.acts (hk : s.Keeps log n k) (act : Act) {pongDeadline : Option Nat}
    (awaited : ∀ d, pongDeadline = some d ↔
      ∃ sent, Unanswered n sent (log ++ [⟨n, s.now, act⟩]) ∧ sent + s.settings.pongTimeout = d) :
    s.Keeps (log ++ [⟨n, s.now, act⟩]) n ⟨s.now, pongDeadline⟩ := by
  refine ⟨Nat.le_refl _, fun e he link => ?_, awaited⟩
  rcases List.mem_append.mp he with he | he
  · exact Nat.le_trans (hk.past e he link) hk.last
  · cases List.mem_singleton.mp he
    exact Nat.le_refl _

theorem Keeps.heard (hk : s.Keeps log n k) (a : Arrival) :
    s.Keeps (log ++ [⟨n, s.now, .heard a⟩]) n
      ⟨s.now, if a = .text Router.pong then none else k.pongDeadline⟩ := by
  refine hk.acts (.heard a) fun d => ?_
  simp only [unanswered_append]
  split
  · next pong => simp [pong]
  · next other => simpa [other] using hk.awaited d

theorem Keeps.ran (hk : s.Keeps log n k) (cmd : Command) :
    s.Keeps (log ++ [⟨n, s.now, .ran cmd⟩]) n ⟨s.now, k.pongDeadline⟩ := by
  refine hk.acts (.ran cmd) fun d => ?_
  simp only [unanswered_append]
  simpa using hk.awaited d

theorem Keeps.pinged (hk : s.Keeps log n k) (none : k.pongDeadline = none) :
    s.Keeps (log ++ [⟨n, s.now, .pinged⟩]) n ⟨s.now, some (s.now + s.settings.pongTimeout)⟩ := by
  refine hk.acts .pinged fun d => ?_
  simp [unanswered_append, hk.unawaited none]

theorem Spaced.append (hs : s.Spaced log) {e : Tick} (other : e.act ≠ .pinged) :
    s.Spaced (log ++ [e]) :=
  Throughout.append hs fun pinged => absurd pinged other

theorem now_le (ht : s.step m = some t) : s.now ≤ t.now := by
  rcases step_now ht with ⟨span, rfl⟩ | same
  · cases ht
    exact Nat.le_add_right _ _
  · exact Nat.le_of_eq same.symm

theorem Timed.step (hi : s.Timed log) (hs : s.Conduct h) (ht : s.step m = some t) :
    t.Timed (log ++ s.ticks m) := by
  obtain ⟨known, fresh⟩ := hi.remembers hs ht
  have settings : t.settings = s.settings := congrArg Profile.settings (step_profile ht)
  have now := now_le ht
  have kept : ∀ {n k}, s.worker = .reading n k → s.Keeps log n k :=
    fun hw => hi.kept _ _ (congrArg Worker.keepalive? hw)
  have spaced : s.Spaced (log ++ s.ticks m) → t.Spaced (log ++ s.ticks m) := by
    rw [Spaced, Spaced, settings]
    exact id
  refine ⟨known, fresh, hi.tells hs ht, ?_, spaced ?_⟩
  · cases step_tending hs ht with
    | still none same =>
        rw [none, List.append_nil, same]
        exact fun n k hk => (hi.kept n k hk).later now settings
    | began tries none begins =>
        rw [none, List.append_nil, begins]
        rintro n k ⟨⟩
        exact (keeps_fresh (hi.fresh _ tries)).later now settings
    | heard a hw ticks after =>
        rw [ticks]
        rintro n k hk
        rcases after with after | after
        · rw [after] at hk
          cases hk
        · rw [after] at hk
          cases hk
          exact ((kept hw).heard a).later now settings
    | ran cmd hw ticks after =>
        rw [ticks]
        rintro n k hk
        rcases after with after | after
        · rw [after] at hk
          cases hk
        · rw [after] at hk
          cases hk
          exact ((kept hw).ran cmd).later now settings
    | pinged hw none _ ticks after =>
        rw [ticks, after]
        rintro n k ⟨⟩
        exact ((kept hw).pinged none).later now settings
    | ended none gone =>
        rw [gone]
        rintro n k ⟨⟩
  · cases step_tending hs ht with
    | still none _ =>
        rw [none, List.append_nil]
        exact hi.spaced
    | began _ none _ =>
        rw [none, List.append_nil]
        exact hi.spaced
    | ended none _ =>
        rw [none, List.append_nil]
        exact hi.spaced
    | heard a _ ticks _ =>
        rw [ticks]
        exact hi.spaced.append (by simp)
    | ran cmd _ ticks _ =>
        rw [ticks]
        exact hi.spaced.append (by simp)
    | pinged hw none due ticks _ =>
        rw [ticks]
        refine Throughout.append hi.spaced fun _ => ⟨fun d hd link => ?_, (kept hw).unawaited none⟩
        exact Nat.le_trans (Nat.add_le_add_right ((kept hw).past d hd link) _) due

theorem Run.timed {p : Profile} {seconds : List Int} {draws : List Float} {ms : List Move}
    (run : Run (initial p seconds draws) ms t) :
    t.Timed ((initial p seconds draws).record ticks ms) :=
  run.recorded (timed_initial p seconds draws) fun hs hi ht => hi.step hs ht

theorem onArrival_unhurried (s : Session) (n : Nat) (k : Keepalive) (a : Arrival) (millis : Nat) :
    (s.onArrival n k a).worker ≠ .deciding 0 (.pongTimeout millis) := by
  cases a with
  | text content =>
      simp only [onArrival, onText]
      split <;> simp
  | close frame => cases frame <;> simp [onArrival, failLink, StreamError.ofClose]
  | failure fault => cases fault <;> simp [onArrival, failLink, StreamError.ofFault]
  | endOfStream => simp [onArrival, failLink, StreamError.streamEnded]
  | _ => simp [onArrival]

theorem onCommand_unhurried (s : Session) (n : Nat) (k : Keepalive) (cmd : Command) (millis : Nat) :
    (s.onCommand n k cmd).worker ≠ .deciding 0 (.pongTimeout millis) := by
  cases cmd with
  | subscribe x =>
      simp only [onCommand]
      split <;> simp [failLink]
  | unsubscribe x =>
      simp only [onCommand]
      split <;> simp [failLink]
  | close => simp [onCommand, beginStop]
  | detach => simp [onCommand, beginStop]

theorem gives_up_iff (hw : s.worker = .reading n k) (ht : s.step m = some t) :
    (∃ millis, t.worker = .deciding 0 (.pongTimeout millis)) ↔
      m = .worker .timer ∧ k.pongDeadline ≠ none := by
  have beside : t.worker = s.worker ∨ (∃ j l, t.worker = .reading j l) →
      ¬∃ millis, t.worker = .deciding 0 (.pongTimeout millis) := by
    rintro (same | ⟨j, l, same⟩) ⟨millis, up⟩
    · rw [same, hw] at up
      cases up
    · rw [same] at up
      cases up
  cases m with
  | worker b =>
      cases b with
      | proceed => simp [Session.step, workerStep, hw] at ht
      | read =>
          simp only [Session.step, workerStep, hw] at ht
          obtain ⟨⟨a, s'⟩, _, rfl⟩ := Option.map_eq_some_iff.mp ht
          simp [onArrival_unhurried]
      | command =>
          simp only [Session.step, workerStep, hw] at ht
          obtain ⟨⟨cmd, s'⟩, _, rfl⟩ := Option.map_eq_some_iff.mp ht
          simp [onCommand_unhurried]
      | timer =>
          obtain ⟨_, rfl⟩ := timer_reading hw ht
          cases hk : k.pongDeadline <;> simp [onWake, hk, failLink]
  | call id b =>
      cases step_deed ht with
      | called _ deed => simp [beside deed.worker]
  | cutOff id =>
      cases step_deed ht with
      | cutOff => simp [abortWorker, endWorker]
  | _ =>
      cases step_deed ht
      simp [beside (Or.inl rfl)]

theorem deadline_stays (hs : s.Conduct h) {l : Keepalive} {d : Nat}
    (hw : s.worker.keepalive? = some (n, k)) (pending : k.pongDeadline = some d)
    (ht : s.step m = some t) (hl : t.worker.keepalive? = some (n, l)) :
    l.pongDeadline = some d ∨ s.ticks m = [⟨n, s.now, .heard (.text Router.pong)⟩] := by
  have reading : ∀ {j l}, s.worker = .reading j l → j = n ∧ l = k := by
    intro j l hw'
    rw [hw'] at hw
    cases hw
    exact ⟨rfl, rfl⟩
  have kept : ∀ {deadline : Option Nat}, deadline = some d → t.worker.keepalive? = none ∨
      t.worker.keepalive? = some (n, ⟨s.now, deadline⟩) → l.pongDeadline = some d := by
    rintro deadline same (gone | after)
    · rw [gone] at hl
      cases hl
    · rw [after] at hl
      cases hl
      exact same
  cases step_tending hs ht with
  | still _ same =>
      rw [same, hw] at hl
      cases hl
      exact Or.inl pending
  | began tries => exact absurd tries (untried hs hw _)
  | heard a hw' ticks after =>
      obtain ⟨rfl, rfl⟩ := reading hw'
      by_cases answer : a = .text Router.pong
      · exact Or.inr (answer ▸ ticks)
      · rw [if_neg answer] at after
        exact Or.inl (kept pending after)
  | ran cmd hw' ticks after =>
      obtain ⟨rfl, rfl⟩ := reading hw'
      exact Or.inl (kept pending after)
  | pinged hw' none =>
      obtain ⟨rfl, rfl⟩ := reading hw'
      rw [pending] at none
      cases none
  | ended _ gone =>
      rw [gone] at hl
      cases hl

theorem run_beats {p : Profile} {seconds : List Int} {draws : List Float} {ms : List Move}
    (run : Run (initial p seconds draws) ms s) :
    (∀ l ∈ s.links, l.written.count .ping
      = pings l.number ((initial p seconds draws).record ticks ms)) ∧
    (∀ n k, s.worker.keepalive? = some (n, k) → ∀ d, k.pongDeadline = some d ↔
      ∃ sent, Unanswered n sent ((initial p seconds draws).record ticks ms) ∧
        sent + p.settings.pongTimeout = d) ∧
    (∀ n before first between second after, (initial p seconds draws).record ticks ms
        = before ++ ⟨n, first, .pinged⟩ :: (between ++ ⟨n, second, .pinged⟩ :: after) →
      ∃ time, ⟨n, time, .heard (.text Router.pong)⟩ ∈ between) ∧
    (∀ n before sent after, (initial p seconds draws).record ticks ms
        = before ++ ⟨n, sent, .pinged⟩ :: after →
      ∀ e ∈ before, e.link = n → e.time + p.settings.pingInterval ≤ sent) ∧
    ∀ m t, s.step m = some t →
      (∀ n k l d, s.worker.keepalive? = some (n, k) → k.pongDeadline = some d →
        t.worker.keepalive? = some (n, l) →
        l.pongDeadline = some d ∨ s.ticks m = [⟨n, s.now, .heard (.text Router.pong)⟩]) ∧
      ∀ n k, s.worker = .reading n k →
        ((∃ millis, t.worker = .deciding 0 (.pongTimeout millis)) ↔ m = .worker .timer ∧
          ∃ sent, Unanswered n sent ((initial p seconds draws).record ticks ms)) := by
  have settings : s.settings = p.settings := congrArg Profile.settings run.profile
  have timed := run.timed
  generalize (initial p seconds draws).record ticks ms = log at timed ⊢
  have spaced := timed.spaced
  refine ⟨fun l hl => timed.told _ (List.mem_map_of_mem hl), fun n k hk => ?_, ?_, ?_,
    fun m t ht => ⟨?_, ?_⟩⟩
  · rw [← settings]
    exact (timed.kept n k hk).awaited
  · rintro n before first between second after rfl
    obtain ⟨_, answered⟩ := spaced (before ++ ⟨n, first, .pinged⟩ :: between) ⟨n, second, .pinged⟩
      after (by simp) rfl
    by_contra silent
    refine answered first ⟨before, _, between, rfl, rfl, ?_⟩
    rintro ⟨_, time, _⟩ he ⟨rfl, rfl⟩
    exact silent ⟨time, he⟩
  · rintro n before sent after rfl
    rw [← settings]
    exact (spaced before _ after rfl rfl).1
  · intro n k l d hk pending hl
    exact deadline_stays run.conduct hk pending ht hl
  · intro n k hw
    rw [gives_up_iff hw ht]
    have awaited := (timed.kept n k (congrArg Worker.keepalive? hw)).awaited
    refine and_congr_right fun _ => ?_
    rw [Option.ne_none_iff_exists']
    constructor
    · rintro ⟨d, pending⟩
      obtain ⟨sent, hu, _⟩ := (awaited d).mp pending
      exact ⟨sent, hu⟩
    · rintro ⟨sent, hu⟩
      exact ⟨_, (awaited _).mpr ⟨sent, hu, rfl⟩⟩

def fading : List Move :=
  connecting ++
    [.elapse cramped.pingInterval, .worker .timer, .arrive 1 (.text Router.pong), .worker .read,
      .elapse cramped.pingInterval, .worker .timer, .arrive 1 .binary, .worker .read,
      .elapse cramped.pongTimeout]

theorem fading_beats :
    ∃ s t, Run (visitor cramped) fading s ∧ s.step (.worker .timer) = some t ∧
      (visitor cramped).record ticks fading
        = [⟨1, 25000000, .pinged⟩, ⟨1, 25000000, .heard (.text Router.pong)⟩,
          ⟨1, 50000000, .pinged⟩, ⟨1, 50000000, .heard .binary⟩] ∧
      (∃ millis, t.worker = .deciding 0 (.pongTimeout millis)) := by
  have played : ((visitor cramped).play fading).map (fun s => (s.worker, s.now))
      = some (.reading 1 ⟨50000000, some 60000000⟩, 60000000) := rfl
  have log : (visitor cramped).record ticks fading
      = [⟨1, 25000000, .pinged⟩, ⟨1, 25000000, .heard (.text Router.pong)⟩,
        ⟨1, 50000000, .pinged⟩, ⟨1, 50000000, .heard .binary⟩] := rfl
  obtain ⟨s, run, ended⟩ := exists_run _ _ _ played
  obtain ⟨reading, now⟩ := Prod.mk.inj ended
  have step : s.step (.worker .timer) = some (s.onWake 1 ⟨50000000, some 60000000⟩) := by
    simp [Session.step, workerStep, reading, Keepalive.wakeAt, now]
  have open' : Unanswered 1 50000000 ((visitor cramped).record ticks fading) := by
    rw [log]
    exact ⟨[⟨1, 25000000, .pinged⟩, ⟨1, 25000000, .heard (.text Router.pong)⟩], _,
      [⟨1, 50000000, .heard .binary⟩], rfl, rfl, by simp⟩
  exact ⟨s, _, run, step, log,
    (((run_beats run).2.2.2.2 _ _ step).2 1 _ reading).mpr ⟨rfl, _, open'⟩⟩

end Session

end MarketWire.Stream
