import MarketWire.Proofs.Session.Agreement
import MarketWire.Proofs.Session.Refusal
import MarketWire.Proofs.Session.Script

namespace MarketWire.Stream

open Channel (Subscription)

variable {x y : Subscription}

def Attempt.Replays (x : Subscription) : Attempt → Prop
  | .replaying _ rest => x ∈ rest
  | _ => False

def Stage.Concerns (x : Subscription) : Stage → Prop
  | .locking a => a = .subscribe x
  | .changing a => a = .subscribe x
  | .observing y => y = x
  | .sending cmd => cmd.about x ≠ none
  | .stopping cmd => cmd.about x ≠ none
  | .handing cmd => cmd.about x ≠ none
  | .attempting a => a.Replays x
  | _ => False

def Link.Omits (l : Link) (x : Subscription) : Prop := ∀ f ∈ l.written, f.about x = none

variable {l : Link}

theorem Link.Omits.write {f : Frame} (h : l.Omits x) (aside : f.about x = none) :
    (l.write f).Omits x := by
  intro g hg
  rcases List.mem_append.mp hg with hg | hg
  · exact h g hg
  · rw [List.mem_singleton.mp hg]
    exact aside

theorem Link.Omits.subscribe (h : l.Omits x) (other : x ≠ y) : (l.subscribe y).Omits x := by
  rw [Link.subscribe]
  split
  · exact h
  · exact h.write (f := .subscribeTo y) (by rw [about_subscribeTo, if_neg other])

theorem Link.Omits.unsubscribe (h : l.Omits x) (other : x ≠ y) : (l.unsubscribe y).Omits x :=
  h.write (f := .unsubscribeFrom y) (by rw [about_unsubscribeFrom, if_neg other])

namespace Session

variable {s t : Session} {c : Call} {es : List Event} {n : Nat} {cmd : Command}

structure Omits (s : Session) (x : Subscription) : Prop where
  registry : s.registry.contains x = false
  links : ∀ l ∈ s.links, l.Omits x

theorem Omits.congr (h : s.Omits x) (registry : t.registry.contains x = s.registry.contains x)
    (links : t.links = s.links) : t.Omits x :=
  ⟨registry.trans h.registry, links ▸ h.links⟩

theorem Omits.onLink (h : s.Omits x) (n : Nat) {f : Link → Link}
    (kept : ∀ l, l.Omits x → (f l).Omits x) : (s.onLink n f).Omits x := by
  refine ⟨h.registry, fun l hl => ?_⟩
  obtain ⟨m, hm, rfl⟩ := List.mem_map.mp hl
  split
  · exact kept m (h.links m hm)
  · exact h.links m hm

theorem Omits.dropLink (h : s.Omits x) (n : Nat) : (s.dropLink n).Omits x :=
  h.onLink n fun _ hl => hl

theorem Omits.write {f : Frame} (h : s.Omits x) (n : Nat) (aside : f.about x = none) :
    (s.write n f).Omits x :=
  h.onLink n fun _ hl => hl.write aside

theorem Omits.read {a : Arrival} (h : s.Omits x) (hr : s.nextArrival n = some (a, t)) :
    t.Omits x := by
  obtain ⟨rest, rfl⟩ := nextArrival_eq hr
  exact h.onLink n fun _ hl => hl

theorem Omits.command (h : s.Omits x) (hn : s.nextCommand = some (cmd, t)) : t.Omits x := by
  rcases nextCommand_eq hn with ⟨rest, _, rfl⟩ | ⟨_, _, _, _, rfl⟩
  · exact h.congr rfl rfl
  · exact h

theorem AttemptDeed.omits {a : Attempt} {p : Progress} (deed : AttemptDeed s a es t p)
    (h : s.Omits x) (aside : ¬a.Replays x) : t.Omits x := by
  cases deed with
  | dialled address =>
      refine ⟨h.registry, fun l hl => ?_⟩
      rcases List.mem_append.mp hl with hl | hl
      · exact h.links l hl
      · rw [List.mem_singleton.mp hl]
        exact fun f hf => absurd hf List.not_mem_nil
  | signed => exact (h.write _ (f := .request (.login _)) rfl).congr rfl rfl
  | refused => exact (h.dropLink _).congr rfl rfl
  | welcomed hr => exact (h.read hr).congr rfl rfl
  | ponged hr => exact (h.read hr).write _ rfl
  | ignored hr => exact h.read hr
  | rejected hr => exact ((h.read hr).dropLink _).congr rfl rfl
  | unanswered => exact (h.dropLink _).congr rfl rfl
  | listed => exact h.congr (Registry.same_resetConfirmations _).contains rfl
  | replayed =>
      have other : x ≠ _ := fun same => aside (same ▸ List.mem_cons_self)
      exact h.onLink _ fun _ hl => hl.subscribe other
  | unready => exact h.dropLink _
  | _ => exact h.congr rfl rfl

theorem AttemptDeed.replays {a b : Attempt} (deed : AttemptDeed s a es t (.more b))
    (h : s.Omits x) (aside : ¬a.Replays x) : ¬b.Replays x := by
  generalize hp : Progress.more b = p at deed
  cases deed with
  | listed =>
      cases hp
      intro again
      rw [Attempt.Replays, Registry.mem_all, h.registry] at again
      cases again
  | replayed =>
      cases hp
      exact fun again => aside (List.mem_cons_of_mem _ again)
  | _ => cases hp <;> exact not_false

structure Shuns (s : Session) (x : Subscription) : Prop where
  omits : s.Omits x
  commands : ∀ cmd ∈ s.channel.buffer, cmd.about x = none
  attempt : ∀ attempts a, s.worker = .attempting attempts a → ¬a.Replays x
  calls : ∀ c ∈ s.calls, ¬c.stage.Concerns x

theorem shuns_initial (p : Profile) (seconds : List Int) (draws : List Float) :
    (initial p seconds draws).Shuns x where
  omits := ⟨rfl, fun _ hl => absurd hl List.not_mem_nil⟩
  commands _ hc := absurd hc List.not_mem_nil
  attempt _ _ hw := by cases hw
  calls _ hc := absurd hc List.not_mem_nil

theorem Shuns.nextCommand (hi : s.Shuns x) (hn : s.nextCommand = some (cmd, t)) :
    cmd.about x = none := by
  rcases nextCommand_eq hn with ⟨rest, hb, _⟩ | ⟨_, _, _, rfl, _⟩
  · exact hi.commands cmd (by simp [hb])
  · rfl

theorem WorkerDeed.omits (deed : WorkerDeed s es t) (hi : s.Shuns x) : t.Omits x := by
  have h := hi.omits
  have same : ∀ {content : String} {r : Registry} {routed : Router.Routed},
      Router.route s.settings.forwardAcks s.registry content = (r, routed) →
        ∀ {s' : Session}, s'.Omits x → r.contains x = s'.registry.contains x := by
    intro content r routed hr s' h'
    have := (Router.route_same s.settings.forwardAcks s.registry content).contains (x := x)
    rw [hr, h.registry] at this
    exact this.trans h'.registry.symm
  cases deed with
  | ponged _ hr route | consumed _ hr route | routed _ hr route =>
      exact (h.read hr).congr (same route (h.read hr)) rfl
  | answered _ hr => exact ((h.read hr).write _ rfl).congr rfl rfl
  | ignored _ hr => exact (h.read hr).congr rfl rfl
  | lost _ hr => exact ((h.read hr).dropLink _).congr rfl rfl
  | overdue => exact (h.dropLink _).congr rfl rfl
  | pinged => exact (h.write _ rfl).congr rfl rfl
  | @subscribed n k y s' _ hn =>
      have other : x ≠ y := by simpa [Command.about] using hi.nextCommand hn
      exact ((h.command hn).onLink _ fun _ hl => hl.subscribe other).congr rfl rfl
  | @unsubscribed n k y s' _ hn =>
      have other : x ≠ y := by simpa [Command.about] using hi.nextCommand hn
      exact ((h.command hn).onLink _ fun _ hl => hl.unsubscribe other).congr rfl rfl
  | unready _ hn => exact ((h.command hn).dropLink _).congr rfl rfl
  | told _ hn => exact ((h.command hn).write _ rfl).congr rfl rfl
  | barred => exact (h.write _ rfl).congr rfl rfl
  | stopped =>
      rename_i why _
      cases why <;> exact (h.dropLink _).congr rfl rfl
  | drained _ hn =>
      rename_i cmd s' _
      cases cmd <;> exact (h.command hn).congr rfl rfl
  | attempted hw hd =>
      rename_i p
      refine (hd.omits h (hi.attempt _ _ hw)).congr ?_ (onProgress_links ..)
      cases p with
      | failed e =>
          simp only [onProgress]
          split <;> rfl
      | _ => rfl
  | _ => exact h.congr rfl rfl

theorem WorkerDeed.replays {attempts : Nat} {b : Attempt} (deed : WorkerDeed s es t)
    (hi : s.Shuns x) (hw : t.worker = .attempting attempts b) : ¬b.Replays x := by
  cases deed with
  | stopped =>
      rename_i why _
      cases why <;> cases hw
  | drained hs hn =>
      rename_i cmd s'
      have still : s'.worker ≠ .attempting attempts b := by
        rw [nextCommand_worker hn, hs]
        simp
      cases cmd with
      | close => cases hw
      | detach => cases hw
      | subscribe y => exact absurd hw still
      | unsubscribe y => exact absurd hw still
  | redialled =>
      cases hw
      exact not_false
  | attempted hs hd =>
      rename_i s' p
      cases p with
      | more a =>
          cases hw
          exact hd.replays hi.omits (hi.attempt _ _ hs)
      | done k => cases hw
      | failed e =>
          simp only [onProgress] at hw
          split at hw <;> cases hw
  | _ => cases hw

theorem WorkerDeed.shuns (deed : WorkerDeed s es t) (hi : s.Shuns x) : t.Shuns x where
  omits := deed.omits hi
  commands cmd hc := by
    obtain ⟨gone, hb⟩ := deed.buffer
    exact hi.commands cmd (hb ▸ List.mem_append_right _ hc)
  attempt _ _ hw := deed.replays hi hw
  calls := deed.frame.calls ▸ hi.calls

theorem Shuns.turn (hi : s.Shuns x) {id : Nat} {stage : Stage} (omits : t.Omits x)
    (commands : ∀ cmd ∈ t.channel.buffer, cmd ∉ s.channel.buffer → cmd.about x = none)
    (attempt : ∀ attempts a, t.worker = .attempting attempts a → s.worker = t.worker)
    (calls : t.calls = (s.setStage id stage).calls) (aside : ¬stage.Concerns x) : t.Shuns x := by
  refine ⟨omits, fun cmd hc => ?_, fun attempts a hw => ?_, fun c hc => ?_⟩
  · by_cases old : cmd ∈ s.channel.buffer
    · exact hi.commands cmd old
    · exact commands cmd hc old
  · exact hi.attempt attempts a ((attempt attempts a hw).trans hw)
  · rw [calls] at hc
    obtain ⟨d, hd, rfl⟩ := List.mem_map.mp hc
    split
    · exact aside
    · exact hi.calls d hd

theorem Shuns.turned (hi : s.Shuns x) {id : Nat} {stage : Stage}
    (registry : t.registry = s.registry) (links : t.links = s.links)
    (buffer : t.channel.buffer = s.channel.buffer) (worker : t.worker = s.worker)
    (calls : t.calls = (s.setStage id stage).calls) (aside : ¬stage.Concerns x) : t.Shuns x :=
  hi.turn (hi.omits.congr (by rw [registry]) links) (fun _ hc new => absurd (buffer ▸ hc) new)
    (fun _ _ _ => worker.symm) calls aside

theorem Shuns.begin {id : Nat} {a : Action} (hi : s.Shuns x)
    (barred : (x.isPrivate && !s.profile.isPrivate) = true) (ht : s.begin id a = some t) :
    t.Shuns x := by
  have finish : ∀ answer, (s.finishCall id answer).Shuns x :=
    fun _ => hi.turned rfl rfl rfl rfl rfl not_false
  have subscribe : ∀ y, (s.beginSubscribe id y).Shuns x := by
    intro y
    rw [beginSubscribe]
    split
    · exact finish _
    · split
      · exact finish _
      · next fine =>
          refine hi.turned rfl rfl rfl rfl rfl (fun same => fine ?_)
          cases same
          exact barred
  have locked : ∀ b, b ≠ .subscribe x → (s.beginLocked id b).Shuns x := by
    intro b other
    rw [beginLocked]
    split
    · exact finish _
    · exact hi.turned rfl rfl rfl rfl rfl other
  cases a with
  | connect =>
      cases ht
      exact hi.turned rfl rfl rfl rfl rfl not_false
  | follow f =>
      simp only [Session.begin] at ht
      split at ht <;> cases ht
      · exact finish _
      · exact subscribe _
  | subscribe y =>
      cases ht
      exact subscribe y
  | unsubscribe y =>
      cases ht
      exact locked _ (by simp)
  | reconnect =>
      cases ht
      exact locked _ (by simp)
  | close =>
      simp only [Session.begin] at ht
      split at ht <;> cases ht
      · exact finish _
      · exact hi.turned rfl rfl rfl rfl rfl not_false
  | receive =>
      simp only [Session.begin, receive] at ht
      split at ht <;> cases ht
      · exact hi.turned rfl rfl rfl rfl rfl not_false
      · exact finish _

theorem AttemptDeed.shuns {a : Attempt} {p : Progress} (deed : AttemptDeed s a es t p)
    (hi : s.Shuns x) (aside : ¬a.Replays x) : t.Shuns x where
  omits := deed.omits hi.omits aside
  commands := deed.frame.channel ▸ hi.commands
  attempt := deed.frame.worker ▸ hi.attempt
  calls := deed.frame.calls ▸ hi.calls

theorem Shuns.sent (hi : s.Shuns x) {cmd : Command} {stage : Stage} (apart : cmd.about x = none)
    (registry : t.registry = s.registry) (links : t.links = s.links)
    (buffer : t.channel.buffer = s.channel.buffer ++ [cmd]) (worker : t.worker = s.worker)
    (calls : t.calls = (s.setStage c.id stage).calls) (calm : ¬stage.Concerns x) : t.Shuns x := by
  refine hi.turn (hi.omits.congr (by rw [registry]) links) ?_ (fun _ _ _ => worker.symm) calls calm
  intro d hd new
  rw [buffer, List.mem_append, List.mem_singleton] at hd
  rw [hd.resolve_left new]
  exact apart

theorem Shuns.added (hi : s.Shuns x) {y : Subscription} (other : x ≠ y) :
    ({ s with registry := (s.registry.add y).1 }.setStage c.id (.sending (.subscribe y))).Shuns x := by
  have unknown : (s.registry.add y).1.contains x = false := by
    rw [Bool.eq_false_iff, Ne, Registry.contains_add, hi.omits.registry]
    simp [other]
  refine hi.turn ⟨unknown, hi.omits.links⟩ (fun _ hd new => absurd hd new) (fun _ _ _ => rfl) rfl ?_
  simp [Stage.Concerns, Command.about, other]

theorem Shuns.removed (hi : s.Shuns x) {y : Subscription} (other : y ≠ x) :
    ({ s with registry := (s.registry.remove y).1 }.setStage c.id (.observing y)).Shuns x := by
  have unknown : (s.registry.remove y).1.contains x = false := by
    rw [Bool.eq_false_iff, Ne, Registry.contains_remove, hi.omits.registry]
    simp
  exact hi.turn ⟨unknown, hi.omits.links⟩ (fun _ hd new => absurd hd new) (fun _ _ _ => rfl) rfl
    other

theorem CallDeed.shuns (deed : CallDeed s c es t) (hi : s.Shuns x) (hc : c ∈ s.calls)
    (begun : c.stage ≠ .begun) : t.Shuns x := by
  have aside := hi.calls c hc
  cases deed with
  | declined hst | asked hst | shut hst | begun hst | received hst => exact absurd hst begun
  | discarded => exact hi.turned rfl rfl rfl rfl rfl (by simp [Stage.Concerns])
  | locked hst | handing hst =>
      rw [hst] at aside
      exact hi.turned rfl rfl rfl rfl rfl aside
  | @added y hst =>
      refine hi.added ?_
      rintro rfl
      rw [hst] at aside
      exact aside rfl
  | @removed y hst known =>
      refine hi.removed ?_
      rintro rfl
      rw [hi.omits.registry] at known
      cases known
  | replacing | closing =>
      exact hi.turned rfl rfl rfl rfl rfl (by simp [Stage.Concerns, Command.about])
  | noticed hst =>
      rw [hst] at aside
      refine hi.turned rfl rfl rfl rfl rfl ?_
      simpa [Stage.Concerns, Command.about, eq_comm] using aside
  | sent hst | handed hst =>
      rw [hst] at aside
      exact hi.sent (not_not.mp aside) rfl rfl rfl rfl rfl not_false
  | @attempted a es s' p hst hd =>
      rw [hst] at aside
      have hi' := hd.shuns hi aside
      cases p with
      | more b => exact hi'.turned rfl rfl rfl rfl rfl (hd.replays hi.omits aside)
      | done n =>
          refine hi'.turn (hi'.omits.congr rfl rfl) (fun _ hd => absurd hd List.not_mem_nil)
            (fun _ _ hw => ?_) rfl not_false
          cases hw
      | failed e =>
          simp only [onCallProgress]
          split
          · exact hi'.turned rfl rfl rfl rfl rfl not_false
          · exact hi'.turned rfl rfl rfl rfl rfl not_false
  | _ => exact hi.turned rfl rfl rfl rfl rfl not_false

theorem Shuns.call {b : Branch} (hi : s.Shuns x)
    (barred : (x.isPrivate && !s.profile.isPrivate) = true) (hc : c ∈ s.calls)
    (ht : s.callStep c b = some t) : t.Shuns x := by
  by_cases begun : c.stage = .begun
  · cases b <;> simp only [callStep, begun, reduceCtorEq] at ht
    exact hi.begin barred ht
  · exact (callStep_deed ht).shuns hi hc begun

theorem Shuns.aborted (hi : s.Shuns x) : s.abortWorker.Shuns x where
  omits := ⟨hi.omits.registry, forall_abortWorker (fun _ hl => hl) hi.omits.links⟩
  commands _ hc := absurd hc List.not_mem_nil
  attempt _ _ hw := by cases hw
  calls := hi.calls

theorem Shuns.step {m : Move} (hi : s.Shuns x)
    (barred : (x.isPrivate && !s.profile.isPrivate) = true) (ht : s.step m = some t) :
    t.Shuns x := by
  cases step_deed ht with
  | elapsed => exact ⟨hi.omits.congr rfl rfl, hi.commands, hi.attempt, hi.calls⟩
  | answered =>
      exact ⟨hi.omits.onLink _ fun _ hl => hl, hi.commands, hi.attempt, hi.calls⟩
  | arrived =>
      exact ⟨hi.omits.onLink _ fun _ hl => hl, hi.commands, hi.attempt, hi.calls⟩
  | invoked =>
      refine ⟨hi.omits.congr rfl rfl, hi.commands, hi.attempt, fun c hc => ?_⟩
      rcases List.mem_append.mp hc with hc | hc
      · exact hi.calls c hc
      · rw [List.mem_singleton.mp hc]
        exact not_false
  | abandoned => exact hi.turned rfl rfl rfl rfl rfl not_false
  | cutOff => exact hi.aborted
  | worked deed => exact deed.shuns hi
  | called =>
      obtain ⟨c, found, step⟩ := Option.bind_eq_some_iff.mp ht
      exact hi.call barred (call?_some found).1 step

theorem Run.shuns {ms : List Move} (run : Run s ms t)
    (barred : (x.isPrivate && !s.profile.isPrivate) = true) (hi : s.Shuns x) : t.Shuns x := by
  induction run with
  | nil _ => exact hi
  | cons first _ ih => exact ih (step_profile first ▸ barred) (hi.step barred first)

theorem run_refuses {p : Profile} {seconds : List Int} {draws : List Float} {ms : List Move}
    (run : Run (initial p seconds draws) ms t) :
    (∀ c ∈ t.calls, c.action.isSubscribing = true → ∀ e, c.stage = .over (.failed e) →
      ∃ before u after, ms = before ++ .call c.id .proceed :: after ∧
        Run (initial p seconds draws) before u ∧ u.refusal? c.action = some e ∧
        u.step (.call c.id .proceed) = some (u.setStage c.id (.over (.failed e))) ∧
        ∀ m ∈ before ++ after, ∀ b, m ≠ .call c.id b) ∧
      (p.isPrivate = false → ∀ x, x.isPrivate = true →
        t.registry.contains x = false ∧ (∀ cmd ∈ t.channel.buffer, cmd.about x = none) ∧
          ∀ l ∈ t.links, ∀ f ∈ l.written, f.about x = none) := by
  refine ⟨fun c hc ha e failed => ?_, fun open' x hx => ?_⟩
  · obtain ⟨before, u, after, parts, reason, step, alone⟩ := run.refusing.refused c hc ha e failed
    refine ⟨before.map Prod.snd, u, after.map Prod.snd, ?_, run.before_entry parts, reason, step,
      ?_⟩
    · rw [← run.moves_journal, parts, List.map_append]
      rfl
    · rw [← List.map_append, List.forall_mem_map]
      exact alone
  · have barred : (x.isPrivate && !(initial p seconds draws).profile.isPrivate) = true := by
      rw [hx, show (initial p seconds draws).profile.isPrivate = false from open']
      rfl
    have shuns := run.shuns barred (shuns_initial p seconds draws)
    exact ⟨shuns.omits.registry, shuns.commands, shuns.omits.links⟩

def prying : List Move :=
  connecting ++
    [.invoke (.follow (.trades "BTC-USDT")), .call 1 .proceed, .call 1 .proceed, .call 1 .proceed,
      .call 1 .proceed, .worker .command, .invoke (.follow (.account none)), .call 2 .proceed,
      .invoke (.unsubscribe .balanceAndPosition), .call 3 .proceed, .call 3 .proceed,
      .call 3 .proceed]

theorem prying_refused :
    ∃ t, Run (visitor .standard) prying t ∧ t.registry.all = [.trades "BTC-USDT"] ∧
      t.links.map Link.written = [[.subscribeTo (.trades "BTC-USDT")]] ∧
      (∃ before u after, prying = before ++ .call 2 .proceed :: after ∧
        Run (visitor .standard) before u ∧
        u.step (.call 2 .proceed)
          = some (u.setStage 2 (.over (.failed (.loginRequired "account"))))) ∧
      ∀ x, x.isPrivate = true → t.registry.contains x = false := by
  have played : ((visitor .standard).play prying).map (fun t =>
      (t.registry.all, t.links.map Link.written, t.calls[2]?))
      = some ([.trades "BTC-USDT"], [[.subscribeTo (.trades "BTC-USDT")]],
        some ⟨2, .follow (.account none), .over (.failed (.loginRequired "account"))⟩) := by
    decide +kernel
  obtain ⟨t, run, ended⟩ := exists_run _ _ _ played
  obtain ⟨listed, rest⟩ := Prod.mk.inj ended
  obtain ⟨written, call⟩ := Prod.mk.inj rest
  obtain ⟨refused, unregistered⟩ := run_refuses run
  obtain ⟨before, u, after, parts, first, _, step, _⟩ :=
    refused _ (List.mem_of_getElem? call) rfl _ rfl
  exact ⟨t, run, listed, written, ⟨before, u, after, parts, first, step⟩,
    fun x hx => (unregistered rfl x hx).1⟩

end Session

end MarketWire.Stream
