import MarketWire.Proofs.Session.Deed

namespace MarketWire.Stream

open Channel (Subscription)

namespace Session

variable {s t : Session}

structure AttemptFrame (s t : Session) : Prop where
  profile : t.profile = s.profile
  mailbox : t.mailbox = s.mailbox
  channel : t.channel = s.channel
  worker : t.worker = s.worker
  calls : t.calls = s.calls
  lock : t.lock = s.lock
  opened : t.opened = s.opened
  shut : t.shut = s.shut

theorem AttemptDeed.frame {a : Attempt} {es : List Event} {p : Progress}
    (deed : AttemptDeed s a es t p) : AttemptFrame s t := by
  cases deed with
  | welcomed hr _ =>
      obtain ⟨rest, rfl⟩ := nextArrival_eq hr
      exact ⟨rfl, rfl, rfl, rfl, rfl, rfl, rfl, rfl⟩
  | ponged hr =>
      obtain ⟨rest, rfl⟩ := nextArrival_eq hr
      exact ⟨rfl, rfl, rfl, rfl, rfl, rfl, rfl, rfl⟩
  | ignored hr =>
      obtain ⟨rest, rfl⟩ := nextArrival_eq hr
      exact ⟨rfl, rfl, rfl, rfl, rfl, rfl, rfl, rfl⟩
  | rejected hr =>
      obtain ⟨rest, rfl⟩ := nextArrival_eq hr
      exact ⟨rfl, rfl, rfl, rfl, rfl, rfl, rfl, rfl⟩
  | _ => exact ⟨rfl, rfl, rfl, rfl, rfl, rfl, rfl, rfl⟩

theorem AttemptDeed.registry {a : Attempt} {es : List Event} {p : Progress}
    (deed : AttemptDeed s a es t p) :
    t.registry = s.registry ∨ t.registry = s.registry.resetConfirmations := by
  cases deed with
  | listed => exact Or.inr rfl
  | welcomed hr _ =>
      obtain ⟨rest, rfl⟩ := nextArrival_eq hr
      exact Or.inl rfl
  | ponged hr =>
      obtain ⟨rest, rfl⟩ := nextArrival_eq hr
      exact Or.inl rfl
  | ignored hr =>
      obtain ⟨rest, rfl⟩ := nextArrival_eq hr
      exact Or.inl rfl
  | rejected hr =>
      obtain ⟨rest, rfl⟩ := nextArrival_eq hr
      exact Or.inl rfl
  | _ => exact Or.inl rfl

structure WorkerFrame (s t : Session) : Prop where
  profile : t.profile = s.profile
  sender : t.channel.sender = s.channel.sender
  calls : t.calls = s.calls
  lock : t.lock = s.lock
  opened : t.opened = s.opened
  shut : t.shut = s.shut

theorem WorkerFrame.trans {u : Session} (first : WorkerFrame s t) (then' : WorkerFrame t u) :
    WorkerFrame s u :=
  ⟨then'.profile.trans first.profile, then'.sender.trans first.sender,
    then'.calls.trans first.calls, then'.lock.trans first.lock, then'.opened.trans first.opened,
    then'.shut.trans first.shut⟩

theorem AttemptFrame.worker_frame (h : AttemptFrame s t) : WorkerFrame s t :=
  ⟨h.profile, congrArg CommandChannel.sender h.channel, h.calls, h.lock, h.opened, h.shut⟩

theorem nextArrival_frame {n : Nat} {a : Arrival} (h : s.nextArrival n = some (a, t)) :
    WorkerFrame s t := by
  obtain ⟨rest, rfl⟩ := nextArrival_eq h
  exact ⟨rfl, rfl, rfl, rfl, rfl, rfl⟩

theorem nextCommand_frame {cmd : Command} (h : s.nextCommand = some (cmd, t)) :
    WorkerFrame s t := by
  rcases nextCommand_eq h with ⟨rest, _, rfl⟩ | ⟨_, _, _, _, rfl⟩
  · exact ⟨rfl, rfl, rfl, rfl, rfl, rfl⟩
  · exact ⟨rfl, rfl, rfl, rfl, rfl, rfl⟩

theorem nextArrival_channel {n : Nat} {a : Arrival} (h : s.nextArrival n = some (a, t)) :
    t.channel = s.channel := by
  obtain ⟨rest, rfl⟩ := nextArrival_eq h
  rfl

theorem nextArrival_mailbox {n : Nat} {a : Arrival} (h : s.nextArrival n = some (a, t)) :
    t.mailbox = s.mailbox := by
  obtain ⟨rest, rfl⟩ := nextArrival_eq h
  rfl

theorem nextArrival_registry {n : Nat} {a : Arrival} (h : s.nextArrival n = some (a, t)) :
    t.registry = s.registry := by
  obtain ⟨rest, rfl⟩ := nextArrival_eq h
  rfl

theorem nextCommand_mailbox {cmd : Command} (h : s.nextCommand = some (cmd, t)) :
    t.mailbox = s.mailbox := by
  rcases nextCommand_eq h with ⟨rest, _, rfl⟩ | ⟨_, _, _, _, rfl⟩ <;> rfl

theorem nextCommand_registry {cmd : Command} (h : s.nextCommand = some (cmd, t)) :
    t.registry = s.registry := by
  rcases nextCommand_eq h with ⟨rest, _, rfl⟩ | ⟨_, _, _, _, rfl⟩ <;> rfl

theorem nextCommand_phase {cmd : Command} (h : s.nextCommand = some (cmd, t)) :
    t.phase = s.phase := by
  rcases nextCommand_eq h with ⟨rest, _, rfl⟩ | ⟨_, _, _, _, rfl⟩ <;> rfl

theorem nextCommand_worker {cmd : Command} (h : s.nextCommand = some (cmd, t)) :
    t.worker = s.worker := by
  rcases nextCommand_eq h with ⟨rest, _, rfl⟩ | ⟨_, _, _, _, rfl⟩ <;> rfl

theorem onProgress_frame (s : Session) (attempts : Nat) (p : Progress) :
    WorkerFrame s (s.onProgress attempts p) := by
  cases p with
  | more a => exact ⟨rfl, rfl, rfl, rfl, rfl, rfl⟩
  | done n => exact ⟨rfl, rfl, rfl, rfl, rfl, rfl⟩
  | failed e =>
      simp only [onProgress]
      split
      · exact ⟨rfl, rfl, rfl, rfl, rfl, rfl⟩
      · exact ⟨rfl, rfl, rfl, rfl, rfl, rfl⟩

theorem WorkerDeed.frame {es : List Event} (deed : WorkerDeed s es t) : WorkerFrame s t := by
  cases deed with
  | ponged _ hr _ | consumed _ hr _ | routed _ hr _ =>
      exact (nextArrival_frame hr).trans ⟨rfl, rfl, rfl, rfl, rfl, rfl⟩
  | answered _ hr | ignored _ hr | lost _ hr =>
      exact (nextArrival_frame hr).trans ⟨rfl, rfl, rfl, rfl, rfl, rfl⟩
  | subscribed _ hn => exact (nextCommand_frame hn).trans ⟨rfl, rfl, rfl, rfl, rfl, rfl⟩
  | unsubscribed _ hn => exact (nextCommand_frame hn).trans ⟨rfl, rfl, rfl, rfl, rfl, rfl⟩
  | unready _ hn _ => exact (nextCommand_frame hn).trans ⟨rfl, rfl, rfl, rfl, rfl, rfl⟩
  | told _ hn _ => exact (nextCommand_frame hn).trans ⟨rfl, rfl, rfl, rfl, rfl, rfl⟩
  | stopped _ =>
      rename_i why _
      cases why <;> exact ⟨rfl, rfl, rfl, rfl, rfl, rfl⟩
  | drained _ hn =>
      rename_i cmd s' _
      refine (nextCommand_frame hn).trans ?_
      cases cmd <;> exact ⟨rfl, rfl, rfl, rfl, rfl, rfl⟩
  | attempted _ hd => exact hd.frame.worker_frame.trans (onProgress_frame _ _ _)
  | _ => exact ⟨rfl, rfl, rfl, rfl, rfl, rfl⟩

theorem abortWorker_of_link {n : Nat} (h : s.worker.link? = some n) :
    s.abortWorker = (s.dropLink n).endWorker := by
  simp only [abortWorker, dropLink, onLink, h, Option.some.injEq, eq_comm]
  rfl

theorem abortWorker_of_none (h : s.worker.link? = none) : s.abortWorker = s.endWorker := by
  simp [abortWorker, h, endWorker]

theorem forall_abortWorker {P : Link → Prop} (kept : ∀ l, P l → P l.drop)
    (h : ∀ l ∈ s.links, P l) : ∀ l ∈ s.abortWorker.links, P l := by
  intro m hm
  obtain ⟨l, hl, rfl⟩ := List.mem_map.mp hm
  split
  · exact kept l (h l hl)
  · exact h l hl

theorem CallDeed.profile {c : Call} {es : List Event} (deed : CallDeed s c es t) :
    t.profile = s.profile := by
  cases deed with
  | attempted _ hd =>
      rename_i s' p _
      refine Eq.trans ?_ hd.frame.profile
      cases p with
      | more b => rfl
      | done n => rfl
      | failed e =>
          simp only [onCallProgress]
          split <;> rfl
  | _ => rfl

inductive NextStage (s : Session) (c : Call) : Stage → Prop where
  | over (a : Answer) : NextStage s c (.over a)
  | asked {a : Action} :
      c.stage = .begun → s.shut = false → a ≠ .close → NextStage s c (.locking a)
  | shut : c.stage = .begun → s.shut = false → NextStage s c .discarding
  | discarded : c.stage = .discarding → NextStage s c (.locking .close)
  | locked {a : Action} : c.stage = .locking a → NextStage s c (.changing a)
  | observing (x : Subscription) : NextStage s c (.observing x)
  | sending (cmd : Command) : NextStage s c (.sending cmd)
  | replacing : c.stage = .changing .reconnect → NextStage s c (.stopping .detach)
  | closing : c.stage = .changing .close → NextStage s c (.stopping .close)
  | handing {cmd : Command} : c.stage = .stopping cmd → NextStage s c (.handing cmd)
  | joining {cmd : Command} {d : Nat} :
      c.stage = .stopping cmd ∨ c.stage = .handing cmd → NextStage s c (.joining cmd d)
  | starting : NextStage s c (.attempting .starting)
  | attempting {a b : Attempt} {es : List Event} {u : Session} :
      c.stage = .attempting a → AttemptDeed s a es u (.more b) → NextStage s c (.attempting b)

theorem CallDeed.next {c : Call} {es : List Event} (deed : CallDeed s c es t) :
    ∃ stage, t.calls = (s.setStage c.id stage).calls ∧ NextStage s c stage := by
  cases deed with
  | asked hst _ hs ha => exact ⟨_, rfl, .asked hst hs ha⟩
  | shut hst _ hs => exact ⟨_, rfl, .shut hst hs⟩
  | begun => exact ⟨_, rfl, .starting⟩
  | discarded hst => exact ⟨_, rfl, .discarded hst⟩
  | locked hst => exact ⟨_, rfl, .locked hst⟩
  | added => exact ⟨_, rfl, .sending _⟩
  | removed => exact ⟨_, rfl, .observing _⟩
  | replacing hst => exact ⟨_, rfl, .replacing hst⟩
  | closing hst => exact ⟨_, rfl, .closing hst⟩
  | noticed => exact ⟨_, rfl, .sending _⟩
  | handing hst => exact ⟨_, rfl, .handing hst⟩
  | unled hst => exact ⟨_, rfl, .joining (Or.inl hst)⟩
  | unheard hst => exact ⟨_, rfl, .joining (Or.inr hst)⟩
  | handed hst => exact ⟨_, rfl, .joining (Or.inr hst)⟩
  | redialled => exact ⟨_, rfl, .starting⟩
  | attempted hst deed =>
      rename_i p
      have calls := deed.frame.calls
      cases p with
      | more b =>
          exact ⟨.attempting b, by simp [onCallProgress, setStage, calls], .attempting hst deed⟩
      | done n =>
          refine ⟨_, ?_, .over .done⟩
          simp [onCallProgress, finishCall, setStage, startWorker, calls]
      | failed e =>
          refine ⟨_, ?_, .over (.failed e)⟩
          simp only [onCallProgress]
          split <;> simp [finishCall, setStage, withPhase, calls]
  | _ => exact ⟨_, rfl, .over _⟩

theorem step_profile {m : Move} (hs : s.step m = some t) : t.profile = s.profile := by
  cases step_deed hs with
  | called _ hd => exact hd.profile
  | worked hd => exact hd.frame.profile
  | _ => rfl

theorem Run.profile {ms : List Move} (run : Run s ms t) : t.profile = s.profile := by
  induction run with
  | nil _ => rfl
  | cons first _ ih => exact ih.trans (step_profile first)

@[simp] theorem onLink_length (s : Session) (n : Nat) (f : Link → Link) :
    (s.onLink n f).links.length = s.links.length := by
  rw [onLink, List.length_map]

theorem nextArrival_length {n : Nat} {a : Arrival} (hr : s.nextArrival n = some (a, t)) :
    t.links.length = s.links.length := by
  obtain ⟨rest, rfl⟩ := nextArrival_eq hr
  exact onLink_length ..

theorem nextCommand_length {cmd : Command} (hn : s.nextCommand = some (cmd, t)) :
    t.links.length = s.links.length := by
  rcases nextCommand_eq hn with ⟨rest, _, rfl⟩ | ⟨_, _, _, _, rfl⟩ <;> rfl

theorem AttemptDeed.links_le {a : Attempt} {es : List Event} {p : Progress}
    (deed : AttemptDeed s a es t p) : s.links.length ≤ t.links.length := by
  have kept : ∀ {u : Session}, u.links.length = s.links.length →
      s.links.length ≤ u.links.length := fun e => Nat.le_of_eq e.symm
  cases deed with
  | dialled => simp
  | signed => exact kept (onLink_length ..)
  | refused => exact kept (onLink_length ..)
  | welcomed hr => exact (kept (nextArrival_length hr) :)
  | ponged hr => exact kept ((onLink_length ..).trans (nextArrival_length hr))
  | ignored hr => exact kept (nextArrival_length hr)
  | rejected hr => exact kept ((onLink_length ..).trans (nextArrival_length hr))
  | unanswered | replayed | unready => exact kept (onLink_length ..)
  | _ => exact Nat.le_refl _

theorem onCallProgress_links (s : Session) (c : Call) (p : Progress) :
    (s.onCallProgress c p).links = s.links := by
  cases p with
  | more b => rfl
  | done n => rfl
  | failed e =>
      simp only [onCallProgress]
      split <;> rfl

theorem onProgress_links (s : Session) (attempts : Nat) (p : Progress) :
    (s.onProgress attempts p).links = s.links := by
  cases p with
  | more b => rfl
  | done n => rfl
  | failed e =>
      simp only [onProgress]
      split <;> rfl

theorem CallDeed.links_le {c : Call} {es : List Event} (deed : CallDeed s c es t) :
    s.links.length ≤ t.links.length := by
  cases deed with
  | attempted _ hd =>
      rw [onCallProgress_links]
      exact hd.links_le
  | _ => exact Nat.le_refl _

theorem WorkerDeed.links_le {es : List Event} (deed : WorkerDeed s es t) :
    s.links.length ≤ t.links.length := by
  have kept : ∀ {u : Session}, u.links.length = s.links.length →
      s.links.length ≤ u.links.length := fun e => Nat.le_of_eq e.symm
  cases deed with
  | ponged _ hr | consumed _ hr | routed _ hr => exact (kept (nextArrival_length hr) :)
  | answered _ hr => exact kept ((onLink_length ..).trans (nextArrival_length hr))
  | ignored _ hr => exact (kept (nextArrival_length hr) :)
  | lost _ hr => exact kept ((onLink_length ..).trans (nextArrival_length hr))
  | overdue => exact kept (onLink_length ..)
  | pinged => exact kept (onLink_length ..)
  | subscribed _ hn | unsubscribed _ hn | unready _ hn =>
      exact kept ((onLink_length ..).trans (nextCommand_length hn))
  | told _ hn => exact kept ((onLink_length ..).trans (nextCommand_length hn :))
  | barred => exact kept (onLink_length ..)
  | stopped =>
      rename_i why _
      cases why <;> exact kept (onLink_length ..)
  | drained _ hn =>
      rename_i cmd s' _
      cases cmd <;> exact (kept (nextCommand_length hn) :)
  | attempted _ hd =>
      rw [onProgress_links]
      exact hd.links_le
  | _ => exact Nat.le_refl _

@[simp] theorem abortWorker_length (s : Session) :
    s.abortWorker.links.length = s.links.length := by
  rw [abortWorker, List.length_map]

theorem step_links_le {m : Move} (hs : s.step m = some t) : s.links.length ≤ t.links.length := by
  cases step_deed hs with
  | called _ hd => exact hd.links_le
  | cutOff => exact Nat.le_of_eq (abortWorker_length s).symm
  | worked hd => exact hd.links_le
  | answered => exact Nat.le_of_eq (onLink_length ..).symm
  | arrived => exact Nat.le_of_eq (onLink_length ..).symm
  | _ => exact Nat.le_refl _

end Session

end MarketWire.Stream
