import MarketWire.Proofs.Session.Bearing
import MarketWire.Proofs.Session.Hearing

namespace MarketWire.Stream

open Channel (Subscription)

namespace Session

variable {s t : Session} {c : Call} {h es : List Event} {n : Nat} {rest : List Subscription}
  {x y : Subscription}

structure Agreed (s : Session) (h : List Event) : Prop where
  fair : ∀ x, (s.prospect h x).Fair
  firm : ∀ n rest, s.Bears n rest → ∀ x, (s.prospect h x).Firm (s.Holds n rest x) (Stray h n x)

theorem agreed_initial (p : Profile) (seconds : List Int) (draws : List Float) :
    (initial p seconds draws).Agreed [] := by
  have word : ∀ x, lastWord x (initial p seconds draws).coming = none := fun _ => rfl
  refine ⟨?_, ?_⟩
  · intro x
    refine ⟨?_, ?_, ?_, ?_⟩
    · intro hr
      cases hr
    · rintro ⟨c, hc, _⟩
      cases hc
    · exact fun ha => absurd ha not_abandoned_nil
    · exact fun _ hw => by simp [prospect, word] at hw
  · rintro n rest (hb | ⟨c, hc, _⟩)
    · cases hb
    · cases hc

theorem Agreed.calm (hs : s.Agreed h) (same : ∀ x, t.prospect (h ++ es) x = s.prospect h x)
    (stray : ∀ n x, Stray (h ++ es) n x ↔ Stray h n x)
    (bears : ∀ n rest, t.Bears n rest → s.Bears n rest)
    (carries : ∀ n x, t.Carries n x ↔ s.Carries n x) : t.Agreed (h ++ es) := by
  refine ⟨fun x => same x ▸ hs.fair x, ?_⟩
  intro n rest hb x
  have firm := hs.firm n rest (bears n rest hb) x
  rw [same, stray, Holds, carries]
  exact firm

theorem Agreed.change (hs : s.Agreed h) (x : Subscription)
    (same : ∀ y, y ≠ x → t.prospect (h ++ es) y = s.prospect h y)
    (stray : ∀ n y, y ≠ x → (Stray (h ++ es) n y ↔ Stray h n y))
    (bears : ∀ n rest, t.Bears n rest → s.Bears n rest)
    (carries : ∀ n x, t.Carries n x ↔ s.Carries n x) (fair : (t.prospect (h ++ es) x).Fair)
    (firm : ∀ n rest, t.Bears n rest →
      (t.prospect (h ++ es) x).Firm (t.Holds n rest x) (Stray (h ++ es) n x)) :
    t.Agreed (h ++ es) := by
  refine ⟨?_, ?_⟩
  · intro y
    by_cases hy : y = x
    · exact hy ▸ fair
    · exact same y hy ▸ hs.fair y
  · intro n rest hb y
    by_cases hy : y = x
    · exact hy ▸ firm n rest hb
    · have old := hs.firm n rest (bears n rest hb) y
      rw [same y hy, stray n y hy, Holds, carries]
      exact old

theorem AttemptDeed.aside {a : Attempt} {p : Progress} (deed : AttemptDeed s a es t p) :
    ∀ e ∈ es, e.isAside = true := by
  cases deed <;> simp [Event.isAside]

theorem InUse.carries {P : List Frame → List Subscription → Prop} (hi : s.InUse h n P) :
    ∃ past l, s.links = past ++ [l] ∧ l.number = n ∧ l.live = true ∧ P l.written l.carried ∧
      ∀ x, s.Carries n x ↔ x ∈ l.carried := by
  obtain ⟨past, l, links, numbered, _, rfl, live, hl⟩ := hi
  have present : l ∈ s.links := links ▸ List.mem_append_right _ List.mem_cons_self
  refine ⟨past, l, links, rfl, live, hl, fun x => ⟨?_, fun hx => ⟨l, present, rfl, hx⟩⟩⟩
  rintro ⟨m, hm, number, hx⟩
  rw [links] at hm numbered
  rcases List.mem_append.mp hm with hm | hm
  · exact absurd number (numbered.last.2.2 m hm)
  · exact List.mem_singleton.mp hm ▸ hx

theorem AttemptDeed.prospect {a : Attempt} {p : Progress} (deed : AttemptDeed s a es t p)
    (x : Subscription) : t.prospect (h ++ es) x = s.prospect h x := by
  refine prospect_congr deed.same.contains ?_ (abandoned_append_aside deed.aside) ?_
  · rw [deed.frame.calls]
  · rw [coming, coming, outgoing, outgoing, deed.frame.channel, deed.frame.calls]

theorem AttemptDeed.firm {a : Attempt} {p : Progress} (hs : s.Agreed h) (ha : a.Stands s h)
    (firm : ∀ n rest, a.bears = some (n, rest) →
      ∀ x, (s.prospect h x).Firm (s.Holds n rest x) (Stray h n x))
    (unheard : ∀ n, a.link? = some n → ∀ cmd, .taken n cmd ∉ h)
    (deed : AttemptDeed s a es t p) {n : Nat} {rest : List Subscription}
    (hp : p.bears = some (n, rest)) (x : Subscription) :
    (t.prospect (h ++ es) x).Firm (t.Holds n rest x) (Stray (h ++ es) n x) := by
  rw [deed.prospect, stray_append_aside deed.aside]
  cases deed with
  | listed =>
      cases hp
      -- nothing is carried yet, and no command has been carried out on this transport
      have inUse := ha.2.2.2
      obtain ⟨_, l, _, _, _, greeted, carries⟩ := inUse.carries
      refine (hs.fair x).listed ?_ fun stray => unheard n rfl _ stray.taken
      rw [Holds, Registry.mem_all]
      constructor
      · rintro (hx | hx)
        · have hx : x ∈ l.carried := (carries x).mp hx
          rw [greeted.blank] at hx
          cases hx
        · exact hx
      · exact Or.inr
  | replayed ready =>
      rename_i k y later
      cases hp
      have held : (s.onLink n (·.subscribe y)).Holds n rest x ↔ s.Holds n (y :: rest) x := by
        rw [Holds, Holds, carries_subscribe ha.2, List.mem_cons, or_assoc]
      rw [held]
      exact firm n (y :: rest) rfl x
  | replayEnded =>
      cases hp
      exact firm n [] rfl x
  | _ => cases hp

theorem WorkerDeed.buffer (deed : WorkerDeed s es t) :
    ∃ gone, s.channel.buffer = gone ++ t.channel.buffer := by
  have kept : t.channel = s.channel → ∃ gone, s.channel.buffer = gone ++ t.channel.buffer :=
    fun e => ⟨[], by rw [e, List.nil_append]⟩
  have dropped : t.channel.buffer = [] → ∃ gone, s.channel.buffer = gone ++ t.channel.buffer :=
    fun e => ⟨s.channel.buffer, by rw [e, List.append_nil]⟩
  have command : ∀ {cmd : Command} {s' : Session}, s.nextCommand = some (cmd, s') →
      t.channel = s'.channel → ∃ gone, s.channel.buffer = gone ++ t.channel.buffer := by
    intro cmd s' hn e
    rcases nextCommand_eq hn with ⟨later, hb, rfl⟩ | ⟨_, _, _, _, rfl⟩
    · exact ⟨[cmd], by rw [e, hb, List.singleton_append]⟩
    · exact kept e
  cases deed with
  | ponged _ hr | consumed _ hr | routed _ hr | answered _ hr | ignored _ hr | lost _ hr =>
      exact kept (nextArrival_channel hr :)
  | subscribed _ hn | unsubscribed _ hn | unready _ hn | told _ hn => exact command hn rfl
  | stopped =>
      rename_i why _
      cases why <;> exact dropped rfl
  | gaveUp => exact dropped rfl
  | drained _ hn =>
      rename_i cmd s' _
      cases cmd with
      | close => exact dropped rfl
      | detach => exact dropped rfl
      | subscribe x => exact command hn rfl
      | unsubscribe x => exact command hn rfl
  | attempted _ deed =>
      rename_i p _
      cases p with
      | more a => exact kept deed.frame.channel
      | done n => exact kept deed.frame.channel
      | failed e =>
          simp only [onProgress] at kept dropped ⊢
          split
          · next he => exact ⟨s.channel.buffer, (List.append_nil _).symm⟩
          · next he => exact ⟨[], congrArg CommandChannel.buffer deed.frame.channel.symm⟩
  | _ => exact kept rfl

theorem WorkerDeed.abandoned (deed : WorkerDeed s es t) : Abandoned (h ++ es) x ↔ Abandoned h x := by
  have spoken : (∀ e ∈ es, e.isAside = true) ∨ ∃ n cmd, es = [.taken n cmd] := by
    cases deed with
    | subscribed | unsubscribed | unready | told => exact Or.inr ⟨_, _, rfl⟩
    | attempted _ deed => exact Or.inl deed.aside
    | _ => exact Or.inl (by simp [Event.isAside])
  rcases spoken with aside | ⟨n, cmd, rfl⟩
  · exact abandoned_append_aside aside
  · simp [abandoned_append]

theorem WorkerDeed.prospect (deed : WorkerDeed s es t) (x : Subscription) :
    t.prospect (h ++ es) x = { s.prospect h x with word := lastWord x t.coming } := by
  simp only [Session.prospect, deed.same.2.contains, deed.frame.calls, propext deed.abandoned]

theorem WorkerDeed.fair (deed : WorkerDeed s es t) (hf : (s.prospect h x).Fair) :
    (t.prospect (h ++ es) x).Fair := by
  obtain ⟨gone, hb⟩ := deed.buffer
  rw [deed.prospect]
  refine hf.heard (b := lastWord x gone) ?_
  change lastWord x s.coming = _
  rw [coming, coming, outgoing, outgoing, deed.frame.calls, hb, List.append_assoc, lastWord_append]

theorem WorkerDeed.bears (hs : s.Orderly) (deed : WorkerDeed s es t) (hb : t.Bears n rest) :
    t.worker.bears = some (n, rest) := by
  rcases hb with hb | ⟨c, hc, a, ha, _⟩
  · exact hb
  · exact absurd (hs.dialling c (deed.frame.calls ▸ hc) a ha) deed.busy

theorem nextCommand_buffer {cmd : Command} (hn : s.nextCommand = some (cmd, t))
    (hc : cmd ≠ .close) : s.channel.buffer = cmd :: t.channel.buffer := by
  rcases nextCommand_eq hn with ⟨later, hb, rfl⟩ | ⟨_, _, _, rfl, _⟩
  · exact hb
  · exact absurd rfl hc

theorem WorkerDeed.firm {cmd : Command} (ha : s.Agreed h) (hb : s.Bears n rest)
    (deed : WorkerDeed s [.taken n cmd] t) (buffer : s.channel.buffer = cmd :: t.channel.buffer)
    (settled : ∀ c, cmd.about x = some c → (t.Holds n rest x ↔ c = true))
    (untouched : cmd.about x = none → (t.Holds n rest x ↔ s.Holds n rest x)) :
    (t.prospect (h ++ [.taken n cmd]) x).Firm (t.Holds n rest x)
      (Stray (h ++ [.taken n cmd]) n x) := by
  have word : (s.prospect h x).word = (lastWord x t.coming).or (cmd.about x) := by
    change lastWord x s.coming = _
    rw [coming, coming, outgoing, outgoing, deed.frame.calls, buffer]
    rfl
  have stray : Stray (h ++ [.taken n cmd]) n x ↔
      Stray h n x ∨ (s.prospect h x).abandoned ∧ cmd.about x = some true := by
    have asks : cmd.about x = some true ↔ cmd = .subscribe x := by
      cases cmd <;> simp [Command.about, eq_comm]
    rw [stray_append, asks]
    simp [Session.prospect]
  rw [deed.prospect, stray]
  exact (ha.firm n rest hb x).heard (ha.fair x) word settled untouched

theorem WorkerDeed.firm_calm (ha : s.Agreed h) (deed : WorkerDeed s es t)
    (bears : s.worker.bears = some (n, [])) (channel : t.channel = s.channel)
    (aside : ∀ e ∈ es, e.isAside = true) (carries : t.Carries n x ↔ s.Carries n x) :
    (t.prospect (h ++ es) x).Firm (t.Holds n [] x) (Stray (h ++ es) n x) := by
  have word : lastWord x t.coming = (s.prospect h x).word := by
    rw [coming, outgoing, channel, deed.frame.calls]
    rfl
  rw [deed.prospect, word, stray_append_aside aside, Holds, carries]
  exact ha.firm n [] (Or.inl bears) x

theorem bears_of_reading {k : Keepalive} (hw : s.worker = .reading n k) :
    s.worker.bears = some (n, []) := by
  rw [hw]
  rfl

theorem WorkerDeed.firm_subscribed (ha : s.Agreed h) (hb : s.Bears n rest)
    (deed : WorkerDeed s [.taken n (.subscribe y)] t)
    (buffer : s.channel.buffer = .subscribe y :: t.channel.buffer)
    (held : t.Holds n rest x ↔ s.Holds n rest x ∨ x = y) :
    (t.prospect (h ++ [.taken n (.subscribe y)]) x).Firm (t.Holds n rest x)
      (Stray (h ++ [.taken n (.subscribe y)]) n x) := by
  refine deed.firm ha hb buffer ?_ ?_
  · intro c hc
    have about : x = y ∧ true = c := by simpa [Command.about] using hc
    exact (iff_true_right (by rw [← about.2])).mpr (held.mpr (Or.inr about.1))
  · intro hc
    have other : x ≠ y := by simpa [Command.about] using hc
    exact held.trans (or_iff_left other)

theorem WorkerDeed.firm_unsubscribed (ha : s.Agreed h) (hb : s.Bears n rest)
    (deed : WorkerDeed s [.taken n (.unsubscribe y)] t)
    (buffer : s.channel.buffer = .unsubscribe y :: t.channel.buffer)
    (held : t.Holds n rest x ↔ s.Holds n rest x ∧ x ≠ y) :
    (t.prospect (h ++ [.taken n (.unsubscribe y)]) x).Firm (t.Holds n rest x)
      (Stray (h ++ [.taken n (.unsubscribe y)]) n x) := by
  refine deed.firm ha hb buffer ?_ ?_
  · intro c hc
    have about : x = y ∧ false = c := by simpa [Command.about] using hc
    rw [← about.2]
    exact (iff_false_right (by simp)).mpr fun hx => (held.mp hx).2 about.1
  · intro hc
    have other : x ≠ y := by simpa [Command.about] using hc
    exact held.trans (and_iff_left other)

theorem holds_subscribed {u : Session} (hi : s.InUse h n (Serving s.profile.access h n))
    (hn : s.nextCommand = some (.subscribe y, u)) :
    (u.onLink n (·.subscribe y)).Holds n [] x ↔ s.Holds n [] x ∨ x = y := by
  rw [Holds, Holds, or_right_comm]
  refine or_congr_left ((carries_subscribe (hi.still (nextCommand_alike hn))).trans ?_)
  exact or_congr_left (carries_command hn)

theorem holds_unsubscribed {u : Session} (hn : s.nextCommand = some (.unsubscribe y, u)) :
    (u.onLink n (·.unsubscribe y)).Holds n [] x ↔ s.Holds n [] x ∧ x ≠ y := by
  simp only [Holds, List.not_mem_nil, or_false]
  exact carries_unsubscribe.trans (and_congr_left fun _ => carries_command hn)

theorem bears_onPauseCommand {attempts wakeAt : Nat} {cmd : Command} {u : Session}
    (hw : s.worker = .waiting attempts wakeAt) (hn : s.nextCommand = some (cmd, u)) :
    (u.onPauseCommand cmd).worker.bears = none := by
  have waits : u.worker.bears = none := by
    rw [nextCommand_worker hn, hw]
    rfl
  cases cmd with
  | close | detach => rfl
  | subscribe y | unsubscribe y => exact waits

theorem WorkerDeed.agreed (hs : s.Conduct h) (hh : s.Heard h) (ha : s.Agreed h)
    (deed : WorkerDeed s es t) : t.Agreed (h ++ es) := by
  refine ⟨fun x => deed.fair (ha.fair x), ?_⟩
  intro n rest hb x
  replace hb := deed.bears hs.orderly hb
  have stands := hs.busy deed.busy
  have calm : ∀ {k : Nat}, s.worker.bears = some (k, []) → t.channel = s.channel →
      (∀ e ∈ es, e.isAside = true) → (t.Carries k x ↔ s.Carries k x) →
      (t.prospect (h ++ es) x).Firm (t.Holds k [] x) (Stray (h ++ es) k x) := deed.firm_calm ha
  cases deed with
  | ponged hw hr _ | consumed hw hr _ | ignored hw hr =>
      cases hb
      exact calm (bears_of_reading hw) (nextArrival_channel hr :) (by simp) (carries_read hr :)
  | routed hw hr _ =>
      cases hb
      exact calm (bears_of_reading hw) (nextArrival_channel hr :) (by simp [Event.isAside]) (carries_read hr :)
  | answered hw hr =>
      cases hb
      refine calm (bears_of_reading hw) (nextArrival_channel hr :) (by simp) (Iff.trans ?_ (carries_read hr))
      exact carries_onLink_of_same (fun _ => rfl) fun _ => rfl
  | pinged hw _ =>
      cases hb
      refine calm (bears_of_reading hw) rfl (by simp) ?_
      exact carries_onLink_of_same (fun _ => rfl) fun _ => rfl
  | pushed hw _ =>
      cases hb
      exact calm (by rw [hw]; rfl) rfl (by simp) Iff.rfl
  | subscribed hw hn =>
      cases hb
      rw [hw] at stands
      exact WorkerDeed.firm_subscribed ha (Or.inl (bears_of_reading hw)) (.subscribed hw hn)
        (nextCommand_buffer hn (by simp) :) (holds_subscribed stands.2 hn)
  | unsubscribed hw hn =>
      cases hb
      exact WorkerDeed.firm_unsubscribed ha (Or.inl (bears_of_reading hw)) (.unsubscribed hw hn)
        (nextCommand_buffer hn (by simp) :) (holds_unsubscribed hn)
  | @attempted attempts a _ u p hw deed =>
      rw [hw] at stands
      have firm : ∀ n rest, a.bears = some (n, rest) →
          ∀ x, (s.prospect h x).Firm (s.Holds n rest x) (Stray h n x) := by
        intro n rest hb
        refine ha.firm n rest (Or.inl ?_)
        rw [hw]
        exact hb
      have unheard : ∀ n, a.link? = some n → ∀ cmd, .taken n cmd ∉ h :=
        fun n hl => hh.unheard n ⟨a, hl, Or.inl ⟨attempts, hw⟩⟩
      cases p with
      | more b => exact deed.firm ha stands firm unheard hb x
      | done n => exact deed.firm ha stands firm unheard hb x
      | failed e =>
          simp only [onProgress] at hb
          split at hb <;> cases hb
  | @stopped _ why _ => cases why <;> cases hb
  | drained hw hn => cases (bears_onPauseCommand hw hn).symm.trans hb
  | _ => cases hb

structure Turned (s t : Session) (c : Call) (stage : Stage) : Prop where
  calls : t.calls = (s.setStage c.id stage).calls
  worker : t.worker = s.worker
  links : t.links = s.links

theorem Turned.carries {stage : Stage} (turned : Turned s t c stage) (n : Nat) (x : Subscription) :
    t.Carries n x ↔ s.Carries n x := by
  rw [Carries, Carries, turned.links]

theorem Turned.bears {stage : Stage} (turned : Turned s t c stage) (hl : s.Locking)
    (hc : c ∈ s.calls) (restores : ∀ a, stage = .attempting a → a.bears = none) (n : Nat)
    (rest : List Subscription) (hb : t.Bears n rest) : s.Bears n rest := by
  rcases hb with hb | ⟨d, hd, a, ha, hb⟩
  · exact Or.inl (turned.worker ▸ hb)
  · rcases (hl.mem_turned hc turned.calls).mp hd with rfl | ⟨hd, _⟩
    · rw [restores a ha] at hb
      cases hb
    · exact Or.inr ⟨d, hd, a, ha, hb⟩

theorem Agreed.quiet {stage : Stage} (ha : s.Agreed h) (hl : s.Locking) (hc : c ∈ s.calls)
    (turned : Turned s t c stage) (before : c.stage.isTelling = false)
    (after : stage.isTelling = false) (restores : ∀ a, stage = .attempting a → a.bears = none)
    (registry : t.registry = s.registry)
    (word : ∀ x, lastWord x t.channel.buffer = lastWord x s.channel.buffer)
    (aside : ∀ e ∈ es, e.isAside = true) : t.Agreed (h ++ es) := by
  obtain ⟨outgoing, observing⟩ := hl.untold hc before after turned.calls
  refine ha.calm ?_ (fun _ _ => stray_append_aside aside) (turned.bears hl hc restores)
    turned.carries
  intro x
  refine prospect_congr (by rw [registry]) (observing x) (abandoned_append_aside aside) ?_
  rw [coming, coming, lastWord_append, lastWord_append, outgoing, word]

theorem Locking.prospect (hl : s.Locking) (hc : c ∈ s.calls)
    (others : ∀ d ∈ s.calls, d.id ≠ c.id → d.stage.isTelling = false) (h : List Event)
    (x : Subscription) :
    s.prospect h x = ⟨s.registry.contains x = true, c.stage = .observing x, Abandoned h x,
      lastWord x (s.channel.buffer ++ c.stage.outgoing.toList)⟩ := by
  obtain ⟨outgoing, observing⟩ := hl.telling hc others
  simp only [Session.prospect, propext (observing x), coming, outgoing]

theorem Turned.prospect {stage : Stage} (turned : Turned s t c stage) (hl : s.Locking)
    (ht : t.Locking) (hc : c ∈ s.calls) (held : c.holdsLock = true) (h : List Event)
    (x : Subscription) :
    t.prospect h x = ⟨t.registry.contains x = true, stage = .observing x, Abandoned h x,
      lastWord x (t.channel.buffer ++ stage.outgoing.toList)⟩ := by
  have mem : ∀ {d}, d ∈ t.calls ↔ d = c.at stage ∨ d ∈ s.calls ∧ d.id ≠ c.id :=
    hl.mem_turned hc turned.calls
  refine ht.prospect (c := c.at stage) (mem.mpr (Or.inl rfl)) ?_ h x
  intro d hd hid
  rcases mem.mp hd with rfl | ⟨hd, hid⟩
  · exact absurd rfl hid
  · exact hl.others hc held d hd hid

theorem Agreed.added (ha : s.Agreed h) (hl : s.Locking) (ht : t.Locking) (hc : c ∈ s.calls)
    (hst : c.stage = .changing (.subscribe x))
    (turned : Turned s t c (.sending (.subscribe x)))
    (registry : t.registry = (s.registry.add x).1) (channel : t.channel = s.channel) :
    t.Agreed (h ++ [.added x]) := by
  have held : c.holdsLock = true := (holdsLock_eq hst).trans rfl
  have before := hl.prospect hc (hl.others hc held) h
  have after := turned.prospect hl ht hc held (h ++ [.added x])
  have now : t.prospect (h ++ [.added x]) x = ⟨True, False, False, some true⟩ := by
    rw [after, registry]
    simp [Registry.contains_add, abandoned_append, Stage.outgoing, lastWord_append,
      lastWord_singleton, Command.about]
  refine ha.change x ?_ ?_ (turned.bears hl hc (by simp)) turned.carries
    (now ▸ Prospect.fair_added) ?_
  · intro y hy
    rw [after, before, registry, channel, hst]
    simp [Registry.contains_add, abandoned_append, Stage.outgoing, lastWord_append,
      lastWord_singleton, Command.about, hy, Ne.symm hy]
  · intro n y hy
    simp [stray_append, Ne.symm hy]
  · intro n rest _
    rw [now]
    exact Prospect.firm_added

theorem Agreed.removed (ha : s.Agreed h) (hl : s.Locking) (ht : t.Locking) (hc : c ∈ s.calls)
    (hst : c.stage = .changing (.unsubscribe x)) (hx : s.registry.contains x = true)
    (turned : Turned s t c (.observing x)) (registry : t.registry = (s.registry.remove x).1)
    (channel : t.channel = s.channel) : t.Agreed (h ++ [.removed x]) := by
  have held : c.holdsLock = true := (holdsLock_eq hst).trans rfl
  have before := hl.prospect hc (hl.others hc held) h
  have after := turned.prospect hl ht hc held (h ++ [.removed x])
  have now : t.prospect (h ++ [.removed x]) x
      = ⟨False, True, (s.prospect h x).abandoned, (s.prospect h x).word⟩ := by
    rw [after, before, registry, channel, hst]
    simp [Registry.contains_remove, abandoned_append, Stage.outgoing]
  refine ha.change x ?_ ?_ (turned.bears hl hc (by simp)) turned.carries ?_ ?_
  · intro y hy
    rw [after, before, registry, channel, hst]
    simp [Registry.contains_remove, abandoned_append, Stage.outgoing, hy, Ne.symm hy]
  · intro n y _
    simp [stray_append]
  · rw [now]
    exact (ha.fair x).removed hx
  · intro n rest _
    rw [now]
    exact (ha.fair x).firm_removed hx

theorem Agreed.noticed (ha : s.Agreed h) (hl : s.Locking) (ht : t.Locking) (hc : c ∈ s.calls)
    (hst : c.stage = .observing x) (turned : Turned s t c (.sending (.unsubscribe x)))
    (registry : t.registry = s.registry) (channel : t.channel = s.channel) :
    t.Agreed (h ++ []) := by
  have held : c.holdsLock = true := (holdsLock_eq hst).trans rfl
  have before := hl.prospect hc (hl.others hc held) h
  have after := turned.prospect hl ht hc held (h ++ [])
  have observed : (s.prospect h x).observed := ⟨c, hc, hst⟩
  have gone : ¬(s.prospect h x).registered := fun hr => ((ha.fair x).registered hr).1 observed
  have kept : ¬(s.prospect h x).abandoned := ((ha.fair x).observed observed).1
  have now : t.prospect (h ++ []) x = ⟨False, False, False, some false⟩ := by
    rw [before] at gone kept
    rw [after, registry]
    simp_all [Stage.outgoing, lastWord_append, lastWord_singleton, Command.about]
  refine ha.change x ?_ ?_ (turned.bears hl hc (by simp)) turned.carries
    (now ▸ Prospect.fair_noticed) ?_
  · intro y hy
    rw [after, before, registry, channel, hst]
    simp [Stage.outgoing, lastWord_append, lastWord_singleton, Command.about, hy, Ne.symm hy]
  · intro n y _
    rw [List.append_nil]
  · intro n rest _
    rw [now]
    exact Prospect.firm_noticed

theorem Conduct.ready_of_bears (hs : s.Conduct h) (hb : s.Bears n rest) : s.phase = .ready := by
  have attempts : ∀ {a : Attempt}, a.Stands s h → a.bears = some (n, rest) → s.phase = .ready := by
    intro a ha hb
    cases a with
    | replaying k later => exact ha.1
    | _ => cases hb
  rcases hb with hb | ⟨c, hc, a, ha, hb⟩
  · have stands : s.worker ≠ .idle → s.worker.Stands s h := hs.busy
    cases hw : s.worker with
    | reading k l =>
        rw [hw] at stands
        exact (stands (by simp)).1
    | pushing k m l =>
        rw [hw] at stands
        exact (stands (by simp)).1
    | attempting k a =>
        rw [hw] at stands hb
        exact attempts (stands (by simp)) hb
    | _ =>
        rw [hw] at hb
        cases hb
  · exact attempts (hs.call c hc a ha) hb

theorem Agreed.skipped (hs : s.Conduct h) (ha : s.Agreed h) (ht : t.Locking) (hc : c ∈ s.calls)
    (hst : c.stage = .observing x) (hp : s.phase ≠ .ready) {answer : Answer}
    (turned : Turned s t c (.over answer)) (registry : t.registry = s.registry)
    (channel : t.channel = s.channel) : t.Agreed (h ++ [.skipped x]) := by
  have hl := hs.orderly.locking
  have held : c.holdsLock = true := (holdsLock_eq hst).trans rfl
  have before := hl.prospect hc (hl.others hc held) h
  have after := turned.prospect hl ht hc held (h ++ [.skipped x])
  have observed : (s.prospect h x).observed := ⟨c, hc, hst⟩
  have gone : ¬(s.prospect h x).registered := fun hr => ((ha.fair x).registered hr).1 observed
  have now : t.prospect (h ++ [.skipped x]) x
      = ⟨False, False, True, (s.prospect h x).word⟩ := by
    rw [before] at gone
    rw [after, before, registry, channel, hst]
    simp_all [abandoned_append, Stage.outgoing]
  refine ha.change x ?_ ?_ (turned.bears hl hc (by simp)) turned.carries ?_ ?_
  · intro y hy
    rw [after, before, registry, channel, hst]
    simp [abandoned_append, Stage.outgoing, Ne.symm hy]
  · intro n y _
    simp [stray_append]
  · rw [now]
    exact (ha.fair x).skipped observed
  · intro n rest hb
    -- a transport that bears the subscriptions would have made the client ready
    exact absurd (hs.ready_of_bears (turned.bears hl hc (by simp) n rest hb)) hp

theorem Agreed.sent {cmd : Command} (ha : s.Agreed h) (hl : s.Locking) (ht : t.Locking)
    (hc : c ∈ s.calls) (hst : c.stage = .sending cmd) {answer : Answer}
    (turned : Turned s t c (.over answer)) (registry : t.registry = s.registry)
    (buffer : t.channel.buffer = s.channel.buffer ++ [cmd]) : t.Agreed (h ++ []) := by
  have held : c.holdsLock = true := (holdsLock_eq hst).trans rfl
  have before := hl.prospect hc (hl.others hc held) h
  have after := turned.prospect hl ht hc held (h ++ [])
  refine ha.calm ?_ ?_ (turned.bears hl hc (by simp)) turned.carries
  · intro x
    rw [after, before, registry, buffer, hst]
    simp [Stage.outgoing]
  · intro n x
    rw [List.append_nil]

theorem Agreed.unsent {cmd : Command} (hs : s.Orderly) (ha : s.Agreed h) (ht : t.Locking)
    (hc : c ∈ s.calls) (hst : c.stage = .sending cmd)
    (hu : s.worker = .idle ∨ s.channel.sender = false) {answer : Answer}
    (turned : Turned s t c (.over answer)) (registry : t.registry = s.registry)
    (channel : t.channel = s.channel) : t.Agreed (h ++ []) := by
  have held : c.holdsLock = true := (holdsLock_eq hst).trans rfl
  have ending : c.stage.ending = false := by
    rw [hst]
    rfl
  have idle := hs.idle_of_unsent hc held ending hu
  have before := hs.locking.prospect hc (hs.locking.others hc held) h
  have after := turned.prospect hs.locking ht hc held (h ++ [])
  have cleared : ∀ x, t.prospect (h ++ []) x = { s.prospect h x with word := none } := by
    intro x
    rw [after, before, registry, channel, hs.emptied idle, hst]
    simp [Stage.outgoing, lastWord]
  refine ⟨fun x => cleared x ▸ (ha.fair x).cleared, ?_⟩
  intro n rest hb
  rcases turned.bears hs.locking hc (by simp) n rest hb with hb | ⟨d, hd, a, hda, _⟩
  · rw [idle] at hb
    cases hb
  · exact absurd hda (hs.not_attempting hc (Or.inl held) (by simp [hst]) d hd a)

theorem Orderly.bears_progress (hs : s.Orderly) (hc : c ∈ s.calls) {a : Attempt}
    (ha : c.stage = .attempting a) {p : Progress} (hb : (s.onCallProgress c p).Bears n rest) :
    p.bears = some (n, rest) := by
  have idle : s.worker = .idle := hs.dialling c hc a ha
  have others : ∀ d ∈ s.calls, d.id ≠ c.id → ∀ b, d.stage ≠ .attempting b := by
    intro d hd hid b hb
    have same := hs.eq_of_attempting hc hd (hs.alone_of_attempting hc ha) hb
    exact hid (congrArg Call.id same).symm
  have turned : ∀ (stage : Stage) {d : Call} {b : Attempt}, d ∈ (s.setStage c.id stage).calls →
      d.stage = .attempting b → stage = .attempting b := by
    intro stage d b hd hb
    rcases (hs.locking.mem_setStage hc).mp hd with rfl | ⟨hd, hid⟩
    · exact hb
    · exact absurd hb (others d hd hid b)
  cases p with
  | more b =>
      rcases hb with hb | ⟨d, hd, b', hb', hb⟩
      · change s.worker.bears = _ at hb
        rw [idle] at hb
        cases hb
      · cases turned _ hd hb'
        exact hb
  | done k =>
      rcases hb with hb | ⟨d, hd, b, hb', _⟩
      · exact hb
      · cases turned (.over .done) hd hb'
  | failed e =>
      simp only [onCallProgress] at hb
      rcases hb with hb | ⟨d, hd, b, hb', _⟩
      · split at hb
        · change s.worker.bears = _ at hb
          rw [idle] at hb
          cases hb
        · change s.worker.bears = _ at hb
          rw [idle] at hb
          cases hb
      · split at hd
        · cases turned (.over (.failed e)) hd hb'
        · cases turned (.over (.failed e)) hd hb'

theorem Orderly.prospect_progress (hs : s.Orderly) (hc : c ∈ s.calls) {a : Attempt}
    (ha : c.stage = .attempting a) (p : Progress) :
    (s.onCallProgress c p).prospect h x = s.prospect h x := by
  have empty : s.channel.buffer = [] := hs.emptied (hs.dialling c hc a ha)
  have quiet : c.stage.isTelling = false := by
    rw [ha]
    rfl
  have kept : ∀ (stage : Stage) {u : Session}, stage.isTelling = false →
      u.calls = (s.setStage c.id stage).calls → u.registry = s.registry →
      u.channel.buffer = [] → u.prospect h x = s.prospect h x := by
    intro stage u after calls registry buffer
    obtain ⟨outgoing, observing⟩ := hs.locking.untold hc quiet after calls
    refine prospect_congr (by rw [registry]) (observing x) Iff.rfl ?_
    rw [coming, coming, outgoing, buffer, empty]
  cases p with
  | more b => exact kept (.attempting b) rfl rfl rfl empty
  | done n => exact kept (.over .done) rfl rfl rfl rfl
  | failed e =>
      simp only [onCallProgress]
      split
      · exact kept (.over (.failed e)) rfl rfl rfl empty
      · exact kept (.over (.failed e)) rfl rfl rfl empty

theorem Agreed.attempted {a : Attempt} {p : Progress} (hs : s.Conduct h) (hh : s.Heard h)
    (ha : s.Agreed h) (hc : c ∈ s.calls) (hst : c.stage = .attempting a)
    (deed : AttemptDeed s a es t p) : (t.onCallProgress c p).Agreed (h ++ es) := by
  have orderly : t.Orderly := hs.orderly.attempt deed
  have hc' : c ∈ t.calls := deed.frame.calls.symm ▸ hc
  have same : ∀ x, (t.onCallProgress c p).prospect (h ++ es) x = s.prospect h x :=
    fun x => (orderly.prospect_progress hc' hst p).trans (deed.prospect x)
  refine ⟨fun x => same x ▸ ha.fair x, ?_⟩
  intro n rest hb x
  have held : (t.onCallProgress c p).Holds n rest x ↔ t.Holds n rest x := by
    rw [Holds, Holds, Carries, Carries, onCallProgress_links]
  have unheard : ∀ n, a.link? = some n → ∀ cmd, .taken n cmd ∉ h :=
    fun n hl => hh.unheard n ⟨a, hl, Or.inr ⟨c, hc, hst⟩⟩
  rw [same, held, ← deed.prospect x]
  refine deed.firm ha (hs.call c hc a hst) ?_ unheard (orderly.bears_progress hc' hst hb) x
  exact fun n rest hb => ha.firm n rest (Or.inr ⟨c, hc, a, hst, hb⟩)

theorem CallDeed.agreed (hs : s.Conduct h) (hh : s.Heard h) (ha : s.Agreed h) (ht : t.Locking)
    (hc : c ∈ s.calls) (deed : CallDeed s c es t) : t.Agreed (h ++ es) := by
  have hl := hs.orderly.locking
  have quiet : ∀ {before after : Stage}, c.stage = before → before.isTelling = false →
      after.isTelling = false → (∀ a, after = .attempting a → a.bears = none) →
      Turned s t c after → t.registry = s.registry → t.channel.buffer = s.channel.buffer →
      (∀ e ∈ es, e.isAside = true) → t.Agreed (h ++ es) := by
    intro before after hst hb hat restores turned registry buffer aside
    subst hst
    exact ha.quiet hl hc turned hb hat restores registry (fun x => by rw [buffer]) aside
  cases deed with
  | declined hst => exact quiet hst rfl rfl (by simp) ⟨rfl, rfl, rfl⟩ rfl rfl (by simp)
  | asked hst => exact quiet hst rfl rfl (by simp) ⟨rfl, rfl, rfl⟩ rfl rfl (by simp)
  | shut hst =>
      exact quiet hst rfl rfl (by simp) ⟨rfl, rfl, rfl⟩ rfl rfl (by simp [Event.isAside])
  | begun hst =>
      exact quiet hst rfl rfl (by rintro _ ⟨⟩; rfl) ⟨rfl, rfl, rfl⟩ rfl rfl (by simp)
  | received hst =>
      exact quiet hst rfl rfl (by simp) ⟨rfl, rfl, rfl⟩ rfl rfl (by simp [Event.isAside])
  | discarded hst => exact quiet hst rfl rfl (by simp) ⟨rfl, rfl, rfl⟩ rfl rfl (by simp)
  | locked hst => exact quiet hst rfl rfl (by simp) ⟨rfl, rfl, rfl⟩ rfl rfl (by simp)
  | added hst => exact ha.added hl ht hc hst ⟨rfl, rfl, rfl⟩ rfl rfl
  | removed hst hx => exact ha.removed hl ht hc hst hx ⟨rfl, rfl, rfl⟩ rfl rfl
  | unchanged hst | replacing hst | closing hst =>
      exact quiet hst rfl rfl (by simp) ⟨rfl, rfl, rfl⟩ rfl rfl (by simp)
  | noticed hst => exact ha.noticed hl ht hc hst ⟨rfl, rfl, rfl⟩ rfl rfl
  | skipped hst hp => exact ha.skipped hs ht hc hst hp ⟨rfl, rfl, rfl⟩ rfl rfl
  | unsent hst hu => exact ha.unsent hs.orderly ht hc hst hu ⟨rfl, rfl, rfl⟩ rfl rfl
  | sent hst => exact ha.sent hl ht hc hst ⟨rfl, rfl, rfl⟩ rfl rfl
  | handing hst | unled hst | unheard hst =>
      exact quiet hst rfl rfl (by simp) ⟨rfl, rfl, rfl⟩ rfl rfl (by simp)
  | @handed cmd hst =>
      have last : ∀ x, cmd.about x = none := hh.parting c hc cmd (by rw [hst]; rfl)
      have before : c.stage.isTelling = false := by
        rw [hst]
        rfl
      have turned : Turned s ((s.send cmd).setStage c.id (.joining cmd (s.now + stopTimeout))) c
          (.joining cmd (s.now + stopTimeout)) := ⟨rfl, rfl, rfl⟩
      refine ha.quiet hl hc turned before rfl (by simp) rfl ?_ (by simp)
      intro x
      change lastWord x (s.channel.buffer ++ [cmd]) = _
      rw [lastWord_append, lastWord_singleton, last, Option.none_or]
  | redialled hst =>
      exact quiet hst rfl rfl (by rintro _ ⟨⟩; rfl) ⟨rfl, rfl, rfl⟩ rfl rfl
        (by simp [Event.isAside])
  | ended hst =>
      refine quiet hst rfl rfl (by simp) ⟨rfl, rfl, rfl⟩ rfl rfl ?_
      split <;> simp [Event.isAside]
  | attempted hst deed => exact ha.attempted hs hh hc hst deed

theorem Orderly.unborne (hs : s.Orderly) (busy : s.worker ≠ .idle) :
    ¬s.abortWorker.Bears n rest := by
  rintro (hb | ⟨c, hc, a, ha, _⟩)
  · cases hb
  · exact busy (hs.dialling c hc a ha)

theorem Agreed.aborted (hs : s.Agreed h) (ho : s.Orderly) (busy : s.worker ≠ .idle) :
    s.abortWorker.Agreed (h ++ []) := by
  refine ⟨fun x => ?_, fun n rest hb => absurd hb (ho.unborne busy)⟩
  have word : (s.prospect h x).word
      = (lastWord x s.abortWorker.coming).or (lastWord x s.channel.buffer) :=
    lastWord_append s.channel.buffer s.outgoing
  have heard := (hs.fair x).heard word
  rw [List.append_nil]
  exact heard

theorem Agreed.step {m : Move} (hs : s.Conduct h) (hh : s.Heard h) (ha : s.Agreed h)
    (ht : s.step m = some t) : t.Agreed (h ++ s.events m) := by
  have hl := hs.orderly.locking
  have locking : t.Locking := hl.step ht
  have deed : Deed s m (s.events m) t := step_deed ht
  generalize s.events m = es at deed ⊢
  have stray : ∀ n x, Stray (h ++ []) n x ↔ Stray h n x := by simp
  cases deed with
  | elapsed =>
      refine ha.calm ?_ stray (fun _ _ => id) fun _ _ => Iff.rfl
      exact fun x => prospect_congr rfl Iff.rfl (by simp) rfl
  | invoked =>
      refine ha.calm ?_ stray ?_ fun _ _ => Iff.rfl
      · intro x
        refine prospect_congr rfl ?_ (by simp) ?_
        · simp
        · simp [coming, outgoing, Stage.outgoing]
      · rintro n rest (hb | ⟨c, hc, a, hca, hb⟩)
        · exact Or.inl hb
        · rcases List.mem_append.mp hc with hc | hc
          · exact Or.inr ⟨c, hc, a, hca, hb⟩
          · rw [List.mem_singleton.mp hc] at hca
            cases hca
  | abandoned hc _ hb =>
      rename_i c _
      have before : c.stage.isTelling = false := by
        rw [hb]
        rfl
      have turned : Turned s _ c (.over .done) := ⟨rfl, rfl, rfl⟩
      exact ha.quiet hl hc turned before rfl (by simp) rfl (fun _ => rfl) (by simp)
  | called hc deed => exact deed.agreed hs hh ha locking hc
  | cutOff _ _ _ busy => exact ha.aborted hs.orderly busy
  | worked deed => exact deed.agreed hs hh ha
  | answered =>
      refine ha.calm ?_ stray (fun _ _ => id) ?_
      · exact fun x => prospect_congr rfl Iff.rfl (by simp) rfl
      · exact fun _ _ => carries_onLink_of_same (fun _ => rfl) fun _ => rfl
  | arrived =>
      refine ha.calm ?_ stray (fun _ _ => id) ?_
      · exact fun x => prospect_congr rfl Iff.rfl (by simp) rfl
      · exact fun _ _ => carries_onLink_of_same (fun _ => rfl) fun _ => rfl

theorem Run.agreed {p : Profile} {seconds : List Int} {draws : List Float} {ms : List Move}
    (run : Run (initial p seconds draws) ms t) :
    t.Agreed ((initial p seconds draws).chronicle ms) := by
  have all := Run.keeps (I := fun s h => s.Conduct h ∧ s.Heard h ∧ s.Agreed h) (h := [])
    (fun hi hs => ⟨hi.1.step hs, hi.2.1.step hi.1 hs, hi.2.2.step hi.1 hi.2.1 hs⟩) run
    ⟨conduct_initial p seconds draws, heard_initial p seconds draws, agreed_initial p seconds draws⟩
  exact all.2.2

end Session

end MarketWire.Stream
