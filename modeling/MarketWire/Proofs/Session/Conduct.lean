import MarketWire.Proofs.Session.Standing

namespace MarketWire.Stream

open Channel (Subscription)

namespace Session

variable {s t : Session} {c : Call} {h : List Event}

theorem subscribe_number (l : Link) (x : Subscription) : (l.subscribe x).number = l.number := by
  simp only [Link.subscribe]
  split <;> rfl

theorem subscribe_live (l : Link) (x : Subscription) : (l.subscribe x).live = l.live := by
  simp only [Link.subscribe]
  split <;> rfl

theorem subscribe_of_not_mem {l : Link} {x : Subscription} (hx : x ∉ l.carried) :
    (l.subscribe x).written = l.written ++ [.subscribeTo x] ∧
      (l.subscribe x).carried = l.carried ++ [x] := by
  have added : l.subscribe x =
      { l.write (.request (.subscribe [x])) with carried := l.carried ++ [x] } := if_neg hx
  rw [added]
  exact ⟨rfl, rfl⟩

theorem subscribe_of_mem {l : Link} {x : Subscription} (hx : x ∈ l.carried) : l.subscribe x = l :=
  if_pos hx

theorem login_eq (s : Session) (n : Nat) (c : Credentials) :
    s.login n c =
      (({ s with clock := s.clock.draw.2 }.withPhase .authenticating).write n
          (.request (.login (Signature.Login.signed c s.clock.draw.1))),
        .more (.loggingIn n (s.now + s.settings.loginTimeout))) := rfl

theorem Booked.opened (hb : s.Booked h) {access : Access} {n : Nat} {login : List Frame}
    (hl : IsLogin access login) (welcomed : access.isPrivate = true → .loggedIn n ∈ h)
    (first : n = 1 → s.registry = .empty) :
    Opened access (h ++ [.listed n s.registry.all]) n login s.registry.all where
  login := hl
  welcomed hp := List.mem_append_left _ (welcomed hp)
  listed := ⟨h, [], rfl, hb.listed, hb.tidy.nodup_all⟩
  first e := by
    rw [first e]
    rfl

theorem InUse.failAttempt {n : Nat} {P : List Frame → List Subscription → Prop}
    (hi : s.InUse h n P) (hP : ∀ {fs carried}, P fs carried → Disciplined s.profile.access h n fs)
    {e e' : StreamError} {es : List Event} :
    (Progress.failed e').Stands (s.failAttempt n e).1 (h ++ es) :=
  ⟨rfl, (hi.drop hP).alike ⟨rfl, rfl⟩ rfl⟩

theorem AttemptDeed.stands {a : Attempt} {es : List Event} {p : Progress}
    (booked : s.Booked h) (unopened : s.opened = false → s.registry = .empty)
    (ha : a.Stands s h) (deed : AttemptDeed s a es t p) : p.Stands t (h ++ es) := by
  cases deed with
  | undialled =>
      obtain ⟨_, hd⟩ := ha
      exact ⟨rfl, hd.alike ⟨rfl, rfl⟩ rfl⟩
  | dialled address =>
      obtain ⟨hp, hd⟩ := ha
      refine ⟨hp, ?_, ?_⟩
      · intro e
        cases ho : s.opened with
        | false => rfl
        | true =>
            have := hd.linked ho
            have none : s.links.length = 0 := by omega
            exact absurd (List.length_eq_zero_iff.mp none) this
      · rw [List.append_nil]
        exact hd.dial address _ rfl rfl
  | admitted hacc =>
      obtain ⟨_, hf, hi⟩ := ha
      refine ⟨rfl, hf, ?_, ?_⟩
      · intro hp
        rw [show (s.withPhase .ready).profile.access = s.profile.access from rfl, hacc] at hp
        cases hp
      · refine hi.alike ⟨rfl, rfl⟩ ?_
        rintro fs carried ⟨rfl, rfl⟩
        refine ⟨upright_nil, rfl, ?_⟩
        rw [show (s.withPhase .ready).profile.access = s.profile.access from rfl, hacc]
        rfl
  | signed hacc =>
      obtain ⟨_, hf, hi⟩ := ha
      rw [login_eq]
      refine ⟨rfl, hf, ?_⟩
      refine (hi.alike ⟨rfl, rfl⟩ id).onLink (fun _ => rfl) (fun _ => rfl) ?_
      exact fun l hl => hl.greeted hacc _
  | refused =>
      obtain ⟨_, _, hi⟩ := ha
      exact hi.failAttempt Untouched.disciplined
  | welcomed hr _ =>
      obtain ⟨_, hf, hi⟩ := ha
      obtain ⟨rest, rfl⟩ := nextArrival_eq hr
      refine ⟨rfl, hf, fun _ => by simp, ?_⟩
      exact hi.alike ((nextArrival_alike hr).trans ⟨rfl, rfl⟩) id
  | ponged hr =>
      obtain ⟨hp, hf, hi⟩ := ha
      obtain ⟨rest, rfl⟩ := nextArrival_eq hr
      refine ⟨hp, hf, ?_⟩
      refine (hi.alike (nextArrival_alike hr) id).onLink (fun _ => rfl) (fun _ => rfl) ?_
      exact fun l hg => hg.pong _
  | ignored hr =>
      obtain ⟨hp, hf, hi⟩ := ha
      obtain ⟨rest, rfl⟩ := nextArrival_eq hr
      exact ⟨hp, hf, hi.alike (nextArrival_alike hr) id⟩
  | rejected hr =>
      obtain ⟨_, _, hi⟩ := ha
      obtain ⟨rest, rfl⟩ := nextArrival_eq hr
      exact (hi.still (nextArrival_alike hr)).failAttempt Greeted.disciplined
  | unanswered =>
      obtain ⟨_, _, hi⟩ := ha
      exact hi.failAttempt Greeted.disciplined
  | listed =>
      obtain ⟨hp, hf, hw, hi⟩ := ha
      refine ⟨hp, hi.alike ⟨rfl, rfl⟩ fun hg => ?_⟩
      exact hg.listed (booked.opened hg.login hw fun e => unopened (hf e))
  | replayed hp =>
      obtain ⟨_, hi⟩ := ha
      refine ⟨hp, (hi.alike (.refl s) fun hr => hr.mono []).onLink ?_ ?_ ?_⟩
      · exact fun l => subscribe_number l _
      · exact fun l => subscribe_live l _
      · intro l hr
        obtain ⟨written, carried⟩ := subscribe_of_not_mem hr.fresh
        rw [written, carried]
        exact hr.subscribe
  | unready hp => exact absurd ha.1 hp
  | replayEnded =>
      obtain ⟨hp, hi⟩ := ha
      exact ⟨hp, hi.alike (.refl s) fun hr => hr.done.mono []⟩

theorem onProgress_stands {p : Progress} (hp : p.Stands s h) (attempts : Nat) :
    (s.onProgress attempts p).worker.Stands (s.onProgress attempts p) h := by
  cases p with
  | more a => exact Attempt.Stands.still hp ⟨⟨rfl, rfl⟩, rfl, rfl⟩
  | done n => exact hp
  | failed e =>
      simp only [Session.onProgress]
      split
      · exact hp.2.still ⟨rfl, rfl⟩ rfl
      · exact ⟨hp.1, hp.2.still ⟨rfl, rfl⟩ rfl⟩

theorem InUse.beginStop {n : Nat} (hi : s.InUse h n (Serving s.profile.access h n))
    (why : Farewell) :
    (s.beginStop n why).worker.Stands (s.beginStop n why) h := by
  refine ⟨rfl, ?_⟩
  have moved : (s.withPhase .closing).InUse h n (Serving s.profile.access h n) :=
    hi.still ⟨rfl, rfl⟩
  have ended : ((s.withPhase .closing).write n Link.farewell).InUse h n
      fun fs _ => Disciplined s.profile.access h n fs :=
    moved.onLink (fun _ => rfl) (fun _ => rfl) fun l hs => hs.upright.farewell hs.script
  exact ended

theorem InUse.failLink {n : Nat} (hi : s.InUse h n (Serving s.profile.access h n))
    (e : StreamError) : (s.failLink n e).worker.Stands (s.failLink n e) h :=
  ⟨rfl, (hi.drop Serving.disciplined).still ⟨rfl, rfl⟩ rfl⟩

theorem InUse.subscribe {n : Nat} (hi : s.InUse h n (Serving s.profile.access h n))
    (x : Subscription) :
    (s.onLink n (·.subscribe x)).InUse h n (Serving s.profile.access h n) := by
  refine hi.onLink (fun l => subscribe_number l x) (fun l => subscribe_live l x) ?_
  intro l hs
  by_cases hx : x ∈ l.carried
  · rw [subscribe_of_mem hx]
    exact hs
  · obtain ⟨written, carried⟩ := subscribe_of_not_mem hx
    rw [written, carried]
    exact hs.subscribe hx

theorem InUse.unsubscribe {n : Nat} (hi : s.InUse h n (Serving s.profile.access h n))
    (x : Subscription) :
    (s.onLink n (·.unsubscribe x)).InUse h n (Serving s.profile.access h n) :=
  hi.onLink (fun _ => rfl) (fun _ => rfl) fun _ hs => hs.unsubscribe

theorem InUse.reading {n : Nat} {k : Keepalive} {es : List Event}
    (hi : s.InUse h n (Serving s.profile.access h n)) (hp : s.phase = .ready) (same : Alike s t)
    (phase : t.phase = s.phase) : (Worker.reading n k).Stands t (h ++ es) := by
  refine ⟨phase.trans hp, hi.alike same fun hs => ?_⟩
  rw [same.profile]
  exact hs.mono es

theorem InUse.pushing {n : Nat} {m : Message} {k : Keepalive} {es : List Event}
    (hi : s.InUse h n (Serving s.profile.access h n)) (hp : s.phase = .ready) (same : Alike s t)
    (phase : t.phase = s.phase) : (Worker.pushing n m k).Stands t (h ++ es) :=
  hi.reading (k := k) hp same phase

theorem InUse.pong {n : Nat} {payload : String}
    (hi : s.InUse h n (Serving s.profile.access h n)) :
    (s.write n (.pong payload)).InUse h n (Serving s.profile.access h n) :=
  hi.onLink (fun _ => rfl) (fun _ => rfl) fun _ hs => hs.pong _

theorem InUse.ping {n : Nat} (hi : s.InUse h n (Serving s.profile.access h n)) :
    (s.write n .ping).InUse h n (Serving s.profile.access h n) :=
  hi.onLink (fun _ => rfl) (fun _ => rfl) fun _ hs => hs.ping

theorem InUse.commanded {n : Nat} {cmd : Command} {s' : Session} {es : List Event}
    (hi : s.InUse h n (Serving s.profile.access h n)) (hn : s.nextCommand = some (cmd, s')) :
    s'.InUse (h ++ es) n (Serving s'.profile.access (h ++ es) n) := by
  rw [(nextCommand_alike hn).profile]
  exact hi.alike (nextCommand_alike hn) fun hs => hs.mono es

theorem InUse.endStop {n : Nat} (hi : s.InUse h n fun fs _ => Disciplined s.profile.access h n fs)
    (why : Farewell) : (s.endStop n why).worker.Stands (s.endStop n why) h := by
  have down : (s.dropLink n).Down h := hi.drop id
  cases why with
  | closed => exact down.still ⟨rfl, rfl⟩ rfl
  | detached => exact down.still ⟨rfl, rfl⟩ rfl

theorem Down.onPauseCommand {attempts wakeAt : Nat} {cmd : Command} {s' : Session}
    (hd : s.Down h) (hp : s.phase = .disconnected) (hw : s.worker = .waiting attempts wakeAt)
    (hn : s.nextCommand = some (cmd, s')) :
    (s'.onPauseCommand cmd).worker.Stands (s'.onPauseCommand cmd) h := by
  have down : s'.Down h := hd.still (nextCommand_alike hn) (nextCommand_frame hn).opened
  have waiting : s'.worker.Stands s' h := by
    rw [nextCommand_worker hn, hw]
    exact ⟨(nextCommand_phase hn).trans hp, down⟩
  cases cmd with
  | close => exact down.still ⟨rfl, rfl⟩ rfl
  | detach => exact down.still ⟨rfl, rfl⟩ rfl
  | subscribe x => exact waiting
  | unsubscribe x => exact waiting

theorem WorkerDeed.stands {es : List Event} (booked : s.Booked h)
    (unopened : s.opened = false → s.registry = .empty) (hw : s.worker.Stands s h)
    (deed : WorkerDeed s es t) : t.worker.Stands t (h ++ es) := by
  cases deed with
  | ponged hs hr _ | consumed hs hr _ | ignored hs hr =>
      rw [hs] at hw
      obtain ⟨rest, rfl⟩ := nextArrival_eq hr
      exact hw.2.reading hw.1 ((nextArrival_alike hr).trans ⟨rfl, rfl⟩) rfl
  | routed hs hr _ =>
      rw [hs] at hw
      obtain ⟨rest, rfl⟩ := nextArrival_eq hr
      exact hw.2.pushing hw.1 ((nextArrival_alike hr).trans ⟨rfl, rfl⟩) rfl
  | answered hs hr =>
      rw [hs] at hw
      obtain ⟨rest, rfl⟩ := nextArrival_eq hr
      rw [List.append_nil]
      exact ⟨hw.1, (hw.2.still (nextArrival_alike hr)).pong⟩
  | lost hs hr =>
      rw [hs] at hw
      obtain ⟨rest, rfl⟩ := nextArrival_eq hr
      rw [List.append_nil]
      exact (hw.2.still (nextArrival_alike hr)).failLink _
  | overdue hs =>
      rw [hs] at hw
      rw [List.append_nil]
      exact hw.2.failLink _
  | pinged hs _ =>
      rw [hs] at hw
      rw [List.append_nil]
      exact ⟨hw.1, hw.2.ping⟩
  | subscribed hs hn =>
      rw [hs] at hw
      have phase := (nextCommand_phase hn).trans hw.1
      exact ⟨phase, (hw.2.commanded hn).subscribe _⟩
  | unsubscribed hs hn =>
      rw [hs] at hw
      have phase := (nextCommand_phase hn).trans hw.1
      exact ⟨phase, (hw.2.commanded hn).unsubscribe _⟩
  | unready hs hn hp =>
      rw [hs] at hw
      exact absurd hw.1 hp
  | told hs hn _ =>
      rw [hs] at hw
      exact (hw.2.commanded hn).beginStop _
  | pushed hs _ =>
      rw [hs] at hw
      exact hw.2.reading hw.1 ⟨rfl, rfl⟩ rfl
  | barred hs _ =>
      rw [hs] at hw
      rw [List.append_nil]
      exact hw.2.beginStop _
  | stopped hs =>
      rw [hs] at hw
      rw [List.append_nil]
      exact hw.2.endStop _
  | paused hs | redialled hs =>
      rw [hs] at hw
      exact ⟨rfl, hw.2.alike ⟨rfl, rfl⟩ rfl⟩
  | gaveUp hs =>
      rw [hs] at hw
      exact hw.2.alike ⟨rfl, rfl⟩ rfl
  | drained hs hn =>
      rw [hs] at hw
      rw [List.append_nil]
      exact hw.2.onPauseCommand hw.1 hs hn
  | attempted hs deed =>
      rw [hs] at hw
      exact onProgress_stands (deed.stands booked unopened hw) _

structure Conduct (s : Session) (h : List Event) : Prop where
  orderly : s.Orderly
  booked : s.Booked h
  call : ∀ c ∈ s.calls, ∀ a, c.stage = .attempting a → a.Stands s h
  worker : (∀ c ∈ s.calls, ∀ a, c.stage ≠ .attempting a) → s.worker.Stands s h

theorem conduct_initial (p : Profile) (seconds : List Int) (draws : List Float) :
    (initial p seconds draws).Conduct [] where
  orderly := orderly_initial p seconds draws
  booked := booked_initial p seconds draws
  call _ hc := absurd hc List.not_mem_nil
  worker _ := ⟨rfl, fun h => (by cases h), fun _ hl => absurd hl List.not_mem_nil⟩

theorem Conduct.busy (hs : s.Conduct h) (hw : s.worker ≠ .idle) : s.worker.Stands s h :=
  hs.worker fun c hc a ha => hw (hs.orderly.dialling c hc a ha)

theorem Conduct.unopened (hs : s.Conduct h) (ho : s.opened = false) : s.registry = .empty :=
  (hs.orderly.unopened ho).2.1

theorem Conduct.turn {es : List Event} (hs : s.Conduct h) (hc : c ∈ s.calls) {stage : Stage}
    (orderly : t.Orderly) (booked : t.Booked (h ++ es))
    (calls : t.calls = (s.setStage c.id stage).calls) (worker : t.worker = s.worker)
    (beside : s.Beside t) (before : ∀ a, c.stage ≠ .attempting a)
    (after : ∀ a, stage ≠ .attempting a) : t.Conduct (h ++ es) := by
  have mem : ∀ {d}, d ∈ t.calls ↔ d = c.at stage ∨ d ∈ s.calls ∧ d.id ≠ c.id :=
    hs.orderly.locking.mem_turned hc calls
  refine ⟨orderly, booked, ?_, ?_⟩
  · intro d hd a ha
    rcases mem.mp hd with rfl | ⟨hd, _⟩
    · exact absurd ha (after a)
    · exact (hs.call d hd a ha).beside beside
  · intro none
    rw [worker]
    refine (hs.worker ?_).beside beside
    intro d hd a ha
    by_cases hid : d.id = c.id
    · exact before a (hs.orderly.locking.eq_of_id hd hc hid ▸ ha)
    · exact none d (mem.mpr (Or.inr ⟨hd, hid⟩)) a ha

theorem Conduct.down (hs : s.Conduct h) (hc : c ∈ s.calls)
    (alone : c.holdsLock = true ∨ s.opened = false) (before : ∀ a, c.stage ≠ .attempting a)
    (idle : s.worker = .idle) : s.Down h := by
  have stands := hs.worker (hs.orderly.not_attempting hc alone before)
  rw [idle] at stands
  exact stands

theorem Orderly.drive {h : List Event} (before : s.Orderly) (hc : c ∈ s.calls) (stage : Stage)
    (orderly : t.Orderly) (booked : t.Booked h) (calls : t.calls = (s.setStage c.id stage).calls)
    (others : ∀ d ∈ s.calls, d.id ≠ c.id → ∀ a, d.stage ≠ .attempting a)
    (call : ∀ a, stage = .attempting a → a.Stands t h)
    (worker : (∀ a, stage ≠ .attempting a) → t.worker.Stands t h) : t.Conduct h := by
  have mem : ∀ {d}, d ∈ t.calls ↔ d = c.at stage ∨ d ∈ s.calls ∧ d.id ≠ c.id :=
    before.locking.mem_turned hc calls
  refine ⟨orderly, booked, ?_, ?_⟩
  · intro d hd a ha
    rcases mem.mp hd with rfl | ⟨hd, hid⟩
    · exact call a ha
    · exact absurd ha (others d hd hid a)
  · intro none
    exact worker (none (c.at stage) (mem.mpr (Or.inl rfl)))

theorem Orderly.attempted {h : List Event} {p : Progress} (before : s.Orderly) (hc : c ∈ s.calls)
    {a : Attempt} (ha : c.stage = .attempting a) (orderly : (s.onCallProgress c p).Orderly)
    (booked : (s.onCallProgress c p).Booked h) (hp : p.Stands s h) :
    (s.onCallProgress c p).Conduct h := by
  have others : ∀ d ∈ s.calls, d.id ≠ c.id → ∀ b, d.stage ≠ .attempting b := by
    intro d hd hid b hb
    have same := before.eq_of_attempting hc hd (before.alone_of_attempting hc ha) hb
    exact hid (congrArg Call.id same).symm
  have idle : s.worker = .idle := before.dialling c hc a ha
  cases p with
  | more b =>
      refine before.drive hc (.attempting b) orderly booked rfl others ?_ ?_
      · rintro b' e
        cases e
        exact Attempt.Stands.still hp ⟨⟨rfl, rfl⟩, rfl, rfl⟩
      · intro none
        exact absurd rfl (none b)
  | done n =>
      exact before.drive hc (.over .done) orderly booked rfl others (fun _ e => by cases e)
        fun _ => hp
  | failed e =>
      have down : ∀ {u : Session}, u.worker = .idle → Alike s u → u.opened = s.opened →
          u.worker.Stands u h := by
        intro u hu same opened
        rw [hu]
        exact hp.2.still same opened
      have calls : (s.onCallProgress c (.failed e)).calls
          = (s.setStage c.id (.over (.failed e))).calls := by
        simp only [onCallProgress]
        split <;> rfl
      refine before.drive hc (.over (.failed e)) orderly booked calls others (fun _ e => by cases e) fun _ => ?_
      simp only [onCallProgress]
      split
      · exact down idle ⟨rfl, rfl⟩ rfl
      · exact down idle ⟨rfl, rfl⟩ rfl

theorem Conduct.calling (hs : s.Conduct h) (hc : c ∈ s.calls) {es : List Event}
    (orderly : t.Orderly) (booked : t.Booked (h ++ es)) (deed : CallDeed s c es t) :
    t.Conduct (h ++ es) := by
  have calm : ∀ {before after : Stage}, c.stage = before → (∀ a, before ≠ .attempting a) →
      (∀ a, after ≠ .attempting a) → t.calls = (s.setStage c.id after).calls →
      t.worker = s.worker → t.links = s.links → t.profile = s.profile → t.phase = s.phase →
      t.opened = s.opened → t.Conduct (h ++ es) := by
    intro before after hst hb ha calls worker links profile phase opened
    subst hst
    exact hs.turn hc orderly booked calls worker ⟨⟨profile, by rw [links]⟩, phase, opened⟩ hb ha
  cases deed with
  | declined hst | asked hst | shut hst =>
      exact calm hst (by simp) (by simp) rfl rfl rfl rfl rfl rfl
  | begun hst ha =>
      have ho : s.opened = false := hs.orderly.unopened_of_connect hc ha (by simp [hst])
      have idle : s.worker = .idle := (hs.orderly.unopened ho).1
      have quiet : ∀ a, c.stage ≠ .attempting a := by simp [hst]
      have none := hs.orderly.not_attempting hc (Or.inr ho) quiet
      refine hs.orderly.drive hc (.attempting .starting) orderly booked rfl (fun d hd _ => none d hd)
        ?_ (fun e => absurd rfl (e .starting))
      rintro a ⟨⟩
      exact ⟨rfl, (hs.down hc (Or.inr ho) quiet idle).alike ⟨rfl, rfl⟩ rfl⟩
  | received hst | discarded hst | locked hst | added hst | removed hst | unchanged hst
  | replacing hst | closing hst | noticed hst | skipped hst | unsent hst | sent hst | handing hst
  | unled hst | unheard hst | handed hst =>
      exact calm hst (by simp) (by simp) rfl rfl rfl rfl rfl rfl
  | redialled hst idle =>
      have held : c.holdsLock = true := (holdsLock_eq hst).trans rfl
      have quiet : ∀ a, c.stage ≠ .attempting a := by simp [hst]
      have none := hs.orderly.not_attempting hc (Or.inl held) quiet
      refine hs.orderly.drive hc (.attempting .starting) orderly booked rfl (fun d hd _ => none d hd)
        ?_ (fun e => absurd rfl (e .starting))
      rintro a ⟨⟩
      exact ⟨rfl, (hs.down hc (Or.inl held) quiet idle).alike ⟨rfl, rfl⟩ rfl⟩
  | ended hst _ idle =>
      have held : c.holdsLock = true := (holdsLock_eq hst).trans rfl
      have quiet : ∀ a, c.stage ≠ .attempting a := by simp [hst]
      have none := hs.orderly.not_attempting hc (Or.inl held) quiet
      refine hs.orderly.drive hc (.over .done) orderly booked rfl (fun d hd _ => none d hd)
        (fun _ e => by cases e) fun _ => ?_
      change s.worker.Stands _ _
      rw [idle]
      exact (hs.down hc (Or.inl held) quiet idle).alike ⟨rfl, rfl⟩ rfl
  | attempted hst deed =>
      have stands := deed.stands hs.booked hs.unopened (hs.call c hc _ hst)
      have hc' : c ∈ _ := deed.frame.calls.symm ▸ hc
      exact (hs.orderly.attempt deed).attempted hc' hst orderly booked stands

theorem Conduct.invoke {a : Action} {es : List Event} (hs : s.Conduct h) (orderly : t.Orderly)
    (booked : t.Booked (h ++ es)) (calls : t.calls = s.calls ++ [⟨s.calls.length, a, .begun⟩])
    (worker : t.worker = s.worker) (beside : s.Beside t) : t.Conduct (h ++ es) := by
  refine ⟨orderly, booked, ?_, ?_⟩
  · intro d hd b hb
    rcases List.mem_append.mp (calls ▸ hd) with hd | hd
    · exact (hs.call d hd b hb).beside beside
    · rw [List.mem_singleton.mp hd] at hb
      cases hb
  · intro none
    rw [worker]
    refine (hs.worker fun d hd => none d ?_).beside beside
    rw [calls]
    exact List.mem_append_left _ hd

theorem Conduct.beside {es : List Event} (hs : s.Conduct h) (orderly : t.Orderly)
    (booked : t.Booked (h ++ es)) (calls : t.calls = s.calls) (worker : t.worker = s.worker)
    (beside : s.Beside t) : t.Conduct (h ++ es) := by
  refine ⟨orderly, booked, ?_, ?_⟩
  · rw [calls]
    exact fun d hd a ha => (hs.call d hd a ha).beside beside
  · rw [calls, worker]
    exact fun none => (hs.worker none).beside beside

theorem Conduct.step (hs : s.Conduct h) {m : Move} (hm : s.step m = some t) :
    t.Conduct (h ++ s.events m) := by
  have orderly : t.Orderly := hs.orderly.step hm
  have booked : t.Booked (h ++ s.events m) := hs.booked.step hm
  have deed : Deed s m (s.events m) t := step_deed hm
  generalize s.events m = es at booked deed ⊢
  cases deed with
  | elapsed => exact hs.beside orderly booked rfl rfl ⟨⟨rfl, rfl⟩, rfl, rfl⟩
  | invoked => exact hs.invoke orderly booked rfl rfl ⟨⟨rfl, rfl⟩, rfl, rfl⟩
  | abandoned hc _ hb =>
      exact hs.turn hc orderly booked rfl rfl ⟨⟨rfl, rfl⟩, rfl, rfl⟩ (by simp [hb]) (by simp)
  | called hc deed => exact hs.calling hc orderly booked deed
  | cutOff _ _ _ busy =>
      refine ⟨orderly, booked, ?_, fun _ => (hs.busy busy).aborted.alike ⟨rfl, rfl⟩ rfl⟩
      exact fun c hc a ha => absurd (hs.orderly.dialling c hc a ha) busy
  | worked deed =>
      have busy : s.worker.Stands s h := hs.busy deed.busy
      have stands := deed.stands hs.booked hs.unopened busy
      refine ⟨orderly, booked, ?_, fun _ => stands⟩
      intro c hc a ha
      have idle := hs.orderly.dialling c (deed.frame.calls ▸ hc) a ha
      exact absurd idle deed.busy
  | answered => exact hs.beside orderly booked rfl rfl ⟨alike_onLink s _ fun _ => rfl, rfl, rfl⟩
  | arrived => exact hs.beside orderly booked rfl rfl ⟨alike_onLink s _ fun _ => rfl, rfl, rfl⟩

theorem Run.conduct {p : Profile} {seconds : List Int} {draws : List Float} {ms : List Move}
    (run : Run (initial p seconds draws) ms t) :
    t.Conduct ((initial p seconds draws).chronicle ms) :=
  Run.keeps (I := Conduct) (h := []) (fun hi hs => hi.step hs) run (conduct_initial p seconds draws)

theorem Down.disciplined (hd : s.Down h) :
    ∀ l ∈ s.links, Disciplined s.profile.access h l.number l.written :=
  fun l hl => (hd.past l hl).2

theorem InUse.disciplined {n : Nat}
    (hi : s.InUse h n fun fs _ => Disciplined s.profile.access h n fs) :
    ∀ l ∈ s.links, Disciplined s.profile.access h l.number l.written := by
  obtain ⟨past, l, links, _, hpast, rfl, _, hl⟩ := hi
  intro m hm
  rw [links] at hm
  rcases List.mem_append.mp hm with hm | hm
  · exact (hpast m hm).2
  · rw [List.mem_singleton.mp hm]
    exact hl

theorem Attempt.Stands.disciplined {a : Attempt} (ha : a.Stands s h) :
    ∀ l ∈ s.links, Disciplined s.profile.access h l.number l.written := by
  cases link : a.link? with
  | none => exact (ha.down link).disciplined
  | some n => exact (ha.inUse link).disciplined

theorem Worker.Stands.disciplined {w : Worker} (hw : w.Stands s h) :
    ∀ l ∈ s.links, Disciplined s.profile.access h l.number l.written := by
  cases link : w.link? with
  | none => exact (hw.down link).disciplined
  | some n => exact (hw.inUse link).disciplined

theorem Attempt.Stands.numbered {a : Attempt} (ha : a.Stands s h) : Numbered s.links := by
  cases link : a.link? with
  | none => exact (ha.down link).numbered
  | some n => exact (ha.inUse link).numbered

theorem Worker.Stands.numbered {w : Worker} (hw : w.Stands s h) : Numbered s.links := by
  cases link : w.link? with
  | none => exact (hw.down link).numbered
  | some n => exact (hw.inUse link).numbered

theorem Conduct.numbered (hs : s.Conduct h) : Numbered s.links := by
  by_cases attempts : ∃ c ∈ s.calls, ∃ a, c.stage = .attempting a
  · obtain ⟨c, hc, a, ha⟩ := attempts
    exact Attempt.Stands.numbered (hs.call c hc a ha)
  · exact Worker.Stands.numbered (hs.worker fun c hc a ha => attempts ⟨c, hc, a, ha⟩)

theorem Conduct.disciplined (hs : s.Conduct h) :
    ∀ l ∈ s.links, Disciplined s.profile.access h l.number l.written := by
  by_cases attempts : ∃ c ∈ s.calls, ∃ a, c.stage = .attempting a
  · obtain ⟨c, hc, a, ha⟩ := attempts
    exact Attempt.Stands.disciplined (hs.call c hc a ha)
  · exact Worker.Stands.disciplined (hs.worker fun c hc a ha => attempts ⟨c, hc, a, ha⟩)

theorem run_disciplined {p : Profile} {seconds : List Int} {draws : List Float} {ms : List Move}
    (run : Run (initial p seconds draws) ms t) :
    ∀ l ∈ t.links,
      Disciplined p.access ((initial p seconds draws).chronicle ms) l.number l.written := by
  have profile : t.profile = p := run.profile
  have all := run.conduct.disciplined
  rw [profile] at all
  exact all

def replacing : List Move :=
  connecting ++
    [.invoke (.subscribe (.tickers "BTC-USDT")), .call 1 .proceed, .call 1 .proceed,
      .call 1 .proceed, .call 1 .proceed, .worker .command, .invoke .reconnect, .call 2 .proceed,
      .call 2 .proceed, .call 2 .proceed, .call 2 .proceed, .call 2 .proceed, .worker .command,
      .worker .proceed, .call 2 .proceed, .call 2 .proceed, .answer 2 .accepted, .call 2 .read,
      .call 2 .proceed, .call 2 .proceed, .call 2 .proceed]

theorem replacing_disciplined :
    ∃ t, Run (visitor .standard) replacing t ∧
      t.links.map (fun l => texts l.written)
        = [[.subscribeTo (.tickers "BTC-USDT")], [.subscribeTo (.tickers "BTC-USDT")]] ∧
      ∀ l ∈ t.links,
        Disciplined .marketData ((visitor .standard).chronicle replacing) l.number l.written := by
  have played : ((visitor .standard).play replacing).map
      (fun t => t.links.map fun l => texts l.written)
      = some [[.subscribeTo (.tickers "BTC-USDT")], [.subscribeTo (.tickers "BTC-USDT")]] := rfl
  obtain ⟨t, run, written⟩ := exists_run _ _ _ played
  exact ⟨t, run, written, run_disciplined run⟩

end Session

end MarketWire.Stream
