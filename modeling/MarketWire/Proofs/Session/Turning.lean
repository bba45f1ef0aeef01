import MarketWire.Proofs.Session.Drive
import MarketWire.Proofs.Session.Keepalive
import MarketWire.Proofs.Session.Record

namespace MarketWire.Stream

def Attempt.phase : Attempt → Phase
  | .starting => .connecting
  | .upgrading _ _ => .connecting
  | .loggingIn _ _ => .authenticating
  | .connected _ => .ready
  | .replaying _ _ => .ready

def Driver.phase? : Driver → Option Phase
  | .resting => none
  | .serving _ => some .ready
  | .stopping _ => some .closing
  | .deciding => some .closed
  | .waiting => some .disconnected
  | .attempting a => some a.phase

def Driver.link? : Driver → Option Nat
  | .serving n => some n
  | .attempting a => a.link?
  | _ => none

def Attempt.up? : Attempt → Option Nat
  | .loggingIn n _ => some n
  | .connected n => some n
  | .replaying n _ => some n
  | _ => none

def Driver.up? : Driver → Option Nat
  | .serving n => some n
  | .attempting a => a.up?
  | _ => none

namespace Session

variable {s t u : Session} {c : Call} {h : List Event} {d d' : Driver} {m : Move} {n : Nat}

inductive Turn (s : Session) (m : Move) (t : Session) : Phase → Phase → Prop where
  | dialled : Turn s m t .disconnected .connecting
  | admitted : s.profile.isPrivate = false → Turn s m t .connecting .ready
  | greeted : s.profile.isPrivate = true → Turn s m t .connecting .authenticating
  | welcomed : s.profile.isPrivate = true → Turn s m t .authenticating .ready
  | refused : Turn s m t .connecting .closed
  | rejected : Turn s m t .authenticating .closed
  | lost : Turn s m t .ready .closed
  | parting : Turn s m t .ready .closing
  | parted : Turn s m t .closing .closed
  | halted : Turn s m t .disconnected .closed
  | paused {attempts wakeAt : Nat} {e : StreamError} :
      s.worker = .deciding attempts e → t.worker = .waiting (attempts + 1) wakeAt →
      Turn s m t .closed .disconnected
  | redialled {c : Call} {b : Branch} :
      c ∈ s.calls → c.action = .reconnect → m = .call c.id b → Turn s m t .closed .connecting

theorem Conduct.phase (hs : s.Conduct h) (hd : s.Driven d) {p : Phase} (hp : d.phase? = some p) :
    s.phase = p := by
  have attempting : ∀ {a : Attempt}, a.Stands s h → s.phase = a.phase := by
    intro a stands
    cases a <;> exact stands.1
  cases hd with
  | worker none =>
      have stands := hs.worker none
      cases hw : s.worker with
      | idle =>
          rw [hw] at hp
          cases hp
      | attempting attempts a =>
          rw [hw] at stands hp
          cases hp
          exact attempting stands
      | _ =>
          rw [hw] at stands hp
          cases hp
          exact stands.1
  | call hc ha =>
      cases hp
      exact attempting (hs.call _ hc _ ha)

theorem Conduct.attempt (hs : s.Conduct h) {a : Attempt} (hd : s.Driven (.attempting a)) :
    a.Stands s h := by
  generalize he : Driver.attempting a = d at hd
  cases hd with
  | worker none =>
      have stands := hs.worker none
      cases hw : s.worker with
      | attempting attempts b =>
          rw [hw] at he stands
          cases he
          exact stands
      | _ =>
          rw [hw] at he
          cases he
  | call hc ha =>
      cases he
      exact hs.call _ hc _ ha

theorem Conduct.last (hs : s.Conduct h) (hd : s.Driven d) (hn : d.link? = some n) :
    n = s.links.length := by
  have attempting : ∀ {a : Attempt}, a.Stands s h → a.link? = some n → n = s.links.length := by
    intro a stands hn
    cases a with
    | starting => cases hn
    | upgrading =>
        cases hn
        exact stands.2.2.last
    | loggingIn =>
        cases hn
        exact stands.2.2.last
    | connected =>
        cases hn
        exact stands.2.2.2.last
    | replaying =>
        cases hn
        exact stands.2.last
  cases hd with
  | worker none =>
      have stands := hs.worker none
      cases hw : s.worker with
      | attempting attempts a =>
          rw [hw] at stands hn
          exact attempting stands hn
      | reading k l =>
          rw [hw] at stands hn
          cases hn
          exact stands.2.last
      | pushing k x l =>
          rw [hw] at stands hn
          cases hn
          exact stands.2.last
      | _ =>
          rw [hw] at hn
          cases hn
  | call hc ha => exact attempting (hs.call _ hc _ ha) hn

theorem AttemptDeed.turns {a : Attempt} {es : List Event} {p : Progress}
    (deed : AttemptDeed s a es t p) (leads : p.Leads d)
    (signed : ∀ n k, a = .loggingIn n k → s.profile.isPrivate = true) (m : Move) (u : Session) :
    d.phase?.getD .closed = a.phase ∨ Turn s m u a.phase (d.phase?.getD .closed) := by
  have failed : ∀ {e : StreamError}, p = .failed e → d.phase?.getD .closed = .closed := by
    rintro e rfl
    cases leads <;> rfl
  cases deed with
  | undialled =>
      rw [failed rfl]
      exact Or.inr .refused
  | dialled =>
      cases leads
      exact Or.inl rfl
  | admitted hacc =>
      cases leads
      exact Or.inr (.admitted (by rw [Profile.isPrivate, hacc]; rfl))
  | signed hacc =>
      rw [login_eq] at leads
      cases leads
      exact Or.inr (.greeted (by rw [Profile.isPrivate, hacc]; rfl))
  | refused =>
      rw [failed rfl]
      exact Or.inr .refused
  | welcomed =>
      cases leads
      exact Or.inr (.welcomed (signed _ _ rfl))
  | ponged =>
      cases leads
      exact Or.inl rfl
  | ignored =>
      cases leads
      exact Or.inl rfl
  | rejected =>
      rw [failed rfl]
      exact Or.inr .rejected
  | unanswered =>
      rw [failed rfl]
      exact Or.inr .rejected
  | listed =>
      cases leads
      exact Or.inl rfl
  | replayed =>
      cases leads
      exact Or.inl rfl
  | unready =>
      rw [failed rfl]
      exact Or.inr .lost
  | replayEnded =>
      cases leads
      exact Or.inl rfl

theorem AttemptDeed.signs {a : Attempt} {es : List Event} {p : Progress} {deadline : Nat}
    (deed : AttemptDeed s a es t p) (leads : p.Leads (.attempting (.loggingIn n deadline))) :
    (∃ k, a = .loggingIn n k) ∨ s.profile.isPrivate = true := by
  cases leads with
  | more =>
      generalize hp : Progress.more (.loggingIn n deadline) = p at deed
      cases deed with
      | signed hacc => exact Or.inr (by rw [Profile.isPrivate, hacc]; rfl)
      | ponged =>
          cases hp
          exact Or.inl ⟨_, rfl⟩
      | ignored =>
          cases hp
          exact Or.inl ⟨_, rfl⟩
      | _ => cases hp

theorem attemptNotices_nil {a : Attempt} {b : Branch} {s' : Session} {p : Progress}
    (step : s.attemptStep a b = some (s', p)) (going : ∀ e, p ≠ .failed e) :
    s.attemptNotices a b = [] := by
  rw [attemptNotices, step]
  cases p with
  | more a' => rfl
  | done n => rfl
  | failed e => exact absurd rfl (going e)

theorem attemptStep_link? {a : Attempt} {b : Branch} {s' : Session} {p : Progress}
    (step : s.attemptStep a b = some (s', p)) (leads : p.Leads d) (hn : d.link? = some n) :
    (a.link? = some n ∨ n = s.links.length + 1) ∧ s.attemptNotices a b = [] := by
  have deed := attemptStep_deed step
  generalize s.attemptEvents a b = es at deed
  cases leads with
  | more a' => exact ⟨deed.link? hn, attemptNotices_nil step (by simp)⟩
  | done k =>
      cases hn
      refine ⟨Or.inl ?_, attemptNotices_nil step (by simp)⟩
      generalize hp : Progress.done n = p at deed
      cases deed <;> cases hp
      rfl
  | retried => cases hn
  | ended => cases hn

theorem Drive.link? (drive : Drive s m t d' d) (hn : d.link? = some n) :
    (d'.link? = some n ∨ n = s.links.length + 1) ∧ s.notices m = [] := by
  cases drive with
  | still _ quiet => exact ⟨Or.inl hn, quiet⟩
  | tried quiet step _ _ leads =>
      rw [quiet]
      exact attemptStep_link? step leads hn
  | _ => cases hn

theorem Drive.noticed (drive : Drive s m t d' d) (hn : n ∈ s.notices m) : d'.link? = some n := by
  cases drive with
  | lost quiet =>
      rw [quiet] at hn
      rw [List.mem_singleton.mp hn]
      rfl
  | parting quiet =>
      rw [quiet] at hn
      rw [List.mem_singleton.mp hn]
      rfl
  | tried quiet step _ _ leads =>
      rw [quiet, attemptNotices, step] at hn
      cases leads with
      | more => cases hn
      | done => cases hn
      | retried => exact Option.mem_toList.mp hn
      | ended => exact Option.mem_toList.mp hn
  | still _ quiet => simp [quiet] at hn
  | parted quiet | paused quiet | gaveUp quiet | halted quiet | redialled quiet | begun quiet
  | reconnected quiet | ended quiet =>
      simp [quiet] at hn

def Established (s : Session) (n : Nat) : Prop := (s.link? n).bind Link.answer = some .accepted

theorem attemptStep_up? {a : Attempt} {b : Branch} {s' : Session} {p : Progress}
    (step : s.attemptStep a b = some (s', p)) (leads : p.Leads d) (hn : d.up? = some n) :
    a.up? = some n ∨ s.Established n := by
  have deed := attemptStep_deed step
  generalize s.attemptEvents a b = es at deed
  have answered : ∀ {k deadline : Nat}, a = .upgrading k deadline →
      (∀ e, p ≠ .failed e) → s.Established k := by
    rintro k deadline rfl going
    cases b <;> simp only [attemptStep, reduceCtorEq] at step
    · obtain ⟨u, hu, answer⟩ := Option.map_eq_some_iff.mp step
      cases u with
      | accepted => exact hu
      | refused fault =>
          cases answer
          exact absurd rfl (going _)
    · split at step <;> cases step
      exact absurd rfl (going _)
  cases deed with
  | admitted =>
      cases leads
      cases hn
      exact Or.inr (answered rfl (by simp))
  | signed =>
      rw [login_eq] at leads
      cases leads
      cases hn
      exact Or.inr (answered rfl (by simp [login_eq]))
  | undialled | refused | rejected | unanswered | unready => cases leads <;> cases hn
  | dialled =>
      cases leads
      cases hn
  | _ =>
      cases leads
      exact Or.inl hn

theorem Drive.up? (drive : Drive s m t d' d) (hn : d.up? = some n) :
    d'.up? = some n ∨ s.Established n := by
  cases drive with
  | still => exact Or.inl hn
  | tried _ step _ _ leads => exact attemptStep_up? step leads hn
  | _ => cases hn

theorem established_onLink {k : Nat} {f : Link → Link} (number : ∀ l, (f l).number = l.number)
    (answer : ∀ l, (f l).answer = l.answer) : (s.onLink k f).Established n ↔ s.Established n := by
  rw [Established, Established, link?_onLink number]
  cases s.link? n with
  | none => rfl
  | some l =>
      simp only [Option.map_some, Option.bind_some]
      split
      · rw [answer]
      · rfl

theorem nextArrival_established {a : Arrival} {k : Nat} (hr : s.nextArrival k = some (a, t)) :
    t.Established n ↔ s.Established n := by
  obtain ⟨rest, rfl⟩ := nextArrival_eq hr
  exact established_onLink (fun _ => rfl) (fun _ => rfl)

theorem nextCommand_established {cmd : Command} (hn : s.nextCommand = some (cmd, t)) :
    t.Established n ↔ s.Established n := by
  rcases nextCommand_eq hn with ⟨rest, _, rfl⟩ | ⟨_, _, _, _, rfl⟩ <;> rfl

theorem subscribe_answer (l : Link) (x : Channel.Subscription) :
    (l.subscribe x).answer = l.answer := by
  simp only [Link.subscribe]
  split <;> rfl

theorem AttemptDeed.established {a : Attempt} {es : List Event} {p : Progress}
    (deed : AttemptDeed s a es t p) (hn : s.Established n) : t.Established n := by
  have touched : ∀ {u : Session} {k : Nat} {f : Link → Link}, (∀ l, (f l).number = l.number) →
      (∀ l, (f l).answer = l.answer) → u.Established n → (u.onLink k f).Established n :=
    fun number answer hu => (established_onLink number answer).mpr hu
  cases deed with
  | dialled =>
      rw [Established, Session.link?, List.find?_append]
      obtain ⟨l, hl, accepted⟩ := Option.bind_eq_some_iff.mp hn
      rw [Session.link?] at hl
      rw [hl]
      exact accepted
  | signed => exact touched (fun _ => rfl) (fun _ => rfl) hn
  | refused => exact touched (fun _ => rfl) (fun _ => rfl) hn
  | welcomed hr => exact (nextArrival_established hr).mpr hn
  | ponged hr => exact touched (fun _ => rfl) (fun _ => rfl) ((nextArrival_established hr).mpr hn)
  | ignored hr => exact (nextArrival_established hr).mpr hn
  | rejected hr => exact touched (fun _ => rfl) (fun _ => rfl) ((nextArrival_established hr).mpr hn)
  | unanswered => exact touched (fun _ => rfl) (fun _ => rfl) hn
  | replayed => exact touched (fun l => subscribe_number l _) (fun l => subscribe_answer l _) hn
  | unready => exact touched (fun _ => rfl) (fun _ => rfl) hn
  | _ => exact hn

theorem WorkerDeed.established {es : List Event} (deed : WorkerDeed s es t)
    (hn : s.Established n) : t.Established n := by
  have touched : ∀ {u : Session} {k : Nat} {f : Link → Link}, (∀ l, (f l).number = l.number) →
      (∀ l, (f l).answer = l.answer) → u.Established n → (u.onLink k f).Established n :=
    fun number answer hu => (established_onLink number answer).mpr hu
  cases deed with
  | ponged _ hr | consumed _ hr | routed _ hr => exact (nextArrival_established hr).mpr hn
  | answered _ hr =>
      exact touched (fun _ => rfl) (fun _ => rfl) ((nextArrival_established hr).mpr hn)
  | ignored _ hr => exact (nextArrival_established hr).mpr hn
  | lost _ hr => exact touched (fun _ => rfl) (fun _ => rfl) ((nextArrival_established hr).mpr hn)
  | overdue => exact touched (fun _ => rfl) (fun _ => rfl) hn
  | pinged => exact touched (fun _ => rfl) (fun _ => rfl) hn
  | subscribed _ hc =>
      exact touched (fun l => subscribe_number l _) (fun l => subscribe_answer l _)
        ((nextCommand_established hc).mpr hn)
  | unsubscribed _ hc =>
      exact touched (fun _ => rfl) (fun _ => rfl) ((nextCommand_established hc).mpr hn)
  | unready _ hc =>
      exact touched (fun _ => rfl) (fun _ => rfl) ((nextCommand_established hc).mpr hn)
  | told _ hc => exact touched (fun _ => rfl) (fun _ => rfl) ((nextCommand_established hc).mpr hn)
  | barred => exact touched (fun _ => rfl) (fun _ => rfl) hn
  | stopped =>
      rename_i why _
      cases why <;> exact touched (fun _ => rfl) (fun _ => rfl) hn
  | drained _ hc =>
      rename_i cmd s' _
      cases cmd <;> exact (nextCommand_established hc).mpr hn
  | attempted _ hd =>
      rw [Established, Session.link?, onProgress_links]
      exact hd.established hn
  | _ => exact hn

theorem abortWorker_established (hn : s.Established n) : s.abortWorker.Established n := by
  cases hl : s.worker.link? with
  | none =>
      rw [abortWorker_of_none hl]
      exact hn
  | some k =>
      have dropped : (s.dropLink k).Established n :=
        (established_onLink (f := Link.drop) (fun _ => rfl) (fun _ => rfl)).mpr hn
      rw [abortWorker_of_link hl]
      exact dropped

theorem step_established (ht : s.step m = some t) (hn : s.Established n) : t.Established n := by
  have deed := step_deed ht
  generalize s.events m = es at deed
  cases deed with
  | called _ deed =>
      cases deed with
      | attempted _ hd =>
          rw [Established, Session.link?, onCallProgress_links]
          exact hd.established hn
      | _ => exact hn
  | worked deed => exact deed.established hn
  | cutOff => exact abortWorker_established hn
  | @answered k u =>
      obtain ⟨l, hl, unanswered⟩ := Option.bind_eq_some_iff.mp ht
      split at unanswered <;> cases unanswered
      next none =>
        obtain ⟨j, hj, accepted⟩ := Option.bind_eq_some_iff.mp hn
        have other : j.number ≠ k := by
          intro same
          rw [← link?_number hj, same, hl] at hj
          cases hj
          rw [none] at accepted
          cases accepted
        rw [Established, link?_onLink (f := fun l => { l with answer := some u }) fun _ => rfl, hj,
          Option.map_some, Option.bind_some, if_neg other]
        exact accepted
  | @arrived k a =>
      refine (established_onLink ?_ ?_).mpr hn
      · exact fun _ => rfl
      · exact fun _ => rfl
  | _ => exact hn

structure Footing (s : Session) (noticed : List Nat) : Prop where
  purposeful : ∀ c ∈ s.calls, c.Purposeful
  rested : s.Driven .resting → s.phase = .closed ∨ s.phase = .disconnected
  fresh : s.opened = false → (∀ c ∈ s.calls, c.stage = .begun) → s.phase = .disconnected
  signed : ∀ n deadline, s.Driven (.attempting (.loggingIn n deadline)) →
    s.profile.isPrivate = true
  answered : ∀ d n, s.Driven d → d.up? = some n → s.Established n
  known : ∀ n ∈ noticed, n ≤ s.links.length
  unnoticed : ∀ d n, s.Driven d → d.link? = some n → n ∉ noticed

theorem driven_initial {p : Profile} {seconds : List Int} {draws : List Float}
    (hd : (initial p seconds draws).Driven d) : d = .resting := by
  cases hd with
  | worker => rfl
  | call hc => cases hc

theorem footing_initial (p : Profile) (seconds : List Int) (draws : List Float) :
    (initial p seconds draws).Footing [] where
  purposeful _ hc := absurd hc List.not_mem_nil
  rested _ := Or.inr rfl
  fresh _ _ := rfl
  signed _ _ hd := by cases driven_initial hd
  answered d n hd hn := by
    rw [driven_initial hd] at hn
    cases hn
  known _ hn := absurd hn List.not_mem_nil
  unnoticed _ _ _ _ := List.not_mem_nil

variable {noticed : List Nat}

theorem Orderly.only {e : Call} (ho : s.Orderly) (unopened : s.opened = false) (he : e ∈ s.calls)
    (hc : c ∈ s.calls) : e = c := by
  have one : s.calls.length ≤ 1 := (ho.unopened unopened).2.2.1
  have before := ho.locking.id_lt he
  have after := ho.locking.id_lt hc
  exact ho.locking.eq_of_id he hc (by omega)

theorem Footing.turns {h' : List Event} (hf : s.Footing noticed) (hs : s.Conduct h)
    (ht : t.Conduct h') (hd' : s.Driven d') (hd : t.Driven d) (drive : Drive s m t d' d) :
    t.phase = s.phase ∨ Turn s m t s.phase t.phase := by
  cases drive with
  | still phase => exact Or.inl phase
  | lost =>
      rw [hs.phase hd' rfl, ht.phase hd rfl]
      exact Or.inr .lost
  | parting =>
      rw [hs.phase hd' rfl, ht.phase hd rfl]
      exact Or.inr .parting
  | parted _ closed =>
      rw [hs.phase hd' rfl, closed]
      exact Or.inr .parted
  | paused _ deciding waiting =>
      rw [hs.phase hd' rfl, ht.phase hd rfl]
      exact Or.inr (.paused deciding waiting)
  | gaveUp _ closed =>
      rw [hs.phase hd' rfl, closed]
      exact Or.inl rfl
  | halted _ after =>
      rcases after with closed | same
      · rw [hs.phase hd' rfl, closed]
        exact Or.inr .halted
      · exact Or.inl same
  | redialled =>
      rw [hs.phase hd' rfl, ht.phase hd rfl]
      exact Or.inr .dialled
  | begun _ hc action hst =>
      have unopened := hs.orderly.unopened_of_connect hc action (by simp [hst])
      have begun : ∀ c ∈ s.calls, c.stage = .begun := by
        intro e he
        rw [hs.orderly.only unopened he hc]
        exact hst
      rw [hf.fresh unopened begun, ht.phase hd rfl]
      exact Or.inr .dialled
  | reconnected _ hc action move =>
      rw [ht.phase hd rfl]
      rcases hf.rested hd' with closed | disconnected
      · rw [closed]
        exact Or.inr (.redialled hc action move)
      · rw [disconnected]
        exact Or.inr .dialled
  | ended _ after =>
      rw [after]
      rcases hf.rested hd' with closed | disconnected
      · exact Or.inl closed.symm
      · rw [disconnected]
        exact Or.inr .halted
  | tried _ step _ after leads =>
      rename_i a b s' p
      have deed := attemptStep_deed step
      have stands := deed.stands hs.booked hs.unopened (hs.attempt hd')
      have phase : t.phase = d.phase?.getD .closed := by
        cases leads with
        | more a' => exact ht.phase hd rfl
        | done n => exact ht.phase hd rfl
        | retried e => exact ht.phase hd rfl
        | ended e => exact after.elim (fun same => same.trans stands.1) id
      rw [phase, hs.phase hd' rfl]
      exact deed.turns leads (fun n k e => hf.signed n k (e ▸ hd')) m t

theorem Footing.freshens (hf : s.Footing noticed) (hs : s.Conduct h) (ht : s.step m = some t)
    (unopened : t.opened = false) (begun : ∀ c ∈ t.calls, c.stage = .begun) :
    t.phase = .disconnected := by
  cases step_deed ht with
  | elapsed | cutOff | answered | arrived => exact hf.fresh unopened begun
  | invoked => exact hf.fresh unopened fun c hc => begun c (List.mem_append_left _ hc)
  | abandoned hc =>
      have gone := begun _ ((hs.orderly.locking.mem_setStage hc).mpr (Or.inl rfl))
      cases gone
  | called hc deed =>
      obtain ⟨stage, calls, next⟩ := deed.next
      have first := begun _ ((hs.orderly.locking.mem_turned hc calls).mpr (Or.inl rfl))
      rw [Call.at_stage] at first
      subst first
      cases next
  | worked deed =>
      rw [deed.frame.opened] at unopened
      exact absurd (hs.orderly.unopened unopened).1 deed.busy

theorem Footing.step (hf : s.Footing noticed) (hs : s.Conduct h) (uncut : ∀ id, m ≠ .cutOff id)
    (ht : s.step m = some t) : t.Footing (noticed ++ s.notices m) := by
  have drives := fun {d} => step_drives (d := d) hs hf.purposeful uncut ht
  have purposeful := step_purposeful hs.orderly.locking hf.purposeful ht
  refine ⟨purposeful, ?_, hf.freshens hs ht, ?_, ?_, ?_, ?_⟩
  · intro hd
    obtain ⟨d', hd', drive⟩ := drives hd
    cases drive with
    | still phase =>
        rw [phase]
        exact hf.rested hd'
    | parted _ closed => exact Or.inl closed
    | gaveUp _ closed => exact Or.inl closed
    | halted _ phase => exact phase.imp_right fun same => same.trans (hs.phase hd' rfl)
    | ended _ closed => exact Or.inl closed
    | tried _ step _ phase leads =>
        have stands := (attemptStep_deed step).stands hs.booked hs.unopened (hs.attempt hd')
        cases leads
        exact Or.inl (phase.elim (fun same => same.trans stands.1) id)
  · intro n deadline hd
    obtain ⟨d', hd', drive⟩ := drives hd
    rw [step_profile ht]
    generalize hat : Driver.attempting (.loggingIn n deadline) = d at drive
    cases drive with
    | still =>
        subst hat
        exact hf.signed n deadline hd'
    | tried _ step _ _ leads =>
        subst hat
        rcases (attemptStep_deed step).signs leads with ⟨k, rfl⟩ | isPrivate
        · exact hf.signed n k hd'
        · exact isPrivate
    | _ => cases hat
  · intro d n hd hn
    obtain ⟨d', hd', drive⟩ := drives hd
    rcases drive.up? hn with before | established
    · exact step_established ht (hf.answered d' n hd' before)
    · exact step_established ht established
  · intro n hn
    have links := step_links_le ht
    rcases List.mem_append.mp hn with hn | hn
    · exact Nat.le_trans (hf.known n hn) links
    · obtain ⟨d, hd⟩ := exists_driven t
      obtain ⟨d', hd', drive⟩ := drives hd
      rw [hs.last hd' (drive.noticed hn)]
      exact links
  · intro d n hd hn
    obtain ⟨d', hd', drive⟩ := drives hd
    obtain ⟨before, quiet⟩ := drive.link? hn
    rw [quiet, List.append_nil]
    rcases before with before | new
    · exact hf.unnoticed d' n hd' before
    · intro old
      have := hf.known n old
      omega

theorem Run.footing {p : Profile} {seconds : List Int} {draws : List Float} {ms : List Move}
    (run : Run (initial p seconds draws) ms t) (uncut : ∀ id, .cutOff id ∉ ms) :
    t.Footing ((initial p seconds draws).record notices ms) :=
  run.keeps_record (P := fun m => ∀ id, m ≠ .cutOff id) (J := Conduct)
    (fun _ hj hs => hj.step hs) (fun here conduct hf ht => hf.step conduct here ht)
    (fun _ hm id e => uncut id (e ▸ hm)) (h := []) (conduct_initial p seconds draws)
    (footing_initial p seconds draws)

structure Sound (s : Session) (h : List Event) (noticed : List Nat) (l : Link) : Prop where
  alone : s.links.filter Link.live = [l]
  answered : l.answer = some .accepted
  welcomed : s.profile.isPrivate = true → .loggedIn l.number ∈ h
  unnoticed : l.number ∉ noticed
  unended : ∀ code reason, .close code reason ∉ l.written

theorem Down.alone (hd : s.Down h) : s.links.filter Link.live = [] :=
  List.filter_eq_nil_iff.mpr fun l hl => by simp [(hd.past l hl).1]

theorem InUse.alone {P : List Frame → List Channel.Subscription → Prop} (hi : s.InUse h n P) :
    ∃ l, s.links.filter Link.live = [l] ∧ l ∈ s.links ∧ l.number = n ∧ P l.written l.carried := by
  obtain ⟨past, l, links, numbered, hpast, number, live, hl⟩ := hi
  have none : past.filter Link.live = [] :=
    List.filter_eq_nil_iff.mpr fun m hm => by simp [(hpast m hm).1]
  refine ⟨l, ?_, by simp [links], number, hl⟩
  rw [links, List.filter_append, none]
  simp [live]

theorem InUse.sound {P : List Frame → List Channel.Subscription → Prop} (hi : s.InUse h n P)
    (hP : ∀ {fs carried}, P fs carried → Upright fs carried) (established : s.Established n)
    (welcomed : s.profile.isPrivate = true → .loggedIn n ∈ h) (unnoticed : n ∉ noticed) :
    ∃ l, s.Sound h noticed l := by
  have nodup : (s.links.map Link.number).Nodup := hi.numbered ▸ List.nodup_range'
  obtain ⟨l, alone, hl, rfl, upright⟩ := hi.alone
  obtain ⟨k, hk, accepted⟩ := Option.bind_eq_some_iff.mp established
  have same : k = l :=
    List.inj_on_of_nodup_map nodup (List.mem_of_find?_eq_some hk) hl (link?_number hk)
  exact ⟨l, alone, same ▸ accepted, welcomed, unnoticed, (hP upright).unended⟩

theorem Conduct.serving (hs : s.Conduct h) (hd : s.Driven (.serving n)) :
    s.InUse h n (Serving s.profile.access h n) := by
  generalize he : Driver.serving n = d at hd
  cases hd with
  | worker none =>
      have stands := hs.worker none
      cases hw : s.worker with
      | reading k l =>
          rw [hw] at he stands
          cases he
          exact stands.2
      | pushing k x l =>
          rw [hw] at he stands
          cases he
          exact stands.2
      | _ =>
          rw [hw] at he
          cases he
  | call => cases he

theorem Conduct.alone (hs : s.Conduct h) : (s.links.filter Link.live).length ≤ 1 := by
  have down : s.Down h → (s.links.filter Link.live).length ≤ 1 := fun hd => by simp [hd.alone]
  have inUse : ∀ {n : Nat} {P : List Frame → List Channel.Subscription → Prop}, s.InUse h n P →
      (s.links.filter Link.live).length ≤ 1 := by
    intro n P hi
    obtain ⟨l, alone, _⟩ := hi.alone
    simp [alone]
  have attempting : ∀ {a : Attempt}, a.Stands s h → (s.links.filter Link.live).length ≤ 1 := by
    intro a stands
    cases a with
    | starting => exact down stands.2
    | upgrading => exact inUse stands.2.2
    | loggingIn => exact inUse stands.2.2
    | connected => exact inUse stands.2.2.2
    | replaying => exact inUse stands.2
  obtain ⟨d, hd⟩ := exists_driven s
  cases hd with
  | call hc ha => exact attempting (hs.call _ hc _ ha)
  | worker none =>
      have stands := hs.worker none
      cases hw : s.worker <;> rw [hw] at stands
      case idle => exact down stands
      case reading => exact inUse stands.2
      case pushing => exact inUse stands.2
      case stopping => exact inUse stands.2
      case deciding => exact down stands.2
      case waiting => exact down stands.2
      case attempting => exact attempting stands

theorem Footing.sound (hf : s.Footing noticed) (hs : s.Conduct h) (ready : s.phase = .ready) :
    ∃ l, s.Sound h noticed l := by
  obtain ⟨d, hd⟩ := exists_driven s
  have phase : ∀ {p : Phase}, d.phase? = some p → p = .ready :=
    fun hp => (hs.phase hd hp).symm.trans ready
  cases d with
  | resting =>
      rcases hf.rested hd with closed | disconnected
      · rw [ready] at closed
        cases closed
      · rw [ready] at disconnected
        cases disconnected
  | serving n =>
      have hi := hs.serving hd
      obtain ⟨l, _, _, _, serving⟩ := hi.alone
      obtain ⟨_, _, _, opened, _⟩ := serving.served
      exact hi.sound Serving.upright (hf.answered _ n hd rfl) opened.welcomed
        (hf.unnoticed _ n hd rfl)
  | attempting a =>
      have stands := hs.attempt hd
      cases a with
      | connected n =>
          exact stands.2.2.2.sound Greeted.upright (hf.answered _ n hd rfl) stands.2.2.1
            (hf.unnoticed _ n hd rfl)
      | replaying n rest =>
          have hi := stands.2
          obtain ⟨l, _, _, _, restoring⟩ := hi.alone
          obtain ⟨_, opened, _⟩ := restoring.restored
          exact hi.sound Restoring.upright (hf.answered _ n hd rfl) opened.welcomed
            (hf.unnoticed _ n hd rfl)
      | _ => cases phase rfl
  | _ => cases phase rfl

theorem run_turns {p : Profile} {seconds : List Int} {draws : List Float} {ms : List Move}
    (run : Run (initial p seconds draws) ms t) (uncut : ∀ id, .cutOff id ∉ ms) :
    (∀ m u, t.step m = some u → u.phase = t.phase ∨ Turn t m u t.phase u.phase) ∧
      (t.links.filter Link.live).length ≤ 1 ∧
      (t.phase = .ready →
        ∃ l, t.Sound ((initial p seconds draws).chronicle ms)
          ((initial p seconds draws).record notices ms) l) := by
  have conduct := run.conduct
  have footing := run.footing uncut
  refine ⟨?_, conduct.alone, footing.sound conduct⟩
  intro m u step
  by_cases cut : ∃ id, m = .cutOff id
  · obtain ⟨id, rfl⟩ := cut
    cases step_deed step with
    | cutOff => exact Or.inl rfl
  · have here : ∀ id, m ≠ .cutOff id := fun id same => cut ⟨id, same⟩
    obtain ⟨d, hd⟩ := exists_driven u
    obtain ⟨d', hd', drive⟩ := step_drives conduct footing.purposeful here step hd
    exact footing.turns conduct (conduct.step step) hd' hd drive

def welcome : String := "\x7b\"event\":\"login\",\"code\":\"0\"\x7d"

def entering : List Move :=
  [.invoke .connect, .call 0 .proceed, .call 0 .proceed, .answer 1 .accepted, .call 0 .read,
    .arrive 1 (.text welcome), .call 0 .read, .call 0 .proceed, .call 0 .proceed]

theorem entering_turns :
    ∃ t, Run (member .standard) entering t ∧ (∀ id, .cutOff id ∉ entering) ∧ t.phase = .ready ∧
      t.profile.isPrivate = true ∧
      ∃ l, t.Sound ((member .standard).chronicle entering)
        ((member .standard).record notices entering) l := by
  have played : ((member .standard).play entering).map (fun t => t.phase) = some .ready := by
    decide +kernel
  have uncut : ∀ id, .cutOff id ∉ entering := by simp [entering]
  obtain ⟨t, run, ready⟩ := exists_run _ _ _ played
  exact ⟨t, run, uncut, ready, run.profile ▸ rfl, (run_turns run uncut).2.2 ready⟩

end Session

end MarketWire.Stream
