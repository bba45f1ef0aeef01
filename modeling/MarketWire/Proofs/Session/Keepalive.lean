import MarketWire.Proofs.Session.Conduct

namespace MarketWire.Stream

open Channel (Subscription)

inductive Beat where
  | pinged (link time : Nat)
  | answered (link time : Nat)
  | neglected (link : Nat)
  deriving DecidableEq

def Worker.awaits : Worker → Option (Nat × Nat)
  | .reading n k => k.pongDeadline.map (n, ·)
  | .pushing n _ k => k.pongDeadline.map (n, ·)
  | _ => none

def Healthy (n timeout now : Nat) (bs : List Beat) : Prop :=
  ∀ before sent after, bs = before ++ .pinged n sent :: after →
    now < sent + timeout ∨ ∃ came, .answered n came ∈ after ∧ came < sent + timeout

@[simp] theorem healthy_nil (n timeout now : Nat) : Healthy n timeout now [] := by
  intro before sent after split
  simp at split

@[simp] theorem healthy_cons {n timeout now : Nat} {b : Beat} {bs : List Beat} :
    Healthy n timeout now (b :: bs) ↔
      (∀ sent, b = .pinged n sent →
        now < sent + timeout ∨ ∃ came, .answered n came ∈ bs ∧ came < sent + timeout) ∧
      Healthy n timeout now bs := by
  constructor
  · intro h
    refine ⟨fun sent e => h [] sent bs (e ▸ rfl), fun before sent after split => ?_⟩
    exact h (b :: before) sent after (congrArg (b :: ·) split)
  · rintro ⟨first, rest⟩ before sent after split
    rcases List.cons_eq_append_iff.mp split with ⟨_, e⟩ | ⟨before', _, e⟩
    · cases e
      exact first sent rfl
    · exact rest before' sent after e

namespace Session

variable {s t : Session} {n d : Nat} {m : Move} {bs : List Beat}

def unread (s : Session) (n : Nat) : List Arrival := (s.link? n).elim [] Link.inbound

def HasPong (s : Session) (n : Nat) : Prop := .text Router.pong ∈ s.unread n

instance (s : Session) (n : Nat) : Decidable (s.HasPong n) :=
  inferInstanceAs (Decidable (_ ∈ _))

def TimesOut (s : Session) (n : Nat) : Prop :=
  ∃ k millis, s.worker = .reading n k ∧
    s.step (.worker .timer) = some (s.failLink n (.pongTimeout millis))

def beats (s : Session) : Move → List Beat
  | .elapse _ =>
      match s.worker.awaits with
      | some (n, _) => if s.HasPong n then [.neglected n] else []
      | none => []
  | .worker .timer =>
      match s.worker with
      | .reading n ⟨_, none⟩ => [.pinged n s.now]
      | _ => []
  | .arrive n a => if a = .text Router.pong then [.answered n s.now] else []
  | _ => []

def pulse (s : Session) : List Move → List Beat
  | [] => []
  | m :: ms => s.beats m ++ (s.step m).elim [] fun t => t.pulse ms

theorem Run.keeps_pulse {I : Session → List Beat → Prop}
    (hstep : ∀ {s t : Session} {m : Move} {bs : List Beat},
      I s bs → s.step m = some t → I t (bs ++ s.beats m))
    {ms : List Move} (run : Run s ms t) : ∀ {bs : List Beat}, I s bs → I t (bs ++ s.pulse ms) := by
  induction run with
  | nil s =>
      intro bs hs
      simpa [pulse] using hs
  | cons first _ ih =>
      intro bs hs
      simp only [pulse, first, Option.elim_some]
      rw [← List.append_assoc]
      exact ih (hstep hs first)

theorem timesOut_iff :
    s.TimesOut n ↔ ∃ k d, s.worker = .reading n k ∧ k.pongDeadline = some d ∧ d ≤ s.now := by
  constructor
  · rintro ⟨k, millis, hw, step⟩
    simp only [Session.step, workerStep, hw] at step
    split at step
    · next due =>
        cases hk : k.pongDeadline with
        | none => simp [onWake, hk, failLink] at step
        | some d => exact ⟨k, d, hw, hk, by simpa [Keepalive.wakeAt, hk] using due⟩
    · cases step
  · rintro ⟨k, d, hw, hk, due⟩
    refine ⟨k, Clock.Span.millis s.settings.pongTimeout, hw, ?_⟩
    simp [Session.step, workerStep, hw, Keepalive.wakeAt, onWake, hk, due]

theorem link?_onLink {k : Nat} {f : Link → Link} (number : ∀ l, (f l).number = l.number) :
    (s.onLink k f).link? n = (s.link? n).map fun l => if l.number = k then f l else l := by
  have same : ((fun l : Link => l.number == n) ∘ fun l => if l.number = k then f l else l)
      = fun l => l.number == n := by
    funext l
    simp only [Function.comp_apply]
    split
    · rw [number]
    · rfl
  rw [link?, onLink, List.find?_map, same, link?]

theorem unread_onLink {k : Nat} {f : Link → Link} (number : ∀ l, (f l).number = l.number)
    (inbound : ∀ l, (f l).inbound = l.inbound) : (s.onLink k f).unread n = s.unread n := by
  rw [unread, link?_onLink number, unread]
  cases s.link? n with
  | none => rfl
  | some l =>
      simp only [Option.map_some, Option.elim_some]
      split
      · exact inbound l
      · rfl

theorem link?_number {l : Link} (hl : s.link? n = some l) : l.number = n :=
  beq_iff_eq.mp (List.find?_some (p := fun l : Link => l.number == n) hl)

theorem nextArrival_unread {a : Arrival} (hr : s.nextArrival n = some (a, t)) :
    s.unread n = a :: t.unread n := by
  obtain ⟨l, hl, taken⟩ := Option.bind_eq_some_iff.mp hr
  split at taken <;> cases taken
  next rest hin =>
    rw [unread, unread, link?_onLink, hl]
    · simp [link?_number hl, hin]
    · exact fun _ => rfl

theorem nextArrival_of_unread {a : Arrival} {rest : List Arrival} (h : s.unread n = a :: rest) :
    ∃ t, s.nextArrival n = some (a, t) := by
  rw [unread] at h
  cases hl : s.link? n with
  | none => simp [hl] at h
  | some l =>
      rw [hl, Option.elim_some] at h
      exact ⟨_, by rw [nextArrival, hl, Option.bind_some, h]⟩

theorem isQuiet_iff : s.isQuiet n = true ↔ s.unread n = [] := by
  rw [isQuiet, unread]
  cases s.link? n <;> simp

theorem unread_arrive {a : Arrival} {k : Nat} (ht : s.step (.arrive k a) = some t) :
    t.unread n = if n = k then s.unread n ++ [a] else s.unread n := by
  obtain ⟨l, hl, ht⟩ := Option.bind_eq_some_iff.mp ht
  split at ht <;> cases ht
  rw [unread, link?_onLink]
  · by_cases hn : n = k
    · subst hn
      simp [hl, link?_number hl, unread]
    · rw [if_neg hn, unread]
      cases hm : s.link? n with
      | none => rfl
      | some l' =>
          have other : l'.number ≠ k := fun e => hn ((link?_number hm).symm.trans e)
          simp [other]
  · exact fun _ => rfl

theorem nextCommand_unread {cmd : Command} (hn : s.nextCommand = some (cmd, t)) :
    t.unread n = s.unread n := by
  rcases nextCommand_eq hn with ⟨rest, _, rfl⟩ | ⟨_, _, _, _, rfl⟩ <;> rfl

theorem nextArrival_now {a : Arrival} (hr : s.nextArrival n = some (a, t)) : t.now = s.now := by
  obtain ⟨rest, rfl⟩ := nextArrival_eq hr
  rfl

theorem nextCommand_now {cmd : Command} (hn : s.nextCommand = some (cmd, t)) : t.now = s.now := by
  rcases nextCommand_eq hn with ⟨rest, _, rfl⟩ | ⟨_, _, _, _, rfl⟩ <;> rfl

theorem AttemptDeed.now {a : Attempt} {es : List Event} {p : Progress}
    (deed : AttemptDeed s a es t p) : t.now = s.now := by
  cases deed with
  | welcomed hr => exact (nextArrival_now hr :)
  | ponged hr => exact (nextArrival_now hr :)
  | ignored hr => exact nextArrival_now hr
  | rejected hr => exact (nextArrival_now hr :)
  | _ => rfl

theorem CallDeed.now {c : Call} {es : List Event} (deed : CallDeed s c es t) : t.now = s.now := by
  cases deed with
  | attempted hs hd =>
      rename_i p
      cases p with
      | more b => exact hd.now
      | done n => exact hd.now
      | failed e =>
          simp only [onCallProgress]
          split <;> exact hd.now
  | _ => rfl

theorem WorkerDeed.now {es : List Event} (deed : WorkerDeed s es t) : t.now = s.now := by
  cases deed with
  | ponged _ hr | consumed _ hr | routed _ hr | answered _ hr | ignored _ hr | lost _ hr =>
      exact (nextArrival_now hr :)
  | subscribed _ hn | unsubscribed _ hn | unready _ hn | told _ hn => exact (nextCommand_now hn :)
  | stopped =>
      rename_i why _
      cases why <;> rfl
  | drained _ hn =>
      rename_i cmd s' _
      cases cmd <;> exact (nextCommand_now hn :)
  | attempted hs hd =>
      rename_i p
      cases p with
      | more b => exact hd.now
      | done n => exact hd.now
      | failed e =>
          simp only [onProgress]
          split <;> exact hd.now
  | _ => rfl

theorem step_now (ht : s.step m = some t) : (∃ span, m = .elapse span) ∨ t.now = s.now := by
  cases step_deed ht with
  | elapsed span => exact Or.inl ⟨span, rfl⟩
  | called _ hd => exact Or.inr hd.now
  | worked hd => exact Or.inr hd.now
  | _ => exact Or.inr rfl

theorem onText_awaits {j : Nat} {k : Keepalive} {content : String}
    (ha : (s.onText j k content).worker.awaits = some (n, d)) :
    (Worker.reading j k).awaits = some (n, d) ∧ content ≠ Router.pong ∧
      (s.onText j k content).unread n = s.unread n := by
  simp only [onText] at ha ⊢
  by_cases hp : content = Router.pong
  · simp [Router.route, hp, Worker.awaits] at ha
  · refine ⟨?_, hp, ?_⟩
    · split at ha
      · cases ha
      · exact ha
      · exact ha
    · split <;> rfl

theorem onArrival_awaits {j : Nat} {k : Keepalive} {a : Arrival}
    (ha : (s.onArrival j k a).worker.awaits = some (n, d)) :
    (Worker.reading j k).awaits = some (n, d) ∧ a ≠ .text Router.pong ∧
      (s.onArrival j k a).unread n = s.unread n := by
  cases a with
  | text content =>
      obtain ⟨before, other, unread⟩ := onText_awaits ha
      exact ⟨before, by simpa using other, unread⟩
  | ping payload => exact ⟨ha, by simp, unread_onLink (fun _ => rfl) (fun _ => rfl)⟩
  | pong payload => exact ⟨ha, by simp, rfl⟩
  | binary => exact ⟨ha, by simp, rfl⟩
  | close frame => cases ha
  | failure fault => cases ha
  | endOfStream => cases ha

theorem subscribe_inbound (l : Link) (x : Subscription) : (l.subscribe x).inbound = l.inbound := by
  simp only [Link.subscribe]
  split <;> rfl

theorem onCommand_awaits {j : Nat} {k : Keepalive} {cmd : Command}
    (ha : (s.onCommand j k cmd).worker.awaits = some (n, d)) :
    (Worker.reading j k).awaits = some (n, d) ∧
      (s.onCommand j k cmd).unread n = s.unread n := by
  cases cmd with
  | subscribe x =>
      simp only [onCommand] at ha ⊢
      split at ha
      · next ready =>
          rw [if_pos ready]
          exact ⟨ha, unread_onLink (subscribe_number · x) (subscribe_inbound · x)⟩
      · cases ha
  | unsubscribe x =>
      simp only [onCommand] at ha ⊢
      split at ha
      · next ready =>
          rw [if_pos ready]
          exact ⟨ha, unread_onLink (fun _ => rfl) (fun _ => rfl)⟩
      · cases ha
  | close => cases ha
  | detach => cases ha

theorem onWake_awaits {j : Nat} {k : Keepalive}
    (ha : (s.onWake j k).worker.awaits = some (n, d)) :
    j = n ∧ k.pongDeadline = none ∧ d = s.now + s.settings.pongTimeout := by
  cases hk : k.pongDeadline with
  | some e => simp [onWake, hk, failLink, Worker.awaits] at ha
  | none =>
      simp only [onWake, hk, Worker.awaits, Option.map_some, Option.some.injEq,
        Prod.mk.injEq] at ha
      exact ⟨ha.1, rfl, ha.2.symm⟩

theorem onPush_awaits {j : Nat} {k : Keepalive} {message : Message}
    (ht : s.onPush j message k = some t) (ha : t.worker.awaits = some (n, d)) :
    (Worker.reading j k).awaits = some (n, d) ∧ t.unread n = s.unread n := by
  simp only [onPush] at ht
  split at ht <;> cases ht
  · exact ⟨ha, rfl⟩
  · cases ha

theorem onProgress_awaits (attempts : Nat) (p : Progress) :
    (s.onProgress attempts p).worker.awaits = none := by
  cases p with
  | more a => rfl
  | done n => rfl
  | failed e =>
      simp only [onProgress]
      split <;> rfl

inductive Awaiting (s : Session) (m : Move) (t : Session) (n d : Nat) : Prop where
  | pinged :
      s.beats m = [.pinged n s.now] → d = s.now + s.settings.pongTimeout → Awaiting s m t n d
  | still :
      s.worker.awaits = some (n, d) → (s.HasPong n → t.HasPong n) →
      (s.HasPong n → t.now = s.now ∨ .neglected n ∈ s.beats m) →
      (∀ came, .answered n came ∈ s.beats m → t.HasPong n ∧ came = t.now) → Awaiting s m t n d

theorem Awaiting.silent (before : s.worker.awaits = some (n, d)) (pong : s.HasPong n → t.HasPong n)
    (now : t.now = s.now) (unanswered : ∀ came, .answered n came ∉ s.beats m) :
    Awaiting s m t n d :=
  .still before pong (fun _ => Or.inl now) fun came hb => absurd hb (unanswered came)

theorem beats_worker (b : Branch) (came : Nat) : .answered n came ∉ s.beats (.worker b) := by
  cases b <;> simp only [beats, List.not_mem_nil, not_false_eq_true]
  split <;> simp

theorem Awaiting.worker {b : Branch} (ht : s.workerStep b = some t)
    (before : s.worker.awaits = some (n, d)) (pong : s.HasPong n → t.HasPong n) :
    Awaiting s (.worker b) t n d :=
  .silent before pong (workerStep_deed ht).now (beats_worker b)

theorem reading_awaits {b : Branch} {j : Nat} {k : Keepalive} (hw : s.worker = .reading j k)
    (ht : s.workerStep b = some t) (ha : t.worker.awaits = some (n, d)) :
    Awaiting s (.worker b) t n d := by
  have still := Awaiting.worker (n := n) (d := d) ht
  rw [hw] at still
  cases b <;> simp only [workerStep, hw, reduceCtorEq] at ht
  · obtain ⟨⟨a, s'⟩, hr, rfl⟩ := Option.map_eq_some_iff.mp ht
    obtain ⟨before, other, unread⟩ := onArrival_awaits ha
    refine still before fun pong => ?_
    obtain ⟨_, rfl⟩ : k.pongDeadline = some d ∧ j = n := by simpa [Worker.awaits] using before
    rw [HasPong, nextArrival_unread hr] at pong
    rw [HasPong, unread]
    exact (List.mem_cons.mp pong).resolve_left other.symm
  · obtain ⟨⟨cmd, s'⟩, hn, rfl⟩ := Option.map_eq_some_iff.mp ht
    obtain ⟨before, unread⟩ := onCommand_awaits ha
    refine still before fun pong => ?_
    rw [HasPong, unread, nextCommand_unread hn]
    exact pong
  · split at ht <;> cases ht
    obtain ⟨rfl, hk, hd⟩ := onWake_awaits ha
    refine .pinged ?_ hd
    obtain ⟨last, deadline⟩ := k
    cases hk
    simp [beats, hw]

theorem workerStep_awaits {b : Branch} (ht : s.workerStep b = some t)
    (ha : t.worker.awaits = some (n, d)) : Awaiting s (.worker b) t n d := by
  cases hw : s.worker with
  | reading j k => exact reading_awaits hw ht ha
  | pushing j message k =>
      have still := Awaiting.worker (n := n) (d := d) ht
      rw [hw] at still
      cases b <;> simp only [workerStep, hw, reduceCtorEq] at ht
      obtain ⟨before, unread⟩ := onPush_awaits ht ha
      refine still before fun pong => ?_
      rw [HasPong, unread]
      exact pong
  | stopping j why =>
      cases b <;> simp only [workerStep, hw, Option.some.injEq, reduceCtorEq] at ht
      cases ht
      cases why <;> cases ha
  | deciding attempts e =>
      cases b <;> simp only [workerStep, hw, Option.some.injEq, reduceCtorEq] at ht
      cases ht
      simp only [Session.decide] at ha
      split at ha <;> cases ha
  | waiting attempts wakeAt =>
      cases b <;> simp only [workerStep, hw, reduceCtorEq] at ht
      · obtain ⟨⟨cmd, s'⟩, hn, rfl⟩ := Option.map_eq_some_iff.mp ht
        have worker := nextCommand_worker hn
        cases cmd <;> simp_all [onPauseCommand, endWorker, Worker.awaits]
      · split at ht <;> cases ht
        cases ha
  | attempting attempts a =>
      simp only [workerStep, hw] at ht
      obtain ⟨⟨s', p⟩, hs, rfl⟩ := Option.map_eq_some_iff.mp ht
      rw [onProgress_awaits] at ha
      cases ha
  | idle => cases b <;> simp only [workerStep, hw, reduceCtorEq] at ht

theorem unread_of_links (links : t.links = s.links) : t.unread n = s.unread n := by
  rw [unread, unread, link?, link?, links]

theorem onCallProgress_awaits {c : Call} (p : Progress) (idle : s.worker = .idle) :
    (s.onCallProgress c p).worker.awaits = none := by
  have quiet : s.worker.awaits = none := by rw [idle]; rfl
  cases p with
  | more a => exact quiet
  | done n => rfl
  | failed e =>
      simp only [onCallProgress]
      split <;> exact quiet

theorem CallDeed.awaits {c : Call} {es : List Event} (hs : s.Orderly) (hc : c ∈ s.calls)
    (deed : CallDeed s c es t) (ha : t.worker.awaits = some (n, d)) :
    s.worker.awaits = some (n, d) ∧ t.links = s.links := by
  cases deed with
  | attempted hst hd =>
      rename_i a s' p
      have idle : s'.worker = .idle := hd.frame.worker.trans (hs.dialling c hc a hst)
      rw [onCallProgress_awaits p idle] at ha
      cases ha
  | _ => exact ⟨ha, rfl⟩

theorem step_awaits (hs : s.Orderly) (ht : s.step m = some t)
    (ha : t.worker.awaits = some (n, d)) : Awaiting s m t n d := by
  have beside : s.worker.awaits = some (n, d) → t.unread n = s.unread n → t.now = s.now →
      s.beats m = [] → Awaiting s m t n d := by
    intro before unread now none
    refine .silent before (fun pong => ?_) now (by simp [none])
    rw [HasPong, unread]
    exact pong
  cases m with
  | elapse span =>
      cases ht
      refine .still ha id (fun pong => Or.inr ?_) fun came hb => ?_
      · have open' : s.worker.awaits = some (n, d) := ha
        simp [beats, open', pong]
      · simp only [beats] at hb
        split at hb
        · split at hb <;> simp at hb
        · cases hb
  | invoke a =>
      cases step_deed ht with
      | invoked => exact beside ha rfl rfl rfl
  | abandon id =>
      generalize hes : s.events (.abandon id) = es
      cases hes ▸ step_deed ht with
      | abandoned => exact beside ha rfl rfl rfl
  | call id b =>
      cases step_deed ht with
      | called hc deed =>
          obtain ⟨before, links⟩ := deed.awaits hs hc ha
          exact beside before (unread_of_links links) deed.now rfl
  | cutOff id =>
      cases step_deed ht with
      | cutOff => cases ha
  | worker b => exact workerStep_awaits ht ha
  | answer j u =>
      cases step_deed ht with
      | answered => exact beside ha (unread_onLink (fun _ => rfl) fun _ => rfl) rfl rfl
  | arrive j a =>
      have unread := unread_arrive (n := n) ht
      have now : t.now = s.now := (step_now ht).resolve_left (by simp)
      have before : s.worker.awaits = some (n, d) := by
        cases step_deed ht with
        | arrived => exact ha
      refine .still before (fun pong => ?_) (fun _ => Or.inl now) fun came hb => ?_
      · rw [HasPong, unread]
        split
        · exact List.mem_append_left _ pong
        · exact pong
      · simp only [beats] at hb
        split at hb
        · next hpong =>
            cases List.mem_singleton.mp hb
            refine ⟨?_, now.symm⟩
            rw [HasPong, unread, if_pos rfl, hpong]
            simp
        · cases hb

def Owed (s : Session) (bs : List Beat) : Prop :=
  ∀ n d, s.worker.awaits = some (n, d) → ∃ before sent after,
    bs = before ++ .pinged n sent :: after ∧ d = sent + s.settings.pongTimeout ∧
      ∀ came, .answered n came ∈ after → s.HasPong n ∧ (came = s.now ∨ .neglected n ∈ after)

theorem Owed.step (hs : s.Orderly) (ho : s.Owed bs) (ht : s.step m = some t) :
    t.Owed (bs ++ s.beats m) := by
  intro n d ha
  have settings : t.settings = s.settings := congrArg Profile.settings (step_profile ht)
  cases step_awaits hs ht ha with
  | pinged beat hd =>
      refine ⟨bs, s.now, [], by rw [beat], settings ▸ hd, ?_⟩
      exact fun _ hb => absurd hb List.not_mem_nil
  | still awaited pong now answered =>
      obtain ⟨before, sent, after, rfl, hd, unread⟩ := ho n d awaited
      refine ⟨before, sent, after ++ s.beats m, by simp, settings ▸ hd, fun came hb => ?_⟩
      rcases List.mem_append.mp hb with hb | hb
      · obtain ⟨lies, since⟩ := unread came hb
        refine ⟨pong lies, ?_⟩
        rcases since with rfl | neglected
        · rcases now lies with same | neglected
          · exact Or.inl same.symm
          · exact Or.inr (List.mem_append_right _ neglected)
        · exact Or.inr (List.mem_append_left _ neglected)
      · obtain ⟨lies, rfl⟩ := answered came hb
        exact ⟨lies, Or.inl rfl⟩

theorem Run.owed {p : Profile} {seconds : List Int} {draws : List Float} {ms : List Move}
    (run : Run (initial p seconds draws) ms t) : t.Owed ((initial p seconds draws).pulse ms) := by
  have start : (initial p seconds draws).Owed [] := fun n d ha => by cases ha
  have all := Run.keeps_pulse (I := fun s bs => s.Orderly ∧ s.Owed bs)
    (fun hi ht => ⟨hi.1.step ht, hi.2.step hi.1 ht⟩) run ⟨orderly_initial p seconds draws, start⟩
  exact all.2

theorem run_spares {p : Profile} {seconds : List Int} {draws : List Float} {ms : List Move}
    (run : Run (initial p seconds draws) ms s)
    (healthy : Healthy n p.settings.pongTimeout s.now ((initial p seconds draws).pulse ms))
    (heard : ¬ s.HasPong n ∨ .neglected n ∉ (initial p seconds draws).pulse ms) :
    ¬ s.TimesOut n := by
  intro out
  obtain ⟨k, d, hw, hk, due⟩ := timesOut_iff.mp out
  have settings : s.settings = p.settings := congrArg Profile.settings run.profile
  have awaited : s.worker.awaits = some (n, d) := by simp [hw, Worker.awaits, hk]
  obtain ⟨before, sent, after, split, hd, unread⟩ := run.owed n d awaited
  rw [settings] at hd
  rcases healthy before sent after split with early | ⟨came, answer, intime⟩
  · omega
  · obtain ⟨lies, since⟩ := unread came answer
    rcases since with rfl | neglected
    · omega
    · have known : .neglected n ∈ (initial p seconds draws).pulse ms := by
        rw [split]
        exact List.mem_append_right _ (List.mem_cons_of_mem _ neglected)
      exact heard.elim (fun none => none lies) fun never => never known

def cramped : Settings := { Settings.standard with queueCapacity := 1 }

def answering : List Move :=
  connecting ++
    [.elapse cramped.pingInterval, .worker .timer, .elapse (cramped.pongTimeout - 1),
      .arrive 1 (.text Router.pong), .worker .read, .elapse cramped.pongTimeout]

theorem answering_spares :
    ∃ s, Run (visitor cramped) answering s ∧
      (visitor cramped).pulse answering = [.pinged 1 25000000, .answered 1 34999999] ∧
      Healthy 1 cramped.pongTimeout s.now ((visitor cramped).pulse answering) ∧
      ¬ s.HasPong 1 ∧ ¬ s.TimesOut 1 := by
  have played : ((visitor cramped).play answering).map (fun s => (s.unread 1, s.now))
      = some ([], 44999999) := rfl
  have beats : (visitor cramped).pulse answering = [.pinged 1 25000000, .answered 1 34999999] := rfl
  obtain ⟨s, run, ended⟩ := exists_run _ _ _ played
  obtain ⟨unread, now⟩ := Prod.mk.inj ended
  have heard : ¬ s.HasPong 1 := by simp [HasPong, unread]
  have healthy : Healthy 1 cramped.pongTimeout s.now ((visitor cramped).pulse answering) := by
    rw [beats, show cramped.pongTimeout = 10000000 from rfl]
    simp
  exact ⟨s, run, beats, healthy, heard, run_spares run healthy (Or.inl heard)⟩

def stalling : List Move :=
  connecting ++
    [.elapse cramped.pingInterval, .worker .timer, .arrive 1 (.text "a"), .arrive 1 (.text "b"),
      .arrive 1 (.text Router.pong), .worker .read, .worker .proceed, .worker .read,
      .elapse cramped.pongTimeout, .invoke .receive, .call 1 .proceed, .worker .proceed]

theorem stalling_times_out :
    ∃ s, Run (visitor cramped) stalling s ∧
      Healthy 1 cramped.pongTimeout s.now ((visitor cramped).pulse stalling) ∧ s.TimesOut 1 := by
  have played : ((visitor cramped).play stalling).map (fun s => (s.worker, s.now))
      = some (.reading 1 ⟨25000000, some 35000000⟩, 35000000) := rfl
  have beats : (visitor cramped).pulse stalling
      = [.pinged 1 25000000, .answered 1 25000000, .neglected 1] := rfl
  obtain ⟨s, run, ended⟩ := exists_run _ _ _ played
  obtain ⟨reading, now⟩ := Prod.mk.inj ended
  have healthy : Healthy 1 cramped.pongTimeout s.now ((visitor cramped).pulse stalling) := by
    rw [beats, show cramped.pongTimeout = 10000000 from rfl]
    simp
  exact ⟨s, run, healthy, timesOut_iff.mpr ⟨_, _, reading, rfl, now ▸ Nat.le_refl _⟩⟩

end Session

end MarketWire.Stream
