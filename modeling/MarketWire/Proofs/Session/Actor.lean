import MarketWire.Proofs.Session.Keepalive
import MarketWire.Proofs.Session.Work

namespace MarketWire.Stream

inductive Actor where
  | worker
  | call (id : Nat)
  deriving DecidableEq

def Actor.move : Actor → Branch → Move
  | worker, b => .worker b
  | call id, b => .call id b

namespace Move

def brings (n : Nat) : Move → List Arrival
  | .arrive k a => if k = n then [a] else []
  | _ => []

def span : Move → Nat
  | .elapse span => span
  | _ => 0

end Move

def Worker.attempt? : Worker → Option Attempt
  | .attempting _ a => some a
  | _ => none

def Stage.attempt? : Stage → Option Attempt
  | .attempting a => some a
  | _ => none

def Stage.failure? : Stage → Option StreamError
  | .over (.failed e) => some e
  | _ => none

def Progress.attempt? : Progress → Option Attempt
  | .more a => some a
  | _ => none

namespace Session

variable {s t : Session} {w : Actor} {a : Attempt} {b : Branch} {m : Move} {p : Progress}

def stageOf (s : Session) (id : Nat) : Option Stage := (s.call? id).map Call.stage

def attemptBy (s : Session) : Actor → Option Attempt
  | .worker => s.worker.attempt?
  | .call id => (s.stageOf id).bind Stage.attempt?

def failureBy (s : Session) : Actor → Option StreamError
  | .worker =>
      match s.worker with
      | .deciding _ e => some e
      | .idle => s.lastError
      | _ => none
  | .call id => (s.stageOf id).bind Stage.failure?

theorem stageOf_setStage (s : Session) (id j : Nat) (stage : Stage) :
    (s.setStage j stage).stageOf id
      = if id = j then (s.stageOf id).map fun _ => stage else s.stageOf id := by
  have ids : ((fun c : Call => c.id == id) ∘ fun c => if c.id = j then { c with stage } else c)
      = fun c => c.id == id := by
    funext c
    simp only [Function.comp_apply]
    split <;> rfl
  rw [stageOf, call?, setStage, List.find?_map, ids, stageOf, call?]
  cases found : s.calls.find? fun c => c.id == id with
  | none => simp
  | some c =>
      have same : c.id = id := beq_iff_eq.mp (List.find?_some (p := fun c : Call => c.id == id) found)
      subst same
      by_cases here : c.id = j <;> simp [here]

theorem stageOf_congr (calls : t.calls = s.calls) (id : Nat) : t.stageOf id = s.stageOf id := by
  rw [stageOf, stageOf, call?, call?, calls]

theorem attemptBy_congr (worker : t.worker = s.worker) (calls : t.calls = s.calls) :
    t.attemptBy w = s.attemptBy w := by
  cases w with
  | worker => rw [attemptBy, attemptBy, worker]
  | call id => rw [attemptBy, attemptBy, stageOf_congr calls]

theorem attemptBy_worker (h : s.attemptBy .worker = some a) : ∃ k, s.worker = .attempting k a := by
  rw [attemptBy] at h
  cases hw : s.worker with
  | attempting k a' =>
      rw [hw] at h
      cases h
      exact ⟨k, rfl⟩
  | _ => simp [hw, Worker.attempt?] at h

theorem attemptBy_call {id : Nat} (h : s.attemptBy (.call id) = some a) :
    ∃ c, s.call? id = some c ∧ c.stage = .attempting a := by
  obtain ⟨stage, hstage, attempt⟩ := Option.bind_eq_some_iff.mp h
  obtain ⟨c, hc, rfl⟩ := Option.map_eq_some_iff.mp hstage
  refine ⟨c, hc, ?_⟩
  cases hs : c.stage with
  | attempting a' =>
      rw [hs] at attempt
      cases attempt
      rfl
  | _ => simp [hs, Stage.attempt?] at attempt

structure Resumed (w : Actor) (s : Session) (p : Progress) (t : Session) : Prop where
  attempt : t.attemptBy w = p.attempt?
  failure : ∀ e, p = .failed e → t.failureBy w = some e
  registry : t.registry = s.registry
  links : t.links = s.links
  now : t.now = s.now
  mailbox : ∀ a, p = .more a → t.mailbox = s.mailbox
  phase : ∀ a, p = .more a → t.phase = s.phase

theorem onProgress_resumed (s : Session) (k : Nat) (p : Progress) :
    Resumed .worker s p (s.onProgress k p) := by
  cases p with
  | more a => exact ⟨rfl, by simp, rfl, rfl, rfl, fun _ _ => rfl, fun _ _ => rfl⟩
  | done n => exact ⟨rfl, by simp, rfl, rfl, rfl, by simp, by simp⟩
  | failed e =>
      rw [onProgress]
      split
      · exact ⟨rfl, fun _ same => by cases same; rfl, rfl, rfl, rfl, by simp, by simp⟩
      · exact ⟨rfl, fun _ same => by cases same; rfl, rfl, rfl, rfl, by simp, by simp⟩

theorem stageOf_setStage_self {id : Nat} {c : Call} (hc : s.call? id = some c) (stage : Stage) :
    (s.setStage id stage).stageOf id = some stage := by
  rw [stageOf_setStage, if_pos rfl, stageOf, hc]
  rfl

theorem onCallProgress_resumed {c : Call} (hc : s.call? c.id = some c) (p : Progress) :
    Resumed (.call c.id) s p (s.onCallProgress c p) := by
  have staged : ∀ {u : Session} (stage : Stage), u.calls = (s.setStage c.id stage).calls →
      u.stageOf c.id = some stage := fun stage calls =>
    (stageOf_congr calls c.id).trans (stageOf_setStage_self hc stage)
  cases p with
  | more a =>
      have goes : (s.onCallProgress c (.more a)).stageOf c.id = some (.attempting a) :=
        staged _ rfl
      refine ⟨?_, by simp, rfl, rfl, rfl, fun _ _ => rfl, fun _ _ => rfl⟩
      rw [attemptBy, goes]
      rfl
  | done n =>
      have ended : (s.onCallProgress c (.done n)).stageOf c.id = some (.over .done) := staged _ rfl
      refine ⟨?_, by simp, rfl, rfl, rfl, by simp, by simp⟩
      rw [attemptBy, ended]
      rfl
  | failed e =>
      have ended : (s.onCallProgress c (.failed e)).stageOf c.id = some (.over (.failed e)) := by
        refine staged _ ?_
        rw [onCallProgress]
        split <;> rfl
      refine ⟨?_, fun _ same => ?_, ?_, ?_, ?_, by simp, by simp⟩
      · rw [attemptBy, ended]
        rfl
      · cases same
        rw [failureBy, ended]
        rfl
      · rw [onCallProgress]
        split <;> rfl
      · rw [onCallProgress]
        split <;> rfl
      · rw [onCallProgress]
        split <;> rfl

theorem step_own (making : s.attemptBy w = some a) (b : Branch) :
    (s.attemptStep a b = none ∧ s.step (w.move b) = none) ∨
      ∃ s' p t, s.attemptStep a b = some (s', p) ∧ s.step (w.move b) = some t ∧
        Resumed w s' p t := by
  cases w with
  | worker =>
      obtain ⟨k, hw⟩ := attemptBy_worker making
      have step : s.step (.worker b) = (s.attemptStep a b).map fun r => r.1.onProgress k r.2 := by
        simp only [Session.step, workerStep, hw]
      cases attempted : s.attemptStep a b with
      | none => exact Or.inl ⟨rfl, by rw [Actor.move, step, attempted]; rfl⟩
      | some r =>
          obtain ⟨s', p⟩ := r
          refine Or.inr ⟨s', p, s'.onProgress k p, rfl, ?_, onProgress_resumed s' k p⟩
          rw [Actor.move, step, attempted]
          rfl
  | call id =>
      obtain ⟨c, hc, hs⟩ := attemptBy_call making
      obtain ⟨_, rfl⟩ := call?_some hc
      have step : s.step (.call c.id b)
          = (s.attemptStep a b).map fun r => r.1.onCallProgress c r.2 := by
        simp only [Session.step, hc, Option.bind_some, callStep, hs]
      cases attempted : s.attemptStep a b with
      | none => exact Or.inl ⟨rfl, by rw [Actor.move, step, attempted]; rfl⟩
      | some r =>
          obtain ⟨s', p⟩ := r
          have calls : s'.calls = s.calls := (attemptStep_deed attempted).frame.calls
          have here : s'.call? c.id = some c := by rw [call?, calls]; exact hc
          refine Or.inr ⟨s', p, s'.onCallProgress c p, rfl, ?_, onCallProgress_resumed here p⟩
          rw [Actor.move, step, attempted]
          rfl

theorem own_step (making : s.attemptBy w = some a) (ht : s.step (w.move b) = some t) :
    ∃ s' p, s.attemptStep a b = some (s', p) ∧ Resumed w s' p t := by
  rcases step_own making b with ⟨_, none⟩ | ⟨s', p, t', attempted, step, resumed⟩
  · rw [none] at ht
    cases ht
  · cases step.symm.trans ht
    exact ⟨s', p, attempted, resumed⟩

structure Undisturbed (w : Actor) (s : Session) (m : Move) (t : Session) : Prop where
  attempt : t.attemptBy w = s.attemptBy w
  unread : ∀ n, t.unread n = s.unread n ++ m.brings n
  now : t.now = s.now + m.span

theorem Undisturbed.silent (attempt : t.attemptBy w = s.attemptBy w) (links : t.links = s.links)
    (now : t.now = s.now + m.span) (silent : ∀ n, m.brings n = []) : Undisturbed w s m t :=
  ⟨attempt, fun n => by rw [silent, List.append_nil, unread_of_links links], now⟩

theorem CallDeed.aside {c : Call} {es : List Event} (deed : CallDeed s c es t)
    (calm : ∀ a, c.stage ≠ .attempting a) :
    t.links = s.links ∧ t.worker = s.worker ∧
      ∃ stage, t.calls = (s.setStage c.id stage).calls := by
  obtain ⟨stage, calls, _⟩ := deed.next
  cases deed with
  | attempted hs => exact absurd hs (calm _)
  | _ => exact ⟨rfl, rfl, stage, calls⟩

theorem Orderly.one_attempt (ho : s.Orderly) (making : s.attemptBy w = some a) {c : Call}
    (hc : c ∈ s.calls) {a' : Attempt} (hs : c.stage = .attempting a') : w = .call c.id := by
  cases w with
  | worker =>
      obtain ⟨k, hw⟩ := attemptBy_worker making
      have idle := ho.dialling c hc a' hs
      rw [hw] at idle
      cases idle
  | call id =>
      obtain ⟨d, found, hs'⟩ := attemptBy_call making
      obtain ⟨hd, rfl⟩ := call?_some found
      rw [ho.eq_of_attempting hc hd (ho.alone_of_attempting hc hs) hs']

structure CutShort (w : Actor) (m : Move) (t : Session) : Prop where
  actor : w = .worker
  move : ∃ id, m = .cutOff id
  idle : t.worker = .idle

theorem step_cutOff {id : Nat} (ho : s.Orderly) (making : s.attemptBy w = some a)
    (ht : s.step (.cutOff id) = some t) : CutShort w (.cutOff id) t := by
  cases step_deed ht with
  | cutOff _ _ _ busy =>
      cases w with
      | worker => exact ⟨rfl, ⟨_, rfl⟩, rfl⟩
      | call j =>
          obtain ⟨c, hc, hs⟩ := attemptBy_call making
          exact absurd (ho.dialling c (call?_some hc).1 a hs) busy

theorem CutShort.ended (cut : CutShort w m t) : t.attemptBy w = none := by
  rw [cut.actor, attemptBy, cut.idle]
  rfl

theorem attemptBy_invoked (making : s.attemptBy w = some a) (new : Call) :
    attemptBy { s with calls := s.calls ++ [new] } w = s.attemptBy w := by
  cases w with
  | worker => rfl
  | call id =>
      obtain ⟨c, hc, _⟩ := attemptBy_call making
      rw [call?] at hc
      rw [attemptBy, attemptBy, stageOf, stageOf, call?, call?, List.find?_append, hc]
      rfl

theorem attemptBy_abandoned (ho : s.Orderly) (making : s.attemptBy w = some a) {c : Call}
    (hc : c ∈ s.calls) (hs : c.stage = .begun) (stage : Stage) :
    (s.setStage c.id stage).attemptBy w = s.attemptBy w := by
  cases w with
  | worker => rfl
  | call j =>
      rw [attemptBy, attemptBy, stageOf_setStage]
      split
      · next same =>
          obtain ⟨d, found, hs'⟩ := attemptBy_call making
          obtain ⟨hd, rfl⟩ := call?_some found
          rw [ho.locking.eq_of_id hd hc same, hs] at hs'
          cases hs'
      · rfl

theorem attemptBy_turned {c : Call} {stage : Stage} (apart : w ≠ .call c.id)
    (worker : t.worker = s.worker) (calls : t.calls = (s.setStage c.id stage).calls) :
    t.attemptBy w = s.attemptBy w := by
  cases w with
  | worker => rw [attemptBy, attemptBy, worker]
  | call j =>
      have apart : j ≠ c.id := fun same => apart (congrArg Actor.call same)
      rw [attemptBy, stageOf_congr calls, stageOf_setStage, if_neg apart]
      rfl

theorem unread_arrived {k : Nat} {a' : Arrival} (ht : s.step (.arrive k a') = some t) (n : Nat) :
    t.unread n = s.unread n ++ (Move.arrive k a').brings n := by
  rw [unread_arrive ht, Move.brings]
  by_cases here : n = k
  · rw [if_pos here, if_pos here.symm]
  · rw [if_neg here, if_neg (Ne.symm here), List.append_nil]

theorem step_others (ho : s.Orderly) (making : s.attemptBy w = some a)
    (other : ∀ b, m ≠ w.move b) (uncut : ∀ id, m ≠ .cutOff id) (ht : s.step m = some t) :
    Undisturbed w s m t := by
  have now : t.now = s.now + m.span := by
    cases m with
    | elapse span =>
        cases ht
        rfl
    | _ => exact (step_now ht).resolve_left (by simp)
  cases m with
  | elapse span =>
      cases ht
      exact .silent rfl rfl rfl fun _ => rfl
  | invoke a' =>
      cases step_deed ht with
      | invoked => exact .silent (attemptBy_invoked making _) rfl now fun _ => rfl
  | abandon id =>
      cases step_deed ht with
      | abandoned hc _ hs =>
          exact .silent (attemptBy_abandoned ho making hc hs _) rfl now fun _ => rfl
  | call id b =>
      cases step_deed ht with
      | @called c _ _ _ hc deed =>
          have apart : w ≠ .call c.id := fun same => other b (by rw [same]; rfl)
          have calm : ∀ a, c.stage ≠ .attempting a := fun _ hs =>
            apart (ho.one_attempt making hc hs)
          obtain ⟨links, worker, stage, calls⟩ := deed.aside calm
          exact .silent (attemptBy_turned apart worker calls) links now fun _ => rfl
  | cutOff id => exact absurd rfl (uncut id)
  | worker b =>
      cases w with
      | worker => exact absurd rfl (other b)
      | call id =>
          obtain ⟨c, hc, hs⟩ := attemptBy_call making
          have idle := ho.dialling c (call?_some hc).1 a hs
          cases b <;> simp only [Session.step, workerStep, idle, reduceCtorEq] at ht
  | answer k u =>
      cases step_deed ht with
      | answered =>
          refine ⟨attemptBy_congr rfl rfl, fun n => ?_, now⟩
          rw [show (Move.answer k u).brings n = [] from rfl, List.append_nil]
          exact unread_onLink (fun _ => rfl) fun _ => rfl
  | arrive k a' =>
      have unread := unread_arrived ht
      cases step_deed ht with
      | arrived => exact ⟨attemptBy_congr rfl rfl, unread, now⟩

theorem step_join {id d : Nat} {cmd : Command} (joins : s.stageOf id = some (.joining cmd d))
    (idle : s.worker = .idle) :
    ∃ t, s.step (.call id .proceed) = some t ∧ t.now = s.now ∧
      t.stageOf id = some (if cmd = .detach then .attempting .starting else .over .done) := by
  obtain ⟨c, hc, hst⟩ := Option.map_eq_some_iff.mp joins
  have moved : s.step (.call id .proceed) = s.join id cmd := by
    obtain ⟨_, rfl⟩ := call?_some hc
    simp only [step, hc, Option.bind_some, callStep, hst]
  cases cmd with
  | detach =>
      refine ⟨_, moved.trans (if_pos idle), rfl, ?_⟩
      exact stageOf_setStage_self (s := s.withPhase .connecting) hc _
  | close | subscribe x | unsubscribe x =>
      refine ⟨_, moved.trans (if_pos idle), rfl, ?_⟩
      exact stageOf_setStage_self (s := s.withPhase .closed) hc _

theorem step_abortWorker {id d : Nat} {cmd : Command}
    (joins : s.stageOf id = some (.joining cmd d)) (late : d ≤ s.now) (busy : s.worker ≠ .idle) :
    s.step (.cutOff id) = some s.abortWorker := by
  obtain ⟨c, hc, hst⟩ := Option.map_eq_some_iff.mp joins
  simp only [step, hc, Option.bind_some, Session.cutOff, hst]
  exact if_pos ⟨late, busy⟩

-- However the worker hangs, a call that stops it goes on by its deadline.
theorem joining_ends {id d : Nat} {cmd : Command} (joins : s.stageOf id = some (.joining cmd d)) :
    ∃ ms t, Run s ms t ∧ ms.Sublist [.elapse (d - s.now), .cutOff id, .call id .proceed] ∧
      t.now ≤ max s.now d ∧
      t.stageOf id = some (if cmd = .detach then .attempting .starting else .over .done) := by
  by_cases idle : s.worker = .idle
  · obtain ⟨t, joined, now, stage⟩ := step_join joins idle
    exact ⟨_, t, .cons joined (.nil t), by simp, by omega, stage⟩
  · obtain ⟨u, hu⟩ : ∃ u, u = { s with now := s.now + (d - s.now) } := ⟨_, rfl⟩
    have later : u.now = s.now + (d - s.now) := by rw [hu]
    have waited : s.step (.elapse (d - s.now)) = some u := by rw [hu, step]
    have joins : u.stageOf id = some (.joining cmd d) := by rw [hu]; exact joins
    have busy : u.worker ≠ .idle := by rw [hu]; exact idle
    have cut := step_abortWorker joins (by omega) busy
    obtain ⟨t, joined, now, stage⟩ := step_join (s := u.abortWorker) joins rfl
    refine ⟨_, t, .cons waited (.cons cut (.cons joined (.nil t))), .refl _, ?_, stage⟩
    have kept : u.abortWorker.now = u.now := rfl
    omega

-- The worker never looks at the command that a reconnect has sent it.
example : ((visitor .standard).play (connecting ++
    [.invoke .reconnect, .call 1 .proceed, .call 1 .proceed, .call 1 .proceed, .call 1 .proceed,
      .call 1 .proceed, .elapse stopTimeout, .cutOff 1, .call 1 .proceed, .call 1 .proceed,
      .answer 2 .accepted, .call 1 .read, .call 1 .proceed, .call 1 .proceed])).map (fun t =>
        (t.phase, t.links.map Link.live, t.stageOf 1))
      = some (.ready, [false, true], some (.over .done)) := rfl

end Session

end MarketWire.Stream
