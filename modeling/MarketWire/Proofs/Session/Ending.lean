import MarketWire.Proofs.Session.Closing
import MarketWire.Proofs.Session.Delivery
import MarketWire.Proofs.Session.Record
import MarketWire.Proofs.Session.Work

namespace MarketWire.Stream

inductive Tiding where
  | accepted (m : Message)
  | dropped (m : Message)
  | returned (m : Message)
  | ended (call : Nat)
  | gaveUp
  | failed (call : Nat)
  | revived (call : Nat)
  deriving DecidableEq

def Tiding.entered? : Tiding → Option Message
  | .accepted m => some m
  | _ => none

def Tiding.departed? : Tiding → Option Message
  | .dropped m => some m
  | .returned m => some m
  | _ => none

def entered (log : List Tiding) : List Message := log.filterMap Tiding.entered?

def departed (log : List Tiding) : List Message := log.filterMap Tiding.departed?

def Silenced (log : List Tiding) : Prop :=
  Since (fun _ e => e = .gaveUp ∨ ∃ call, e = .failed call) (fun e => ∃ call, e = .revived call) log

theorem silenced_append {log : List Tiding} {e : Tiding} :
    Silenced (log ++ [e]) ↔
      (e = .gaveUp ∨ ∃ call, e = .failed call) ∨ (¬∃ call, e = .revived call) ∧ Silenced log :=
  since_append

theorem entered_append (log : List Tiding) (e : Tiding) :
    entered (log ++ [e]) = entered log ++ e.entered?.toList := by
  rw [entered, List.filterMap_append, List.filterMap_cons]
  cases e <;> rfl

theorem departed_append (log : List Tiding) (e : Tiding) :
    departed (log ++ [e]) = departed log ++ e.departed?.toList := by
  rw [departed, List.filterMap_append, List.filterMap_cons]
  cases e <;> rfl

namespace Session

variable {s t : Session} {c : Call} {h : List Event}

def offerTidings (s : Session) (m : Message) : List Tiding :=
  match s.mailbox.offer m with
  | .taken _ => (s.mailbox.displaced.map .dropped).toList ++ [.accepted m]
  | _ => []

def receiveTidings (s : Session) (id : Nat) : List Tiding :=
  match s.mailbox.take with
  | .item m _ => [.returned m]
  | .ended => [.ended id]
  | .wait => []

def callTidings (s : Session) (c : Call) (b : Branch) : List Tiding :=
  match c.stage, b with
  | .begun, .proceed => if c.action = .receive then s.receiveTidings c.id else []
  | .attempting a, b =>
      if c.action = .connect then []
      else
        match s.attemptStep a b with
        | some (_, .done _) => [.revived c.id]
        | some (_, .failed _) => [.failed c.id]
        | _ => []
  | _, _ => []

def workerTidings (s : Session) (b : Branch) : List Tiding :=
  match s.worker, b with
  | .pushing _ m _, .proceed => s.offerTidings m
  | .deciding attempts _, .proceed => if s.settings.backoff.allows attempts then [] else [.gaveUp]
  | .attempting _ a, b =>
      match s.attemptStep a b with
      | some (_, .failed e) => if e.isAuth then [.gaveUp] else []
      | _ => []
  | _, _ => []

def tidings (s : Session) : Move → List Tiding
  | .call id b => (s.call? id).elim [] fun c => s.callTidings c b
  | .worker b => s.workerTidings b
  | _ => []

inductive Tells (s : Session) : List Tiding → Session → Prop where
  | kept {t : Session} : t.mailbox = s.mailbox → Tells s [] t
  | took {m : Message} {t : Session} :
      s.worker ≠ .idle → s.mailbox.offer m = .taken t.mailbox →
      Tells s ((s.mailbox.displaced.map .dropped).toList ++ [.accepted m]) t
  | gave {m : Message} {t : Session} : s.mailbox.take = .item m t.mailbox → Tells s [.returned m] t
  | ended {id : Nat} {t : Session} :
      s.mailbox.take = .ended → t.mailbox = s.mailbox → Tells s [.ended id] t
  | gaveUp {t : Session} :
      s.worker ≠ .idle → t.mailbox = s.mailbox.finish → Tells s [.gaveUp] t
  | failed {id : Nat} {t : Session} :
      s.opened = true → t.mailbox = s.mailbox.finish → Tells s [.failed id] t
  | revived {id n : Nat} {k : Keepalive} {t : Session} :
      t.mailbox = s.mailbox.reopen.1 → t.worker = .reading n k → Tells s [.revived id] t

theorem reopen_running {q : Mailbox Message} (unclosed : q.closed = false)
    (unfinished : q.finished = false) : q.reopen.1 = q := by
  obtain ⟨items, capacity, overflow, finished, closed, dropped⟩ := q
  cases unclosed
  cases unfinished
  rfl

theorem receive_tells {id : Nat} (ht : s.receive id = some t) :
    Tells s (s.receiveTidings id) t := by
  rw [receive] at ht
  rw [receiveTidings]
  cases hq : s.mailbox.take with
  | item m q =>
      rw [hq] at ht
      cases ht
      exact .gave hq
  | ended =>
      rw [hq] at ht
      cases ht
      exact .ended hq rfl
  | wait =>
      rw [hq] at ht
      cases ht

def Untold (s : Session) (c : Call) (t : Session) : Prop :=
  ∃ stage, stage ≠ .over .ended ∧ t.calls = (s.setStage c.id stage).calls

theorem begin_other (ht : s.begin c.id c.action = some t) (other : c.action ≠ .receive) :
    t.mailbox = s.mailbox ∧ s.Untold c t := by
  have subscribed : ∀ x : Channel.Subscription, (s.beginSubscribe c.id x).mailbox = s.mailbox ∧
      s.Untold c (s.beginSubscribe c.id x) := by
    intro x
    simp only [beginSubscribe]
    split
    · exact ⟨rfl, _, by simp, rfl⟩
    · split <;> exact ⟨rfl, _, by simp, rfl⟩
  have locked : ∀ a : Action, (s.beginLocked c.id a).mailbox = s.mailbox ∧
      s.Untold c (s.beginLocked c.id a) := by
    intro a
    simp only [beginLocked]
    split <;> exact ⟨rfl, _, by simp, rfl⟩
  cases ha : c.action with
  | receive => exact absurd ha other
  | connect =>
      simp only [Session.begin, ha, Option.some.injEq] at ht
      subst ht
      exact ⟨rfl, _, by simp, rfl⟩
  | follow f =>
      simp only [Session.begin, ha] at ht
      split at ht <;> cases ht
      · exact ⟨rfl, _, by simp, rfl⟩
      · exact subscribed _
  | subscribe x =>
      simp only [Session.begin, ha, Option.some.injEq] at ht
      subst ht
      exact subscribed x
  | unsubscribe x =>
      simp only [Session.begin, ha, Option.some.injEq] at ht
      subst ht
      exact locked _
  | reconnect =>
      simp only [Session.begin, ha, Option.some.injEq] at ht
      subst ht
      exact locked _
  | close =>
      simp only [Session.begin, ha] at ht
      split at ht <;> cases ht <;> exact ⟨rfl, _, by simp, rfl⟩

theorem callStep_told {b : Branch} (ht : s.callStep c b = some t) :
    s.Untold c t ∨
      .ended c.id ∈ s.callTidings c b ∧ t.calls = (s.setStage c.id (.over .ended)).calls := by
  cases hst : c.stage with
  | begun =>
      cases b <;> simp only [callStep, hst, reduceCtorEq] at ht
      by_cases receives : c.action = .receive
      · simp only [receives, Session.begin, receive] at ht
        split at ht
        · cases ht
          exact Or.inl ⟨_, by simp, rfl⟩
        · next hq =>
            cases ht
            refine Or.inr ⟨?_, rfl⟩
            simp [callTidings, hst, receives, receiveTidings, hq]
        · cases ht
      · exact Or.inl (begin_other ht receives).2
  | attempting a =>
      simp only [callStep, hst] at ht
      obtain ⟨⟨s', p⟩, step, rfl⟩ := Option.map_eq_some_iff.mp ht
      have calls := (attemptStep_deed step).frame.calls
      left
      cases p with
      | more b => exact ⟨.attempting b, by simp, by simp [onCallProgress, setStage, calls]⟩
      | done n =>
          refine ⟨.over .done, by simp, ?_⟩
          simp [onCallProgress, finishCall, setStage, startWorker, calls]
      | failed e =>
          refine ⟨.over (.failed e), by simp, ?_⟩
          simp only [onCallProgress]
          split <;> simp [finishCall, setStage, withPhase, calls]
  | _ =>
      left
      have deed := callStep_deed ht
      generalize s.callEvents c b = es at deed
      cases deed with
      | declined before => simp [hst] at before
      | attempted before => simp [hst] at before
      | _ => exact ⟨_, by simp, rfl⟩

theorem step_told {m : Move} (hl : s.Locking) (ht : s.step m = some t) (hc : c ∈ t.calls)
    (told : c.stage = .over .ended) : c ∈ s.calls ∨ .ended c.id ∈ s.tidings m := by
  cases m with
  | call id b =>
      obtain ⟨d, found, step⟩ := Option.bind_eq_some_iff.mp ht
      obtain ⟨hd, rfl⟩ := call?_some found
      simp only [tidings, found, Option.elim_some]
      rcases callStep_told step with ⟨stage, other, calls⟩ | ⟨ended, calls⟩
      · rcases (hl.mem_turned hd calls).mp hc with rfl | ⟨hc, _⟩
        · exact absurd told other
        · exact Or.inl hc
      · rcases (hl.mem_turned hd calls).mp hc with rfl | ⟨hc, _⟩
        · exact Or.inr ended
        · exact Or.inl hc
  | worker b =>
      have calls := ((workerStep_deed ht).frame).calls
      exact Or.inl (calls ▸ hc)
  | abandon id =>
      cases step_deed ht with
      | abandoned hd =>
          rcases (hl.mem_setStage hd).mp hc with rfl | ⟨hc, _⟩
          · cases told
          · exact Or.inl hc
  | invoke a =>
      cases step_deed ht
      rcases List.mem_append.mp hc with hc | hc
      · exact Or.inl hc
      · rw [List.mem_singleton.mp hc] at told
        cases told
  | cutOff id =>
      cases step_deed ht
      exact Or.inl hc
  | elapse span =>
      cases step_deed ht
      exact Or.inl hc
  | answer n u =>
      cases step_deed ht
      exact Or.inl hc
  | arrive n a =>
      cases step_deed ht
      exact Or.inl hc

theorem attempt_tells {a : Attempt} {b : Branch} {s' : Session} {p : Progress}
    (ho : s.Orderly) (hu : s.Unclosed) (fresh : s.opened = false → s.mailbox.finished = false)
    (hc : c ∈ s.calls) (ha : c.stage = .attempting a) (step : s.attemptStep a b = some (s', p)) :
    Tells s (s.callTidings c b) (s'.onCallProgress c p) := by
  have mailbox := (attemptStep_deed step).frame.mailbox
  simp only [callTidings, ha, step]
  cases p with
  | more a' =>
      split <;> exact .kept mailbox
  | done n =>
      have reopened : (s'.onCallProgress c (.done n)).mailbox = s.mailbox.reopen.1 :=
        congrArg (·.reopen.1) mailbox
      split
      · next connect =>
          have unopened := ho.unopened_of_connect hc connect (by simp [ha])
          exact .kept (reopened.trans (reopen_running hu.unclosed (fresh unopened)))
      · exact .revived reopened rfl
  | failed e =>
      simp only [onCallProgress]
      split
      · exact .kept mailbox
      · next other =>
          exact .failed (ho.opened_of_action hc other) (congrArg Mailbox.finish mailbox)

theorem callStep_tells {b : Branch} (ho : s.Orderly) (hu : s.Unclosed)
    (fresh : s.opened = false → s.mailbox.finished = false) (hc : c ∈ s.calls)
    (ht : s.callStep c b = some t) : Tells s (s.callTidings c b) t := by
  cases hst : c.stage with
  | begun =>
      cases b <;> simp only [callStep, hst, reduceCtorEq] at ht
      simp only [callTidings, hst]
      split
      · next receives =>
          rw [receives] at ht
          exact receive_tells ht
      · next other => exact .kept (begin_other ht other).1
  | attempting a =>
      simp only [callStep, hst] at ht
      obtain ⟨⟨s', p⟩, step, rfl⟩ := Option.map_eq_some_iff.mp ht
      exact attempt_tells ho hu fresh hc hst step
  | discarding =>
      have unclosing := hu.stage c hc
      rw [hst] at unclosing
      cases unclosing
  | _ =>
      have deed := callStep_deed ht
      generalize s.callEvents c b = es at deed
      simp only [callTidings, hst]
      cases deed with
      | received before | discarded before | attempted before => simp [hst] at before
      | _ => exact .kept rfl

theorem onCommand_mailbox {n : Nat} {k : Keepalive} {cmd : Command} :
    (s.onCommand n k cmd).mailbox = s.mailbox := by
  cases cmd with
  | subscribe x =>
      simp only [onCommand]
      split <;> rfl
  | unsubscribe x =>
      simp only [onCommand]
      split <;> rfl
  | close => rfl
  | detach => rfl

theorem onArrival_mailbox {n : Nat} {k : Keepalive} {a : Arrival} :
    (s.onArrival n k a).mailbox = s.mailbox := by
  cases a with
  | text content =>
      simp only [onArrival, onText]
      split <;> rfl
  | _ => rfl

theorem Work.tells {b : Branch} (hs : s.Conduct h) (hu : s.Unclosed) (work : Work s b t) :
    Tells s (s.workerTidings b) t := by
  cases work with
  | read hw hr =>
      simp only [workerTidings, hw]
      exact .kept (onArrival_mailbox.trans (nextArrival_mailbox hr))
  | command hw hn =>
      simp only [workerTidings, hw]
      exact .kept (onCommand_mailbox.trans (nextCommand_mailbox hn))
  | wake hw =>
      simp only [workerTidings, hw, onWake]
      split <;> exact .kept rfl
  | push hw ht =>
      have busy : s.worker ≠ .idle := by simp [hw]
      simp only [workerTidings, hw, offerTidings]
      simp only [onPush] at ht
      split at ht <;> cases ht
      · next hq =>
          rw [hq]
          exact .took busy hq
      · next hq =>
          rw [hq]
          exact .kept rfl
  | stop hw =>
      rename_i n why
      simp only [workerTidings, hw]
      cases why with
      | closed => exact absurd hw (hu.detached n)
      | detached => exact .kept rfl
  | decide hw =>
      simp only [workerTidings, hw, Session.decide]
      split
      · exact .kept rfl
      · exact .gaveUp (by simp [hw]) rfl
  | drain hw hn =>
      rename_i attempts wakeAt cmd s'
      have running : s.worker.isStopping = false := by rw [hw]; rfl
      obtain ⟨rest, buffer, rfl⟩ := hu.command hs.orderly (by simp [hw]) running hn
      simp only [workerTidings, hw]
      cases cmd with
      | close => exact absurd (buffer ▸ List.mem_cons_self) hu.buffer
      | _ => exact .kept rfl
  | redial hw =>
      simp only [workerTidings, hw]
      exact .kept rfl
  | attempt hw step =>
      rename_i attempts a s' p
      have mailbox := (attemptStep_deed step).frame.mailbox
      simp only [workerTidings, hw, step]
      cases p with
      | more a' => exact .kept mailbox
      | done n => exact .kept mailbox
      | failed e =>
          simp only [onProgress]
          split
          · exact .gaveUp (by simp [hw]) (congrArg Mailbox.finish mailbox)
          · exact .kept mailbox

theorem step_tells {m : Move} (hs : s.Conduct h) (hu : s.Unclosed)
    (fresh : s.opened = false → s.mailbox.finished = false) (ht : s.step m = some t) :
    Tells s (s.tidings m) t := by
  cases m with
  | call id b =>
      obtain ⟨c, found, step⟩ := Option.bind_eq_some_iff.mp ht
      obtain ⟨hc, rfl⟩ := call?_some found
      simp only [tidings, found, Option.elim_some]
      exact callStep_tells hs.orderly hu fresh hc step
  | worker b => exact (workerStep_work ht).tells hs hu
  | abandon id =>
      cases step_deed ht with
      | abandoned => exact .kept rfl
  | cutOff id =>
      cases step_deed ht
      exact .kept rfl
  | elapse span =>
      cases step_deed ht
      exact .kept rfl
  | invoke a =>
      cases step_deed ht
      exact .kept rfl
  | answer n u =>
      cases step_deed ht
      exact .kept rfl
  | arrive n a =>
      cases step_deed ht
      exact .kept rfl

def Lawful (before : List Tiding) : Tiding → Prop
  | .accepted _ => ¬Silenced before
  | .ended _ => Silenced before ∧ entered before = departed before
  | _ => True

structure Ending (s : Session) (log : List Tiding) : Prop where
  fresh : s.opened = false → s.mailbox.finished = false
  silenced : s.mailbox.finished = true ↔ Silenced log
  kept : entered log = departed log ++ s.mailbox.items
  lawful : Throughout Lawful log
  undropped : s.mailbox.overflow = .wait → ∀ m, .dropped m ∉ log

theorem ending_initial (p : Profile) (seconds : List Int) (draws : List Float) :
    (initial p seconds draws).Ending [] where
  fresh _ := rfl
  silenced := ⟨fun h => (by cases h), fun h => absurd h not_since_nil⟩
  kept := rfl
  lawful := throughout_nil
  undropped _ _ := List.not_mem_nil

theorem Ending.append {log : List Tiding} {e : Tiding} (he : s.Ending log)
    (fresh : t.opened = false → t.mailbox.finished = false)
    (silenced : t.mailbox.finished = true ↔ Silenced (log ++ [e]))
    (kept : s.mailbox.items ++ e.entered?.toList = e.departed?.toList ++ t.mailbox.items)
    (law : Lawful log e) (overflow : t.mailbox.overflow = s.mailbox.overflow)
    (undropped : s.mailbox.overflow = .wait → ∀ m, e ≠ .dropped m) : t.Ending (log ++ [e]) := by
  refine ⟨fresh, silenced, ?_, he.lawful.append law, ?_⟩
  · rw [entered_append, departed_append, he.kept, List.append_assoc, kept, List.append_assoc]
  · intro waits m hm
    rw [overflow] at waits
    rcases List.mem_append.mp hm with hm | hm
    · exact he.undropped waits m hm
    · exact undropped waits m (List.mem_singleton.mp hm).symm

theorem Ending.congr {log : List Tiding} (he : s.Ending log)
    (fresh : t.opened = false → t.mailbox.finished = false) (same : t.mailbox = s.mailbox) :
    t.Ending log := by
  refine ⟨fresh, ?_, ?_, he.lawful, ?_⟩
  · rw [same]
    exact he.silenced
  · rw [same]
    exact he.kept
  · rw [same]
    exact he.undropped

theorem Ending.finish {log : List Tiding} {e : Tiding} (he : s.Ending log)
    (fresh : t.opened = false → t.mailbox.finished = false)
    (silences : e = .gaveUp ∨ ∃ call, e = .failed call) (finished : t.mailbox = s.mailbox.finish) :
    t.Ending (log ++ [e]) := by
  have silenced : t.mailbox.finished = true ↔ Silenced (log ++ [e]) := by
    rw [finished, silenced_append]
    exact ⟨fun _ => Or.inl silences, fun _ => rfl⟩
  have overflow : t.mailbox.overflow = s.mailbox.overflow := by rw [finished, Mailbox.finish]
  have items : t.mailbox.items = s.mailbox.items := by rw [finished, Mailbox.finish]
  have kept : s.mailbox.items ++ [] = [] ++ t.mailbox.items := by rw [items, List.append_nil]; rfl
  rcases silences with rfl | ⟨call, rfl⟩
  · exact he.append fresh silenced kept trivial overflow (by simp)
  · exact he.append fresh silenced kept trivial overflow (by simp)

theorem Ending.accept {log : List Tiding} {m : Message} (he : s.Ending log)
    (fresh : t.opened = false → t.mailbox.finished = false)
    (unfinished : s.mailbox.finished = false) (taken : s.mailbox.offer m = .taken t.mailbox) :
    t.Ending (log ++ ((s.mailbox.displaced.map .dropped).toList ++ [.accepted m])) := by
  obtain ⟨items, finished, overflow⟩ := Mailbox.offer_displaced taken
  have sounding : ¬Silenced log := by
    intro silenced
    rw [he.silenced.mpr silenced] at unfinished
    cases unfinished
  cases hd : s.mailbox.displaced with
  | none =>
      rw [hd] at items
      refine he.append fresh ?_ items sounding overflow (by simp)
      rw [finished, unfinished, silenced_append]
      simpa using sounding
  | some x =>
      obtain ⟨drops, first⟩ := Mailbox.displaced_eq_some hd
      -- No state of the run has the queue as it is between the drop and the arrival.
      let u : Session := { s with mailbox := { s.mailbox with items := s.mailbox.items.tail } }
      have silenced : ¬Silenced (log ++ [.dropped x]) := by
        rw [silenced_append]
        simpa using sounding
      have dropped : u.Ending (log ++ [.dropped x]) := by
        have left : s.mailbox.items ++ [] = [x] ++ u.mailbox.items := by
          rw [List.append_nil]
          exact first
        refine he.append he.fresh ?_ left trivial rfl fun waits => ?_
        · exact ⟨fun h => absurd h (by simp [u, unfinished]), fun h => absurd h silenced⟩
        · rw [drops] at waits
          cases waits
      rw [hd, first] at items
      rw [Option.map_some, Option.toList_some, ← List.append_assoc]
      refine dropped.append fresh ?_ (List.cons_inj_right x |>.mp items) silenced overflow (by simp)
      rw [finished, unfinished, silenced_append]
      simpa using silenced

theorem Tells.ending {log es : List Tiding} (he : s.Ending log) (hu : s.Unclosed)
    (fresh : t.opened = false → t.mailbox.finished = false) (tells : Tells s es t) :
    t.Ending (log ++ es) := by
  cases tells with
  | kept same =>
      rw [List.append_nil]
      exact he.congr fresh same
  | took busy taken => exact he.accept fresh (hu.unfinished busy) taken
  | gave taken =>
      obtain ⟨items, same⟩ := Mailbox.take_item taken
      refine he.append fresh ?_ ?_ trivial (by rw [same]) (by simp)
      · rw [same, silenced_append]
        simpa using he.silenced
      · rw [items]
        exact List.append_nil _
  | ended drained same =>
      obtain ⟨finished, items⟩ := Mailbox.take_drained hu.unclosed drained
      have law : Silenced log ∧ entered log = departed log := by
        refine ⟨he.silenced.mp finished, ?_⟩
        rw [he.kept, items, List.append_nil]
      refine he.append fresh ?_ ?_ law (by rw [same]) (by simp)
      · rw [same, silenced_append]
        simpa using he.silenced
      · rw [same]
        exact List.append_nil _
  | gaveUp _ finished => exact he.finish fresh (Or.inl rfl) finished
  | failed _ finished => exact he.finish fresh (Or.inr ⟨_, rfl⟩) finished
  | @revived id _ _ _ reopened _ =>
      have running : t.mailbox = { s.mailbox with finished := false } := by
        rw [reopened, Mailbox.reopen, if_neg (by simp [hu.unclosed])]
      refine he.append fresh ?_ ?_ trivial (by rw [running]) (by simp)
      · rw [running, silenced_append]
        simp
      · rw [running]
        exact List.append_nil _

theorem Tells.fresh {es : List Tiding} (ho : s.Orderly)
    (fresh : s.opened = false → s.mailbox.finished = false) (tells : Tells s es t)
    (unopened : s.opened = false) : t.mailbox.finished = false := by
  have unfinished := fresh unopened
  cases tells with
  | kept same => rw [same, unfinished]
  | took _ taken => rw [(Mailbox.offer_displaced taken).2.1, unfinished]
  | gave taken => rw [(Mailbox.take_item taken).2, unfinished]
  | ended _ same => rw [same, unfinished]
  | gaveUp busy => exact absurd (ho.unopened unopened).1 busy
  | failed opened =>
      rw [unopened] at opened
      cases opened
  | revived reopened =>
      rw [reopened, Mailbox.reopen]
      split <;> first | exact unfinished | rfl

theorem Tells.overflow {es : List Tiding} (tells : Tells s es t) :
    t.mailbox.overflow = s.mailbox.overflow := by
  cases tells with
  | kept same => rw [same]
  | took _ taken => exact (Mailbox.offer_displaced taken).2.2
  | gave taken => rw [(Mailbox.take_item taken).2]
  | ended _ same => rw [same]
  | gaveUp _ finished => rw [finished, Mailbox.finish]
  | failed _ finished => rw [finished, Mailbox.finish]
  | revived reopened =>
      rw [reopened, Mailbox.reopen]
      split <;> rfl

theorem Ending.step {log : List Tiding} {m : Move} (hs : s.Conduct h) (hu : s.Unclosed)
    (he : s.Ending log) (ht : s.step m = some t) : t.Ending (log ++ s.tidings m) := by
  have tells := step_tells hs hu he.fresh ht
  refine tells.ending he hu fun unopened => tells.fresh hs.orderly he.fresh ?_
  cases opened : s.opened with
  | false => rfl
  | true =>
      rw [(step_lasting ht).1 opened] at unopened
      cases unopened

theorem Run.ending {p : Profile} {seconds : List Int} {draws : List Float} {ms : List Move}
    (run : Run (initial p seconds draws) ms t) (unclosed : .invoke .close ∉ ms) :
    t.Unclosed ∧ t.Ending ((initial p seconds draws).record tidings ms) ∧
      t.mailbox.overflow = t.settings.overflow ∧
      ∀ c ∈ t.calls, c.stage = .over .ended →
        .ended c.id ∈ (initial p seconds draws).record tidings ms := by
  let I : Session → List Tiding → Prop := fun s log =>
    s.Unclosed ∧ s.Ending log ∧ s.mailbox.overflow = s.settings.overflow ∧
      ∀ c ∈ s.calls, c.stage = .over .ended → .ended c.id ∈ log
  have start : I (initial p seconds draws) [] :=
    ⟨unclosed_initial p seconds draws, ending_initial p seconds draws, rfl,
      fun c hc => absurd hc List.not_mem_nil⟩
  refine run.keeps_record (P := (· ≠ .invoke .close)) (J := Conduct) (I := I) (h := [])
    (fun _ conduct first => conduct.step first) ?_ (fun m hm e => unclosed (e ▸ hm))
    (conduct_initial p seconds draws) start
  rintro s t m h log open' conduct ⟨hu, he, overflow, told⟩ first
  have settings : t.settings = s.settings := congrArg Profile.settings (step_profile first)
  have policy := (step_tells conduct hu he.fresh first).overflow
  refine ⟨hu.step conduct open' first, he.step conduct hu first,
    policy.trans (overflow.trans (congrArg Settings.overflow settings.symm)), ?_⟩
  intro c hc told'
  rcases step_told conduct.orderly.locking first hc told' with before | now
  · exact List.mem_append_left _ (told c before told')
  · exact List.mem_append_right _ now

theorem Ending.drained {log es : List Tiding} (hs : s.Ending log) (ht : t.Ending (log ++ es))
    (silenced : Silenced log) (empty : s.mailbox.items = [])
    (unrevived : ∀ id, .revived id ∉ es) : Silenced (log ++ es) ∧ t.mailbox.items = [] := by
  have lasting : ∀ ds, (∀ e ∈ ds, e ∈ es) → Silenced (log ++ ds) := by
    intro ds sub
    refine silenced.append fun e he => ?_
    rintro ⟨id, rfl⟩
    exact unrevived id (sub _ he)
  have unentered : entered es = [] := by
    refine List.filterMap_eq_nil_iff.mpr fun e he => ?_
    obtain ⟨ds, rest, rfl⟩ := List.append_of_mem he
    have law := ht.lawful (log ++ ds) e rest (by simp)
    cases e with
    | accepted m => exact absurd (lasting ds fun e he => List.mem_append_left _ he) law
    | _ => rfl
  have all : entered log ++ entered es = departed log ++ departed es ++ t.mailbox.items := by
    rw [entered, entered, departed, departed, ← List.filterMap_append, ← List.filterMap_append]
    exact ht.kept
  rw [unentered, hs.kept, empty, List.append_nil, List.append_nil, List.append_assoc,
    List.self_eq_append_right, List.append_eq_nil_iff] at all
  exact ⟨lasting es fun _ => id, all.2⟩

theorem Conduct.steps_receive (hs : s.Conduct h) (hc : c ∈ s.calls) (receives : c.action = .receive)
    (begun : c.stage = .begun) : s.step (.call c.id .proceed) = s.receive c.id := by
  have found : s.call? c.id = some c := by
    obtain ⟨d, hd⟩ : ∃ d, s.call? c.id = some d :=
      Option.isSome_iff_exists.mp (List.find?_isSome.mpr ⟨c, hc, by simp⟩)
    obtain ⟨hm, same⟩ := call?_some hd
    rw [hd, hs.orderly.locking.eq_of_id hm hc same]
  simp [Session.step, found, callStep, begun, receives, Session.begin]

structure Ends (s : Session) (log : List Tiding) : Prop where
  told : ∀ c ∈ s.calls, c.stage = .over .ended → .ended c.id ∈ log
  lawful : Throughout Lawful log
  kept : entered log = departed log ++ s.mailbox.items
  undropped : s.settings.overflow = .wait → ∀ m, .dropped m ∉ log
  gives : ∀ c ∈ s.calls, c.action = .receive → c.stage = .begun → ∀ m rest,
    s.mailbox.items = m :: rest →
      s.step (.call c.id .proceed) =
        some ({ s with mailbox := { s.mailbox with items := rest } }.finishCall c.id (.message m))
  waits : ¬Silenced log → ∀ c ∈ s.calls, c.action = .receive → c.stage = .begun →
    s.mailbox.items = [] → s.step (.call c.id .proceed) = none
  ends : Silenced log → ∀ c ∈ s.calls, c.action = .receive → c.stage = .begun →
    s.mailbox.items = [] → s.step (.call c.id .proceed) = some (s.finishCall c.id .ended)
  stays : Silenced log → s.mailbox.items = [] → ∀ ns t, Run s ns t → .invoke .close ∉ ns →
    (∀ id, .revived id ∉ s.record tidings ns) →
      Silenced (log ++ s.record tidings ns) ∧ t.mailbox.items = []
  revives : ∀ id m t, s.step m = some t → .revived id ∈ s.tidings m →
    t.mailbox = { s.mailbox with finished := false } ∧ ∃ n k, t.worker = .reading n k
  runs : s.worker ≠ .idle → ¬Silenced log ∧ ∀ m, s.mailbox.offer m ≠ .refused
  unclosed : s.mailbox.closed = false ∧ ∀ n, s.worker ≠ .stopping n .closed

theorem run_ends {p : Profile} {seconds : List Int} {draws : List Float} {ms : List Move}
    (run : Run (initial p seconds draws) ms t) (unclosed : .invoke .close ∉ ms) :
    t.Ends ((initial p seconds draws).record tidings ms) := by
  obtain ⟨hu, he, overflow, told⟩ := run.ending unclosed
  have conduct := run.conduct
  have receiving : ∀ c ∈ t.calls, c.action = .receive → c.stage = .begun → ∀ u,
      t.receive c.id = u → t.step (.call c.id .proceed) = u :=
    fun c hc receives begun u hr => (conduct.steps_receive hc receives begun).trans hr
  refine ⟨told, he.lawful, he.kept, ?_, ?_, ?_, ?_, ?_, ?_, ?_, hu.unclosed, hu.detached⟩
  · rw [← overflow]
    exact he.undropped
  · intro c hc receives begun m rest items
    refine receiving c hc receives begun _ ?_
    simp [receive, Mailbox.take, hu.unclosed, items]
  · intro sounding c hc receives begun items
    have unfinished : t.mailbox.finished = false :=
      Bool.eq_false_iff.mpr fun finished => sounding (he.silenced.mp finished)
    refine receiving c hc receives begun _ ?_
    simp [receive, Mailbox.take, hu.unclosed, items, unfinished]
  · intro silenced c hc receives begun items
    refine receiving c hc receives begun _ ?_
    simp [receive, Mailbox.take, hu.unclosed, items, he.silenced.mpr silenced]
  · intro silenced empty ns u further open' unrevived
    have later := (run.append further).ending (by simp [unclosed, open'])
    rw [record_append run] at later
    exact he.drained later.2.1 silenced empty unrevived
  · intro id m u ht revived
    have tells := step_tells conduct hu he.fresh ht
    generalize t.tidings m = es at tells revived
    cases tells with
    | took busy taken =>
        rcases List.mem_append.mp revived with h | h
        · cases hd : t.mailbox.displaced <;> simp [hd] at h
        · simp at h
    | revived reopened reading =>
        refine ⟨?_, _, _, reading⟩
        rw [reopened, Mailbox.reopen, if_neg (by simp [hu.unclosed])]
    | _ => simp at revived
  · intro busy
    have unfinished := hu.unfinished busy
    refine ⟨fun silenced => ?_, fun m refused => ?_⟩
    · rw [he.silenced.mpr silenced] at unfinished
      cases unfinished
    · rcases Mailbox.offer_refused refused with closed | finished
      · rw [hu.unclosed] at closed
        cases closed
      · rw [unfinished] at finished
        cases finished

def brittle : Settings := { narrow with backoff := { narrow.backoff with maxAttempts := some 0 } }

def exhausting : List Move :=
  overflowing ++
    [.arrive 1 .endOfStream, .worker .read, .worker .proceed, .invoke .receive, .call 1 .proceed,
      .invoke .receive, .call 2 .proceed]

def renewing : List Move :=
  exhausting ++
    [.invoke .reconnect, .call 3 .proceed, .call 3 .proceed, .call 3 .proceed, .call 3 .proceed,
      .call 3 .proceed, .call 3 .proceed, .call 3 .proceed, .answer 2 .accepted, .call 3 .read,
      .call 3 .proceed, .call 3 .proceed, .arrive 2 (.text "c"), .worker .read, .worker .proceed]

theorem renewing_ends :
    ∃ t, Run (visitor brittle) renewing t ∧ .invoke .close ∉ renewing ∧
      t.mailbox.items.length = 1 ∧ t.Ends ((visitor brittle).record tidings renewing) := by
  have played : ((visitor brittle).play renewing).map (fun t => t.mailbox.items.length)
      = some 1 := rfl
  have unclosed : .invoke .close ∉ renewing := by decide
  obtain ⟨t, run, queued⟩ := exists_run _ _ _ played
  exact ⟨t, run, unclosed, queued, run_ends run unclosed⟩

theorem exhausting_unreturned :
    ∃ t, Run (visitor brittle) exhausting t ∧ .invoke .close ∉ exhausting ∧
      ⟨2, .receive, .over .ended⟩ ∈ t.calls ∧
      ∃ m ∈ entered ((visitor brittle).record tidings exhausting),
        .returned m ∉ (visitor brittle).record tidings exhausting := by
  have played : ((visitor brittle).play exhausting).map (fun t => t.calls.getLast?)
      = some (some ⟨2, .receive, .over .ended⟩) := rfl
  have unreturned : ∃ m ∈ entered ((visitor brittle).record tidings exhausting),
      .returned m ∉ (visitor brittle).record tidings exhausting := by decide +kernel
  obtain ⟨t, run, told⟩ := exists_run _ _ _ played
  exact ⟨t, run, by decide, List.mem_of_getLast? told, unreturned⟩

end Session

end MarketWire.Stream
