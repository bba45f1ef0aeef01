import MarketWire.Proofs.Acknowledgement
import MarketWire.Proofs.Session.Hearing
import MarketWire.Proofs.Session.Record
import MarketWire.Proofs.Session.Work

namespace MarketWire.Stream

open Channel (Subscription)
open Router (Acknowledges)

inductive Note where
  | added (x : Subscription)
  | started (link : Nat)
  | read (link : Nat) (content : String)

def Event.note? : Event → Option Note
  | .added x => some (.added x)
  | _ => none

def Acked (log : List Note) (n : Nat) (x : Subscription) : Prop :=
  Since
    (fun before e => ∃ content, e = .read n content ∧ Acknowledges content x ∧ .added x ∈ before ∧
      .started n ∈ before)
    (fun e => e = .added x ∨ e = .started n) log

theorem acked_append {log : List Note} {n : Nat} {x : Subscription} {e : Note} :
    Acked (log ++ [e]) n x ↔
      (∃ content, e = .read n content ∧ Acknowledges content x ∧ .added x ∈ log ∧
        .started n ∈ log) ∨
        e ≠ .added x ∧ e ≠ .started n ∧ Acked log n x := by
  rw [Acked, since_append, not_or, and_assoc]
  rfl

namespace Session

variable {s t : Session} {h : List Event} {log : List Note}

def readNotes (s : Session) (n : Nat) : List Note :=
  match s.nextArrival n with
  | some (.text content, _) => [.read n content]
  | _ => []

def attemptNotes : Attempt → Branch → List Note
  | .replaying n [], .proceed => [.started n]
  | _, _ => []

def callNotes (c : Call) (b : Branch) : List Note :=
  match c.stage with
  | .attempting a => attemptNotes a b
  | _ => []

def workerNotes (s : Session) (b : Branch) : List Note :=
  match s.worker, b with
  | .reading n _, .read => s.readNotes n
  | .attempting _ a, b => attemptNotes a b
  | _, _ => []

def notes (s : Session) (m : Move) : List Note :=
  (s.events m).filterMap Event.note? ++
    match m with
    | .call id b => (s.call? id).elim [] fun c => callNotes c b
    | .worker b => s.workerNotes b
    | _ => []

inductive Noted (s : Session) : List Note → Session → Prop where
  | added {x : Subscription} {t : Session} :
      s.registry.contains x = false → t.registry = (s.registry.add x).1 → t.worker = s.worker →
      (∀ a, t.Attempts a → a = .starting ∨ s.Attempts a) → Noted s [.added x] t
  | removed {x : Subscription} {t : Session} :
      t.registry = (s.registry.remove x).1 → t.worker = s.worker →
      (∀ a, t.Attempts a → a = .starting ∨ s.Attempts a) → Noted s [] t
  | read {n : Nat} {content : String} {t : Session} :
      s.worker.loop = some n →
      t.registry = (Router.route s.settings.forwardAcks s.registry content).1 →
      t.worker.loop = some n → (∀ a, ¬t.Attempts a) → Noted s [.read n content] t
  | kept {t : Session} :
      t.registry = s.registry → (∀ n, t.worker.loop = some n → s.worker.loop = some n) →
      (∀ a, t.Attempts a → a = .starting ∨ s.Attempts a) → Noted s [] t
  | cleared {t : Session} :
      t.registry = s.registry.resetConfirmations → t.worker.loop = none → Noted s [] t
  | replayed {n : Nat} {t : Session} :
      s.Attempts (.replaying n []) → t.registry = s.registry → t.worker.loop = some n →
      (∀ a, ¬t.Attempts a) → Noted s [.started n] t
  | tried {t : Session} :
      t.registry = s.registry → t.worker.loop = none →
      (∀ n rest, t.Attempts (.replaying n rest) → ∃ rest, s.Attempts (.replaying n rest)) →
      Noted s [] t

theorem attemptEvents_note (a : Attempt) (b : Branch) :
    (s.attemptEvents a b).filterMap Event.note? = [] := by
  simp only [attemptEvents]
  split
  · split
    · split <;> rfl
    · rfl
  · rfl
  · rfl

theorem onProgress_attemptNotes {a : Attempt} {b : Branch} {s' : Session} {p : Progress}
    (ha : s.Attempts a) (hs : s.attemptStep a b = some (s', p)) (adv : Advance s' p t) :
    Noted s (attemptNotes a b) t := by
  have quiet : attemptNotes a b = [] → s'.registry = s.registry → p.loop = none →
      (∀ n rest, p = .more (.replaying n rest) → ∃ rest, a = .replaying n rest) →
      Noted s (attemptNotes a b) t := by
    intro none registry loop replays
    rw [none]
    refine .tried (adv.registry.trans registry) (adv.loop.trans loop) ?_
    intro n rest hr
    obtain ⟨rest, rfl⟩ := replays n rest (adv.attempts _ hr)
    exact ⟨rest, ha⟩
  have deed := attemptStep_deed hs
  generalize s.attemptEvents a b = es at deed
  cases deed with
  | listed => exact .cleared adv.registry adv.loop
  | replayEnded =>
      cases b <;> simp only [attemptStep, reduceCtorEq] at hs
      refine .replayed ha adv.registry adv.loop ?_
      intro a ha
      cases adv.attempts a ha
  | replayed => exact quiet rfl rfl rfl fun n rest e => by cases e; exact ⟨_, rfl⟩
  | welcomed hr _ => exact quiet rfl (nextArrival_registry hr :) rfl (by simp)
  | ponged hr | ignored hr | rejected hr =>
      exact quiet rfl (nextArrival_registry hr :) rfl (by simp)
  | signed => exact quiet rfl rfl rfl (by simp [login_eq])
  | _ => exact quiet rfl rfl rfl (by simp)

theorem Orderly.noted_kept (ho : s.Orderly) (busy : s.worker ≠ .idle) (calls : t.calls = s.calls)
    (registry : t.registry = s.registry)
    (loop : t.worker.loop = none ∨ t.worker.loop = s.worker.loop)
    (worker : ∀ attempts a, t.worker ≠ .attempting attempts a) : Noted s [] t := by
  refine .kept registry ?_ fun a ha => absurd ha (ho.unattempting busy calls worker a)
  intro n hn
  rcases loop with none | same
  · rw [none] at hn
    cases hn
  · exact same ▸ hn

theorem read_noted (ho : s.Orderly) {n : Nat} {k : Keepalive} {a : Arrival} {s' : Session}
    (hw : s.worker = .reading n k) (hr : s.nextArrival n = some (a, s')) :
    Noted s (s.readNotes n) (s'.onArrival n k a) := by
  have busy : s.worker ≠ .idle := by simp [hw]
  have here : s.worker.loop = some n := by
    rw [hw]
    rfl
  obtain ⟨rest, rfl⟩ := nextArrival_eq hr
  cases a with
  | text content =>
      have notes : s.readNotes n = [.read n content] := by simp only [readNotes, hr]
      rw [notes]
      simp only [onArrival, onText]
      split
      · next hroute =>
          refine .read here (congrArg Prod.fst hroute).symm rfl ?_
          exact ho.unattempting busy rfl (by simp)
      · next hroute =>
          refine .read here (congrArg Prod.fst hroute).symm rfl ?_
          exact ho.unattempting busy rfl (by simp)
      · next hroute =>
          refine .read here (congrArg Prod.fst hroute).symm rfl ?_
          exact ho.unattempting busy rfl (by simp)
  | _ =>
      simp only [readNotes, hr]
      refine ho.noted_kept busy rfl rfl ?_ (by simp [onArrival, failLink])
      first
        | exact Or.inl rfl
        | exact Or.inr here.symm

theorem command_noted (ho : s.Orderly) {n : Nat} {k : Keepalive} {cmd : Command} {s' : Session}
    (hw : s.worker = .reading n k) (hn : s.nextCommand = some (cmd, s')) :
    Noted s [] (s'.onCommand n k cmd) := by
  have kept : ∀ {u : Session}, u.calls = s'.calls → u.registry = s'.registry →
      (u.worker.loop = none ∨ u.worker.loop = some n) →
      (∀ attempts a, u.worker ≠ .attempting attempts a) → Noted s [] u := by
    intro u calls registry loop
    refine ho.noted_kept (by simp [hw]) (calls.trans (nextCommand_frame hn).calls)
      (registry.trans (nextCommand_registry hn)) ?_
    rw [hw]
    exact loop
  cases cmd with
  | subscribe x =>
      simp only [onCommand]
      split
      · exact kept rfl rfl (Or.inr rfl) (by simp)
      · exact kept rfl rfl (Or.inl rfl) (by simp [failLink])
  | unsubscribe x =>
      simp only [onCommand]
      split
      · exact kept rfl rfl (Or.inr rfl) (by simp)
      · exact kept rfl rfl (Or.inl rfl) (by simp [failLink])
  | close => exact kept rfl rfl (Or.inr rfl) (by simp [onCommand, beginStop])
  | detach => exact kept rfl rfl (Or.inr rfl) (by simp [onCommand, beginStop])

theorem wake_noted (ho : s.Orderly) {n : Nat} {k : Keepalive} (hw : s.worker = .reading n k) :
    Noted s [] (s.onWake n k) := by
  have loop : s.worker.loop = _ := congrArg Worker.loop hw
  simp only [onWake]
  split
  · exact ho.noted_kept (by simp [hw]) rfl rfl (Or.inl rfl) (by simp [failLink])
  · exact ho.noted_kept (by simp [hw]) rfl rfl (Or.inr loop.symm) (by simp)

theorem push_noted (ho : s.Orderly) {n : Nat} {m : Message} {k : Keepalive}
    (hw : s.worker = .pushing n m k) (ht : s.onPush n m k = some t) : Noted s [] t := by
  have loop : s.worker.loop = _ := congrArg Worker.loop hw
  simp only [onPush] at ht
  split at ht <;> cases ht
  · exact ho.noted_kept (by simp [hw]) rfl rfl (Or.inr loop.symm) (by simp)
  · exact ho.noted_kept (by simp [hw]) rfl rfl (Or.inr loop.symm) (by simp [beginStop])

theorem drain_noted (ho : s.Orderly) {attempts wakeAt : Nat} {cmd : Command} {s' : Session}
    (hw : s.worker = .waiting attempts wakeAt) (hn : s.nextCommand = some (cmd, s')) :
    Noted s [] (s'.onPauseCommand cmd) := by
  have busy : s.worker ≠ .idle := by simp [hw]
  have calls := (nextCommand_frame hn).calls
  have registry := nextCommand_registry hn
  have waits : s'.worker = .waiting attempts wakeAt := (nextCommand_worker hn).trans hw
  have loop : s'.worker.loop = none := congrArg Worker.loop waits
  cases cmd with
  | close | detach =>
      exact ho.noted_kept busy calls registry (Or.inl rfl) (by simp [onPauseCommand, endWorker])
  | subscribe x | unsubscribe x =>
      exact ho.noted_kept busy calls registry (Or.inl loop) (by simp [onPauseCommand, waits])

theorem Work.noted {b : Branch} (ho : s.Orderly) (work : Work s b t) :
    Noted s ((s.workerEvents b).filterMap Event.note? ++ s.workerNotes b) t := by
  cases work with
  | read hw hr =>
      simp only [workerEvents, workerNotes, hw]
      have quiet : ∀ n, (s.readEvents n).filterMap Event.note? = [] := by
        intro n
        simp only [readEvents]
        split
        · split <;> rfl
        · rfl
      rw [quiet]
      exact read_noted ho hw hr
  | command hw hn =>
      simp only [workerEvents, workerNotes, hw, hn]
      exact command_noted ho hw hn
  | wake hw =>
      simp only [workerEvents, workerNotes, hw]
      exact wake_noted ho hw
  | push hw ht =>
      simp only [workerEvents, workerNotes, hw]
      exact push_noted ho hw ht
  | @stop n why hw =>
      simp only [workerEvents, workerNotes, hw]
      cases why with
      | closed | detached =>
          exact ho.noted_kept (by simp [hw]) rfl rfl (Or.inl rfl) (by simp [endStop, endWorker])
  | decide hw =>
      simp only [workerEvents, workerNotes, hw, Session.decide]
      split
      · exact ho.noted_kept (by simp [hw]) rfl rfl (Or.inl rfl) (by simp)
      · exact ho.noted_kept (by simp [hw]) rfl rfl (Or.inl rfl) (by simp [giveUp, endWorker])
  | drain hw hn =>
      simp only [workerEvents, workerNotes, hw]
      exact drain_noted ho hw hn
  | redial hw =>
      simp only [workerEvents, workerNotes, hw]
      refine .kept rfl (by simp [Worker.loop]) ?_
      rintro a (⟨_, e⟩ | ⟨c, hc, hst⟩)
      · cases e
        exact Or.inl rfl
      · exact absurd hst (ho.unattempted (by simp [hw]) c hc a)
  | @attempt attempts a b s' p hw ha =>
      have deed := attemptStep_deed ha
      have adv := (ho.attempt deed).advance_worker (deed.frame.worker.trans hw) p
      simp only [workerEvents, workerNotes, hw, attemptEvents_note]
      exact onProgress_attemptNotes (Or.inl ⟨_, hw⟩) ha adv

theorem callStep_noted {c : Call} {b : Branch} (ho : s.Orderly) (hc : c ∈ s.calls)
    (ht : s.callStep c b = some t) :
    Noted s ((s.callEvents c b).filterMap Event.note? ++ callNotes c b) t := by
  by_cases attempting : ∃ a, c.stage = .attempting a
  · obtain ⟨a, ha⟩ := attempting
    simp only [callStep, ha] at ht
    obtain ⟨⟨s', p⟩, hs, rfl⟩ := Option.map_eq_some_iff.mp ht
    have deed := attemptStep_deed hs
    have adv := (ho.attempt deed).advance_call (deed.frame.calls.symm ▸ hc) ha p
    simp only [callEvents, callNotes, ha, attemptEvents_note]
    exact onProgress_attemptNotes (Or.inr ⟨c, hc, ha⟩) hs adv
  · have deed := callStep_deed ht
    have none : callNotes c b = [] := by
      simp only [callNotes]
      split
      · next a ha => exact absurd ⟨a, ha⟩ attempting
      · rfl
    have calm : ∀ a, c.stage ≠ .attempting a := fun a ha => attempting ⟨a, ha⟩
    have begins : ∀ a, t.Attempts a → a = .starting ∨ s.Attempts a :=
      fun _ => deed.begins ho hc calm
    have worker := deed.calm calm
    have kept : t.registry = s.registry → Noted s [] t :=
      fun registry => .kept registry (by simp [worker]) begins
    rw [none, List.append_nil]
    generalize s.callEvents c b = es at deed
    cases deed with
    | added _ hx => exact .added hx rfl rfl begins
    | removed => exact .removed rfl rfl begins
    | ended =>
        split
        · exact kept rfl
        · exact kept rfl
    | attempted ha => exact absurd ha (calm _)
    | _ => exact kept rfl

theorem step_noted {m : Move} (ho : s.Orderly) (ht : s.step m = some t) :
    Noted s (s.notes m) t := by
  have same : ∀ {u : Session}, u.registry = s.registry → u.worker = s.worker →
      (∀ c ∈ u.calls, ∀ a, c.stage = .attempting a → c ∈ s.calls) → Noted s [] u := by
    intro u registry worker calls
    refine .kept registry (by simp [worker]) ?_
    rintro a (⟨attempts, hw⟩ | ⟨c, hc, hst⟩)
    · exact Or.inr (Or.inl ⟨attempts, worker ▸ hw⟩)
    · exact Or.inr (Or.inr ⟨c, calls c hc a hst, hst⟩)
  cases m with
  | call id b =>
      obtain ⟨c, hc, hs⟩ := Option.bind_eq_some_iff.mp ht
      simp only [notes, events, hc, Option.elim_some]
      exact callStep_noted ho (call?_some hc).1 hs
  | worker b => exact (workerStep_work ht).noted ho
  | cutOff id =>
      cases step_deed ht
      refine .kept rfl (fun n hn => by cases hn) ?_
      rintro a (⟨attempts, hw⟩ | waits)
      · cases hw
      · exact Or.inr (Or.inr waits)
  | elapse span =>
      cases step_deed ht
      exact same rfl rfl fun _ hc _ _ => hc
  | invoke a =>
      cases step_deed ht
      refine same rfl rfl fun c hc b hb => ?_
      rcases List.mem_append.mp hc with hc | hc
      · exact hc
      · rw [List.mem_singleton.mp hc] at hb
        cases hb
  | abandon id =>
      cases step_deed ht with
      | abandoned hc =>
          refine same rfl rfl fun d hd b hb => ?_
          rcases (ho.locking.mem_setStage hc).mp hd with rfl | ⟨hd, _⟩
          · cases hb
          · exact hd
  | answer n u =>
      cases step_deed ht
      exact same rfl rfl fun _ hc _ _ => hc
  | arrive n a =>
      cases step_deed ht
      exact same rfl rfl fun _ hc _ _ => hc

structure Confirming (s : Session) (log : List Note) : Prop where
  known : ∀ x, s.registry.contains x = true → .added x ∈ log
  begun : ∀ n, s.worker.loop = some n → .started n ∈ log
  cleared : ∀ n rest, s.Attempts (.replaying n rest) → ∀ x, s.registry.isConfirmed x = false
  confirmed : ∀ n, s.worker.loop = some n → ∀ x,
    s.registry.isConfirmed x = true ↔ s.registry.contains x = true ∧ Acked log n x

theorem attempts_replaying (begins : ∀ a, t.Attempts a → a = .starting ∨ s.Attempts a) {n : Nat}
    {rest : List Subscription} (ha : t.Attempts (.replaying n rest)) :
    s.Attempts (.replaying n rest) := by
  rcases begins _ ha with e | ha
  · cases e
  · exact ha

theorem Confirming.added {x : Subscription} (hs : s.Confirming log)
    (absent : s.registry.contains x = false) (registry : t.registry = (s.registry.add x).1)
    (worker : t.worker = s.worker) (begins : ∀ a, t.Attempts a → a = .starting ∨ s.Attempts a) :
    t.Confirming (log ++ [.added x]) := by
  refine ⟨?_, ?_, ?_, ?_⟩
  · intro y hy
    rw [registry, Registry.contains_add] at hy
    rcases hy with rfl | hy
    · simp
    · exact List.mem_append_left _ (hs.known y hy)
  · rw [worker]
    exact fun n hn => List.mem_append_left _ (hs.begun n hn)
  · intro n rest ha y
    rw [registry, Registry.isConfirmed_add]
    exact hs.cleared n rest (attempts_replaying begins ha) y
  · intro n hn y
    rw [registry, Registry.isConfirmed_add, Registry.contains_add, acked_append,
      hs.confirmed n (worker ▸ hn) y]
    by_cases hy : y = x
    · simp [hy, absent]
    · simp [hy, Ne.symm hy]

theorem Confirming.removed {x : Subscription} (hs : s.Confirming log)
    (registry : t.registry = (s.registry.remove x).1) (worker : t.worker = s.worker)
    (begins : ∀ a, t.Attempts a → a = .starting ∨ s.Attempts a) : t.Confirming log := by
  refine ⟨?_, ?_, ?_, ?_⟩
  · intro y hy
    rw [registry, Registry.contains_remove] at hy
    exact hs.known y hy.2
  · rw [worker]
    exact hs.begun
  · intro n rest ha y
    rw [registry, Bool.eq_false_iff, Ne, Registry.isConfirmed_remove,
      hs.cleared n rest (attempts_replaying begins ha) y]
    simp
  · intro n hn y
    rw [registry, Registry.isConfirmed_remove, Registry.contains_remove,
      hs.confirmed n (worker ▸ hn) y, and_assoc]

theorem Confirming.read {n : Nat} {content : String} (hs : s.Confirming log)
    (here : s.worker.loop = some n)
    (registry : t.registry = (Router.route s.settings.forwardAcks s.registry content).1)
    (loop : t.worker.loop = some n) (idle : ∀ a, ¬t.Attempts a) :
    t.Confirming (log ++ [.read n content]) := by
  have same : ∀ y, t.registry.contains y = s.registry.contains y := by
    rw [registry]
    exact fun y => (Router.route_same _ _ _).contains
  refine ⟨?_, ?_, fun n rest ha => absurd ha (idle _), ?_⟩
  · intro y hy
    rw [same] at hy
    exact List.mem_append_left _ (hs.known y hy)
  · intro j hj
    rw [loop] at hj
    exact List.mem_append_left _ (hs.begun j (here.trans hj))
  · intro j hj y
    rw [loop] at hj
    cases hj
    rw [same, acked_append, registry, Router.isConfirmed_route, hs.confirmed n here y]
    constructor
    · rintro (⟨held, acked⟩ | ⟨acks, held⟩)
      · exact ⟨held, Or.inr ⟨by simp, by simp, acked⟩⟩
      · exact ⟨held, Or.inl ⟨content, rfl, acks, hs.known y held, hs.begun n here⟩⟩
    · rintro ⟨held, ⟨_, same, acks, _⟩ | ⟨_, _, acked⟩⟩
      · cases same
        exact Or.inr ⟨acks, held⟩
      · exact Or.inl ⟨held, acked⟩

theorem Confirming.replayed {n : Nat} (hs : s.Confirming log) (ha : s.Attempts (.replaying n []))
    (registry : t.registry = s.registry) (loop : t.worker.loop = some n)
    (idle : ∀ a, ¬t.Attempts a) : t.Confirming (log ++ [.started n]) := by
  refine ⟨?_, ?_, fun n rest ha => absurd ha (idle _), ?_⟩
  · rw [registry]
    exact fun y hy => List.mem_append_left _ (hs.known y hy)
  · intro j hj
    rw [loop] at hj
    cases hj
    simp
  · intro j hj y
    rw [loop] at hj
    cases hj
    rw [registry, hs.cleared n [] ha y, acked_append]
    simp

theorem Confirming.step {m : Move} (hs : s.Confirming log) (ho : s.Orderly)
    (ht : s.step m = some t) : t.Confirming (log ++ s.notes m) := by
  have noted := step_noted ho ht
  generalize s.notes m = ns at noted
  cases noted with
  | added absent registry worker begins => exact hs.added absent registry worker begins
  | removed registry worker begins =>
      rw [List.append_nil]
      exact hs.removed registry worker begins
  | read here registry loop idle => exact hs.read here registry loop idle
  | kept registry loop begins =>
      rw [List.append_nil]
      refine ⟨?_, fun n hn => hs.begun n (loop n hn), ?_, ?_⟩
      · rw [registry]
        exact hs.known
      · rw [registry]
        exact fun n rest ha => hs.cleared n rest (attempts_replaying begins ha)
      · rw [registry]
        exact fun n hn => hs.confirmed n (loop n hn)
  | cleared registry loop =>
      rw [List.append_nil]
      refine ⟨?_, by simp [loop], ?_, by simp [loop]⟩
      · rw [registry]
        exact fun y hy => hs.known y ((Registry.same_resetConfirmations _).contains ▸ hy)
      · rw [registry]
        exact fun _ _ _ y => Registry.isConfirmed_resetConfirmations
  | replayed ha registry loop idle => exact hs.replayed ha registry loop idle
  | tried registry loop replays =>
      rw [List.append_nil]
      refine ⟨?_, by simp [loop], ?_, by simp [loop]⟩
      · rw [registry]
        exact hs.known
      · rw [registry]
        intro n rest ha
        obtain ⟨rest, ha⟩ := replays n rest ha
        exact hs.cleared n rest ha

def receipt : String :=
  "\x7b\"event\":\"subscribe\",\"arg\":\x7b\"channel\":\"tickers\",\"instId\":\"BTC-USDT\"\x7d\x7d"

end Session

end MarketWire.Stream
