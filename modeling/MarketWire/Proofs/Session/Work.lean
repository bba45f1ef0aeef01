import MarketWire.Proofs.Session.Conduct

namespace MarketWire.Stream

def Worker.loop : Worker → Option Nat
  | .reading n _ => some n
  | .pushing n _ _ => some n
  | .stopping n _ => some n
  | _ => none

def Progress.loop : Progress → Option Nat
  | .done n => some n
  | _ => none

namespace Session

variable {s t : Session} {c : Call} {h : List Event}

inductive Work (s : Session) : Branch → Session → Prop where
  | read {n : Nat} {k : Keepalive} {a : Arrival} {s' : Session} :
      s.worker = .reading n k → s.nextArrival n = some (a, s') → Work s .read (s'.onArrival n k a)
  | command {n : Nat} {k : Keepalive} {cmd : Command} {s' : Session} :
      s.worker = .reading n k → s.nextCommand = some (cmd, s') →
      Work s .command (s'.onCommand n k cmd)
  | wake {n : Nat} {k : Keepalive} : s.worker = .reading n k → Work s .timer (s.onWake n k)
  | push {n : Nat} {m : Message} {k : Keepalive} {t : Session} :
      s.worker = .pushing n m k → s.onPush n m k = some t → Work s .proceed t
  | stop {n : Nat} {why : Farewell} :
      s.worker = .stopping n why → Work s .proceed (s.endStop n why)
  | decide {attempts : Nat} {e : StreamError} :
      s.worker = .deciding attempts e → Work s .proceed (s.decide attempts e)
  | drain {attempts wakeAt : Nat} {cmd : Command} {s' : Session} :
      s.worker = .waiting attempts wakeAt → s.nextCommand = some (cmd, s') →
      Work s .command (s'.onPauseCommand cmd)
  | redial {attempts wakeAt : Nat} :
      s.worker = .waiting attempts wakeAt →
      Work s .timer { s.withPhase .connecting with worker := .attempting attempts .starting }
  | attempt {attempts : Nat} {a : Attempt} {b : Branch} {s' : Session} {p : Progress} :
      s.worker = .attempting attempts a → s.attemptStep a b = some (s', p) →
      Work s b (s'.onProgress attempts p)

theorem workerStep_work {b : Branch} (ht : s.workerStep b = some t) : Work s b t := by
  cases hw : s.worker with
  | idle => cases b <;> simp only [workerStep, hw, reduceCtorEq] at ht
  | reading n k =>
      cases b <;> simp only [workerStep, hw, reduceCtorEq] at ht
      · obtain ⟨⟨a, s'⟩, hr, rfl⟩ := Option.map_eq_some_iff.mp ht
        exact .read hw hr
      · obtain ⟨⟨cmd, s'⟩, hn, rfl⟩ := Option.map_eq_some_iff.mp ht
        exact .command hw hn
      · split at ht <;> cases ht
        exact .wake hw
  | pushing n m k =>
      cases b <;> simp only [workerStep, hw, reduceCtorEq] at ht
      exact .push hw ht
  | stopping n why =>
      cases b <;> simp only [workerStep, hw, Option.some.injEq, reduceCtorEq] at ht
      cases ht
      exact .stop hw
  | deciding attempts e =>
      cases b <;> simp only [workerStep, hw, Option.some.injEq, reduceCtorEq] at ht
      cases ht
      exact .decide hw
  | waiting attempts wakeAt =>
      cases b <;> simp only [workerStep, hw, reduceCtorEq] at ht
      · obtain ⟨⟨cmd, s'⟩, hn, rfl⟩ := Option.map_eq_some_iff.mp ht
        exact .drain hw hn
      · split at ht <;> cases ht
        exact .redial hw
  | attempting attempts a =>
      simp only [workerStep, hw] at ht
      obtain ⟨⟨s', p⟩, hs, rfl⟩ := Option.map_eq_some_iff.mp ht
      exact .attempt hw hs

def Attempts (s : Session) (a : Attempt) : Prop :=
  (∃ attempts, s.worker = .attempting attempts a) ∨ ∃ c ∈ s.calls, c.stage = .attempting a

theorem Orderly.unattempting (ho : s.Orderly) (busy : s.worker ≠ .idle) (calls : t.calls = s.calls)
    (worker : ∀ attempts a, t.worker ≠ .attempting attempts a) (a : Attempt) : ¬t.Attempts a := by
  rintro (⟨attempts, hw⟩ | ⟨c, hc, hst⟩)
  · exact worker attempts a hw
  · exact busy (ho.dialling c (calls ▸ hc) a hst)

theorem CallDeed.calm {es : List Event} (deed : CallDeed s c es t)
    (calm : ∀ a, c.stage ≠ .attempting a) : t.worker = s.worker := by
  cases deed with
  | attempted ha => exact absurd ha (calm _)
  | _ => rfl

theorem CallDeed.begins {es : List Event} (deed : CallDeed s c es t) (ho : s.Orderly)
    (hc : c ∈ s.calls) (calm : ∀ a, c.stage ≠ .attempting a) {a : Attempt} (ha : t.Attempts a) :
    a = .starting ∨ s.Attempts a := by
  obtain ⟨stage, calls, next⟩ := deed.next
  rcases ha with ⟨attempts, hw⟩ | ⟨d, hd, hst⟩
  · exact Or.inr (Or.inl ⟨attempts, (deed.calm calm).symm.trans hw⟩)
  · rcases (ho.locking.mem_turned hc calls).mp hd with rfl | ⟨hd, _⟩
    · change stage = .attempting a at hst
      subst hst
      cases next with
      | starting => exact Or.inl rfl
      | attempting before => exact absurd before (calm _)
    · exact Or.inr (Or.inr ⟨d, hd, hst⟩)

structure Advance (s' : Session) (p : Progress) (t : Session) : Prop where
  profile : t.profile = s'.profile
  links : t.links = s'.links
  registry : t.registry = s'.registry
  phase : t.phase = s'.phase ∨ t.phase = .closed ∧ ∃ e, p = .failed e
  loop : t.worker.loop = p.loop
  attempts : ∀ b, t.Attempts b → p = .more b

theorem Orderly.unattempted (ho : s.Orderly) (busy : s.worker ≠ .idle) :
    ∀ c ∈ s.calls, ∀ a, c.stage ≠ .attempting a :=
  fun c hc a ha => busy (ho.dialling c hc a ha)

theorem Orderly.advance_worker (ho : s.Orderly) {attempts : Nat} {a : Attempt}
    (hw : s.worker = .attempting attempts a) (p : Progress) :
    Advance s p (s.onProgress attempts p) := by
  have alone : ∀ {u : Session}, u.calls = s.calls →
      ∀ b, ¬∃ c ∈ u.calls, c.stage = .attempting b := by
    rintro u calls b ⟨c, hc, hst⟩
    exact ho.unattempted (by simp [hw]) c (calls ▸ hc) b hst
  cases p with
  | more b =>
      refine ⟨rfl, rfl, rfl, Or.inl rfl, rfl, ?_⟩
      rintro d (⟨_, e⟩ | called)
      · cases e
        rfl
      · exact absurd called (alone rfl d)
  | done n =>
      refine ⟨rfl, rfl, rfl, Or.inl rfl, rfl, ?_⟩
      rintro d (⟨_, e⟩ | called)
      · cases e
      · exact absurd called (alone rfl d)
  | failed e =>
      simp only [onProgress]
      split
      · refine ⟨rfl, rfl, rfl, Or.inr ⟨rfl, e, rfl⟩, rfl, ?_⟩
        rintro d (⟨_, e⟩ | called)
        · cases e
        · exact absurd called (alone rfl d)
      · refine ⟨rfl, rfl, rfl, Or.inl rfl, rfl, ?_⟩
        rintro d (⟨_, e⟩ | called)
        · cases e
        · exact absurd called (alone rfl d)

theorem Orderly.advance_call (ho : s.Orderly) (hc : c ∈ s.calls) {a : Attempt}
    (ha : c.stage = .attempting a) (p : Progress) : Advance s p (s.onCallProgress c p) := by
  have idle : s.worker = .idle := ho.dialling c hc a ha
  have others : ∀ {u : Session} (stage : Stage), u.calls = (s.setStage c.id stage).calls →
      ∀ d ∈ u.calls, ∀ b, d.stage = .attempting b → stage = .attempting b := by
    intro u stage calls d hd b hst
    rcases (ho.locking.mem_turned hc calls).mp hd with rfl | ⟨hd, other⟩
    · exact hst
    · have same := ho.eq_of_attempting hc hd (ho.alone_of_attempting hc ha) hst
      exact absurd (congrArg Call.id same).symm other
  cases p with
  | more b =>
      refine ⟨rfl, rfl, rfl, Or.inl rfl, ?_, ?_⟩
      · change s.worker.loop = none
        rw [idle]
        rfl
      · rintro d (⟨_, hw⟩ | ⟨e, he, hst⟩)
        · rw [show (s.onCallProgress c (.more b)).worker = s.worker from rfl, idle] at hw
          cases hw
        · cases others (.attempting b) rfl e he d hst
          rfl
  | done n =>
      refine ⟨rfl, rfl, rfl, Or.inl rfl, rfl, ?_⟩
      rintro d (⟨_, hw⟩ | ⟨e, he, hst⟩)
      · cases hw
      · cases others (.over .done) rfl e he d hst
  | failed e =>
      have quiet : ∀ {u : Session}, u.profile = s.profile → u.links = s.links →
          u.registry = s.registry → u.phase = s.phase ∨ u.phase = .closed →
          u.worker = s.worker → u.calls = (s.setStage c.id (.over (.failed e))).calls →
          Advance s (.failed e) u := by
        intro u profile links registry phase worker calls
        rw [idle] at worker
        refine ⟨profile, links, registry, ?_, by rw [worker]; rfl, ?_⟩
        · exact phase.imp_right fun closed => ⟨closed, e, rfl⟩
        · rintro d (⟨_, hw⟩ | ⟨f, hf, hst⟩)
          · rw [worker] at hw
            cases hw
          · cases others _ calls f hf d hst
      simp only [onCallProgress]
      split
      · exact quiet rfl rfl rfl (Or.inl rfl) rfl rfl
      · exact quiet rfl rfl rfl (Or.inr rfl) rfl rfl

end Session

end MarketWire.Stream
