import MarketWire.Proofs.Session.Record

namespace MarketWire.Stream

open Channel (Subscription)

def Action.isSubscribing : Action → Bool
  | .follow _ => true
  | .subscribe _ => true
  | .unsubscribe _ => true
  | _ => false

def Stage.isSubscribing : Stage → Bool
  | .begun => true
  | .locking a => a.isSubscribing
  | .changing a => a.isSubscribing
  | .observing _ => true
  | .sending _ => true
  | .over _ => true
  | _ => false

namespace Session

variable {s t : Session} {c d : Call} {m : Move} {h : List Event}

def subscribeRefusal? (s : Session) (x : Subscription) : Option StreamError :=
  if s.shut then some .notConnected
  else if x.isPrivate && !s.profile.isPrivate then some (.loginRequired x.channel)
  else none

def refusal? (s : Session) : Action → Option StreamError
  | .follow f =>
      match f.subscription with
      | .error e => some e
      | .ok x => s.subscribeRefusal? x
  | .subscribe x => s.subscribeRefusal? x
  | .unsubscribe _ => if s.shut then some .notConnected else none
  | _ => none

theorem finishCall_begun (hl : s.Locking) (hc : c ∈ s.calls) (hst : c.stage = .begun) (a : Answer) :
    s.finishCall c.id a = s.setStage c.id (.over a) := by
  have free : s.lock ≠ some c.id := by
    intro held
    have := (hl.held_iff c hc).mpr held
    simp [Call.holdsLock, hst, Stage.underLock] at this
  rw [finishCall, if_neg free]
  rfl

theorem begin_subscribing {id : Nat} {a : Action} (ha : a.isSubscribing = true)
    (ht : s.begin id a = some t) :
    (∃ e, s.refusal? a = some e ∧ t = s.finishCall id (.failed e)) ∨
      ∃ b, b.isSubscribing = true ∧ t = s.setStage id (.locking b) := by
  have subscribed : ∀ x, s.refusal? a = s.subscribeRefusal? x → t = s.beginSubscribe id x →
      (∃ e, s.refusal? a = some e ∧ t = s.finishCall id (.failed e)) ∨
        ∃ b, b.isSubscribing = true ∧ t = s.setStage id (.locking b) := by
    rintro x same rfl
    rw [same, beginSubscribe, subscribeRefusal?]
    split
    · exact Or.inl ⟨_, rfl, rfl⟩
    · split
      · exact Or.inl ⟨_, rfl, rfl⟩
      · exact Or.inr ⟨_, rfl, rfl⟩
  cases a with
  | follow f =>
      simp only [Session.begin] at ht
      split at ht <;> cases ht
      · next e he => exact Or.inl ⟨e, by simp [refusal?, he], rfl⟩
      · next x hx => exact subscribed x (by simp [refusal?, hx]) rfl
  | subscribe x =>
      cases ht
      exact subscribed x rfl rfl
  | unsubscribe x =>
      cases ht
      rw [refusal?, beginLocked]
      split
      · exact Or.inl ⟨_, rfl, rfl⟩
      · exact Or.inr ⟨_, rfl, rfl⟩
  | _ => cases ha

theorem CallDeed.began {es : List Event} (deed : CallDeed s c es t) :
    ∃ stage, t.calls = (s.setStage c.id stage).calls ∧ stage ≠ .begun := by
  obtain ⟨stage, calls, next⟩ := deed.next
  refine ⟨stage, calls, ?_⟩
  rintro rfl
  cases next

def Proceeds (s : Session) (c : Call) (b : Branch) (t : Session) : Prop :=
  ∃ stage, t.calls = (s.setStage c.id stage).calls ∧ stage ≠ .begun ∧
    stage.isSubscribing = true ∧
    ∀ e, stage = .over (.failed e) → c.stage = .begun ∧ b = .proceed ∧
      s.refusal? c.action = some e ∧ t = s.setStage c.id (.over (.failed e))

theorem callStep_proceeds {b : Branch} (hl : s.Locking) (hc : c ∈ s.calls)
    (ha : c.action.isSubscribing = true) (hst : c.stage.isSubscribing = true)
    (ht : s.callStep c b = some t) : s.Proceeds c b t := by
  have goesOn : ∀ {u : Session} (stage : Stage), u.calls = (s.setStage c.id stage).calls →
      stage.isSubscribing = true → (stage ≠ .begun ∧ ∀ e, stage ≠ .over (.failed e)) →
      s.Proceeds c b u :=
    fun stage calls own fine =>
      ⟨stage, calls, fine.1, own, fun e failed => absurd failed (fine.2 e)⟩
  cases hcs : c.stage with
  | begun =>
      cases b <;> simp only [callStep, hcs, reduceCtorEq] at ht
      rcases begin_subscribing ha ht with ⟨e, refused, rfl⟩ | ⟨a, own, rfl⟩
      · have same := finishCall_begun hl hc hcs (.failed e)
        refine ⟨.over (.failed e), congrArg calls same, by simp, rfl, ?_⟩
        rintro _ ⟨⟩
        exact ⟨hcs, rfl, refused, same⟩
      · exact goesOn (.locking a) rfl own (by simp)
  | locking a =>
      rw [hcs] at hst
      cases b <;> simp only [callStep, hcs, reduceCtorEq] at ht
      split at ht <;> cases ht
      exact goesOn (.changing a) rfl hst (by simp)
  | changing a =>
      rw [hcs] at hst
      cases b <;> simp only [callStep, hcs, reduceCtorEq, Option.some.injEq] at ht
      cases a with
      | subscribe x =>
          simp only [change] at ht
          split at ht <;> cases ht
          · exact goesOn (.sending (.subscribe x)) rfl rfl (by simp)
          · exact goesOn (.over .done) rfl rfl (by simp)
      | unsubscribe x =>
          simp only [change] at ht
          split at ht <;> cases ht
          · exact goesOn (.observing x) rfl rfl (by simp)
          · exact goesOn (.over .done) rfl rfl (by simp)
      | follow f =>
          cases ht
          exact goesOn (.over .done) rfl rfl (by simp)
      | _ => cases hst
  | observing x =>
      cases b <;> simp only [callStep, hcs, reduceCtorEq] at ht
      split at ht <;> cases ht
      · exact goesOn (.sending (.unsubscribe x)) rfl rfl (by simp)
      · exact goesOn (.over .done) rfl rfl (by simp)
  | sending cmd =>
      cases b <;> simp only [callStep, hcs, reduceCtorEq, sendCommand] at ht
      split at ht
      · cases ht
        exact goesOn (.over .done) rfl rfl (by simp)
      · split at ht <;> cases ht
        exact goesOn (.over .done) rfl rfl (by simp)
  | _ => cases b <;> simp [callStep, hcs, Stage.isSubscribing] at hst ht

def journal (s : Session) (m : Move) : List (Session × Move) := [(s, m)]

theorem Run.moves_journal {ms : List Move} (run : Run s ms t) :
    (s.record journal ms).map Prod.snd = ms := by
  induction run with
  | nil _ => rfl
  | cons first _ ih =>
      rw [record_cons _ first, List.map_append, ih]
      rfl

theorem Run.before_entry {ms : List Move} (run : Run s ms t) {before after : List (Session × Move)}
    {u : Session} (parts : s.record journal ms = before ++ (u, m) :: after) :
    Run s (before.map Prod.snd) u := by
  induction run generalizing before with
  | nil _ => simp [record] at parts
  | cons first _ ih =>
      rw [record_cons _ first, journal, List.singleton_append] at parts
      cases before with
      | nil =>
          cases parts
          exact .nil _
      | cons e before =>
          obtain ⟨rfl, later⟩ := List.cons.inj parts
          exact .cons first (ih later)

def Refused (log : List (Session × Move)) (c : Call) (e : StreamError) : Prop :=
  ∃ before u after, log = before ++ (u, .call c.id .proceed) :: after ∧
    u.refusal? c.action = some e ∧
    u.step (.call c.id .proceed) = some (u.setStage c.id (.over (.failed e))) ∧
    ∀ d ∈ before ++ after, ∀ b, d.2 ≠ .call c.id b

structure Refusing (s : Session) (log : List (Session × Move)) : Prop where
  own : ∀ c ∈ s.calls, c.action.isSubscribing = true → c.stage.isSubscribing = true
  known : ∀ e ∈ log, ∀ id b, e.2 = .call id b → id < s.calls.length
  fresh : ∀ c ∈ s.calls, c.stage = .begun → ∀ e ∈ log, ∀ b, e.2 ≠ .call c.id b
  refused : ∀ c ∈ s.calls, c.action.isSubscribing = true → ∀ e, c.stage = .over (.failed e) →
    Refused log c e

variable {log : List (Session × Move)}

theorem refusing_initial (p : Profile) (seconds : List Int) (draws : List Float) :
    (initial p seconds draws).Refusing [] where
  own _ hc := absurd hc List.not_mem_nil
  known _ he := absurd he List.not_mem_nil
  fresh _ hc := absurd hc List.not_mem_nil
  refused _ hc := absurd hc List.not_mem_nil

theorem Refused.later {e : StreamError} (hr : Refused log c e) (u : Session)
    (other : ∀ b, m ≠ .call c.id b) : Refused (log ++ [(u, m)]) c e := by
  obtain ⟨before, v, after, rfl, refused, step, alone⟩ := hr
  refine ⟨before, v, after ++ [(u, m)], by simp, refused, step, fun d hd => ?_⟩
  rw [← List.append_assoc] at hd
  rcases List.mem_append.mp hd with hd | hd
  · exact alone d hd
  · rw [List.mem_singleton.mp hd]
    exact other

theorem Refusing.still (hi : s.Refusing log) (calls : t.calls = s.calls)
    (other : ∀ id b, m ≠ .call id b) : t.Refusing (log ++ [(s, m)]) where
  own := calls ▸ hi.own
  known e he id b he' := by
    rw [calls]
    rcases List.mem_append.mp he with he | he
    · exact hi.known e he id b he'
    · rw [List.mem_singleton.mp he] at he'
      exact absurd he' (other id b)
  fresh c hc hst e he := by
    rcases List.mem_append.mp he with he | he
    · exact hi.fresh c (calls ▸ hc) hst e he
    · rw [List.mem_singleton.mp he]
      exact other c.id
  refused c hc ha e hst := (hi.refused c (calls ▸ hc) ha e hst).later s (other c.id)

theorem Refusing.turn (hi : s.Refusing log) (hl : s.Locking) (hc : c ∈ s.calls) {stage : Stage}
    (calls : t.calls = (s.setStage c.id stage).calls) (began : stage ≠ .begun)
    (mine : ∀ id b, m = .call id b → id = c.id)
    (own : c.action.isSubscribing = true → stage.isSubscribing = true)
    (refused : c.action.isSubscribing = true → ∀ e, stage = .over (.failed e) →
      Refused (log ++ [(s, m)]) (c.at stage) e) : t.Refusing (log ++ [(s, m)]) := by
  have length : t.calls.length = s.calls.length := by
    rw [calls, setStage, List.length_map]
  refine ⟨fun d hd ha => ?_, fun e he id b he' => ?_, fun d hd hst e he b => ?_,
    fun d hd ha e hst => ?_⟩
  · rcases (hl.mem_turned hc calls).mp hd with rfl | ⟨hd, _⟩
    · exact own ha
    · exact hi.own d hd ha
  · rw [length]
    rcases List.mem_append.mp he with he | he
    · exact hi.known e he id b he'
    · rw [List.mem_singleton.mp he] at he'
      exact mine id b he' ▸ hl.id_lt hc
  · rcases (hl.mem_turned hc calls).mp hd with rfl | ⟨hd, other⟩
    · exact absurd hst began
    · rcases List.mem_append.mp he with he | he
      · exact hi.fresh d hd hst e he b
      · rw [List.mem_singleton.mp he]
        exact fun same => other (mine d.id b same)
  · rcases (hl.mem_turned hc calls).mp hd with rfl | ⟨hd, other⟩
    · exact refused ha e hst
    · exact (hi.refused d hd ha e hst).later s fun b same => other (mine d.id b same)

theorem Refusing.step (hi : s.Refusing log) (hs : s.Conduct h) (ht : s.step m = some t) :
    t.Refusing (log ++ s.journal m) := by
  rw [journal]
  cases step_deed ht with
  | elapsed | cutOff | answered | arrived => exact hi.still rfl (by simp)
  | worked deed => exact hi.still deed.frame.calls (by simp)
  | @invoked a _ =>
      refine ⟨fun d hd ha => ?_, fun e he id b he' => ?_, fun d hd hst e he b => ?_,
        fun d hd ha e hst => ?_⟩
      · rcases List.mem_append.mp hd with hd | hd
        · exact hi.own d hd ha
        · rw [List.mem_singleton.mp hd]
          rfl
      · rw [List.length_append]
        rcases List.mem_append.mp he with he | he
        · exact Nat.lt_add_right _ (hi.known e he id b he')
        · rw [List.mem_singleton.mp he] at he'
          cases he'
      · rcases List.mem_append.mp he with he | he
        · rcases List.mem_append.mp hd with hd | hd
          · exact hi.fresh d hd hst e he b
          · rw [List.mem_singleton.mp hd]
            exact fun same => absurd (hi.known e he _ b same) (Nat.lt_irrefl _)
        · rw [List.mem_singleton.mp he]
          simp
      · rcases List.mem_append.mp hd with hd | hd
        · exact (hi.refused d hd ha e hst).later s (by simp)
        · rw [List.mem_singleton.mp hd] at hst
          cases hst
  | @abandoned c hc hca _ =>
      have aside : ¬c.action.isSubscribing = true := by simp [hca, Action.isSubscribing]
      exact hi.turn hs.orderly.locking hc rfl (by simp) (by simp)
        (fun ha => absurd ha aside) fun ha => absurd ha aside
  | @called c b _ _ hc deed =>
      have locking := hs.orderly.locking
      have mine : ∀ id b', Move.call c.id b = .call id b' → id = c.id := by
        rintro id b' ⟨⟩
        rfl
      by_cases ha : c.action.isSubscribing = true
      · have step : s.callStep c b = some t := by
          obtain ⟨d, found, step⟩ := Option.bind_eq_some_iff.mp ht
          obtain ⟨hd, same⟩ := call?_some found
          cases locking.eq_of_id hd hc same
          exact step
        obtain ⟨stage, calls, began, own, refused⟩ :=
          callStep_proceeds locking hc ha (hi.own c hc ha) step
        refine hi.turn locking hc calls began mine (fun _ => own) fun _ e failed => ?_
        obtain ⟨hst, rfl, reason, rfl⟩ := refused e failed
        refine ⟨log, s, [], rfl, reason, ht, fun d hd => ?_⟩
        rw [List.append_nil] at hd
        exact hi.fresh c hc hst d hd
      · obtain ⟨stage, calls, began⟩ := deed.began
        exact hi.turn locking hc calls began mine (fun own => absurd own ha)
          fun own => absurd own ha

theorem Run.refusing {p : Profile} {seconds : List Int} {draws : List Float} {ms : List Move}
    (run : Run (initial p seconds draws) ms t) :
    t.Refusing ((initial p seconds draws).record journal ms) :=
  run.recorded (refusing_initial p seconds draws) fun hs hi ht => hi.step hs ht

end Session

end MarketWire.Stream
