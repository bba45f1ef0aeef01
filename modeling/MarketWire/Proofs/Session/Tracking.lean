import MarketWire.Proofs.Session.Conduct

namespace MarketWire.Stream

open Channel (Subscription)

inductive Change where
  | subscribe (x : Subscription)
  | unsubscribe (x : Subscription)
  deriving DecidableEq

def Change.apply (xs : List Subscription) : Change → List Subscription
  | .subscribe x => if x ∈ xs then xs else xs ++ [x]
  | .unsubscribe x => xs.filter (· != x)

def tracked (changes : List Change) : List Subscription := changes.foldl Change.apply []

def Action.plain? : Action → Option Change
  | .subscribe x => some (.subscribe x)
  | .unsubscribe x => some (.unsubscribe x)
  | _ => none

def Action.change? : Action → Option Change
  | .follow f =>
      match f.subscription with
      | .ok x => some (.subscribe x)
      | .error _ => none
  | a => a.plain?

def Call.pending? (c : Call) : Option Change :=
  match c.stage with
  | .changing a => a.plain?
  | _ => none

def Call.made? (c : Call) : Option Change :=
  match c.stage with
  | .observing _ => c.action.change?
  | .sending _ => c.action.change?
  | .over .done => c.action.change?
  | _ => none

def Call.Fits (c : Call) : Prop :=
  match c.stage with
  | .locking a => a.plain? = c.action.change?
  | .changing a => a.plain? = c.action.change?
  | .discarding => c.action.change? = none
  | .stopping _ => c.action.change? = none
  | .handing _ => c.action.change? = none
  | .joining _ _ => c.action.change? = none
  | .attempting _ => c.action.change? = none
  | _ => True

theorem Call.made?_of_pending {c : Call} {change : Change} (hp : c.pending? = some change) :
    c.made? = none := by
  cases hc : c.stage <;> simp_all [Call.pending?, Call.made?]

namespace Session

def accepts (s : Session) : Move → List (Nat × Change)
  | .call id _ => ((s.call? id).bind fun c => c.pending?.map fun change => (c.id, change)).toList
  | _ => []

def accepted (s : Session) : List Move → List (Nat × Change)
  | [] => []
  | m :: ms => s.accepts m ++ (s.step m).elim [] fun t => t.accepted ms

def changes (s : Session) (ms : List Move) : List Change := (s.accepted ms).map Prod.snd

variable {s t : Session} {c : Call} {m : Move} {ms : List Move} {h : List Event}

theorem accepted_cons (ms : List Move) (first : s.step m = some t) :
    s.accepted (m :: ms) = s.accepts m ++ t.accepted ms := by
  simp [accepted, first]

theorem changes_cons (ms : List Move) (first : s.step m = some t) :
    s.changes (m :: ms) = (s.accepts m).map Prod.snd ++ t.changes ms := by
  rw [changes, accepted_cons ms first, List.map_append]
  rfl

theorem CallDeed.neutral {es : List Event} (hs : ∀ a, c.stage ≠ .changing a)
    (deed : CallDeed s c es t) : ∀ e ∈ es, e.isNeutral = true := by
  cases deed with
  | added hc => exact absurd hc (hs _)
  | removed hc => exact absurd hc (hs _)
  | ended => split <;> simp [Event.isNeutral]
  | attempted _ deed => exact deed.neutral
  | _ => simp [Event.isNeutral]

theorem pending?_eq_none (hs : ∀ a, c.stage ≠ .changing a) : c.pending? = none := by
  cases hc : c.stage with
  | changing a => exact absurd hc (hs a)
  | _ => simp [Call.pending?, hc]

theorem Booked.change (hb : s.Booked h) (a : Action) :
    wanted (h ++ s.changeEvents a) = a.plain?.toList.foldl Change.apply (wanted h) := by
  have held : ∀ {x}, s.registry.contains x = true ↔ x ∈ wanted h := hb.contains
  cases a with
  | subscribe x =>
      by_cases hx : x ∈ wanted h
      · simp [changeEvents, Action.plain?, Change.apply, held.mpr hx, hx]
      · have absent : s.registry.contains x = false := by
          rw [Bool.eq_false_iff]
          exact fun e => hx (held.mp e)
        simp [changeEvents, Action.plain?, Change.apply, absent, hx, wanted_append_added]
  | unsubscribe x =>
      by_cases hx : x ∈ wanted h
      · simp [changeEvents, Action.plain?, Change.apply, held.mpr hx, wanted_append_removed]
      · have absent : s.registry.contains x = false := by
          rw [Bool.eq_false_iff]
          exact fun e => hx (held.mp e)
        have same : (wanted h).filter (· != x) = wanted h := by
          rw [List.filter_eq_self]
          intro y hy
          rw [bne_iff_ne]
          rintro rfl
          exact hx hy
        simp [changeEvents, Action.plain?, Change.apply, absent, same]
  | _ => simp [changeEvents, Action.plain?]

theorem Booked.account (hb : s.Booked h) (ht : s.step m = some t) :
    wanted (h ++ s.events m) = ((s.accepts m).map Prod.snd).foldl Change.apply (wanted h) := by
  cases m with
  | call id b =>
      obtain ⟨c, hc, step⟩ := Option.bind_eq_some_iff.mp ht
      simp only [events, accepts, hc, Option.elim_some, Option.bind_some]
      by_cases hs : ∃ a, c.stage = .changing a
      · obtain ⟨a, hs⟩ := hs
        cases b <;> simp only [callStep, hs, reduceCtorEq] at step
        have change := hb.change a
        simp only [callEvents, Call.pending?, hs]
        rw [change]
        cases a.plain? <;> rfl
      · have hs : ∀ a, c.stage ≠ .changing a := fun a e => hs ⟨a, e⟩
        rw [wanted_append_neutral h ((callStep_deed step).neutral hs), pending?_eq_none hs]
        rfl
  | worker b => exact wanted_append_neutral h (workerStep_deed ht).same.1
  | _ => exact wanted_append_neutral h (by simp [events])

theorem Run.account (run : Run s ms t) (hb : s.Booked h) :
    wanted (h ++ s.chronicle ms) = (s.changes ms).foldl Change.apply (wanted h) := by
  induction run generalizing h with
  | nil s => simp [chronicle, changes, accepted]
  | cons first _ ih =>
      rw [chronicle_cons _ first, ← List.append_assoc, changes_cons _ first, List.foldl_append,
        ih (hb.step first), hb.account first]

theorem Run.wanted {p : Profile} {seconds : List Int} {draws : List Float}
    (run : Run (initial p seconds draws) ms t) :
    wanted ((initial p seconds draws).chronicle ms)
      = tracked ((initial p seconds draws).changes ms) :=
  run.account (booked_initial p seconds draws)

structure Entered (s : Session) (as : List (Nat × Change)) : Prop where
  locking : s.Locking
  fits : ∀ c ∈ s.calls, c.Fits
  entered : ∀ id change, (id, change) ∈ as ↔ ∃ c ∈ s.calls, c.id = id ∧ c.made? = some change
  once : (as.map Prod.fst).Nodup

theorem entered_initial (p : Profile) (seconds : List Int) (draws : List Float) :
    (initial p seconds draws).Entered [] where
  locking := locking_initial p seconds draws
  fits _ hc := absurd hc List.not_mem_nil
  entered id change := by simp [initial]
  once := List.nodup_nil

def Turns (s : Session) (c : Call) (t : Session) : Prop :=
  ∃ stage, t.calls = (s.setStage c.id stage).calls ∧ (c.at stage).Fits ∧
    (c.at stage).made? = c.made?.or c.pending?

theorem begin_turns (hc : c.stage = .begun) (ht : s.begin c.id c.action = some t) :
    s.Turns c t := by
  have made : c.made? = none := by simp [Call.made?, hc]
  have pending : c.pending? = none := by simp [Call.pending?, hc]
  have refused : ∀ e : StreamError, s.Turns c (s.finishCall c.id (.failed e)) :=
    fun e => ⟨_, rfl, trivial, by rw [made, pending]; rfl⟩
  have asked : ∀ a : Action, a.plain? = c.action.change? →
      s.Turns c (s.setStage c.id (.locking a)) :=
    fun a plain => ⟨_, rfl, plain, by rw [made, pending]; rfl⟩
  have locked : ∀ a : Action, a.plain? = c.action.change? → s.Turns c (s.beginLocked c.id a) := by
    intro a plain
    simp only [beginLocked]
    split
    · exact refused _
    · exact asked a plain
  have subscribed : ∀ x : Subscription, c.action.change? = some (.subscribe x) →
      s.Turns c (s.beginSubscribe c.id x) := by
    intro x hx
    simp only [beginSubscribe]
    split
    · exact refused _
    · split
      · exact refused _
      · exact asked (.subscribe x) hx.symm
  have answered : ∀ {u : Session} (a : Answer), c.action.change? = none →
      u.calls = (s.setStage c.id (.over a)).calls → s.Turns c u := by
    intro u a other calls
    refine ⟨_, calls, trivial, ?_⟩
    rw [made, pending]
    cases a with
    | done => exact other
    | _ => rfl
  cases ha : c.action with
  | connect =>
      simp only [Session.begin, ha, Option.some.injEq] at ht
      subst ht
      exact ⟨_, rfl, by simp [Call.Fits, ha, Action.change?, Action.plain?],
        by rw [made, pending]; rfl⟩
  | follow f =>
      simp only [Session.begin, ha] at ht
      split at ht <;> cases ht
      · exact refused _
      · next x hx => exact subscribed x (by simp [ha, Action.change?, hx])
  | subscribe x =>
      simp only [Session.begin, ha, Option.some.injEq] at ht
      subst ht
      exact subscribed x (by simp [ha, Action.change?, Action.plain?])
  | unsubscribe x =>
      simp only [Session.begin, ha, Option.some.injEq] at ht
      subst ht
      exact locked _ (by simp [ha, Action.change?])
  | reconnect =>
      simp only [Session.begin, ha, Option.some.injEq] at ht
      subst ht
      exact locked _ (by simp [ha, Action.change?])
  | close =>
      have other : c.action.change? = none := by simp [ha, Action.change?, Action.plain?]
      simp only [Session.begin, ha] at ht
      split at ht <;> cases ht
      · exact answered .done other rfl
      · exact ⟨_, rfl, other, by rw [made, pending]; rfl⟩
  | receive =>
      have other : c.action.change? = none := by simp [ha, Action.change?, Action.plain?]
      simp only [Session.begin, ha, receive] at ht
      split at ht <;> cases ht
      · exact answered _ other rfl
      · exact answered _ other rfl

theorem CallDeed.turns {es : List Event} (fits : c.Fits) (hb : c.stage ≠ .begun)
    (deed : CallDeed s c es t) : s.Turns c t := by
  have after : ∀ {before : Stage} (stage : Stage), c.stage = before →
      t.calls = (s.setStage c.id stage).calls → (c.at stage).Fits →
      (c.at stage).made? = (c.at before).made?.or (c.at before).pending? → s.Turns c t := by
    intro before stage hc calls fits made
    refine ⟨stage, calls, fits, made.trans ?_⟩
    have same : c.at before = c := by simp [Call.at, ← hc]
    rw [same]
  have ended : ∀ {before : Stage}, c.stage = before → (c.at before).made? = c.action.change? →
      (c.at before).pending? = none → t.calls = (s.setStage c.id (.over .done)).calls →
      s.Turns c t := by
    intro before hc made pending calls
    refine after _ hc calls trivial ?_
    rw [made, pending, Option.or_none]
    rfl
  rw [Call.Fits] at fits
  cases deed with
  | declined hc | asked hc | shut hc | begun hc | received hc => exact absurd hc hb
  | discarded hc | replacing hc | closing hc =>
      rw [hc] at fits
      exact after _ hc rfl fits.symm rfl
  | locked hc | handing hc | unled hc | unheard hc | handed hc | redialled hc =>
      rw [hc] at fits
      exact after _ hc rfl fits rfl
  | added hc | removed hc | unchanged hc =>
      rw [hc] at fits
      exact after _ hc rfl trivial fits.symm
  | noticed hc => exact after _ hc rfl trivial (Option.or_none).symm
  | skipped hc | unsent hc | sent hc => exact ended hc rfl rfl rfl
  | ended hc =>
      rw [hc] at fits
      exact after _ hc rfl trivial fits
  | attempted hc deed =>
      rename_i a s' p
      rw [hc] at fits
      have calls := deed.frame.calls
      cases p with
      | more b => exact after (.attempting b) hc (by simp [onCallProgress, setStage, calls]) fits rfl
      | done n =>
          refine after (.over .done) hc ?_ trivial fits
          simp [onCallProgress, finishCall, setStage, startWorker, calls]
      | failed e =>
          refine after (.over (.failed e)) hc ?_ trivial rfl
          simp only [onCallProgress]
          split <;> simp [finishCall, setStage, withPhase, calls]

theorem callStep_turns {b : Branch} (fits : c.Fits) (ht : s.callStep c b = some t) :
    s.Turns c t := by
  by_cases hc : c.stage = .begun
  · cases b <;> simp only [callStep, hc, reduceCtorEq] at ht
    exact begin_turns hc ht
  · exact (callStep_deed ht).turns fits hc

theorem Entered.same {as : List (Nat × Change)} (he : s.Entered as) (locking : t.Locking)
    (calls : t.calls = s.calls) : t.Entered as := by
  refine ⟨locking, ?_, ?_, he.once⟩
  · rw [calls]
    exact he.fits
  · rw [calls]
    exact he.entered

theorem Entered.made {as : List (Nat × Change)} (he : s.Entered as) (hc : c ∈ s.calls)
    {change : Change} : (c.id, change) ∈ as ↔ c.made? = some change := by
  rw [he.entered]
  constructor
  · rintro ⟨d, hd, same, made⟩
    rwa [he.locking.eq_of_id hd hc same] at made
  · exact fun made => ⟨c, hc, rfl, made⟩

theorem Entered.turn {as : List (Nat × Change)} (he : s.Entered as) (locking : t.Locking)
    (hc : c ∈ s.calls) (turns : s.Turns c t) :
    t.Entered (as ++ (c.pending?.map fun change => (c.id, change)).toList) := by
  obtain ⟨stage, calls, fits, made⟩ := turns
  have mem : ∀ {d}, d ∈ t.calls ↔ d = c.at stage ∨ d ∈ s.calls ∧ d.id ≠ c.id :=
    he.locking.mem_turned hc calls
  have all : ∀ d ∈ t.calls, d.Fits := by
    intro d hd
    rcases mem.mp hd with rfl | ⟨hd, _⟩
    · exact fits
    · exact he.fits d hd
  have others : ∀ {id change}, id ≠ c.id →
      ((∃ d ∈ t.calls, d.id = id ∧ d.made? = some change) ↔ (id, change) ∈ as) := by
    intro id change other
    rw [he.entered]
    constructor
    · rintro ⟨d, hd, same, made⟩
      rcases mem.mp hd with rfl | ⟨hd, _⟩
      · exact absurd same.symm other
      · exact ⟨d, hd, same, made⟩
    · rintro ⟨d, hd, same, made⟩
      exact ⟨d, mem.mpr (Or.inr ⟨hd, same ▸ other⟩), same, made⟩
  have own : ∀ {change}, (∃ d ∈ t.calls, d.id = c.id ∧ d.made? = some change) ↔
      c.made?.or c.pending? = some change := by
    intro change
    rw [← made]
    constructor
    · rintro ⟨d, hd, same, made⟩
      rcases mem.mp hd with rfl | ⟨_, hid⟩
      · exact made
      · exact absurd same hid
    · exact fun made => ⟨c.at stage, mem.mpr (Or.inl rfl), rfl, made⟩
  cases hp : c.pending? with
  | none =>
      simp only [Option.map_none, Option.toList_none, List.append_nil]
      refine ⟨locking, all, fun id change => ?_, he.once⟩
      by_cases hid : id = c.id
      · rw [hid, he.made hc, own, hp, Option.or_none]
      · rw [others hid]
  | some x =>
      have unmade : c.made? = none := Call.made?_of_pending hp
      have fresh : ∀ change, (c.id, change) ∉ as := by
        intro change hm
        rw [he.made hc, unmade] at hm
        cases hm
      simp only [Option.map_some, Option.toList_some]
      refine ⟨locking, all, fun id change => ?_, ?_⟩
      · by_cases hid : id = c.id
        · rw [hid, own, unmade, hp, Option.none_or, Option.some.injEq, List.mem_append,
            or_iff_right (fresh change), List.mem_singleton, Prod.mk.injEq, eq_comm (a := change)]
          exact and_iff_right rfl
        · rw [others hid, List.mem_append, List.mem_singleton, Prod.mk.injEq]
          simp [hid]
      · rw [List.map_append, List.nodup_append]
        refine ⟨he.once, List.nodup_singleton _, ?_⟩
        rintro _ hid _ hx rfl
        obtain ⟨e, hm, same⟩ := List.mem_map.mp hid
        have own : e.1 = c.id := same.trans (List.mem_singleton.mp hx)
        exact fresh e.2 (own ▸ hm)

theorem Entered.step {as : List (Nat × Change)} (he : s.Entered as) (ht : s.step m = some t) :
    t.Entered (as ++ s.accepts m) := by
  have locking := he.locking.step ht
  have still : t.calls = s.calls → t.Entered (as ++ []) := by
    intro calls
    rw [List.append_nil]
    exact he.same locking calls
  have deed := step_deed ht
  cases deed with
  | elapsed => exact still rfl
  | cutOff => exact still rfl
  | invoked =>
      change Entered _ (as ++ [])
      rw [List.append_nil]
      refine ⟨locking, ?_, ?_, he.once⟩
      · intro d hd
        rcases List.mem_append.mp hd with hd | hd
        · exact he.fits d hd
        · rw [List.mem_singleton.mp hd]
          trivial
      · intro id change
        rw [he.entered]
        constructor
        · rintro ⟨d, hd, made⟩
          exact ⟨d, List.mem_append_left _ hd, made⟩
        · rintro ⟨d, hd, same, made⟩
          rcases List.mem_append.mp hd with hd | hd
          · exact ⟨d, hd, same, made⟩
          · rw [List.mem_singleton.mp hd] at made
            cases made
  | abandoned hc action stage =>
      rename_i c
      have turns : s.Turns c (s.setStage c.id (.over .done)) := by
        refine ⟨_, rfl, trivial, ?_⟩
        simp [Call.made?, Call.pending?, stage, action, Action.change?, Action.plain?]
      have entered := he.turn locking hc turns
      have idle : c.pending? = none := by simp [Call.pending?, stage]
      rw [idle] at entered
      exact entered
  | called =>
      rename_i c b _ _
      obtain ⟨d, found, step⟩ := Option.bind_eq_some_iff.mp ht
      obtain ⟨hd, same⟩ := call?_some found
      simp only [accepts, found, Option.bind_some]
      exact he.turn locking hd (callStep_turns (he.fits d hd) step)
  | worked deed => exact still deed.frame.calls
  | answered => exact still rfl
  | arrived => exact still rfl

theorem Run.entered_from {as : List (Nat × Change)} (run : Run s ms t) (he : s.Entered as) :
    t.Entered (as ++ s.accepted ms) := by
  induction run generalizing as with
  | nil s => simpa [accepted] using he
  | cons first _ ih =>
      rw [accepted_cons _ first, ← List.append_assoc]
      exact ih (he.step first)

theorem AttemptDeed.lists {a : Attempt} {es : List Event} {q : Progress} {n : Nat}
    {xs : List Subscription} (deed : AttemptDeed s a es t q) (he : .listed n xs ∈ es) :
    xs = s.registry.all := by
  cases deed with
  | listed =>
      cases List.mem_singleton.mp he
      rfl
  | _ => simp at he

theorem step_lists {n : Nat} {xs : List Subscription} (ht : s.step m = some t)
    (he : .listed n xs ∈ s.events m) : xs = s.registry.all := by
  have deed := step_deed ht
  generalize s.events m = es at deed he
  cases deed with
  | called _ deed =>
      cases deed with
      | attempted _ deed => exact deed.lists he
      | ended => split at he <;> simp at he
      | _ => simp at he
  | worked deed =>
      cases deed with
      | attempted _ deed => exact deed.lists he
      | _ => simp at he
  | _ => simp at he

theorem Run.exists_step {e : Event} (run : Run s ms t) (he : e ∈ s.chronicle ms) :
    ∃ before m after u v, ms = before ++ m :: after ∧ Run s before u ∧ u.step m = some v ∧
      e ∈ u.events m := by
  induction run with
  | nil s => cases he
  | cons first rest ih =>
      rename_i s u t m ms
      rw [chronicle_cons _ first] at he
      rcases List.mem_append.mp he with he | he
      · exact ⟨[], m, ms, s, u, rfl, .nil s, first, he⟩
      · obtain ⟨before, k, after, v, w, rfl, run, step, he⟩ := ih he
        exact ⟨m :: before, k, after, v, w, rfl, .cons first run, step, he⟩

def Restores (s : Session) (ms : List Move) (n : Nat) (xs : List Subscription) : Prop :=
  ∃ before m after u, ms = before ++ m :: after ∧ Run s before u ∧ .listed n xs ∈ u.events m ∧
    xs = tracked (s.changes before)

variable {p : Profile} {seconds : List Int} {draws : List Float}

theorem Run.all_eq (run : Run (initial p seconds draws) ms t) :
    t.registry.all = tracked ((initial p seconds draws).changes ms) :=
  run.conduct.booked.listed.trans run.wanted

theorem Run.restores (run : Run (initial p seconds draws) ms t) {n : Nat}
    {xs : List Subscription} (he : .listed n xs ∈ (initial p seconds draws).chronicle ms) :
    (initial p seconds draws).Restores ms n xs := by
  obtain ⟨before, m, after, u, v, split, first, step, he⟩ := run.exists_step he
  exact ⟨before, m, after, u, split, first, he, (step_lists step he).trans first.all_eq⟩

def Follows (s : Session) (ms : List Move) (access : Access) (l : Link) : Prop :=
  ∃ login, IsLogin access login ∧
    (texts l.written <+: login ∨
      ∃ xs tail, s.Restores ms l.number xs ∧ (∀ f ∈ tail, Routine f) ∧
        texts l.written <+: login ++ (xs.map .subscribeTo ++ tail))

theorem Run.follows (run : Run (initial p seconds draws) ms t) :
    ∀ l ∈ t.links, (initial p seconds draws).Follows ms p.access l := by
  intro l hl
  have script := (run.conduct.disciplined l hl).script
  rw [run.profile] at script
  rw [Follows]
  generalize texts l.written = fs at script ⊢
  cases script with
  | greeting login written => exact ⟨_, login, Or.inl written⟩
  | serving opened routine written =>
      rename_i login fs tail xs
      obtain ⟨before, after, split, _⟩ := opened.listed
      have listed : .listed l.number xs ∈ (initial p seconds draws).chronicle ms := by
        rw [split]
        exact List.mem_append_right _ List.mem_cons_self
      refine ⟨login, opened.login, Or.inr ⟨xs, tail, run.restores listed, routine, ?_⟩⟩
      exact (List.prefix_append_right_inj login).mpr written

structure Tracks (s : Session) (ms : List Move) (access : Access) (t : Session) : Prop where
  listed : t.registry.all = tracked (s.changes ms)
  counted : t.registry.count = (tracked (s.changes ms)).length
  entered : ∀ id change, (id, change) ∈ s.accepted ms ↔
    ∃ c ∈ t.calls, c.id = id ∧ c.made? = some change
  once : ((s.accepted ms).map Prod.fst).Nodup
  restored : ∀ n xs, .listed n xs ∈ s.chronicle ms → s.Restores ms n xs
  follows : ∀ l ∈ t.links, s.Follows ms access l

theorem run_tracks (run : Run (initial p seconds draws) ms t) :
    (initial p seconds draws).Tracks ms p.access t ∧
      ∀ {q : Profile} {seconds' : List Int} {draws' : List Float} {ns : List Move} {u : Session},
        Run (initial q seconds' draws') ns u →
        (initial q seconds' draws').changes ns = (initial p seconds draws).changes ms →
        u.registry.all = t.registry.all ∧ u.registry.count = t.registry.count := by
  have entered : t.Entered ((initial p seconds draws).accepted ms) :=
    run.entered_from (entered_initial p seconds draws)
  have all := run.all_eq
  refine ⟨⟨all, ?_, entered.entered, entered.once, fun n xs he => run.restores he, run.follows⟩, ?_⟩
  · rw [Registry.count_eq_length, all]
  · intro q seconds' draws' ns u other same
    have both : u.registry.all = t.registry.all := by rw [other.all_eq, same, all]
    refine ⟨both, ?_⟩
    rw [Registry.count_eq_length, Registry.count_eq_length, both]

def reconsidering : List Move :=
  connecting ++
    [.invoke (.subscribe (.tickers "BTC-USDT")), .call 1 .proceed, .call 1 .proceed,
      .call 1 .proceed, .call 1 .proceed, .invoke (.follow (.tickers "ETH-USDT")), .call 2 .proceed,
      .call 2 .proceed, .call 2 .proceed, .call 2 .proceed,
      .invoke (.unsubscribe (.tickers "BTC-USDT")), .call 3 .proceed, .call 3 .proceed,
      .call 3 .proceed, .call 3 .proceed, .call 3 .proceed,
      .invoke (.subscribe (.tickers "BTC-USDT")), .call 4 .proceed, .call 4 .proceed,
      .call 4 .proceed, .call 4 .proceed]

def reordering : List Move :=
  reconsidering ++
    [.worker .command, .worker .command, .worker .command, .worker .command, .invoke .reconnect,
      .call 5 .proceed, .call 5 .proceed, .call 5 .proceed, .call 5 .proceed, .call 5 .proceed,
      .worker .command, .worker .proceed, .call 5 .proceed, .call 5 .proceed, .answer 2 .accepted,
      .call 5 .read, .call 5 .proceed, .call 5 .proceed, .call 5 .proceed, .call 5 .proceed]

theorem reordering_tracks :
    ∃ t u, Run (visitor .standard) reordering t ∧ Run (visitor .standard) reconsidering u ∧
      t.registry.all = [.tickers "ETH-USDT", .tickers "BTC-USDT"] ∧
      t.links.getLast?.map (fun l => texts l.written)
        = some [.subscribeTo (.tickers "ETH-USDT"), .subscribeTo (.tickers "BTC-USDT")] ∧
      (visitor .standard).changes reconsidering = (visitor .standard).changes reordering ∧
      (visitor .standard).Tracks reordering .marketData t ∧
      u.registry.all = t.registry.all ∧ u.registry.count = t.registry.count := by
  have played : ((visitor .standard).play reordering).map (fun t =>
      (t.registry.all, t.links.getLast?.map fun l => texts l.written))
      = some ([.tickers "ETH-USDT", .tickers "BTC-USDT"],
        some [.subscribeTo (.tickers "ETH-USDT"), .subscribeTo (.tickers "BTC-USDT")]) := rfl
  have shorter : ((visitor .standard).play reconsidering).map (fun u => u.calls.length)
      = some 5 := rfl
  have asked : ∀ ms ∈ [reconsidering, reordering], (visitor .standard).changes ms
      = [.subscribe (.tickers "BTC-USDT"), .subscribe (.tickers "ETH-USDT"),
        .unsubscribe (.tickers "BTC-USDT"), .subscribe (.tickers "BTC-USDT")] := by
    intro ms hm
    rcases List.mem_pair.mp hm with rfl | rfl
    · rfl
    · rfl
  have same : (visitor .standard).changes reconsidering
      = (visitor .standard).changes reordering := by
    rw [asked reconsidering (by simp), asked reordering (by simp)]
  obtain ⟨t, run, ended⟩ := exists_run _ _ _ played
  obtain ⟨listed, written⟩ := Prod.mk.inj ended
  obtain ⟨u, other, _⟩ := exists_run _ _ _ shorter
  obtain ⟨tracks, alike⟩ := run_tracks run
  exact ⟨t, u, run, other, listed, written, same, tracks, alike other same⟩

end Session

end MarketWire.Stream
