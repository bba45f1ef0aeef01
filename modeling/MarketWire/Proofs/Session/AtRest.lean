import MarketWire.Proofs.Session.Agreement

namespace MarketWire.Stream

open Channel (Subscription)

def Worker.serving : Worker → Option Nat
  | .reading n _ => some n
  | .pushing n _ _ => some n
  | _ => none

namespace Session

variable {s t : Session} {h : List Event} {n : Nat}

structure AtRest (s : Session) (n : Nat) : Prop where
  serving : s.worker.serving = some n
  untold : ∀ c ∈ s.calls, c.stage.isTelling = false
  heard : s.channel.buffer = []

theorem AtRest.bears (hr : s.AtRest n) : s.worker.bears = some (n, []) := by
  have serving := hr.serving
  cases hw : s.worker with
  | reading k l =>
      rw [hw] at serving
      cases serving
      rfl
  | pushing k m l =>
      rw [hw] at serving
      cases serving
      rfl
  | _ =>
      rw [hw] at serving
      cases serving

theorem AtRest.outgoing (hr : s.AtRest n) : s.outgoing = [] := by
  rw [Session.outgoing, List.filterMap_eq_nil_iff]
  intro c hc
  have := hr.untold c hc
  cases hst : c.stage <;> simp_all [Stage.isTelling, Stage.outgoing]

theorem AtRest.inUse (hr : s.AtRest n) (hs : s.Conduct h) :
    s.phase = .ready ∧ s.InUse h n (Serving s.profile.access h n) := by
  have serving := hr.serving
  have stands : s.worker ≠ .idle → s.worker.Stands s h := hs.busy
  cases hw : s.worker with
  | reading k l =>
      rw [hw] at serving stands
      cases serving
      exact stands (by simp)
  | pushing k m l =>
      rw [hw] at serving stands
      cases serving
      exact stands (by simp)
  | _ =>
      rw [hw] at serving
      cases serving

theorem run_agrees {p : Profile} {seconds : List Int} {draws : List Float} {ms : List Move}
    (run : Run (initial p seconds draws) ms t) (rest : t.AtRest n) :
    let h := (initial p seconds draws).chronicle ms
    ∃ l, t.links.getLast? = some l ∧ l.number = n ∧ l.live = true ∧
      (∀ x, Serves l.written x ↔ t.registry.contains x = true ∨ Stray h n x) ∧
      ((∀ x, Serves l.written x ↔ t.registry.contains x = true) ↔ ∀ x, ¬Stray h n x) := by
  intro h
  obtain ⟨past, l, links, number, live, serving, carries⟩ := (rest.inUse run.conduct).2.carries
  have agreed : t.Agreed h := run.agreed
  have word : ∀ x, (t.prospect h x).word = none := by
    intro x
    change lastWord x t.coming = none
    rw [coming, rest.heard, rest.outgoing]
    rfl
  have unobserved : ∀ x, ¬(t.prospect h x).observed := by
    rintro x ⟨c, hc, hx⟩
    have := rest.untold c hc
    rw [hx] at this
    cases this
  have holds : ∀ x, t.Holds n [] x ↔ Serves l.written x := by
    intro x
    rw [Holds, carries, or_iff_left List.not_mem_nil]
    exact serving.upright.carries x
  have settled : ∀ x, (Serves l.written x ↔ t.registry.contains x = true ∨ Stray h n x) ∧
      (Stray h n x → ¬t.registry.contains x = true) := by
    intro x
    rw [← holds]
    exact (agreed.firm n [] (Or.inl rest.bears) x).atRest (agreed.fair x) (word x) (unobserved x)
      Stray.abandoned
  refine ⟨l, by simp [links], number, live, fun x => (settled x).1, ?_, ?_⟩
  · intro same x stray
    exact (settled x).2 stray ((same x).mp ((settled x).1.mpr (Or.inr stray)))
  · intro none x
    rw [(settled x).1, or_iff_left (none x)]

theorem replacing_agrees :
    ∃ t, Run (visitor .standard) replacing t ∧ t.AtRest 2 ∧
      t.registry.all = [.tickers "BTC-USDT"] ∧
      ∃ l, t.links.getLast? = some l ∧ l.number = 2 ∧ l.live = true ∧
        (∀ x, Serves l.written x ↔ t.registry.contains x = true ∨
          Stray ((visitor .standard).chronicle replacing) 2 x) ∧
        ((∀ x, Serves l.written x ↔ t.registry.contains x = true) ↔
          ∀ x, ¬Stray ((visitor .standard).chronicle replacing) 2 x) := by
  have played : ((visitor .standard).play replacing).map (fun t =>
      (t.registry.all, t.worker.serving, t.calls.all (!·.stage.isTelling), t.channel.buffer))
      = some ([.tickers "BTC-USDT"], some 2, true, []) := rfl
  obtain ⟨t, run, ended⟩ := exists_run _ _ _ played
  simp only [Prod.mk.injEq, List.all_eq_true, Bool.not_eq_true'] at ended
  obtain ⟨registry, serving, untold, heard⟩ := ended
  have rest : t.AtRest 2 := ⟨serving, untold, heard⟩
  exact ⟨t, run, rest, registry, run_agrees run rest⟩

def retried (s : Session) (attempts : Nat) : Session :=
  { s.withPhase .connecting with
    draws := s.draws.drop 1
    now := s.now + s.settings.backoff.delay attempts (s.draws.headD 0.0)
    worker := .attempting (attempts + 1) .starting }

theorem run_retry {attempts : Nat} {e : StreamError} (hw : s.worker = .deciding attempts e)
    (allowed : s.settings.backoff.allows attempts = true) :
    Run s
      [.worker .proceed, .elapse (s.settings.backoff.delay attempts (s.draws.headD 0.0)),
        .worker .timer]
      (s.retried attempts) := by
  refine .cons (t := s.decide attempts e) ?_ (.cons rfl (.cons ?_ (.nil _)))
  · simp [step, workerStep, hw]
  · rw [Session.decide, if_pos allowed]
    simp [step, workerStep, withPhase, retried]

def losing : List Move := connecting ++ [.arrive 1 .endOfStream, .worker .read]

def lost : Session := ((visitor .standard).play losing).getD (visitor .standard)

def regretting : List Move :=
  [.invoke (.subscribe (.tickers "BTC-USDT")), .call 1 .proceed, .call 1 .proceed,
    .call 1 .proceed, .call 1 .proceed, .invoke (.unsubscribe (.tickers "BTC-USDT")),
    .call 2 .proceed, .call 2 .proceed, .call 2 .proceed, .call 2 .proceed, .worker .proceed,
    .answer 2 .accepted, .worker .read, .worker .proceed, .worker .proceed, .worker .command]

def leftover : List Move :=
  losing ++
    ([.worker .proceed, .elapse (Backoff.standard.delay 0 0.0), .worker .timer] ++ regretting)

theorem leftover_disagrees :
    ∃ t, Run (visitor .standard) leftover t ∧ t.phase = .ready ∧ t.AtRest 2 ∧
      (∀ c ∈ t.calls, ∃ a, c.stage = .over a) ∧
      ∃ l, t.links.getLast? = some l ∧ l.number = 2 ∧ Serves l.written (.tickers "BTC-USDT") ∧
        t.registry.contains (.tickers "BTC-USDT") = false := by
  have first : Run (visitor .standard) losing lost := run_iff_play.mpr rfl
  have second : Run lost _ (lost.retried 0) := run_retry (e := .streamEnded) rfl rfl
  have played : ((lost.retried 0).play regretting).map (fun t =>
      (t.phase, t.worker.serving, t.channel.buffer, t.calls.map Call.stage,
        t.links.getLast?.map (fun l => (l.number, lastAbout l.written (.tickers "BTC-USDT"))),
        t.registry.contains (.tickers "BTC-USDT")))
      = some (.ready, some 2, [], List.replicate 3 (.over .done), some (2, some true), false) := rfl
  obtain ⟨t, third, ended⟩ := exists_run _ _ _ played
  simp only [Prod.mk.injEq] at ended
  obtain ⟨phase, serving, heard, stages, last, unregistered⟩ := ended
  have answered : ∀ c ∈ t.calls, c.stage = .over .done := by
    intro c hc
    exact List.eq_of_mem_replicate (stages ▸ List.mem_map_of_mem hc)
  obtain ⟨l, hl, served⟩ := Option.map_eq_some_iff.mp last
  obtain ⟨number, served⟩ := Prod.mk.inj served
  refine ⟨t, first.append (second.append third), phase, ⟨serving, ?_, heard⟩, ?_, l, hl, number,
    served, unregistered⟩
  · intro c hc
    rw [answered c hc]
    rfl
  · exact fun c hc => ⟨_, answered c hc⟩

end Session

end MarketWire.Stream
