import MarketWire.Proofs.Session.Keepalive
import MarketWire.Proofs.Session.Recovery

namespace MarketWire.Stream

def Trial.Shown (s t : Session) : Trial → Prop
  | lost => ∃ e, t.worker = .deciding 0 e
  | paused number since span =>
      since = s.now ∧ t.worker = .waiting (number + 1) (s.now + span) ∧ t.phase = .disconnected
  | heard .close => t.worker = .idle ∧ t.phase = .closed ∧ t.mailbox = s.mailbox.close
  | heard .detach => t.worker = .idle ∧ t.phase = s.phase ∧ t.mailbox = s.mailbox
  | heard _ => t.worker = s.worker ∧ t.phase = s.phase ∧ t.mailbox = s.mailbox
  | dialled number now =>
      now = s.now ∧ t.phase = .connecting ∧
        ∃ attempts, number = attempts - 1 ∧ t.worker = .attempting attempts .starting
  | failed e => ∃ attempts, t.worker = if e.isAuth then .idle else .deciding attempts e
  | restored n => ∃ k, t.worker = .reading n k
  | gaveUp e =>
      t.worker = .idle ∧ t.phase = .closed ∧ t.lastError = some e ∧ t.mailbox = s.mailbox.finish
  | aborted => t.worker = .idle ∧ t.phase = s.phase ∧ t.mailbox = s.mailbox

namespace Session

variable {s t : Session} {e : StreamError} {m : Move} {x : Trial} {attempts n : Nat}

theorem decide_shown (hx : x ∈ s.decideTrials attempts e) : x.Shown s (s.decide attempts e) := by
  rw [decideTrials] at hx
  cases allowed : s.settings.backoff.allows attempts with
  | true =>
      rw [allowed, if_pos rfl] at hx
      rw [List.mem_singleton.mp hx, Session.decide, if_pos allowed]
      exact ⟨rfl, rfl, rfl⟩
  | false =>
      rw [allowed, if_neg Bool.false_ne_true] at hx
      rw [List.mem_singleton.mp hx, Session.decide, allowed, if_neg Bool.false_ne_true]
      exact ⟨rfl, rfl, rfl, rfl⟩

theorem pauseCommand_shown {c : Command} (hn : s.nextCommand = some (c, t)) :
    (Trial.heard c).Shown s (t.onPauseCommand c) := by
  have worker := nextCommand_worker hn
  have phase := nextCommand_phase hn
  have mailbox := nextCommand_mailbox hn
  cases c with
  | subscribe x => exact ⟨worker, phase, mailbox⟩
  | unsubscribe x => exact ⟨worker, phase, mailbox⟩
  | close => exact ⟨rfl, rfl, congrArg Mailbox.close mailbox⟩
  | detach => exact ⟨rfl, phase, mailbox⟩

theorem progress_shown {p : Progress} (mailbox : t.mailbox = s.mailbox)
    (hx : x ∈ progressTrials p) : x.Shown s (t.onProgress attempts p) := by
  cases p with
  | more a => cases hx
  | done n =>
      rw [List.mem_singleton.mp hx]
      exact ⟨_, rfl⟩
  | failed e =>
      rw [onProgress]
      cases auth : e.isAuth with
      | true =>
          simp only [progressTrials, auth, ↓reduceIte, List.mem_cons, List.not_mem_nil,
            or_false] at hx
          rcases hx with rfl | rfl
          · exact ⟨0, by simp [auth, giveUp, endWorker]⟩
          · exact ⟨rfl, rfl, rfl, congrArg Mailbox.finish mailbox⟩
      | false =>
          simp only [progressTrials, auth, Bool.false_eq_true, ↓reduceIte, List.mem_singleton] at hx
          rw [hx]
          exact ⟨attempts, by simp [auth]⟩

theorem WorkerDeed.begins {es : List Event} (deed : WorkerDeed s es t)
    (hs : s.worker.isRecovering = false) (ht : t.worker.isRecovering = true) :
    ∃ e, t.worker = .deciding 0 e := by
  cases deed with
  | lost | overdue | unready => exact ⟨_, rfl⟩
  | stopped =>
      rename_i why _
      cases why <;> cases ht
  | paused hw | gaveUp hw | drained hw | redialled hw | attempted hw =>
      simp [hw, Worker.isRecovering] at hs
  | _ => cases ht

theorem step_shown (ht : s.step m = some t) (hx : x ∈ s.trials m) : x.Shown s t := by
  cases m with
  | worker b =>
      have made : s.workerStep b = some t := ht
      simp only [trials, workerTrials] at hx
      cases hs : s.worker.isRecovering with
      | false =>
          simp only [hs, made, Option.any_some, Bool.false_eq_true, ↓reduceIte] at hx
          cases entered : t.worker.isRecovering with
          | false => simp [entered] at hx
          | true =>
              rw [entered, if_pos rfl] at hx
              rw [List.mem_singleton.mp hx]
              exact (workerStep_deed made).begins hs entered
      | true =>
          rw [hs, if_pos rfl] at hx
          cases workerStep_work made with
          | decide hw =>
              simp only [recoveryTrials, hw] at hx
              exact decide_shown hx
          | drain hw hn =>
              simp only [recoveryTrials, hw, hn] at hx
              rw [List.mem_singleton.mp hx]
              exact pauseCommand_shown hn
          | redial hw =>
              simp only [recoveryTrials, hw] at hx
              rw [List.mem_singleton.mp hx]
              exact ⟨rfl, rfl, _, rfl, rfl⟩
          | attempt hw ha =>
              simp only [recoveryTrials, hw, ha, Option.elim_some] at hx
              exact progress_shown (attemptStep_deed ha).frame.mailbox hx
          | _ hw => simp [hw, Worker.isRecovering] at hs
  | cutOff id =>
      simp only [trials] at hx
      split at hx
      · rw [List.mem_singleton.mp hx]
        cases step_deed ht with
        | cutOff => exact ⟨rfl, rfl, rfl⟩
      · cases hx
  | _ => cases hx

end Session

def Move.isOwn : Move → Bool
  | .elapse _ => true
  | .worker _ => true
  | _ => false

def Worker.attempts : Worker → Nat
  | .deciding k _ => k + 1
  | .waiting k _ => k
  | .attempting k _ => k
  | _ => 0

namespace Session

variable {s t : Session} {P Q : Session → Prop} {b : Branch} {k n d span : Nat} {a : Attempt}
  {p : Progress}

def Comes (s : Session) (P : Session → Prop) : Prop :=
  ∃ ms t, Run s ms t ∧ (∀ m ∈ ms, m.isOwn = true) ∧ P t

theorem Comes.here (h : P s) : s.Comes P := ⟨[], s, .nil s, by simp, h⟩

theorem Comes.work (ht : s.workerStep b = some t) (h : t.Comes P) : s.Comes P := by
  obtain ⟨ms, u, run, own, hu⟩ := h
  exact ⟨.worker b :: ms, u, .cons ht run, by simpa [Move.isOwn] using own, hu⟩

theorem Comes.wait (span : Nat) (h : { s with now := s.now + span }.Comes P) : s.Comes P := by
  obtain ⟨ms, u, run, own, hu⟩ := h
  exact ⟨.elapse span :: ms, u, .cons rfl run, by simpa [Move.isOwn] using own, hu⟩

theorem Comes.then (h : s.Comes P) (next : ∀ t, t.profile = s.profile → P t → t.Comes Q) :
    s.Comes Q := by
  obtain ⟨ms, t, run, own, ht⟩ := h
  obtain ⟨ns, u, run', own', hu⟩ := next t run.profile ht
  refine ⟨ms ++ ns, u, run.append run', ?_, hu⟩
  intro m hm
  exact (List.mem_append.mp hm).elim (own m) (own' m)

def Judged (attempts : Nat) (t : Session) : Prop :=
  t.worker.isRecovering = false ∨ ∃ e, t.worker = .deciding attempts e

theorem Comes.failed {e : StreamError} (hw : s.worker = .attempting k a)
    (hs : s.attemptStep a b = some (t, .failed e)) : s.Comes (Judged k) := by
  refine .work (b := b) (t := t.onProgress k (.failed e)) (by simp [workerStep, hw, hs]) (.here ?_)
  rw [onProgress]
  split
  · exact Or.inl rfl
  · exact Or.inr ⟨e, rfl⟩

theorem Comes.more {a' : Attempt} (hw : s.worker = .attempting k a)
    (hs : s.attemptStep a b = some (t, .more a'))
    (h : { t with worker := .attempting k a' }.Comes P) : s.Comes P :=
  .work (b := b) (t := t.onProgress k (.more a')) (by simp [workerStep, hw, hs]) h

theorem replaying_comes {rest : List Channel.Subscription}
    (hw : s.worker = .attempting k (.replaying n rest)) : s.Comes (Judged k) := by
  induction rest generalizing s with
  | nil =>
      refine .work (b := .proceed) (t := s.onProgress k (.done n)) ?_ (.here (Or.inl rfl))
      simp [workerStep, hw, attemptStep]
  | cons x rest ih =>
      by_cases ready : s.phase = .ready
      · refine .more (b := .proceed) hw (t := s.onLink n (·.subscribe x)) ?_ (ih rfl)
        simp [attemptStep, replayOne, ready]
      · refine .failed (b := .proceed) hw (t := s.dropLink n) (e := .notConnected) ?_
        simp [attemptStep, replayOne, ready]

theorem connected_comes (hw : s.worker = .attempting k (.connected n)) : s.Comes (Judged k) :=
  .more (b := .proceed) hw rfl (replaying_comes rfl)

theorem onLoginArrival_goes (s : Session) (n d : Nat) (a : Arrival) :
    (∃ e, (s.onLoginArrival n d a).2 = .failed e) ∨
      (s.onLoginArrival n d a).2 = .more (.connected n) ∨
      (s.onLoginArrival n d a).2 = .more (.loggingIn n d) ∧
        (s.onLoginArrival n d a).1.unread n = s.unread n := by
  cases a with
  | text content =>
      rw [onLoginArrival]
      split
      · exact Or.inr (Or.inl rfl)
      · exact Or.inl ⟨_, rfl⟩
      · exact Or.inr (Or.inr ⟨rfl, rfl⟩)
  | ping payload =>
      exact Or.inr (Or.inr ⟨rfl, unread_onLink (fun _ => rfl) fun _ => rfl⟩)
  | pong payload => exact Or.inr (Or.inr ⟨rfl, rfl⟩)
  | binary => exact Or.inr (Or.inr ⟨rfl, rfl⟩)
  | close frame => exact Or.inl ⟨_, rfl⟩
  | failure fault => exact Or.inl ⟨_, rfl⟩
  | endOfStream => exact Or.inl ⟨_, rfl⟩

theorem loggingIn_comes {unread : List Arrival} (hu : s.unread n = unread)
    (hw : s.worker = .attempting k (.loggingIn n d)) : s.Comes (Judged k) := by
  induction unread generalizing s with
  | nil =>
      let u : Session := { s with now := s.now + d }
      have quiet : u.isQuiet n = true := isQuiet_iff.mpr hu
      have step : u.attemptStep (.loggingIn n d) .timer
          = some (u.failAttempt n u.loginTimeout) := by
        simp only [attemptStep, quiet, and_true]
        exact if_pos (Nat.le_add_left ..)
      exact .wait d (.failed hw step)
  | cons a rest ih =>
      obtain ⟨t, hr⟩ := nextArrival_of_unread hu
      have left : t.unread n = rest := by
        have taken := nextArrival_unread hr
        rw [hu] at taken
        exact (List.cons.inj taken).2.symm
      have step : s.attemptStep (.loggingIn n d) .read
          = some ((t.onLoginArrival n d a).1, (t.onLoginArrival n d a).2) := by
        simp [attemptStep, hr]
      rcases onLoginArrival_goes t n d a with ⟨e, failed⟩ | connected | ⟨more, same⟩
      · rw [failed] at step
        exact .failed hw step
      · rw [connected] at step
        exact .more hw step (connected_comes rfl)
      · rw [more] at step
        exact .more hw step (ih (same.trans left) rfl)

theorem upgrading_comes (hw : s.worker = .attempting k (.upgrading n d)) : s.Comes (Judged k) := by
  cases answer : (s.link? n).bind Link.answer with
  | none =>
      let u : Session := { s with now := s.now + d }
      have unanswered : u.isUnanswered n = true := by
        change (s.link? n).all _ = true
        cases hl : s.link? n with
        | none => rfl
        | some l =>
            rw [hl, Option.bind_some] at answer
            simp [answer]
      have step : u.attemptStep (.upgrading n d) .timer
          = some (u.failAttempt n .timedOut) := by
        simp only [attemptStep, unanswered, and_true]
        exact if_pos (Nat.le_add_left ..)
      exact .wait d (.failed hw step)
  | some u =>
      have step : s.attemptStep (.upgrading n d) .read = some (s.onUpgrade n u) := by
        simp [attemptStep, answer]
      cases u with
      | refused fault => exact .failed hw step
      | accepted =>
          simp only [onUpgrade] at step
          split at step
          · exact .more hw step (loggingIn_comes rfl rfl)
          · exact .more hw step (connected_comes rfl)

theorem starting_comes (hw : s.worker = .attempting k .starting) : s.Comes (Judged k) := by
  have step : s.attemptStep .starting .proceed = some s.dial := rfl
  rw [dial] at step
  split at step
  · exact .failed hw step
  · exact .more hw step (upgrading_comes rfl)

theorem waiting_comes {wakeAt : Nat} (hw : s.worker = .waiting k wakeAt) : s.Comes (Judged k) := by
  let u : Session := { s with now := s.now + wakeAt }
  have step : u.workerStep .timer
      = some { u.withPhase .connecting with worker := .attempting k .starting } := by
    simp only [workerStep, show u.worker = .waiting k wakeAt from hw]
    exact if_pos (Nat.le_add_left ..)
  exact .wait wakeAt (.work step (starting_comes rfl))

theorem recovering_comes (hs : s.worker.isRecovering = true) :
    s.Comes (Judged s.worker.attempts) := by
  cases hw : s.worker with
  | deciding k e =>
      refine .work (b := .proceed) (t := s.decide k e) (by simp [workerStep, hw]) ?_
      rw [Session.decide]
      split
      · exact waiting_comes rfl
      · exact .here (Or.inl rfl)
  | waiting k wakeAt => exact waiting_comes hw
  | attempting k a =>
      cases a with
      | starting => exact starting_comes hw
      | upgrading n d => exact upgrading_comes hw
      | loggingIn n d => exact loggingIn_comes rfl hw
      | connected n => exact connected_comes hw
      | replaying n rest => exact replaying_comes hw
  | _ => simp [hw, Worker.isRecovering] at hs

theorem recovering_ends {max : Nat} (limit : s.settings.backoff.maxAttempts = some max)
    (hs : s.worker.isRecovering = true) : s.Comes fun t => t.worker.isRecovering = false := by
  induction left : max + 1 - s.worker.attempts using Nat.strongRecOn generalizing s with
  | ind left ih =>
      refine (recovering_comes hs).then fun t same judged => ?_
      rcases judged with finished | ⟨e, deciding⟩
      · exact .here finished
      · have limit : t.settings.backoff.maxAttempts = some max := by
          rw [settings, same]
          exact limit
        by_cases spent : max ≤ s.worker.attempts
        · have step : t.workerStep .proceed = some (t.decide s.worker.attempts e) := by
            simp [workerStep, deciding]
          refine .work step (.here ?_)
          rw [Session.decide, if_neg (by simpa [Backoff.allows, limit] using spent)]
          rfl
        · have further : t.worker.attempts = s.worker.attempts + 1 := by
            rw [deciding]
            rfl
          refine ih _ ?_ limit (by rw [deciding]; rfl) rfl
          rw [further]
          omega

end Session

structure Pending (b : Backoff) (t : Session) (log : List Trial) (d : Nat) : Prop where
  recovering : t.worker.isRecovering = true
  failed : ∃ fails : List StreamError, verdicts log = fails.map .error ∧
    (∀ f ∈ fails, f.isAuth = false) ∧ t.worker.attempts = fails.length + 1 ∧
    (d = fails.length ∨ d = fails.length + 1)
  wakes : ∀ k wakeAt, t.worker = .waiting k wakeAt → ∃ early since draw, ∃ cs : List Command,
    log = early ++ .paused d since (b.delay d draw) :: cs.map .heard ∧
      (∀ c ∈ cs, c.isChange = true) ∧
      ((t.workerStep .timer).isSome = true ↔ since + b.delay d draw ≤ t.now)

theorem Underway.pending {b : Backoff} {e : StreamError} {t : Session} {log : List Trial}
    (under : Underway b e log t.worker) :
    ∃ p d, Counts b log p d ∧ (p = d ∨ p = d + 1) ∧ Pending b t log d := by
  have recovering := under.recovering
  generalize hw : t.worker = w at under
  cases under with
  | deciding rounds =>
      refine ⟨_, _, rounds.counts, Or.inl rfl, recovering, ⟨_, rounds.verdicts, rounds.passing, ?_,
        Or.inl rfl⟩, ?_⟩
      · rw [hw]
        rfl
      · intro k wakeAt hk
        rw [hw] at hk
        cases hk
  | @waiting log ps fails wakeAt rounds allowed pause =>
      refine ⟨_, _, rounds.counts.pause allowed pause, Or.inr rfl, recovering,
        ⟨fails, ?_, rounds.passing, ?_, Or.inl rfl⟩, ?_⟩
      · rw [verdicts_append, pause.verdicts, List.append_nil, rounds.verdicts]
      · rw [hw]
        rfl
      · intro k wakeAt' hk
        obtain ⟨changes⟩ := pause
        refine ⟨log, _, _, _, rfl, changes, ?_⟩
        simp only [Session.workerStep, hw]
        split <;> simp_all
  | @attempting log ps fails wakeAt now a rounds allowed pause due =>
      refine ⟨_, _, (rounds.counts.pause allowed pause).dial pause due, Or.inl rfl, recovering,
        ⟨fails, ?_, rounds.passing, ?_, Or.inr rfl⟩, ?_⟩
      · rw [verdicts_append, verdicts_append, pause.verdicts, List.append_nil, rounds.verdicts]
        exact List.append_nil _
      · rw [hw]
        rfl
      · intro k wakeAt' hk
        rw [hw] at hk
        cases hk

theorem Underway.attempts {b : Backoff} {e : StreamError} {t : Session} {log : List Trial}
    (under : Underway b e log t.worker) : t.worker.attempts = (verdicts log).length + 1 := by
  obtain ⟨_, _, _, _, pending⟩ := under.pending
  obtain ⟨fails, failed, _, attempts, _⟩ := pending.failed
  rw [attempts, failed, List.length_map]

namespace Session

variable {s t : Session} {b : Backoff} {e : StreamError} {ms : List Move}

structure Recovers (b : Backoff) (e : StreamError) (s : Session) (ms : List Move) (t : Session) :
    Prop where
  stands : ∃ p d, Counts b (s.recovery ms) p d ∧ (p = d ∨ p = d + 1) ∧
    (Conclusion b e (s.recovery ms) p d ∨ Pending b t (s.recovery ms) d)
  shown : ∀ m u, t.step m = some u → ∀ x ∈ t.trials m, x.Shown t u
  ends : ∃ ns u, Run t ns u ∧ (∀ m ∈ ns, m.isOwn = true) ∧
    ((∃ p d, Counts b (s.recovery (ms ++ ns)) p d ∧ Conclusion b e (s.recovery (ms ++ ns)) p d) ∨
      b.maxAttempts = none ∧
        (verdicts (s.recovery (ms ++ ns))).length = (verdicts (s.recovery ms)).length + 1)

theorem run_recovers {p : Profile} {seconds : List Int} {draws : List Float} {ks : List Move}
    (past : Run (initial p seconds draws) ks s) (failed : s.worker = .deciding 0 e)
    (run : Run s ms t) : Recovers p.settings.backoff e s ms t := by
  have then' : ∀ {ns u}, Run t ns u →
      Underway p.settings.backoff e (s.recovery (ms ++ ns)) u.worker ∨
        Ended p.settings.backoff e (s.recovery (ms ++ ns)) :=
    fun run' => ((past.logged failed (run.append run')).recovery)
  have now := then' (.nil t)
  rw [List.append_nil] at now
  refine ⟨?_, fun m u hu x hx => step_shown hu hx, ?_⟩
  · rcases now with under | ⟨p, d, counts, conclusion⟩
    · obtain ⟨p, d, counts, near, pending⟩ := under.pending
      exact ⟨p, d, counts, near, Or.inr pending⟩
    · exact ⟨p, d, counts, conclusion.near, Or.inl conclusion⟩
  · rcases now with under | ended
    · have limits : t.settings.backoff = p.settings.backoff := by
        rw [settings, run.profile, past.profile]
        rfl
      cases limit : p.settings.backoff.maxAttempts with
      | some max =>
          obtain ⟨ns, u, run', own, finished⟩ :=
            recovering_ends ((congrArg _ limits).trans limit) under.recovering
          refine ⟨ns, u, run', own, Or.inl ((then' run').resolve_left fun under => ?_)⟩
          rw [under.recovering] at finished
          cases finished
      | none =>
          obtain ⟨ns, u, run', own, judged⟩ := recovering_comes under.recovering
          refine ⟨ns, u, run', own, ?_⟩
          rcases then' run' with under' | ended
          · refine Or.inr ⟨rfl, ?_⟩
            rcases judged with finished | ⟨e', deciding⟩
            · rw [under'.recovering] at finished
              cases finished
            · have before := under.attempts
              have after := under'.attempts
              rw [deciding] at after
              exact (Nat.succ.inj after).symm.trans before
          · exact Or.inl ended
    · exact ⟨[], t, .nil t, by simp, Or.inl (by rwa [List.append_nil])⟩

def redialling : List Move :=
  [.worker .proceed, .answer 2 .accepted, .worker .read, .worker .proceed, .worker .proceed]

theorem lost_recovers :
    ∃ t, Run lost
        ([.worker .proceed, .elapse (Backoff.standard.delay 0 0.0), .worker .timer] ++ redialling) t ∧
      t.worker.serving = some 2 ∧
      Recovers Backoff.standard .streamEnded lost
        ([.worker .proceed, .elapse (Backoff.standard.delay 0 0.0), .worker .timer] ++ redialling) t := by
  have past : Run (visitor .standard) losing lost := run_iff_play.mpr rfl
  have first : Run lost _ (lost.retried 0) := run_retry (e := .streamEnded) rfl rfl
  have played : ((lost.retried 0).play redialling).map (fun t => t.worker.serving)
      = some (some 2) := rfl
  obtain ⟨t, second, serving⟩ := exists_run _ _ _ played
  exact ⟨t, first.append second, serving, run_recovers past rfl (first.append second)⟩

end Session

end MarketWire.Stream
