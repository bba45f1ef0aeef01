import MarketWire.Proofs.Session.AtRest
import MarketWire.Proofs.Session.Trial
import MarketWire.Proofs.Session.Work

namespace MarketWire.Stream

def Worker.isRecovering : Worker → Bool
  | .deciding _ _ => true
  | .waiting _ _ => true
  | .attempting _ _ => true
  | _ => false

namespace Session

variable {s t : Session} {e : StreamError} {log : List Trial} {h : List Event} {m : Move}

def decideTrials (s : Session) (attempts : Nat) (e : StreamError) : List Trial :=
  if s.settings.backoff.allows attempts then
    [.paused attempts s.now (s.settings.backoff.delay attempts (s.draws.headD 0.0))]
  else [.gaveUp (.exhausted attempts e.message)]

def progressTrials : Progress → List Trial
  | .more _ => []
  | .done n => [.restored n]
  | .failed e => .failed e :: if e.isAuth then [.gaveUp e] else []

def recoveryTrials (s : Session) (b : Branch) : List Trial :=
  match s.worker, b with
  | .deciding attempts e, .proceed => s.decideTrials attempts e
  | .waiting _ _, .command => s.nextCommand.toList.map fun r => .heard r.1
  | .waiting attempts _, .timer => [.dialled (attempts - 1) s.now]
  | .attempting _ a, b => (s.attemptStep a b).elim [] fun r => progressTrials r.2
  | _, _ => []

def workerTrials (s : Session) (b : Branch) : List Trial :=
  if s.worker.isRecovering then s.recoveryTrials b
  else if (s.workerStep b).any fun t => t.worker.isRecovering then [.lost] else []

def trials (s : Session) : Move → List Trial
  | .worker b => s.workerTrials b
  | .cutOff _ => if s.worker.isRecovering then [.aborted] else []
  | _ => []

def recovery (s : Session) (ms : List Move) : List Trial :=
  (s.record trials ms).takeWhile fun t => !t.isLost

end Session

inductive Underway (b : Backoff) (e : StreamError) : List Trial → Worker → Prop where
  | deciding {log : List Trial} {fails : List StreamError} :
      Rounds b log fails → Underway b e log (.deciding fails.length (latestError e fails))
  | waiting {log ps : List Trial} {fails : List StreamError} {wakeAt : Nat} :
      Rounds b log fails → b.allows fails.length = true → Pause b fails.length wakeAt ps →
      Underway b e (log ++ ps) (.waiting (fails.length + 1) wakeAt)
  | attempting {log ps : List Trial} {fails : List StreamError} {wakeAt now : Nat} {a : Attempt} :
      Rounds b log fails → b.allows fails.length = true → Pause b fails.length wakeAt ps →
      wakeAt ≤ now →
      Underway b e (log ++ ps ++ [.dialled fails.length now]) (.attempting (fails.length + 1) a)

def Ended (b : Backoff) (e : StreamError) (log : List Trial) : Prop :=
  ∃ p d, Counts b log p d ∧ Conclusion b e log p d

theorem Underway.recovering {b : Backoff} {e : StreamError} {log : List Trial} {w : Worker}
    (under : Underway b e log w) : w.isRecovering = true := by
  cases under <;> rfl

theorem Underway.aborted {b : Backoff} {e : StreamError} {log : List Trial} {w : Worker}
    (under : Underway b e log w) : Ended b e (log ++ [.aborted]) := by
  have aside : ∀ t ∈ [Trial.aborted], t.pause? = none ∧ t.dial? = none := by
    simp [Trial.pause?, Trial.dial?]
  have silent : ∀ log, verdicts (log ++ [.aborted]) = verdicts log := fun log =>
    (verdicts_append log _).trans (List.append_nil _)
  cases under with
  | deciding rounds =>
      refine ⟨_, _, rounds.counts.aside aside, .aborted rfl (Or.inl rfl) (Or.inl rfl) ?_ rounds.passing⟩
      rw [silent, rounds.verdicts]
  | waiting rounds allowed pause =>
      refine ⟨_, _, (rounds.counts.pause allowed pause).aside aside,
        .aborted rfl (Or.inr rfl) (Or.inl rfl) ?_ rounds.passing⟩
      rw [silent, verdicts_append, pause.verdicts, List.append_nil, rounds.verdicts]
  | attempting rounds allowed pause due =>
      refine ⟨_, _, ((rounds.counts.pause allowed pause).dial pause due).aside aside,
        .aborted rfl (Or.inl rfl) (Or.inr rfl) ?_ rounds.passing⟩
      rw [silent, verdicts_append, verdicts_append, pause.verdicts, List.append_nil, rounds.verdicts]
      exact List.append_nil _

theorem Pause.heard {b : Backoff} {number wakeAt : Nat} {ps : List Trial} {c : Command}
    (pause : Pause b number wakeAt ps) (change : c.isChange = true) :
    Pause b number wakeAt (ps ++ [.heard c]) := by
  obtain ⟨changes⟩ := pause
  rename_i since draw cs
  rw [List.cons_append, show cs.map Trial.heard ++ [.heard c] = (cs ++ [c]).map .heard by simp]
  refine .mk fun d hd => ?_
  rcases List.mem_append.mp hd with hd | hd
  · exact changes d hd
  · rw [List.mem_singleton.mp hd]
    exact change

namespace Session

variable {s t : Session} {b : Backoff} {e : StreamError} {log : List Trial} {h : List Event}
  {m : Move} {fails : List StreamError}

inductive Furthers (b : Backoff) (e : StreamError) (log es : List Trial) (t : Session) : Prop where
  | on : Underway b e (log ++ es) t.worker → Furthers b e log es t
  | out : Ended b e (log ++ es) → t.worker.isRecovering = false → Furthers b e log es t

theorem decide_furthers (hb : s.settings.backoff = b) (rounds : Rounds b log fails) :
    Furthers b e log (s.decideTrials fails.length (latestError e fails))
      (s.decide fails.length (latestError e fails)) := by
  rw [decideTrials, Session.decide, hb]
  cases allowed : b.allows fails.length with
  | true =>
      simp only [↓reduceIte]
      exact .on (.waiting rounds allowed (pause_begun ..))
  | false =>
      simp only [Bool.false_eq_true, ↓reduceIte]
      have spent : b.maxAttempts = some fails.length := by
        cases max : b.maxAttempts with
        | none => simp [Backoff.allows, max] at allowed
        | some max' =>
            have least := rounds.counts.budget max' max
            simp only [Backoff.allows, max, decide_eq_false_iff_not] at allowed
            rw [show max' = fails.length by omega]
      refine .out ⟨_, _, rounds.counts.aside ?_, .exhausted spent rfl ?_ rounds.passing⟩ rfl
      · simp [Trial.pause?, Trial.dial?]
      · rw [verdicts_append, rounds.verdicts]
        exact List.append_nil _

theorem hear_furthers {ps : List Trial} {wakeAt : Nat} {cmd : Command} {s' : Session}
    (hw : s'.worker = .waiting (fails.length + 1) wakeAt) (rounds : Rounds b log fails)
    (allowed : b.allows fails.length = true) (pause : Pause b fails.length wakeAt ps) :
    Furthers b e (log ++ ps) [.heard cmd] (s'.onPauseCommand cmd) := by
  have going : cmd.isChange = true →
      Furthers b e (log ++ ps) [.heard cmd] s' := fun change => by
    refine .on ?_
    rw [hw, List.append_assoc]
    exact .waiting rounds allowed (pause.heard change)
  have stopped : cmd = .close ∨ cmd = .detach → Ended b e (log ++ ps ++ [.heard cmd]) := by
    intro stop
    refine ⟨_, _, (rounds.counts.pause allowed pause).aside ?_,
      .stopped rfl stop ?_ rounds.passing⟩
    · simp [Trial.pause?, Trial.dial?]
    · rw [verdicts_append, verdicts_append, rounds.verdicts, pause.verdicts]
      simp [verdicts, Trial.verdict?]
  cases cmd with
  | subscribe x => exact going rfl
  | unsubscribe x => exact going rfl
  | close => exact .out (stopped (Or.inl rfl)) rfl
  | detach => exact .out (stopped (Or.inr rfl)) rfl

theorem progress_furthers {ps : List Trial} {wakeAt now : Nat} (rounds : Rounds b log fails)
    (allowed : b.allows fails.length = true) (pause : Pause b fails.length wakeAt ps)
    (due : wakeAt ≤ now) (s : Session) (p : Progress) :
    Furthers b e (log ++ ps ++ [.dialled fails.length now]) (progressTrials p)
      (s.onProgress (fails.length + 1) p) := by
  have counts := (rounds.counts.pause allowed pause).dial pause due
  have before : verdicts (log ++ ps ++ [.dialled fails.length now]) = fails.map .error := by
    rw [verdicts_append, verdicts_append, rounds.verdicts, pause.verdicts]
    simp [verdicts, Trial.verdict?]
  cases p with
  | more a =>
      refine .on ?_
      rw [progressTrials, List.append_nil]
      exact .attempting rounds allowed pause due
  | done n =>
      refine .out ⟨_, _, counts.aside ?_, .connected rfl ?_ rounds.passing⟩ rfl
      · simp [progressTrials, Trial.pause?, Trial.dial?]
      · rw [verdicts_append, before]
        rfl
  | failed last =>
      rw [progressTrials, onProgress]
      cases auth : last.isAuth with
      | true =>
          simp only [↓reduceIte]
          have last' : log ++ ps ++ [.dialled fails.length now] ++ [.failed last, .gaveUp last]
              = log ++ ps ++ [.dialled fails.length now, .failed last] ++ [.gaveUp last] := by simp
          refine .out ⟨_, _, counts.aside ?_, .rejected last' ?_ rounds.passing auth⟩ rfl
          · simp [Trial.pause?, Trial.dial?]
          · rw [verdicts_append, before]
            rfl
      | false =>
          simp only [Bool.false_eq_true, ↓reduceIte]
          have next : Underway b e _ _ := .deciding (rounds.more allowed pause due auth)
          rw [latestError, List.getLast?_concat, Option.getD_some, List.length_append] at next
          refine .on ?_
          rwa [List.append_assoc (log ++ ps), List.singleton_append]

theorem underway_furthers {br : Branch} (under : Underway b e log s.worker)
    (hb : s.settings.backoff = b) (ht : s.workerStep br = some t) :
    Furthers b e log (s.recoveryTrials br) t := by
  generalize hw : s.worker = w at under
  cases workerStep_work ht with
  | decide here =>
      rw [hw] at here
      subst here
      cases under with
      | deciding rounds =>
          simp only [recoveryTrials, hw]
          exact decide_furthers hb rounds
  | drain here hn =>
      rw [hw] at here
      subst here
      cases under with
      | waiting rounds allowed pause =>
          simp only [recoveryTrials, hw, hn]
          exact hear_furthers ((nextCommand_worker hn).trans hw) rounds allowed pause
  | redial here =>
      rw [hw] at here
      subst here
      cases under with
      | waiting rounds allowed pause =>
          simp only [recoveryTrials, hw, Nat.add_sub_cancel]
          refine .on (.attempting rounds allowed pause ?_)
          simp only [workerStep, hw] at ht
          by_contra early
          simp [Nat.not_le.mp early] at ht
  | attempt here hs =>
      rw [hw] at here
      subst here
      cases under with
      | attempting rounds allowed pause due =>
          simp only [recoveryTrials, hw, hs, Option.elim_some]
          exact progress_furthers rounds allowed pause due _ _
  | _ here =>
      rw [hw] at here
      subst here
      cases under

theorem recoveryTrials_unlost (s : Session) (br : Branch) :
    ∀ t ∈ s.recoveryTrials br, t.isLost = false := by
  intro t ht
  unfold recoveryTrials at ht
  split at ht
  · rw [decideTrials] at ht
    split at ht <;> rw [List.mem_singleton.mp ht] <;> rfl
  · obtain ⟨r, _, rfl⟩ := List.mem_map.mp ht
    rfl
  · rw [List.mem_singleton.mp ht]
    rfl
  · rename_i br _ _ attempts a hw
    cases hs : s.attemptStep a br with
    | none =>
        rw [hs] at ht
        cases ht
    | some r =>
        rw [hs, Option.elim_some] at ht
        cases hp : r.2 with
        | more a =>
            rw [hp] at ht
            cases ht
        | done n =>
            rw [hp] at ht
            rw [List.mem_singleton.mp ht]
            rfl
        | failed e =>
            rw [hp, progressTrials] at ht
            rcases List.mem_cons.mp ht with rfl | ht
            · rfl
            · split at ht
              · rw [List.mem_singleton.mp ht]
                rfl
              · cases ht
  · cases ht

theorem Orderly.undisturbed (ho : s.Orderly) (busy : s.worker ≠ .idle) (ht : s.step m = some t)
    (beside : ∀ br, m ≠ .worker br) (uncut : ∀ id, m ≠ .cutOff id) : t.worker = s.worker := by
  have deed := step_deed ht
  generalize s.events m = es at deed
  cases deed with
  | called hc deed => exact deed.calm (ho.unattempted busy _ hc)
  | worked => exact absurd rfl (beside _)
  | cutOff => exact absurd rfl (uncut _)
  | _ => rfl

theorem step_enters (hs : s.worker.isRecovering = false) (ht : s.step m = some t) :
    s.trials m = [.lost] ∨ s.trials m = [] ∧ t.worker.isRecovering = false := by
  have deed := step_deed ht
  generalize s.events m = es at deed
  cases deed with
  | called _ deed =>
      refine Or.inr ⟨rfl, ?_⟩
      cases deed with
      | attempted _ hd =>
          rename_i s' p _
          have same := hd.frame.worker
          cases p with
          | more a => exact (congrArg Worker.isRecovering same).trans hs
          | done n => rfl
          | failed e =>
              rw [onCallProgress]
              split <;> exact (congrArg Worker.isRecovering same).trans hs
      | _ => exact hs
  | @worked br _ _ _ =>
      have made : s.workerStep br = some t := ht
      simp only [trials, workerTrials, hs, made, Option.any_some, Bool.false_eq_true, ↓reduceIte]
      cases t.worker.isRecovering <;> simp
  | cutOff => exact Or.inr ⟨by simp [trials, hs], rfl⟩
  | _ => exact Or.inr ⟨rfl, hs⟩

inductive Logged (b : Backoff) (e : StreamError) (s : Session) : List Trial → Prop where
  | under {log : List Trial} :
      (∀ t ∈ log, t.isLost = false) → Underway b e log s.worker → Logged b e s log
  | ended {log : List Trial} :
      (∀ t ∈ log, t.isLost = false) → Ended b e log → s.worker.isRecovering = false →
      Logged b e s log
  | past {log later : List Trial} :
      (∀ t ∈ log, t.isLost = false) → Ended b e log → Logged b e s (log ++ .lost :: later)

theorem underway_step (under : Underway b e log s.worker) (unlost : ∀ t ∈ log, t.isLost = false)
    (ho : s.Orderly) (hb : s.settings.backoff = b) (ht : s.step m = some t) :
    Logged b e t (log ++ s.trials m) := by
  have recovering := under.recovering
  have busy : s.worker ≠ .idle := by
    intro idle
    simp [idle, Worker.isRecovering] at recovering
  have more : ∀ {es : List Trial}, (∀ t ∈ es, t.isLost = false) →
      ∀ u ∈ log ++ es, u.isLost = false := by
    intro es fine u hu
    rcases List.mem_append.mp hu with hu | hu
    · exact unlost u hu
    · exact fine u hu
  have beside : (∀ br, m ≠ .worker br) → (∀ id, m ≠ .cutOff id) →
      Logged b e t (log ++ []) := by
    intro other uncut
    rw [List.append_nil]
    exact .under unlost (ho.undisturbed busy ht other uncut ▸ under)
  cases m with
  | worker br =>
      simp only [trials, workerTrials, recovering, ↓reduceIte]
      have all := more (recoveryTrials_unlost s br)
      cases underway_furthers under hb ht with
      | on under => exact .under all under
      | out ended out => exact .ended all ended out
  | cutOff id =>
      simp only [trials, recovering, ↓reduceIte]
      cases step_deed ht with
      | cutOff => exact .ended (more (by simp [Trial.isLost])) under.aborted rfl
  | _ => exact beside (by simp) (by simp)

theorem Logged.step (logged : Logged b e s log) (ho : s.Orderly) (hb : s.settings.backoff = b)
    (ht : s.step m = some t) : Logged b e t (log ++ s.trials m) := by
  cases logged with
  | under unlost under => exact underway_step under unlost ho hb ht
  | ended unlost ended out =>
      rcases step_enters out ht with lost | ⟨none, out⟩
      · rw [lost]
        exact .past unlost ended
      · rw [none, List.append_nil]
        exact .ended unlost ended out
  | past unlost ended =>
      rw [List.append_assoc, List.cons_append]
      exact .past unlost ended

theorem Run.logged {p : Profile} {seconds : List Int} {draws : List Float} {ks ms : List Move}
    (past : Run (initial p seconds draws) ks s) (failed : s.worker = .deciding 0 e)
    (run : Run s ms t) : Logged p.settings.backoff e t (s.record trials ms) := by
  have start : s.Orderly ∧ s.profile = p := ⟨past.orderly, past.profile⟩
  have nothing : Underway p.settings.backoff e [] s.worker := by
    rw [failed]
    exact .deciding .none
  have logged : Logged p.settings.backoff e s [] := .under (by simp) nothing
  refine run.keeps_record (P := fun _ => True) (J := fun s _ => s.Orderly ∧ s.profile = p)
    (I := Logged p.settings.backoff e) ?_ ?_ (fun _ _ => trivial) (h := []) start logged
  · exact fun _ kept ht => ⟨kept.1.step ht, (step_profile ht).trans kept.2⟩
  · exact fun _ kept logged ht => logged.step kept.1 (congrArg _ (congrArg _ kept.2)) ht

theorem Logged.recovery {ms : List Move} (logged : Logged b e t (s.record trials ms)) :
    Underway b e (s.recovery ms) t.worker ∨ Ended b e (s.recovery ms) := by
  rw [Session.recovery]
  have whole : ∀ {log later : List Trial}, (∀ t ∈ log, t.isLost = false) →
      (log ++ later).takeWhile (fun t => !t.isLost) = log ++ later.takeWhile fun t => !t.isLost :=
    fun unlost => List.takeWhile_append_of_pos fun t ht => by simp [unlost t ht]
  generalize s.record trials ms = noted at logged
  cases logged with
  | under unlost under =>
      rw [← List.append_nil noted, whole unlost, List.takeWhile_nil, List.append_nil]
      exact Or.inl under
  | ended unlost ended out =>
      rw [← List.append_nil noted, whole unlost, List.takeWhile_nil, List.append_nil]
      exact Or.inr ended
  | past unlost ended =>
      rw [whole unlost]
      simp only [List.takeWhile_cons, Trial.isLost, Bool.not_true, Bool.false_eq_true, ↓reduceIte,
        List.append_nil]
      exact Or.inr ended

end Session

end MarketWire.Stream
