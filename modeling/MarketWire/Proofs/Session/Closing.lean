import MarketWire.Proofs.Queue
import MarketWire.Proofs.Session.Conduct
import MarketWire.Proofs.Session.Prospect

namespace MarketWire.Stream

def Closed (h : List Event) : Prop := ∃ c, .closed c ∈ h

def Reopened (h : List Event) : Prop :=
  ∃ before after c d, h = before ++ .closed c :: after ∧ .redialled d ∈ after

def Stage.isClosing : Stage → Bool
  | .locking .close => true
  | .changing .close => true
  | .stopping .close => true
  | .handing .close => true
  | .joining .close _ => true
  | _ => false

def Stage.isReplacing : Stage → Bool
  | .locking .reconnect => true
  | .changing .reconnect => true
  | .stopping .detach => true
  | .handing .detach => true
  | .joining .detach _ => true
  | _ => false

variable {h es : List Event}

theorem Closed.append (hc : Closed h) (es : List Event) : Closed (h ++ es) := by
  obtain ⟨c, hc⟩ := hc
  exact ⟨c, List.mem_append_left es hc⟩

theorem Reopened.append (hr : Reopened h) (es : List Event) : Reopened (h ++ es) := by
  obtain ⟨before, after, c, d, rfl, hd⟩ := hr
  exact ⟨before, after ++ es, c, d, by simp, List.mem_append_left es hd⟩

theorem Closed.redialled (hc : Closed h) {d : Nat} (hd : .redialled d ∈ es) :
    Reopened (h ++ es) := by
  obtain ⟨c, hc⟩ := hc
  obtain ⟨before, after, rfl⟩ := List.append_of_mem hc
  exact ⟨before, after ++ es, c, d, by simp, List.mem_append_right after hd⟩

theorem Reopened.split (hr : Reopened (h ++ es)) :
    Reopened h ∨ ∃ d, .redialled d ∈ es ∧ (Closed h ∨ Closed es) := by
  obtain ⟨before, after, c, d, split, hd⟩ := hr
  rcases List.append_eq_append_iff.mp split with ⟨middle, rfl, hes⟩ | ⟨middle, rfl, hmiddle⟩
  · refine Or.inr ⟨d, ?_, Or.inr ⟨c, ?_⟩⟩
    · rw [hes]
      exact List.mem_append_right _ (List.mem_cons_of_mem _ hd)
    · rw [hes]
      exact List.mem_append_right _ List.mem_cons_self
  · cases middle with
    | nil =>
        refine Or.inr ⟨d, ?_, Or.inr ⟨c, ?_⟩⟩
        · rw [show es = .closed c :: after from hmiddle.symm]
          exact List.mem_cons_of_mem _ hd
        · rw [show es = .closed c :: after from hmiddle.symm]
          exact List.mem_cons_self
    | cons e middle =>
        obtain ⟨rfl, rfl⟩ := List.cons_eq_cons.mp hmiddle
        rcases List.mem_append.mp hd with hd | hd
        · exact Or.inl ⟨before, middle, c, d, rfl, hd⟩
        · exact Or.inr ⟨d, hd, Or.inl ⟨c, by simp⟩⟩

namespace Session

variable {s t : Session} {c : Call}

structure Sealed (s : Session) : Prop where
  idle : s.worker = .idle
  phase : s.phase = .closed
  undialled : ∀ c ∈ s.calls, ∀ a, c.stage ≠ .attempting a
  down : ∀ l ∈ s.links, l.live = false

theorem Sealed.turn (hs : s.Sealed) (hl : s.Locking) (hc : c ∈ s.calls) {stage : Stage}
    (calls : t.calls = (s.setStage c.id stage).calls) (stays : ∀ a, stage ≠ .attempting a)
    (worker : t.worker = s.worker) (phase : t.phase = .closed) (links : t.links = s.links) :
    t.Sealed := by
  refine ⟨worker.trans hs.idle, phase, ?_, ?_⟩
  · intro d hd a ha
    rcases (hl.mem_turned hc calls).mp hd with rfl | ⟨hd, _⟩
    · exact stays a ha
    · exact hs.undialled d hd a ha
  · rw [links]
    exact hs.down

theorem Sealed.onLink (hs : s.Sealed) (n : Nat) {f : Link → Link}
    (live : ∀ l, (f l).live = l.live) : (s.onLink n f).Sealed := by
  refine ⟨hs.idle, hs.phase, hs.undialled, ?_⟩
  intro l hl
  obtain ⟨m, hm, rfl⟩ := List.mem_map.mp hl
  split
  · exact (live m).trans (hs.down m hm)
  · exact hs.down m hm

theorem Sealed.call (hs : s.Sealed) (ho : s.Orderly) (opened : s.opened = true) (hc : c ∈ s.calls)
    (deed : CallDeed s c es t) (undialled : ∀ d, .redialled d ∉ es) : t.Sealed := by
  have hl := ho.locking
  have calm : ∀ {stage : Stage}, t.calls = (s.setStage c.id stage).calls →
      (∀ a, stage ≠ .attempting a) → t.worker = s.worker → t.phase = s.phase →
      t.links = s.links → t.Sealed :=
    fun calls stays worker phase links =>
      hs.turn hl hc calls stays worker (phase.trans hs.phase) links
  cases deed with
  | begun hst ha =>
      have closed := ho.unopened_of_connect hc ha (by simp [hst])
      rw [opened] at closed
      cases closed
  | redialled => exact absurd List.mem_cons_self (undialled c.id)
  | ended => exact hs.turn hl hc rfl (by simp) rfl rfl rfl
  | attempted hst => exact absurd hst (hs.undialled c hc _)
  | _ => exact calm rfl (by simp) rfl rfl rfl

theorem reopen_closed {q : Mailbox Message} (hq : q.closed = true) :
    q.reopen.1.closed = true := by
  rw [Mailbox.reopen, if_pos hq]
  exact hq

theorem CallDeed.mailbox_closed (hq : s.mailbox.closed = true) (deed : CallDeed s c es t) :
    t.mailbox.closed = true := by
  cases deed with
  | received _ _ taken =>
      rw [Mailbox.take, if_pos hq] at taken
      cases taken
  | discarded => rfl
  | attempted _ deed =>
      rename_i u p _
      have hq : u.mailbox.closed = true := by
        rw [deed.frame.mailbox]
        exact hq
      cases p with
      | more b => exact hq
      | done n => exact reopen_closed hq
      | failed e =>
          simp only [onCallProgress]
          split <;> exact hq
  | _ => exact hq

theorem WorkerDeed.mailbox_closed (hq : s.mailbox.closed = true) (deed : WorkerDeed s es t) :
    t.mailbox.closed = true := by
  have kept : t.mailbox = s.mailbox → t.mailbox.closed = true := by
    intro e
    rw [e]
    exact hq
  cases deed with
  | ponged _ hr | consumed _ hr | routed _ hr | answered _ hr | ignored _ hr | lost _ hr =>
      exact kept (nextArrival_mailbox hr :)
  | subscribed _ hn | unsubscribed _ hn | unready _ hn | told _ hn =>
      exact kept (nextCommand_mailbox hn :)
  | pushed _ taken =>
      rw [Mailbox.offer, hq, Bool.true_or, if_pos rfl] at taken
      cases taken
  | stopped =>
      rename_i why _
      cases why with
      | closed => rfl
      | detached => exact hq
  | drained _ hn =>
      rename_i cmd u _
      cases cmd with
      | close => rfl
      | _ => exact kept (nextCommand_mailbox hn :)
  | attempted _ deed =>
      rename_i u p _
      have hq : u.mailbox.closed = true := by
        rw [deed.frame.mailbox]
        exact hq
      cases p with
      | failed e =>
          simp only [onProgress]
          split <;> exact hq
      | _ => exact hq
  | _ => exact hq

theorem step_mailbox_closed {m : Move} (ht : s.step m = some t) (hq : s.mailbox.closed = true) :
    t.mailbox.closed = true := by
  cases step_deed ht with
  | called _ deed => exact deed.mailbox_closed hq
  | worked deed => exact deed.mailbox_closed hq
  | _ => exact hq

theorem CallDeed.closes {d : Nat} (deed : CallDeed s c es t) (hd : .closed d ∈ es) :
    es = [.closed c.id] ∧ (∃ k, c.stage = .joining .close k) ∧ s.worker = .idle ∧
      t = (s.withPhase .closed).finishCall c.id .done := by
  cases deed with
  | ended hst _ idle =>
      split at hd
      · next hcmd =>
          subst hcmd
          exact ⟨if_pos rfl, ⟨_, hst⟩, idle, rfl⟩
      · cases hd
  | attempted _ deed =>
      exfalso
      cases deed <;> simp at hd
  | _ => simp at hd

theorem CallDeed.redials {d : Nat} (deed : CallDeed s c es t) (hd : .redialled d ∈ es) :
    es = [.redialled c.id] ∧ (∃ k, c.stage = .joining .detach k) ∧ t.phase = .connecting := by
  cases deed with
  | redialled hst => exact ⟨rfl, ⟨_, hst⟩, rfl⟩
  | ended =>
      split at hd
      · simp at hd
      · cases hd
  | attempted _ deed =>
      exfalso
      cases deed <;> simp at hd
  | _ => simp at hd

theorem WorkerDeed.quiet (deed : WorkerDeed s es t) (d : Nat) :
    .closed d ∉ es ∧ .redialled d ∉ es := by
  cases deed with
  | attempted _ deed => cases deed <;> simp
  | _ => simp

theorem step_closes {m : Move} {d : Nat} (ht : s.step m = some t) (hd : .closed d ∈ s.events m) :
    ∃ c ∈ s.calls, s.events m = [.closed c.id] ∧ (∃ k, c.stage = .joining .close k) ∧
      s.worker = .idle ∧ t = (s.withPhase .closed).finishCall c.id .done := by
  have deed : Deed s m (s.events m) t := step_deed ht
  generalize s.events m = es at deed hd
  cases deed with
  | called hc deed => exact ⟨_, hc, deed.closes hd⟩
  | worked deed => exact absurd hd (deed.quiet d).1
  | _ => cases hd

theorem step_redials {m : Move} {d : Nat} (ht : s.step m = some t)
    (hd : .redialled d ∈ s.events m) :
    ∃ c ∈ s.calls, (∃ k, c.stage = .joining .detach k) ∧ (∀ d, .closed d ∉ s.events m) ∧
      t.phase = .connecting := by
  have deed : Deed s m (s.events m) t := step_deed ht
  generalize s.events m = es at deed hd
  cases deed with
  | called hc deed =>
      obtain ⟨rfl, hst, phase⟩ := deed.redials hd
      exact ⟨_, hc, hst, by simp, phase⟩
  | worked deed => exact absurd hd (deed.quiet d).2
  | _ => cases hd

theorem CallDeed.discards (deed : CallDeed s c es t) (hst : c.stage = .discarding) :
    t.mailbox.closed = true := by
  cases deed with
  | discarded => rfl
  | _ => simp_all

structure Closure (s : Session) (h : List Event) : Prop where
  discarded : ∀ c ∈ s.calls, c.stage.isClosing = true → s.mailbox.closed = true
  closed : Closed h → s.mailbox.closed = true ∧ s.opened = true
  sealed : Closed h → ¬Reopened h → s.Sealed

theorem closure_initial (p : Profile) (seconds : List Int) (draws : List Float) :
    (initial p seconds draws).Closure [] where
  discarded _ hc := absurd hc List.not_mem_nil
  closed h := absurd h.choose_spec List.not_mem_nil
  sealed h := absurd h.choose_spec List.not_mem_nil

theorem step_lasting {m : Move} (ht : s.step m = some t) :
    (s.opened = true → t.opened = true) ∧ (s.shut = true → t.shut = true) := by
  have deed : Deed s m (s.events m) t := step_deed ht
  generalize s.events m = es at deed
  cases deed with
  | called _ deed =>
      cases deed with
      | shut => exact ⟨id, fun _ => rfl⟩
      | attempted _ deed =>
          rename_i p _
          have opened := deed.frame.opened
          have shut := deed.frame.shut
          cases p with
          | more b => exact ⟨opened.trans, shut.trans⟩
          | done n => exact ⟨fun _ => rfl, shut.trans⟩
          | failed e =>
              simp only [onCallProgress]
              split <;> exact ⟨opened.trans, shut.trans⟩
      | _ => exact ⟨id, id⟩
  | worked deed => exact ⟨deed.frame.opened.trans, deed.frame.shut.trans⟩
  | _ => exact ⟨id, id⟩

theorem Closure.discard {m : Move} (hs : s.Conduct h) (hc : s.Closure h) (ht : s.step m = some t) :
    ∀ c ∈ t.calls, c.stage.isClosing = true → t.mailbox.closed = true := by
  intro d hd closing
  have kept : s.mailbox.closed = true → t.mailbox.closed = true := step_mailbox_closed ht
  cases step_deed ht with
  | invoked =>
      rcases List.mem_append.mp hd with hd | hd
      · exact hc.discarded d hd closing
      · rw [List.mem_singleton.mp hd] at closing
        cases closing
  | abandoned hmem =>
      rcases (hs.orderly.locking.mem_setStage hmem).mp hd with rfl | ⟨hd, _⟩
      · cases closing
      · exact hc.discarded d hd closing
  | called hmem deed =>
      rename_i c _
      obtain ⟨stage, calls, next⟩ := deed.next
      have before : c.stage.isClosing = true → t.mailbox.closed = true :=
        fun h => kept (hc.discarded c hmem h)
      rcases (hs.orderly.locking.mem_turned hmem calls).mp hd with rfl | ⟨hd, _⟩
      · change stage.isClosing = true at closing
        cases next with
        | asked hst hs ha =>
            rename_i a
            cases a <;> simp_all [Stage.isClosing]
        | discarded hst => exact deed.discards hst
        | locked hst =>
            rename_i a
            cases a <;> simp_all [Stage.isClosing]
        | closing hst => exact before (by rw [hst]; rfl)
        | handing hst =>
            rename_i cmd
            cases cmd <;> simp_all [Stage.isClosing]
        | joining hst =>
            rename_i cmd _
            rcases hst with hst | hst <;> cases cmd <;> simp_all [Stage.isClosing]
        | _ => cases closing
      · exact kept (hc.discarded d hd closing)
  | worked deed =>
      rw [deed.frame.calls] at hd
      exact kept (hc.discarded d hd closing)
  | _ => exact kept (hc.discarded d hd closing)

theorem Conduct.sealed (hs : s.Conduct h) (hc : c ∈ s.calls) {k : Nat}
    (hst : c.stage = .joining .close k) (idle : s.worker = .idle) : ((s.withPhase .closed).finishCall c.id .done).Sealed := by
  have held : c.holdsLock = true := (holdsLock_eq hst).trans rfl
  have quiet : ∀ a, c.stage ≠ .attempting a := by simp [hst]
  have down := hs.down hc (Or.inl held) quiet idle
  refine ⟨idle, rfl, ?_, fun l hl => (down.past l hl).1⟩
  intro d hd a ha
  rcases (hs.orderly.locking.mem_setStage hc).mp hd with rfl | ⟨hd, _⟩
  · cases ha
  · exact hs.orderly.not_attempting hc (Or.inl held) quiet d hd a ha

theorem Closure.step {m : Move} (hs : s.Conduct h) (hc : s.Closure h) (ht : s.step m = some t) :
    t.Closure (h ++ s.events m) := by
  have now : Closed (s.events m) → t.mailbox.closed = true ∧ t.opened = true ∧ t.Sealed := by
    rintro ⟨d, hd⟩
    obtain ⟨c, hmem, _, ⟨_, hst⟩, idle, rfl⟩ := step_closes ht hd
    have acts : c.action ≠ .connect := hs.orderly.locking.not_connect hmem hst rfl
    refine ⟨?_, hs.orderly.opened_of_action hmem acts, hs.sealed hmem hst idle⟩
    exact hc.discarded c hmem (by rw [hst]; rfl)
  have earlier : Closed (h ++ s.events m) → Closed h ∨ Closed (s.events m) := by
    rintro ⟨d, hd⟩
    exact (List.mem_append.mp hd).imp (⟨d, ·⟩) (⟨d, ·⟩)
  refine ⟨hc.discard hs ht, ?_, ?_⟩
  · intro closed
    rcases earlier closed with before | closed
    · obtain ⟨queue, opened⟩ := hc.closed before
      exact ⟨step_mailbox_closed ht queue, (step_lasting ht).1 opened⟩
    · exact ⟨(now closed).1, (now closed).2.1⟩
  · intro closed unopened
    -- either the client was sealed before this step, or the close returns in it
    rcases earlier closed with before | closed
    · have sealed := hc.sealed before fun hr => unopened (hr.append _)
      have undialled : ∀ d, .redialled d ∉ s.events m := fun d hd => unopened (before.redialled hd)
      have deed : Deed s m (s.events m) t := step_deed ht
      generalize s.events m = es at deed undialled
      cases deed with
      | elapsed => exact ⟨sealed.idle, sealed.phase, sealed.undialled, sealed.down⟩
      | invoked =>
          refine ⟨sealed.idle, sealed.phase, ?_, sealed.down⟩
          intro d hd a ha
          rcases List.mem_append.mp hd with hd | hd
          · exact sealed.undialled d hd a ha
          · rw [List.mem_singleton.mp hd] at ha
            cases ha
      | abandoned hmem =>
          exact sealed.turn hs.orderly.locking hmem rfl (by simp) rfl sealed.phase rfl
      | called hmem deed => exact sealed.call hs.orderly (hc.closed before).2 hmem deed undialled
      | cutOff _ _ _ busy => exact absurd sealed.idle busy
      | worked deed => exact absurd sealed.idle deed.busy
      | answered => exact sealed.onLink _ fun _ => rfl
      | arrived => exact sealed.onLink _ fun _ => rfl
    · exact (now closed).2.2

theorem Run.closure {p : Profile} {seconds : List Int} {draws : List Float} {ms : List Move}
    (run : Run (initial p seconds draws) ms t) :
    t.Closure ((initial p seconds draws).chronicle ms) := by
  have all := Run.keeps (I := fun s h => s.Conduct h ∧ s.Closure h) (h := [])
    (fun hi hs => ⟨hi.1.step hs, hi.2.step hi.1 hs⟩) run
    ⟨conduct_initial p seconds draws, closure_initial p seconds draws⟩
  exact all.2

theorem Run.exists_redial {ms : List Move} (run : Run s ms t)
    (hr : Reopened (h ++ s.chronicle ms)) :
    Reopened h ∨ ∃ ks ns u, ms = ks ++ ns ∧ Run s ks u ∧ Closed (h ++ s.chronicle ks) ∧
      u.phase = .connecting := by
  induction run generalizing h with
  | nil s =>
      rw [chronicle, List.append_nil] at hr
      exact Or.inl hr
  | cons first rest ih =>
      rename_i s u v m ms
      rw [chronicle_cons ms first, ← List.append_assoc] at hr
      rcases ih hr with before | ⟨ks, ns, w, rfl, run, closed, phase⟩
      · rcases before.split with before | ⟨d, hd, closed⟩
        · exact Or.inl before
        · obtain ⟨_, _, _, unclosed, phase⟩ := step_redials first hd
          have closed : Closed h := closed.resolve_right fun hc => unclosed _ hc.choose_spec
          exact Or.inr ⟨[m], ms, u, rfl, .cons first (.nil u), closed.append _, phase⟩
      · refine Or.inr ⟨m :: ks, ns, w, rfl, .cons first run, ?_, phase⟩
        rw [chronicle_cons ks first, ← List.append_assoc]
        exact closed

theorem chronicle_append {ms : List Move} (run : Run s ms t) (ns : List Move) :
    s.chronicle (ms ++ ns) = s.chronicle ms ++ t.chronicle ns := by
  induction run with
  | nil s => rfl
  | cons first _ ih =>
      rw [List.cons_append, chronicle_cons _ first, chronicle_cons _ first, ih, List.append_assoc]

theorem run_stays_closed {p : Profile} {seconds : List Int} {draws : List Float} {ms : List Move}
    (run : Run (initial p seconds draws) ms t) :
    (Closed ((initial p seconds draws).chronicle ms) → t.mailbox.take = .ended) ∧
      ((∀ ks ns u, ms = ks ++ ns → Run (initial p seconds draws) ks u →
          Closed ((initial p seconds draws).chronicle ks) → u.Sealed) ↔
        ¬Reopened ((initial p seconds draws).chronicle ms)) := by
  refine ⟨fun closed => ?_, ?_, ?_⟩
  · rw [Mailbox.take, if_pos (run.closure.closed closed).1]
  · intro stays reopened
    rcases run.exists_redial (h := []) reopened with none | ⟨ks, ns, u, split, run, closed, phase⟩
    · obtain ⟨before, after, _, _, split, _⟩ := none
      simp at split
    · have sealed := (stays ks ns u split run closed).phase
      rw [phase] at sealed
      cases sealed
  · rintro unopened ks ns u rfl run closed
    refine run.closure.sealed closed fun reopened => unopened ?_
    rw [chronicle_append run]
    exact reopened.append _

def overtaken : List Move :=
  connecting ++
    [.invoke .reconnect, .call 1 .proceed, .invoke .close, .call 2 .proceed, .call 2 .proceed,
      .call 2 .proceed, .call 2 .proceed, .call 2 .proceed, .call 2 .proceed, .worker .command,
      .worker .proceed, .call 2 .proceed]

def reviving : List Move :=
  [.call 1 .proceed, .call 1 .proceed, .call 1 .proceed, .call 1 .proceed, .call 1 .proceed,
    .answer 2 .accepted, .call 1 .read, .call 1 .proceed, .call 1 .proceed]

theorem overtaken_reopens :
    ∃ s t, Run (visitor .standard) overtaken s ∧
      Closed ((visitor .standard).chronicle overtaken) ∧ Run s reviving t ∧
      t.phase = .ready ∧ t.worker = .reading 2 ⟨0, none⟩ ∧ ∃ l ∈ t.links, l.live = true := by
  have played : ((visitor .standard).play overtaken).map (fun s =>
      (s.play reviving).map fun t => (t.phase, t.worker, t.links.map Link.live))
      = some (some (.ready, .reading 2 ⟨0, none⟩, [false, true])) := rfl
  have history : (visitor .standard).chronicle overtaken
      = [.listed 1 [], .shut 2, .taken 1 .close, .closed 2] := rfl
  obtain ⟨s, first, revived⟩ := exists_run _ _ _ played
  obtain ⟨t, second, ended⟩ := exists_run s reviving _ revived
  simp only [Prod.mk.injEq] at ended
  obtain ⟨phase, worker, live⟩ := ended
  have present : true ∈ t.links.map Link.live := by simp [live]
  obtain ⟨l, hl, up⟩ := List.mem_map.mp present
  exact ⟨s, t, first, ⟨2, by simp [history]⟩, second, phase, worker, l, hl, up⟩

theorem step_unreplaced {m : Move} (hl : s.Locking) (shut : s.shut = true)
    (none : ∀ c ∈ s.calls, c.stage.isReplacing = false) (ht : s.step m = some t) :
    ∀ c ∈ t.calls, c.stage.isReplacing = false := by
  intro d hd
  cases step_deed ht with
  | invoked =>
      rcases List.mem_append.mp hd with hd | hd
      · exact none d hd
      · rw [List.mem_singleton.mp hd]
        rfl
  | abandoned hc =>
      rcases (hl.mem_setStage hc).mp hd with rfl | ⟨hd, _⟩
      · rfl
      · exact none d hd
  | called hc deed =>
      rename_i c _
      obtain ⟨stage, calls, next⟩ := deed.next
      have before := none c hc
      rcases (hl.mem_turned hc calls).mp hd with rfl | ⟨hd, _⟩
      · change stage.isReplacing = false
        cases next with
        | asked _ hs =>
            rw [shut] at hs
            cases hs
        | locked hst =>
            rename_i a
            cases a <;> simp_all [Stage.isReplacing]
        | replacing hst =>
            rw [hst] at before
            cases before
        | handing hst =>
            rename_i cmd
            cases cmd <;> simp_all [Stage.isReplacing]
        | joining hst =>
            rename_i cmd _
            rcases hst with hst | hst <;> cases cmd <;> simp_all [Stage.isReplacing]
        | _ => rfl
      · exact none d hd
  | worked deed =>
      rw [deed.frame.calls] at hd
      exact none d hd
  | _ => exact none d hd

theorem Run.undialled {ms : List Move} (run : Run s ms t) (hl : s.Locking) (shut : s.shut = true)
    (none : ∀ c ∈ s.calls, c.stage.isReplacing = false) (d : Nat) :
    .redialled d ∉ s.chronicle ms := by
  induction run with
  | nil s => exact List.not_mem_nil
  | cons first _ ih =>
      rw [chronicle_cons _ first]
      intro hd
      rcases List.mem_append.mp hd with hd | hd
      · obtain ⟨c, hc, ⟨_, hst⟩, _⟩ := step_redials first hd
        have before := none c hc
        rw [hst] at before
        cases before
      · exact ih (hl.step first) ((step_lasting first).2 shut) (step_unreplaced hl shut none first) hd

theorem Run.sealed {p : Profile} {seconds : List Int} {draws : List Float} {ks ms : List Move}
    (first : Run (initial p seconds draws) ks s)
    (unclosed : ¬Closed ((initial p seconds draws).chronicle ks)) (shut : s.shut = true)
    (none : ∀ c ∈ s.calls, c.stage.isReplacing = false) (run : Run s ms t)
    (closed : Closed (s.chronicle ms)) : t.Sealed := by
  have closure := (first.append run).closure
  rw [chronicle_append first] at closure
  refine closure.sealed (closed.imp fun c hc => List.mem_append_right _ hc) fun reopened => ?_
  rcases reopened.split with before | ⟨d, hd, _⟩
  · obtain ⟨before, after, c, _, split, _⟩ := before
    exact unclosed ⟨c, by rw [split]; simp⟩
  · exact run.undialled first.orderly.locking shut none d hd

end Session

end MarketWire.Stream
