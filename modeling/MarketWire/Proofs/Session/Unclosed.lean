import MarketWire.Proofs.Queue
import MarketWire.Proofs.Session.Conduct

namespace MarketWire.Stream

def Stage.isUnclosing : Stage → Bool
  | .discarding => false
  | .locking a => a != .close
  | .changing a => a != .close
  | .sending cmd => cmd != .close
  | .stopping cmd => cmd == .detach
  | .handing cmd => cmd == .detach
  | .joining cmd _ => cmd == .detach
  | _ => true

def Worker.isStopping : Worker → Bool
  | .stopping _ _ => true
  | _ => false

namespace Session

variable {s t : Session} {c : Call} {h : List Event}

structure Unclosed (s : Session) : Prop where
  action : ∀ c ∈ s.calls, c.action ≠ .close
  stage : ∀ c ∈ s.calls, c.stage.isUnclosing = true
  buffer : .close ∉ s.channel.buffer
  joined : ∀ c ∈ s.calls, ∀ cmd d, c.stage = .joining cmd d →
    s.worker = .idle ∨ s.worker.isStopping = true ∨ .detach ∈ s.channel.buffer
  detached : ∀ n, s.worker ≠ .stopping n .closed
  unclosed : s.mailbox.closed = false
  finished : s.mailbox.finished = true → s.worker = .idle

theorem unclosed_initial (p : Profile) (seconds : List Int) (draws : List Float) :
    (initial p seconds draws).Unclosed where
  action _ hc := absurd hc List.not_mem_nil
  stage _ hc := absurd hc List.not_mem_nil
  buffer := List.not_mem_nil
  joined _ hc := absurd hc List.not_mem_nil
  detached _ e := by cases e
  unclosed := rfl
  finished _ := rfl

theorem Unclosed.command (hu : s.Unclosed) (ho : s.Orderly) (hw : s.worker ≠ .idle)
    (hs : s.worker.isStopping = false) {cmd : Command} {s' : Session}
    (hn : s.nextCommand = some (cmd, s')) :
    ∃ rest, s.channel.buffer = cmd :: rest ∧
      s' = { s with channel := { s.channel with buffer := rest } } := by
  rcases nextCommand_eq hn with found | ⟨empty, sender, sending, _, _⟩
  · exact found
  · rcases ho.handled sender with idle | ⟨c, hc, ending⟩
    · exact absurd idle hw
    · cases hst : c.stage with
      | handing e =>
          have : s.isSending = true := by
            simp only [isSending, List.any_eq_true]
            exact ⟨c, hc, by rw [hst]⟩
          rw [sending] at this
          cases this
      | joining e d =>
          rcases hu.joined c hc e d hst with idle | stopping | waiting
          · exact absurd idle hw
          · rw [hs] at stopping
            cases stopping
          · rw [empty] at waiting
            cases waiting
      | _ =>
          rw [hst] at ending
          cases ending

theorem Unclosed.turn (hu : s.Unclosed) (ho : s.Locking) (hc : c ∈ s.calls) (stage : Stage)
    (calls : t.calls = (s.setStage c.id stage).calls) (worker : t.worker = s.worker)
    (after : stage.isUnclosing = true) (buffer : .close ∉ t.channel.buffer)
    (kept : .detach ∈ s.channel.buffer → .detach ∈ t.channel.buffer)
    (joins : ∀ cmd d, stage = .joining cmd d →
      s.worker = .idle ∨ s.worker.isStopping = true ∨ .detach ∈ t.channel.buffer)
    (unclosed : t.mailbox.closed = false)
    (finished : t.mailbox.finished = true → s.worker = .idle) : t.Unclosed := by
  have mem : ∀ {d}, d ∈ t.calls ↔ d = c.at stage ∨ d ∈ s.calls ∧ d.id ≠ c.id :=
    ho.mem_turned hc calls
  refine ⟨?_, ?_, buffer, ?_, ?_, unclosed, ?_⟩
  · intro d hd
    rcases mem.mp hd with rfl | ⟨hd, _⟩
    · exact hu.action c hc
    · exact hu.action d hd
  · intro d hd
    rcases mem.mp hd with rfl | ⟨hd, _⟩
    · exact after
    · exact hu.stage d hd
  · intro d hd cmd k hj
    rw [worker]
    rcases mem.mp hd with rfl | ⟨hd, _⟩
    · exact joins cmd k hj
    · rcases hu.joined d hd cmd k hj with idle | stopping | waiting
      · exact Or.inl idle
      · exact Or.inr (Or.inl stopping)
      · exact Or.inr (Or.inr (kept waiting))
  · rw [worker]
    exact hu.detached
  · rw [worker]
    exact finished

theorem Unclosed.attempt (hu : s.Unclosed) {a : Attempt} {es : List Event} {p : Progress}
    (deed : AttemptDeed s a es t p) : t.Unclosed := by
  have frame := deed.frame
  refine ⟨?_, ?_, ?_, ?_, ?_, ?_, ?_⟩
  · rw [frame.calls]
    exact hu.action
  · rw [frame.calls]
    exact hu.stage
  · rw [frame.channel]
    exact hu.buffer
  · rw [frame.calls, frame.worker, frame.channel]
    exact hu.joined
  · rw [frame.worker]
    exact hu.detached
  · rw [frame.mailbox]
    exact hu.unclosed
  · rw [frame.mailbox, frame.worker]
    exact hu.finished

theorem Unclosed.started (hu : s.Unclosed) (ho : s.Orderly) (hc : c ∈ s.calls) {a : Attempt}
    (ha : c.stage = .attempting a) (n : Nat) : (s.onCallProgress c (.done n)).Unclosed := by
  have mem : ∀ {d}, d ∈ (s.onCallProgress c (.done n)).calls ↔
      d = c.at (.over .done) ∨ d ∈ s.calls ∧ d.id ≠ c.id := ho.locking.mem_setStage hc
  refine ⟨?_, ?_, List.not_mem_nil, ?_, (fun _ e => by cases e), ?_, ?_⟩
  · intro d hd
    rcases mem.mp hd with rfl | ⟨hd, _⟩
    · exact hu.action c hc
    · exact hu.action d hd
  · intro d hd
    rcases mem.mp hd with rfl | ⟨hd, _⟩
    · rfl
    · exact hu.stage d hd
  · intro d hd cmd k hj
    rcases mem.mp hd with rfl | ⟨hd, hid⟩
    · cases hj
    · have held : d.holdsLock = true := (holdsLock_eq hj).trans rfl
      exact absurd (congrArg Call.id (ho.eq_of_attempting hd hc (Or.inl held) ha)) hid
  · change (s.mailbox.reopen).1.closed = false
    simp [Mailbox.reopen, hu.unclosed]
  · intro hf
    change (s.mailbox.reopen).1.finished = true at hf
    simp [Mailbox.reopen, hu.unclosed] at hf

theorem Unclosed.still (hu : s.Unclosed) (ho : s.Locking) (hc : c ∈ s.calls) (stage : Stage)
    (calls : t.calls = (s.setStage c.id stage).calls) (worker : t.worker = s.worker)
    (after : stage.isUnclosing = true) (joins : ∀ cmd d, stage ≠ .joining cmd d)
    (buffer : t.channel.buffer = s.channel.buffer)
    (closed : t.mailbox.closed = s.mailbox.closed)
    (finished : t.mailbox.finished = s.mailbox.finished) : t.Unclosed := by
  refine hu.turn ho hc stage calls worker after ?_ ?_ ?_ ?_ ?_
  · rw [buffer]
    exact hu.buffer
  · rw [buffer]
    exact id
  · exact fun cmd d e => absurd e (joins cmd d)
  · rw [closed]
    exact hu.unclosed
  · rw [finished]
    exact hu.finished

theorem Unclosed.not_mem_send (hu : s.Unclosed) {cmd : Command} (hcmd : cmd ≠ .close) :
    .close ∉ (s.send cmd).channel.buffer := by
  intro hm
  rcases List.mem_append.mp hm with hm | hm
  · exact hu.buffer hm
  · exact hcmd (List.mem_singleton.mp hm).symm

theorem Unclosed.sent (hu : s.Unclosed) (ho : s.Locking) (hc : c ∈ s.calls) {cmd : Command}
    (hs : c.stage = .sending cmd) : ((s.send cmd).finishCall c.id .done).Unclosed := by
  have before : c.stage.isUnclosing = true := hu.stage c hc
  rw [hs] at before
  have hcmd : cmd ≠ .close := by simpa [Stage.isUnclosing] using before
  exact hu.turn ho hc (.over .done) rfl rfl rfl (hu.not_mem_send hcmd)
    (List.mem_append_left _) (by simp) hu.unclosed hu.finished

theorem Unclosed.handed (hu : s.Unclosed) (ho : s.Locking) (hc : c ∈ s.calls) {cmd : Command}
    (hs : c.stage = .handing cmd) (d : Nat) :
    ((s.send cmd).setStage c.id (.joining cmd d)).Unclosed := by
  have before : c.stage.isUnclosing = true := hu.stage c hc
  rw [hs] at before
  have hcmd : cmd = .detach := by simpa [Stage.isUnclosing] using before
  subst hcmd
  have waiting : .detach ∈ (s.send .detach).channel.buffer :=
    List.mem_append_right _ List.mem_cons_self
  exact hu.turn ho hc (.joining .detach d) rfl rfl rfl (hu.not_mem_send (by simp))
    (List.mem_append_left _) (fun _ _ _ => Or.inr (Or.inr waiting)) hu.unclosed hu.finished

theorem Unclosed.unled (hu : s.Unclosed) (ho : s.Orderly) (hc : c ∈ s.calls) {cmd : Command}
    (hs : c.stage = .stopping cmd) (unled : s.channel.sender = false) (d : Nat) :
    (s.setStage c.id (.joining cmd d)).Unclosed := by
  have before : c.stage.isUnclosing = true := hu.stage c hc
  rw [hs] at before
  -- another call that has the last word would hold the lock as this one does
  have held : c.holdsLock = true := (holdsLock_eq hs).trans rfl
  have idle := ho.idle_of_unsent hc held (by rw [hs]; rfl) (Or.inr unled)
  exact hu.turn ho.locking hc (.joining cmd d) rfl rfl before hu.buffer id
    (fun _ _ _ => Or.inl idle) hu.unclosed hu.finished

theorem Unclosed.progress (hu : s.Unclosed) (ho : s.Orderly) (hc : c ∈ s.calls) {a : Attempt}
    (hs : c.stage = .attempting a) (p : Progress) : (s.onCallProgress c p).Unclosed := by
  have idle : s.worker = .idle := ho.dialling c hc a hs
  cases p with
  | more b =>
      exact hu.turn ho.locking hc (.attempting b) rfl rfl rfl hu.buffer id (by simp)
        hu.unclosed hu.finished
  | done n => exact hu.started ho hc hs n
  | failed e =>
      simp only [onCallProgress]
      split
      · exact hu.turn ho.locking hc (.over (.failed e)) rfl rfl rfl hu.buffer id (by simp)
          hu.unclosed hu.finished
      · exact hu.turn ho.locking hc (.over (.failed e)) rfl rfl rfl hu.buffer id (by simp)
          hu.unclosed (fun _ => idle)

theorem Unclosed.call (hu : s.Unclosed) (ho : s.Orderly) (hc : c ∈ s.calls) {es : List Event}
    (deed : CallDeed s c es t) : t.Unclosed := by
  have hl := ho.locking
  have before : c.stage.isUnclosing = true := hu.stage c hc
  cases deed with
  | declined => exact hu.still hl hc (.over _) rfl rfl rfl (by simp) rfl rfl rfl
  | @asked a _ _ _ ha =>
      have after : (Stage.locking a).isUnclosing = true := by simp [Stage.isUnclosing, ha]
      exact hu.still hl hc (.locking a) rfl rfl after (by simp) rfl rfl rfl
  | shut _ ha => exact absurd ha (hu.action c hc)
  | begun => exact hu.still hl hc (.attempting .starting) rfl rfl rfl (by simp) rfl rfl rfl
  | received _ _ hm =>
      obtain ⟨_, taken⟩ := Mailbox.take_item hm
      have closed := congrArg Mailbox.closed taken
      have finished := congrArg Mailbox.finished taken
      exact hu.still hl hc (.over (.message _)) rfl rfl rfl (by simp) rfl closed finished
  | discarded hs =>
      rw [hs] at before
      cases before
  | locked hs =>
      rw [hs] at before
      exact hu.still hl hc (.changing _) rfl rfl before (by simp) rfl rfl rfl
  | closing hs =>
      rw [hs] at before
      cases before
  | sent hs => exact hu.sent hl hc hs
  | handing hs =>
      rw [hs] at before
      exact hu.still hl hc (.handing _) rfl rfl before (by simp) rfl rfl rfl
  | unled hs unled => exact hu.unled ho hc hs unled _
  | unheard hs idle =>
      rw [hs] at before
      exact hu.turn hl hc (.joining _ _) rfl rfl before hu.buffer id (fun _ _ _ => Or.inl idle)
        hu.unclosed hu.finished
  | handed hs => exact hu.handed hl hc hs _
  | redialled => exact hu.still hl hc (.attempting .starting) rfl rfl rfl (by simp) rfl rfl rfl
  | ended hs hne =>
      rw [hs] at before
      exact absurd (by simpa [Stage.isUnclosing] using before) hne
  | attempted hs deed =>
      have hc' := deed.frame.calls.symm ▸ hc
      exact (hu.attempt deed).progress (ho.attempt deed) hc' hs _
  | added => exact hu.still hl hc (.sending (.subscribe _)) rfl rfl rfl (by simp) rfl rfl rfl
  | removed => exact hu.still hl hc (.observing _) rfl rfl rfl (by simp) rfl rfl rfl
  | replacing => exact hu.still hl hc (.stopping .detach) rfl rfl rfl (by simp) rfl rfl rfl
  | noticed => exact hu.still hl hc (.sending (.unsubscribe _)) rfl rfl rfl (by simp) rfl rfl rfl
  | unchanged | skipped | unsent =>
      exact hu.still hl hc (.over .done) rfl rfl rfl (by simp) rfl rfl rfl

theorem Unclosed.work (hu : s.Unclosed) (frame : WorkerFrame s t)
    (buffer : ∀ cmd ∈ t.channel.buffer, cmd ∈ s.channel.buffer)
    (joined : .detach ∈ s.channel.buffer ∨ s.worker.isStopping = true →
      t.worker = .idle ∨ t.worker.isStopping = true ∨ .detach ∈ t.channel.buffer)
    (busy : s.worker ≠ .idle) (detached : ∀ n, t.worker ≠ .stopping n .closed)
    (unclosed : t.mailbox.closed = false)
    (finished : t.mailbox.finished = true → t.worker = .idle) : t.Unclosed := by
  refine ⟨?_, ?_, fun hm => hu.buffer (buffer _ hm), ?_, detached, unclosed, finished⟩
  · rw [frame.calls]
    exact hu.action
  · rw [frame.calls]
    exact hu.stage
  · rw [frame.calls]
    intro d hd cmd k hj
    rcases hu.joined d hd cmd k hj with idle | stopping | waiting
    · exact absurd idle busy
    · exact joined (Or.inr stopping)
    · exact joined (Or.inl waiting)

theorem Unclosed.unfinished (hu : s.Unclosed) (busy : s.worker ≠ .idle) :
    s.mailbox.finished = false := by
  cases hf : s.mailbox.finished with
  | false => rfl
  | true => exact absurd (hu.finished hf) busy

theorem Unclosed.goesOn (hu : s.Unclosed) (frame : WorkerFrame s t) (busy : s.worker ≠ .idle)
    (before : s.worker.isStopping = false) (after : t.worker.isStopping = false)
    (channel : t.channel = s.channel) (closed : t.mailbox.closed = s.mailbox.closed)
    (finished : t.mailbox.finished = s.mailbox.finished) : t.Unclosed := by
  refine hu.work frame ?_ ?_ busy ?_ (closed.trans hu.unclosed) ?_
  · rw [channel]
    exact fun _ => id
  · rw [channel]
    rintro (waiting | stopping)
    · exact Or.inr (Or.inr waiting)
    · rw [before] at stopping
      cases stopping
  · intro n e
    rw [e] at after
    cases after
  · rw [finished, hu.unfinished busy]
    exact fun e => by cases e

theorem Unclosed.heeds (hu : s.Unclosed) (ho : s.Orderly) (frame : WorkerFrame s t)
    (busy : s.worker ≠ .idle) (before : s.worker.isStopping = false)
    (after : t.worker.isStopping = false) {cmd : Command} {s' : Session}
    (hn : s.nextCommand = some (cmd, s')) (going : cmd ≠ .detach) (channel : t.channel = s'.channel)
    (mailbox : t.mailbox = s'.mailbox) : t.Unclosed := by
  obtain ⟨rest, buffer, rfl⟩ := hu.command ho busy before hn
  refine hu.work frame ?_ ?_ busy ?_ ?_ ?_
  · rw [channel, buffer]
    exact fun e he => List.mem_cons_of_mem _ he
  · rw [channel, buffer]
    rintro (waiting | stopping)
    · rcases List.mem_cons.mp waiting with e | waiting
      · exact absurd e.symm going
      · exact Or.inr (Or.inr waiting)
    · rw [before] at stopping
      cases stopping
  · intro n e
    rw [e] at after
    cases after
  · rw [mailbox]
    exact hu.unclosed
  · rw [mailbox]
    exact fun e => absurd e (by rw [hu.unfinished busy]; exact Bool.false_ne_true)

theorem Unclosed.ends (hu : s.Unclosed) (frame : WorkerFrame s t) (busy : s.worker ≠ .idle)
    (idle : t.worker = .idle) (buffer : t.channel.buffer = [])
    (closed : t.mailbox.closed = s.mailbox.closed) : t.Unclosed := by
  refine hu.work frame ?_ (fun _ => Or.inl idle) busy ?_ (closed.trans hu.unclosed) fun _ => idle
  · rw [buffer]
    exact fun e he => absurd he List.not_mem_nil
  · rw [idle]
    exact fun _ e => by cases e

theorem Unclosed.reads (hu : s.Unclosed) (frame : WorkerFrame s t) {n : Nat} {k : Keepalive}
    {a : Arrival} {s' : Session} (hw : s.worker = .reading n k)
    (hr : s.nextArrival n = some (a, s')) (going : t.worker.isStopping = false)
    (channel : t.channel = s'.channel) (mailbox : t.mailbox = s'.mailbox) : t.Unclosed := by
  have mailbox := mailbox.trans (nextArrival_mailbox hr)
  refine hu.goesOn frame ?_ ?_ going (channel.trans (nextArrival_channel hr)) ?_ ?_
  · simp [hw]
  · rw [hw]
    rfl
  · rw [mailbox]
  · rw [mailbox]

theorem Unclosed.told (hu : s.Unclosed) (ho : s.Orderly) {n : Nat} {cmd : Command}
    {why : Farewell} {s' : Session} (frame : WorkerFrame s (s'.beginStop n why))
    (busy : s.worker ≠ .idle) (running : s.worker.isStopping = false)
    (hn : s.nextCommand = some (cmd, s'))
    (hwhy : cmd = .close ∧ why = .closed ∨ cmd = .detach ∧ why = .detached) :
    (s'.beginStop n why).Unclosed := by
  obtain ⟨rest, buffer, rfl⟩ := hu.command ho busy running hn
  have hcmd : cmd ≠ .close := by
    rintro rfl
    exact hu.buffer (buffer ▸ List.mem_cons_self)
  have detached : why = .detached := by
    rcases hwhy with ⟨e, _⟩ | ⟨_, e⟩
    · exact absurd e hcmd
    · exact e
  subst detached
  refine hu.work frame ?_ (fun _ => Or.inr (Or.inl rfl)) busy (fun _ e => by cases e)
    hu.unclosed ?_
  · rw [buffer]
    exact fun e he => List.mem_cons_of_mem _ he
  · exact fun e => absurd (hu.finished e) busy

theorem Unclosed.drained (hu : s.Unclosed) (ho : s.Orderly) {cmd : Command} {s' : Session}
    (frame : WorkerFrame s (s'.onPauseCommand cmd)) (busy : s.worker ≠ .idle)
    (running : s.worker.isStopping = false) (hn : s.nextCommand = some (cmd, s')) :
    (s'.onPauseCommand cmd).Unclosed := by
  obtain ⟨rest, buffer, rfl⟩ := hu.command ho busy running hn
  cases cmd with
  | close => exact absurd (buffer ▸ List.mem_cons_self) hu.buffer
  | detach => exact hu.ends frame busy rfl rfl rfl
  | subscribe x => exact hu.heeds ho frame busy running running hn (by simp) rfl rfl
  | unsubscribe x => exact hu.heeds ho frame busy running running hn (by simp) rfl rfl

theorem Unclosed.attempted (hu : s.Unclosed) {a : Attempt} {es : List Event} {s' : Session}
    {attempts : Nat} {p : Progress} (deed : AttemptDeed s a es s' p)
    (frame : WorkerFrame s (s'.onProgress attempts p)) (busy : s.worker ≠ .idle)
    (running : s.worker.isStopping = false) : (s'.onProgress attempts p).Unclosed := by
  have channel := deed.frame.channel
  have closed := congrArg Mailbox.closed deed.frame.mailbox
  have finished := congrArg Mailbox.finished deed.frame.mailbox
  cases p with
  | more b => exact hu.goesOn frame busy running rfl channel closed finished
  | done n => exact hu.goesOn frame busy running rfl channel closed finished
  | failed e =>
      simp only [onProgress] at frame ⊢
      split at frame
      · next he =>
          rw [if_pos he]
          exact hu.ends frame busy rfl rfl closed
      · next he =>
          rw [if_neg he]
          exact hu.goesOn frame busy running rfl channel closed finished

theorem Unclosed.worker (hs : s.Conduct h) (hu : s.Unclosed) {es : List Event}
    (deed : WorkerDeed s es t) : t.Unclosed := by
  have frame := deed.frame
  have busy := deed.busy
  have stands := hs.busy busy
  have going : ∀ {w : Worker}, s.worker = w → w.isStopping = false → s.worker.isStopping = false := by
    rintro _ rfl
    exact id
  cases deed with
  | ponged hw hr _ | consumed hw hr _ | routed hw hr _ | answered hw hr | ignored hw hr
  | lost hw hr =>
      exact hu.reads frame hw hr rfl rfl rfl
  | overdue hw | pinged hw _ | paused hw | redialled hw =>
      exact hu.goesOn frame busy (going hw rfl) rfl rfl rfl rfl
  | subscribed hw hn | unsubscribed hw hn =>
      exact hu.heeds hs.orderly frame busy (going hw rfl) rfl hn (by simp) rfl rfl
  | unready hw _ hp =>
      rw [hw] at stands
      exact absurd stands.1 hp
  | told hw hn hwhy => exact hu.told hs.orderly frame busy (going hw rfl) hn hwhy
  | pushed hw hm =>
      rcases Mailbox.offer_taken hm with rfl | ⟨_, _, _, _, rfl⟩
      · exact hu.goesOn frame busy (going hw rfl) rfl rfl rfl rfl
      · exact hu.goesOn frame busy (going hw rfl) rfl rfl rfl rfl
  | barred hw hm =>
      rcases Mailbox.offer_refused hm with e | e
      · rw [hu.unclosed] at e
        cases e
      · rw [hu.unfinished busy] at e
        cases e
  | stopped hw =>
      rename_i n why
      cases why with
      | closed => exact absurd hw (hu.detached n)
      | detached => exact hu.ends frame busy rfl rfl rfl
  | gaveUp hw => exact hu.ends frame busy rfl rfl rfl
  | drained hw hn => exact hu.drained hs.orderly frame busy (going hw rfl) hn
  | attempted hw deed => exact hu.attempted deed frame busy (going hw rfl)

theorem Unclosed.invoke (hu : s.Unclosed) {a : Action} (ha : a ≠ .close) :
    Unclosed { s with calls := s.calls ++ [⟨s.calls.length, a, .begun⟩] } := by
  have mem : ∀ {d : Call}, d ∈ s.calls ++ [⟨s.calls.length, a, .begun⟩] ↔
      d ∈ s.calls ∨ d = ⟨s.calls.length, a, .begun⟩ := by simp
  refine ⟨?_, ?_, hu.buffer, ?_, hu.detached, hu.unclosed, hu.finished⟩
  · intro d hd
    rcases mem.mp hd with hd | rfl
    · exact hu.action d hd
    · exact ha
  · intro d hd
    rcases mem.mp hd with hd | rfl
    · exact hu.stage d hd
    · rfl
  · intro d hd cmd k hj
    rcases mem.mp hd with hd | rfl
    · exact hu.joined d hd cmd k hj
    · cases hj

theorem Unclosed.aborted (hu : s.Unclosed) : s.abortWorker.Unclosed where
  action := hu.action
  stage := hu.stage
  buffer := List.not_mem_nil
  joined _ _ _ _ _ := Or.inl rfl
  detached _ e := by cases e
  unclosed := hu.unclosed
  finished _ := rfl

theorem Unclosed.step (hs : s.Conduct h) (hu : s.Unclosed) {m : Move} (hm : m ≠ .invoke .close)
    (ht : s.step m = some t) : t.Unclosed := by
  have unchanged : t.calls = s.calls → t.channel = s.channel → t.worker = s.worker →
      t.mailbox = s.mailbox → t.Unclosed := by
    intro calls channel worker mailbox
    obtain ⟨action, stage, buffer, joined, detached, unclosed, finished⟩ := hu
    refine ⟨calls ▸ action, calls ▸ stage, channel ▸ buffer, ?_, worker ▸ detached,
      mailbox ▸ unclosed, ?_⟩
    · rw [calls, worker, channel]
      exact joined
    · rw [mailbox, worker]
      exact finished
  cases step_deed ht with
  | elapsed => exact unchanged rfl rfl rfl rfl
  | invoked => exact hu.invoke fun e => hm (by rw [e])
  | abandoned hc =>
      exact hu.turn hs.orderly.locking hc (.over .done) rfl rfl rfl hu.buffer id (by simp)
        hu.unclosed hu.finished
  | called hc deed => exact hu.call hs.orderly hc deed
  | cutOff => exact hu.aborted
  | worked deed => exact hu.worker hs deed
  | answered => exact unchanged rfl rfl rfl rfl
  | arrived => exact unchanged rfl rfl rfl rfl

end Session

end MarketWire.Stream
