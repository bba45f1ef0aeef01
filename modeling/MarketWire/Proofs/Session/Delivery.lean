import MarketWire.Proofs.Session.Unclosed

namespace MarketWire.Stream

def Event.routedOn (n : Nat) : Event → Option Message
  | .routed k m => if k = n then some m else none
  | _ => none

def Event.returned? : Event → Option Message
  | .returned m => some m
  | _ => none

def routedOn (n : Nat) (h : List Event) : List Message := h.filterMap (Event.routedOn n)

def returned (h : List Event) : List Message := h.filterMap Event.returned?

def Worker.pending : Worker → List Message
  | .pushing _ m _ => [m]
  | _ => []

def Event.isSilent : Event → Bool
  | .routed _ _ => false
  | .returned _ => false
  | _ => true

def yieldedBy (k : Nat) (h : List Event) : List Message :=
  (List.range' 1 k).flatMap fun n => routedOn n h

variable {h es : List Event} {n k : Nat} {m : Message}

theorem routedOn_append_silent (silent : ∀ e ∈ es, e.isSilent = true) :
    routedOn n (h ++ es) = routedOn n h := by
  have none : es.filterMap (Event.routedOn n) = [] := by
    rw [List.filterMap_eq_nil_iff]
    intro e he
    have := silent e he
    cases e <;> first | rfl | cases this
  rw [routedOn, List.filterMap_append, none, List.append_nil]
  rfl

theorem returned_append_silent (silent : ∀ e ∈ es, e.isSilent = true) :
    returned (h ++ es) = returned h := by
  have none : es.filterMap Event.returned? = [] := by
    rw [List.filterMap_eq_nil_iff]
    intro e he
    have := silent e he
    cases e <;> first | rfl | cases this
  rw [returned, List.filterMap_append, none, List.append_nil]
  rfl

theorem routedOn_append_returned : routedOn n (h ++ [.returned m]) = routedOn n h := by
  simp [routedOn, Event.routedOn]

theorem routedOn_append_routed :
    routedOn n (h ++ [.routed k m]) = routedOn n h ++ if k = n then [m] else [] := by
  by_cases hk : k = n <;> simp [routedOn, Event.routedOn, hk]

theorem routedOn_eq_nil (none : ∀ m, .routed n m ∉ h) : routedOn n h = [] := by
  rw [routedOn, List.filterMap_eq_nil_iff]
  intro e he
  cases e with
  | routed k m =>
      refine if_neg ?_
      rintro rfl
      exact none m he
  | _ => rfl

theorem yieldedBy_succ (k : Nat) (h : List Event) :
    yieldedBy (k + 1) h = yieldedBy k h ++ routedOn (k + 1) h := by
  simp [yieldedBy, List.range'_concat, Nat.add_comm]

theorem yieldedBy_congr {h' : List Event} (same : ∀ n, routedOn n h' = routedOn n h) :
    yieldedBy k h' = yieldedBy k h := by
  simp only [yieldedBy, same]

theorem yieldedBy_append_routed (hk : 0 < k) :
    yieldedBy k (h ++ [.routed k m]) = yieldedBy k h ++ [m] := by
  obtain ⟨j, rfl⟩ : ∃ j, k = j + 1 := ⟨k - 1, by omega⟩
  have earlier : yieldedBy j (h ++ [.routed (j + 1) m]) = yieldedBy j h := by
    simp only [yieldedBy]
    apply List.flatMap_congr
    intro n hn
    have hne : j + 1 ≠ n := by
      rw [List.mem_range'_1] at hn
      omega
    rw [routedOn_append_routed, if_neg hne, List.append_nil]
  rw [yieldedBy_succ, yieldedBy_succ, earlier, routedOn_append_routed, if_pos rfl,
    List.append_assoc]

theorem yieldedBy_of_le {j : Nat} (hj : k ≤ j) (none : ∀ n m, .routed n m ∈ h → n ≤ k) :
    yieldedBy j h = yieldedBy k h := by
  obtain ⟨d, rfl⟩ := Nat.exists_eq_add_of_le hj
  clear hj
  induction d with
  | zero => rfl
  | succ d ih =>
      have nothing : routedOn (k + d + 1) h = [] := by
        apply routedOn_eq_nil
        intro m hm
        have := none (k + d + 1) m hm
        omega
      rw [← Nat.add_assoc, yieldedBy_succ, nothing, List.append_nil, ih]

structure Mailbox.Same {α : Type} (q q' : Mailbox α) : Prop where
  items : q'.items = q.items
  dropped : q'.dropped = q.dropped
  overflow : q'.overflow = q.overflow

theorem Mailbox.Same.refl {α : Type} (q : Mailbox α) : q.Same q := ⟨rfl, rfl, rfl⟩

theorem Mailbox.same_reopen {α : Type} (q : Mailbox α) : q.Same q.reopen.1 := by
  simp only [reopen]
  split <;> exact ⟨rfl, rfl, rfl⟩

theorem Mailbox.same_finish {α : Type} (q : Mailbox α) : q.Same q.finish := ⟨rfl, rfl, rfl⟩

namespace Session

variable {s t : Session} {c : Call}

inductive Traffic (s : Session) : List Event → Session → Prop where
  | quiet {es : List Event} {t : Session} :
      (∀ e ∈ es, e.isSilent = true) → s.mailbox.Same t.mailbox →
      t.worker.pending = s.worker.pending → Traffic s es t
  | routed {n : Nat} {k k' : Keepalive} {m : Message} {t : Session} :
      s.worker = .reading n k → t.worker = .pushing n m k' → t.mailbox = s.mailbox →
      t.links.length = s.links.length → Traffic s [.routed n m] t
  | pushed {n : Nat} {m : Message} {k : Keepalive} {t : Session} :
      s.worker = .pushing n m k → s.mailbox.offer m = .taken t.mailbox →
      t.worker = .reading n k → Traffic s [] t
  | returned {m : Message} {t : Session} :
      s.mailbox.take = .item m t.mailbox → t.worker = s.worker → Traffic s [.returned m] t

theorem AttemptDeed.silent {a : Attempt} {es : List Event} {p : Progress}
    (deed : AttemptDeed s a es t p) : ∀ e ∈ es, e.isSilent = true := by
  cases deed <;> simp [Event.isSilent]

theorem CallDeed.traffic (hu : s.Unclosed) (ho : s.Orderly) (hc : c ∈ s.calls) {es : List Event}
    (deed : CallDeed s c es t) : Traffic s es t := by
  cases deed with
  | received _ _ hm => exact .returned hm rfl
  | discarded hs =>
      have := hu.stage c hc
      rw [hs] at this
      cases this
  | ended =>
      refine .quiet ?_ (.refl _) rfl
      split <;> simp [Event.isSilent]
  | attempted hs deed =>
      rename_i a s' p
      have mailbox := deed.frame.mailbox
      have idle : s.worker = .idle := ho.dialling c hc a hs
      have worker : s'.worker = s.worker := deed.frame.worker
      cases p with
      | more b =>
          refine .quiet deed.silent ?_ (congrArg _ worker)
          exact (congrArg s.mailbox.Same mailbox).mpr (.refl _)
      | done n =>
          refine .quiet deed.silent ?_ (by rw [idle]; rfl)
          rw [← mailbox]
          exact Mailbox.same_reopen _
      | failed e =>
          simp only [onCallProgress]
          split
          · refine .quiet deed.silent ?_ (congrArg _ worker)
            exact (congrArg s.mailbox.Same mailbox).mpr (.refl _)
          · refine .quiet deed.silent ?_ (congrArg _ worker)
            rw [← mailbox]
            exact Mailbox.same_finish _
  | _ => exact .quiet (by simp [Event.isSilent]) (.refl _) rfl

theorem WorkerDeed.traffic (hs : s.Conduct h) (hu : s.Unclosed) {es : List Event}
    (deed : WorkerDeed s es t) : Traffic s es t := by
  have busy := deed.busy
  have calm : ∀ {es : List Event} {u : Session}, (∀ e ∈ es, e.isSilent = true) →
      u.mailbox = s.mailbox → u.worker.pending = s.worker.pending → Traffic s es u := by
    intro es u silent mailbox pending
    refine .quiet silent ?_ pending
    rw [mailbox]
    exact .refl _
  cases deed with
  | ponged hw hr _ => exact calm (by simp) (nextArrival_mailbox hr :) (by rw [hw]; rfl)
  | consumed hw hr _ => exact calm (by simp) (nextArrival_mailbox hr :) (by rw [hw]; rfl)
  | routed hw hr _ => exact .routed hw rfl (nextArrival_mailbox hr :) (nextArrival_length hr :)
  | answered hw hr | ignored hw hr | lost hw hr =>
      exact calm (by simp) (nextArrival_mailbox hr :) (by rw [hw]; rfl)
  | overdue hw => exact calm (by simp) rfl (by rw [hw]; rfl)
  | pinged hw => exact calm (by simp) rfl (by rw [hw]; rfl)
  | subscribed hw hn | unsubscribed hw hn | unready hw hn | told hw hn =>
      exact calm (by simp [Event.isSilent]) (nextCommand_mailbox hn :) (by rw [hw]; rfl)
  | pushed hw hm => exact .pushed hw hm rfl
  | barred hw hm =>
      rcases Mailbox.offer_refused hm with e | e
      · rw [hu.unclosed] at e
        cases e
      · exact absurd (hu.finished e) busy
  | stopped hw =>
      rename_i n why
      cases why with
      | closed => exact absurd hw (hu.detached n)
      | detached => exact calm (by simp) rfl (by rw [hw]; rfl)
  | paused hw => exact calm (by simp) rfl (by rw [hw]; rfl)
  | gaveUp hw => exact .quiet (by simp) (Mailbox.same_finish _) (by rw [hw]; rfl)
  | drained hw hn =>
      rename_i attempts wakeAt cmd s'
      have running : s.worker.isStopping = false := by rw [hw]; rfl
      obtain ⟨rest, buffer, rfl⟩ := hu.command hs.orderly busy running hn
      cases cmd with
      | close => exact absurd (buffer ▸ List.mem_cons_self) hu.buffer
      | detach => exact calm (by simp) rfl (by rw [hw]; rfl)
      | subscribe x => exact calm (by simp) rfl rfl
      | unsubscribe x => exact calm (by simp) rfl rfl
  | redialled hw => exact calm (by simp) rfl (by rw [hw]; rfl)
  | attempted hw deed =>
      rename_i attempts a s' p
      have mailbox := deed.frame.mailbox
      cases p with
      | more b => exact calm deed.silent mailbox (by rw [hw]; rfl)
      | done n => exact calm deed.silent mailbox (by rw [hw]; rfl)
      | failed e =>
          simp only [onProgress]
          split
          · refine .quiet deed.silent ?_ (by rw [hw]; rfl)
            rw [← mailbox]
            exact Mailbox.same_finish _
          · exact calm deed.silent mailbox (by rw [hw]; rfl)

theorem step_traffic (hs : s.Conduct h) (hu : s.Unclosed) {m : Move} (uncut : ∀ id, m ≠ .cutOff id)
    (ht : s.step m = some t) : Traffic s (s.events m) t := by
  have deed : Deed s m (s.events m) t := step_deed ht
  generalize s.events m = es at deed ⊢
  cases deed with
  | called hc deed => exact deed.traffic hu hs.orderly hc
  | worked deed => exact deed.traffic hs hu
  | cutOff => exact absurd rfl (uncut _)
  | _ => exact .quiet (by simp) (.refl _) rfl

structure Delivered (s : Session) (h : List Event) : Prop where
  numbers : ∀ n m, .routed n m ∈ h → n ≤ s.links.length
  kept : (returned h ++ s.mailbox.items ++ s.worker.pending).Sublist (yieldedBy s.links.length h)
  counted : (yieldedBy s.links.length h).length
    = (returned h ++ s.mailbox.items ++ s.worker.pending).length + s.mailbox.dropped
  overflow : s.mailbox.overflow = s.settings.overflow
  undropped : s.mailbox.overflow = .wait → s.mailbox.dropped = 0

theorem delivered_initial (p : Profile) (seconds : List Int) (draws : List Float) :
    (initial p seconds draws).Delivered [] where
  numbers _ _ hm := absurd hm List.not_mem_nil
  kept := List.Sublist.refl _
  counted := rfl
  overflow := rfl
  undropped _ := rfl

theorem Delivered.of_quiet {es : List Event} (hd : s.Delivered h)
    (links : s.links.length ≤ t.links.length) (settings : t.settings = s.settings)
    (silent : ∀ e ∈ es, e.isSilent = true) (same : s.mailbox.Same t.mailbox)
    (pending : t.worker.pending = s.worker.pending) : t.Delivered (h ++ es) := by
  have routed : yieldedBy t.links.length (h ++ es) = yieldedBy s.links.length h := by
    rw [← yieldedBy_of_le links hd.numbers]
    exact yieldedBy_congr fun n => routedOn_append_silent silent
  refine ⟨?_, ?_, ?_, ?_, ?_⟩
  · intro n m hm
    rcases List.mem_append.mp hm with hm | hm
    · exact Nat.le_trans (hd.numbers n m hm) links
    · cases silent _ hm
  · rw [routed, returned_append_silent silent, same.items, pending]
    exact hd.kept
  · rw [routed, returned_append_silent silent, same.items, pending, same.dropped]
    exact hd.counted
  · rw [same.overflow, settings]
    exact hd.overflow
  · rw [same.overflow, same.dropped]
    exact hd.undropped

theorem Delivered.of_routed {n : Nat} {k k' : Keepalive} {m : Message} (hs : s.Conduct h)
    (hd : s.Delivered h) (settings : t.settings = s.settings) (before : s.worker = .reading n k)
    (after : t.worker = .pushing n m k') (mailbox : t.mailbox = s.mailbox)
    (links : t.links.length = s.links.length) : t.Delivered (h ++ [.routed n m]) := by
  have stands := hs.busy (by rw [before]; simp)
  rw [before] at stands
  have last : n = s.links.length := stands.2.last
  have routed : yieldedBy t.links.length (h ++ [.routed n m])
      = yieldedBy s.links.length h ++ [m] := by
    rw [links, last]
    exact yieldedBy_append_routed stands.2.pos
  have given : returned (h ++ [.routed n m]) = returned h := by
    simp [returned, Event.returned?]
  have pending : s.worker.pending = [] ∧ t.worker.pending = [m] := by
    rw [before, after]
    exact ⟨rfl, rfl⟩
  have kept := hd.kept
  have counted := hd.counted
  rw [pending.1, List.append_nil] at kept counted
  refine ⟨?_, ?_, ?_, ?_, ?_⟩
  · intro j m' hm
    rw [links]
    rcases List.mem_append.mp hm with hm | hm
    · exact hd.numbers j m' hm
    · cases List.mem_singleton.mp hm
      exact Nat.le_of_eq last
  · rw [routed, given, mailbox, pending.2]
    exact kept.append_right [m]
  · rw [routed, given, mailbox, pending.2, List.length_append, List.length_append, counted]
    simp only [List.length_singleton]
    omega
  · rw [mailbox, settings]
    exact hd.overflow
  · rw [mailbox]
    exact hd.undropped

theorem Delivered.of_pushed {n : Nat} {m : Message} {k : Keepalive} (hd : s.Delivered h)
    (links : s.links.length ≤ t.links.length) (settings : t.settings = s.settings)
    (before : s.worker = .pushing n m k) (offered : s.mailbox.offer m = .taken t.mailbox)
    (after : t.worker = .reading n k) : t.Delivered (h ++ []) := by
  have yielded := yieldedBy_of_le links hd.numbers
  have pending : s.worker.pending = [m] ∧ t.worker.pending = [] := by
    rw [before, after]
    exact ⟨rfl, rfl⟩
  have kept := hd.kept
  have counted := hd.counted
  rw [pending.1] at kept counted
  rw [List.append_nil]
  refine ⟨fun j m' hm => Nat.le_trans (hd.numbers j m' hm) links, ?_, ?_, ?_, ?_⟩
  · rw [yielded, pending.2, List.append_nil]
    rcases Mailbox.offer_taken offered with e | ⟨_, y, rest, hi, e⟩
    · rw [e, ← List.append_assoc]
      exact kept
    · rw [hi, List.append_assoc] at kept
      rw [e]
      exact ((List.sublist_cons_self y _).append_left _).trans kept
  · rw [yielded, pending.2, List.append_nil]
    rcases Mailbox.offer_taken offered with e | ⟨_, y, rest, hi, e⟩
    · rw [e, ← List.append_assoc]
      exact counted
    · rw [hi] at counted
      rw [e, counted]
      simp only [List.length_append, List.length_cons, List.length_nil]
      omega
  · rw [settings, ← hd.overflow]
    rcases Mailbox.offer_taken offered with e | ⟨_, _, _, _, e⟩ <;> rw [e]
  · rcases Mailbox.offer_taken offered with e | ⟨drops, _, _, _, e⟩
    · rw [e]
      exact hd.undropped
    · rw [e]
      intro waits
      rw [show s.mailbox.overflow = .wait from waits] at drops
      cases drops

theorem Delivered.of_returned {m : Message} (hd : s.Delivered h)
    (links : s.links.length ≤ t.links.length) (settings : t.settings = s.settings)
    (taken : s.mailbox.take = .item m t.mailbox) (after : t.worker = s.worker) :
    t.Delivered (h ++ [.returned m]) := by
  obtain ⟨items, rest⟩ := Mailbox.take_item taken
  have routed : yieldedBy t.links.length (h ++ [.returned m]) = yieldedBy s.links.length h := by
    rw [← yieldedBy_of_le links hd.numbers]
    exact yieldedBy_congr fun n => routedOn_append_returned
  have given : returned (h ++ [.returned m]) = returned h ++ [m] := by
    simp [returned, Event.returned?]
  have moved : returned h ++ [m] ++ t.mailbox.items
      = returned h ++ s.mailbox.items := by
    rw [items, List.append_assoc]
    rfl
  refine ⟨?_, ?_, ?_, ?_, ?_⟩
  · intro j m' hm
    rcases List.mem_append.mp hm with hm | hm
    · exact Nat.le_trans (hd.numbers j m' hm) links
    · cases List.mem_singleton.mp hm
  · rw [routed, given, moved, after]
    exact hd.kept
  · rw [routed, given, moved, after, rest]
    exact hd.counted
  · rw [rest, settings]
    exact hd.overflow
  · rw [rest]
    exact hd.undropped

theorem Delivered.step (hs : s.Conduct h) (hu : s.Unclosed) (hd : s.Delivered h) {m : Move}
    (uncut : ∀ id, m ≠ .cutOff id) (ht : s.step m = some t) :
    t.Delivered (h ++ s.events m) := by
  have links := step_links_le ht
  have settings : t.settings = s.settings := congrArg Profile.settings (step_profile ht)
  have traffic := step_traffic hs hu uncut ht
  generalize s.events m = es at traffic ⊢
  cases traffic with
  | quiet silent same pending => exact hd.of_quiet links settings silent same pending
  | routed before after mailbox same => exact hd.of_routed hs settings before after mailbox same
  | pushed before offered after => exact hd.of_pushed links settings before offered after
  | returned taken after => exact hd.of_returned links settings taken after

def yielded (s : Session) (h : List Event) : List Message :=
  s.links.flatMap fun l => routedOn l.number h

def accounted (s : Session) (h : List Event) : List Message :=
  returned h ++ s.mailbox.items ++ s.worker.pending

theorem Conduct.yielded_eq (hs : s.Conduct h) : s.yielded h = yieldedBy s.links.length h := by
  rw [yieldedBy, ← hs.numbered, List.flatMap_map]
  rfl

theorem Run.delivered {p : Profile} {seconds : List Int} {draws : List Float} {ms : List Move}
    (run : Run (initial p seconds draws) ms t) (unclosed : .invoke .close ∉ ms)
    (uncut : ∀ id, .cutOff id ∉ ms) :
    t.Conduct ((initial p seconds draws).chronicle ms) ∧
      t.Delivered ((initial p seconds draws).chronicle ms) := by
  have all := Run.keeps_where (P := fun m => m ≠ .invoke .close ∧ ∀ id, m ≠ .cutOff id) (h := [])
    (I := fun s h => s.Conduct h ∧ s.Unclosed ∧ s.Delivered h)
    (fun hm hi hs => ⟨hi.1.step hs, hi.2.1.step hi.1 hm.1 hs,
      hi.2.2.step hi.1 hi.2.1 hm.2 hs⟩) run
    (fun m hm => ⟨fun e => unclosed (e ▸ hm), fun id e => uncut id (e ▸ hm)⟩)
    ⟨conduct_initial p seconds draws, unclosed_initial p seconds draws,
      delivered_initial p seconds draws⟩
  exact ⟨all.1, all.2.2⟩

theorem run_delivers {p : Profile} {seconds : List Int} {draws : List Float} {ms : List Move}
    (run : Run (initial p seconds draws) ms t) (unclosed : .invoke .close ∉ ms)
    (uncut : ∀ id, .cutOff id ∉ ms) :
    let h := (initial p seconds draws).chronicle ms
    (p.settings.overflow = .wait → t.accounted h = t.yielded h) ∧
    (p.settings.overflow = .dropOldest →
      (t.accounted h).Sublist (t.yielded h) ∧
      (t.yielded h).length = (t.accounted h).length + t.mailbox.dropped) := by
  intro h
  obtain ⟨conduct, delivered⟩ := run.delivered unclosed uncut
  have settings : t.settings = p.settings := congrArg Profile.settings run.profile
  rw [conduct.yielded_eq]
  refine ⟨fun waits => ?_, fun _ => ⟨delivered.kept, delivered.counted⟩⟩
  have dropped : t.mailbox.dropped = 0 :=
    delivered.undropped (delivered.overflow.trans (settings ▸ waits))
  have length := delivered.counted
  rw [dropped, Nat.add_zero] at length
  exact delivered.kept.eq_of_length length.symm

def narrow : Settings := { Settings.standard with queueCapacity := 1, overflow := .dropOldest }

def overflowing : List Move :=
  connecting ++
    [.arrive 1 (.text "a"), .arrive 1 (.text "b"), .worker .read, .worker .proceed, .worker .read,
      .worker .proceed]

theorem overflowing_delivers :
    ∃ t, Run (visitor narrow) overflowing t ∧ .invoke .close ∉ overflowing ∧
      (∀ id, .cutOff id ∉ overflowing) ∧ t.mailbox.dropped = 1 ∧
      (t.accounted ((visitor narrow).chronicle overflowing)).Sublist
        (t.yielded ((visitor narrow).chronicle overflowing)) ∧
      (t.yielded ((visitor narrow).chronicle overflowing)).length
        = (t.accounted ((visitor narrow).chronicle overflowing)).length + t.mailbox.dropped := by
  have played : ((visitor narrow).play overflowing).map (fun t => t.mailbox.dropped) = some 1 := rfl
  have unclosed : .invoke .close ∉ overflowing := by decide
  have uncut : ∀ id, .cutOff id ∉ overflowing := by simp [overflowing, connecting]
  obtain ⟨t, run, dropped⟩ := exists_run _ _ _ played
  exact ⟨t, run, unclosed, uncut, dropped, (run_delivers run unclosed uncut).2 rfl⟩

end Session

end MarketWire.Stream
