import MarketWire.Proofs.Session.Conduct
import MarketWire.Proofs.Session.Prospect

namespace MarketWire.Stream

open Channel (Subscription)

def Stage.parting : Stage → Option Command
  | .stopping cmd => some cmd
  | .handing cmd => some cmd
  | .joining cmd _ => some cmd
  | _ => none

namespace Session

variable {s t : Session} {c : Call} {h es : List Event} {n : Nat}

def Tries (s : Session) (n : Nat) : Prop :=
  ∃ a : Attempt, a.link? = some n ∧
    ((∃ attempts, s.worker = .attempting attempts a) ∨ ∃ c ∈ s.calls, c.stage = .attempting a)

structure Heard (s : Session) (h : List Event) : Prop where
  known : ∀ n cmd, .taken n cmd ∈ h → n ≤ s.links.length
  unheard : ∀ n, s.Tries n → ∀ cmd, .taken n cmd ∉ h
  parting : ∀ c ∈ s.calls, ∀ cmd, c.stage.parting = some cmd → ∀ x, cmd.about x = none

theorem heard_initial (p : Profile) (seconds : List Int) (draws : List Float) :
    (initial p seconds draws).Heard [] :=
  ⟨fun _ _ hm => absurd hm List.not_mem_nil, fun _ _ _ => List.not_mem_nil,
    fun _ hc => absurd hc List.not_mem_nil⟩

theorem AttemptDeed.link? {a b : Attempt} (deed : AttemptDeed s a es t (.more b))
    (hb : b.link? = some n) : a.link? = some n ∨ n = s.links.length + 1 := by
  generalize hp : Progress.more b = p at deed
  cases deed <;> cases hp <;> simp_all [Attempt.link?]

theorem AttemptDeed.untaken {a : Attempt} {p : Progress} (deed : AttemptDeed s a es t p)
    (n : Nat) (cmd : Command) : .taken n cmd ∉ es := by
  cases deed <;> simp

theorem CallDeed.worker (deed : CallDeed s c es t) :
    t.worker = s.worker ∨ ∃ n k, t.worker = .reading n k := by
  cases deed with
  | attempted hs deed =>
      rename_i a s' p
      cases p with
      | more b => exact Or.inl deed.frame.worker
      | done n => exact Or.inr ⟨n, _, rfl⟩
      | failed e =>
          simp only [onCallProgress]
          split <;> exact Or.inl deed.frame.worker
  | _ => exact Or.inl rfl

theorem CallDeed.untaken (deed : CallDeed s c es t) (n : Nat) (cmd : Command) :
    .taken n cmd ∉ es := by
  cases deed with
  | ended => split <;> simp
  | attempted _ deed => exact deed.untaken n cmd
  | _ => simp

theorem WorkerDeed.taken {cmd : Command} (deed : WorkerDeed s es t) (ht : .taken n cmd ∈ es) :
    (∃ k, s.worker = .reading n k) ∧ ∀ attempts a, t.worker ≠ .attempting attempts a := by
  cases deed with
  | routed => simp at ht
  | subscribed hw =>
      cases List.mem_singleton.mp ht
      exact ⟨⟨_, hw⟩, by simp⟩
  | unsubscribed hw =>
      cases List.mem_singleton.mp ht
      exact ⟨⟨_, hw⟩, by simp⟩
  | unready hw =>
      cases List.mem_singleton.mp ht
      exact ⟨⟨_, hw⟩, by simp [failLink]⟩
  | told hw =>
      cases List.mem_singleton.mp ht
      exact ⟨⟨_, hw⟩, by simp [beginStop]⟩
  | attempted _ hd => exact absurd ht (hd.untaken n cmd)
  | _ => cases ht

theorem WorkerDeed.link? {attempts : Nat} {b : Attempt} (deed : WorkerDeed s es t)
    (hw : t.worker = .attempting attempts b) (hb : b.link? = some n) :
    (∃ attempts a, s.worker = .attempting attempts a ∧ a.link? = some n) ∨
      n = s.links.length + 1 := by
  cases deed with
  | lost | overdue | unready | told | barred => cases hw
  | stopped =>
      rename_i why _
      cases why <;> cases hw
  | gaveUp => cases hw
  | drained hs hn =>
      rename_i cmd s'
      cases cmd with
      | close => cases hw
      | detach => cases hw
      | subscribe x =>
          change s'.worker = _ at hw
          rw [nextCommand_worker hn, hs] at hw
          cases hw
      | unsubscribe x =>
          change s'.worker = _ at hw
          rw [nextCommand_worker hn, hs] at hw
          cases hw
  | redialled =>
      cases hw
      cases hb
  | attempted hs hd =>
      rename_i s' p
      cases p with
      | more a =>
          cases hw
          rcases hd.link? hb with ha | last
          · exact Or.inl ⟨_, _, hs, ha⟩
          · exact Or.inr last
      | done k => cases hw
      | failed e =>
          simp only [onProgress] at hw
          split at hw <;> cases hw
  | _ => cases hw

theorem step_tries {m : Move} (hs : s.Conduct h) (ht : s.step m = some t) (tries : t.Tries n) :
    s.Tries n ∨ n = s.links.length + 1 := by
  obtain ⟨b, hb, tries⟩ := tries
  have old : (∃ attempts, s.worker = .attempting attempts b) ∨
      (∃ c ∈ s.calls, c.stage = .attempting b) → s.Tries n := fun e => ⟨b, hb, e⟩
  cases step_deed ht with
  | elapsed | answered | arrived => exact Or.inl (old tries)
  | cutOff =>
      rcases tries with ⟨attempts, hw⟩ | waits
      · cases hw
      · exact Or.inl (old (Or.inr waits))
  | invoked =>
      rcases tries with hw | ⟨c, hc, hst⟩
      · exact Or.inl (old (Or.inl hw))
      · rcases List.mem_append.mp hc with hc | hc
        · exact Or.inl (old (Or.inr ⟨c, hc, hst⟩))
        · rw [List.mem_singleton.mp hc] at hst
          cases hst
  | abandoned hc =>
      rcases tries with hw | ⟨d, hd, hst⟩
      · exact Or.inl (old (Or.inl hw))
      · rcases (hs.orderly.locking.mem_setStage hc).mp hd with rfl | ⟨hd, _⟩
        · cases hst
        · exact Or.inl (old (Or.inr ⟨d, hd, hst⟩))
  | called hc deed =>
      rename_i c _
      obtain ⟨stage, calls, next⟩ := deed.next
      rcases tries with ⟨attempts, hw⟩ | ⟨d, hd, hst⟩
      · rcases deed.worker with same | ⟨k, l, reads⟩
        · exact Or.inl (old (Or.inl ⟨attempts, same ▸ hw⟩))
        · rw [reads] at hw
          cases hw
      · rcases (hs.orderly.locking.mem_turned hc calls).mp hd with rfl | ⟨hd, _⟩
        · change stage = .attempting b at hst
          subst hst
          cases next with
          | starting => cases hb
          | attempting ha deed =>
              rcases deed.link? hb with hl | last
              · exact Or.inl ⟨_, hl, Or.inr ⟨c, hc, ha⟩⟩
              · exact Or.inr last
        · exact Or.inl (old (Or.inr ⟨d, hd, hst⟩))
  | worked deed =>
      rcases tries with ⟨attempts, hw⟩ | ⟨d, hd, hst⟩
      · rcases deed.link? hw hb with ⟨k, a, ha, hl⟩ | last
        · exact Or.inl ⟨a, hl, Or.inl ⟨k, ha⟩⟩
        · exact Or.inr last
      · rw [deed.frame.calls] at hd
        exact Or.inl (old (Or.inr ⟨d, hd, hst⟩))

theorem step_taken {m : Move} {cmd : Command} (hs : s.Conduct h) (ht : s.step m = some t)
    (taken : .taken n cmd ∈ s.events m) : n = s.links.length ∧ ∀ k, ¬t.Tries k := by
  have deed : Deed s m (s.events m) t := step_deed ht
  generalize s.events m = es at deed taken
  cases deed with
  | called _ deed => exact absurd taken (deed.untaken n cmd)
  | worked deed =>
      obtain ⟨⟨k, reads⟩, idle⟩ := deed.taken taken
      have stands := hs.busy deed.busy
      rw [reads] at stands
      refine ⟨stands.2.last, ?_⟩
      rintro j ⟨a, _, ⟨attempts, hw⟩ | ⟨c, hc, hst⟩⟩
      · exact idle attempts a hw
      · rw [deed.frame.calls] at hc
        exact deed.busy (hs.orderly.dialling c hc a hst)
  | _ => cases taken

theorem Heard.parted {m : Move} (hs : s.Conduct h) (hh : s.Heard h) (ht : s.step m = some t) :
    ∀ c ∈ t.calls, ∀ cmd, c.stage.parting = some cmd → ∀ x, cmd.about x = none := by
  intro d hd cmd hp x
  cases step_deed ht with
  | elapsed | answered | arrived | cutOff => exact hh.parting d hd cmd hp x
  | invoked =>
      rcases List.mem_append.mp hd with hd | hd
      · exact hh.parting d hd cmd hp x
      · rw [List.mem_singleton.mp hd] at hp
        cases hp
  | abandoned hc =>
      rcases (hs.orderly.locking.mem_setStage hc).mp hd with rfl | ⟨hd, _⟩
      · cases hp
      · exact hh.parting d hd cmd hp x
  | called hc deed =>
      rename_i c _
      obtain ⟨stage, calls, next⟩ := deed.next
      have kept : ∀ {cmd : Command}, c.stage.parting = some cmd → cmd.about x = none :=
        fun before => hh.parting c hc _ before x
      rcases (hs.orderly.locking.mem_turned hc calls).mp hd with rfl | ⟨hd, _⟩
      · cases next with
        | replacing =>
            cases hp
            rfl
        | closing =>
            cases hp
            rfl
        | handing hst =>
            cases hp
            exact kept (by rw [hst]; rfl)
        | joining hst =>
            cases hp
            rcases hst with hst | hst
            · exact kept (by rw [hst]; rfl)
            · exact kept (by rw [hst]; rfl)
        | _ => cases hp
      · exact hh.parting d hd cmd hp x
  | worked deed =>
      rw [deed.frame.calls] at hd
      exact hh.parting d hd cmd hp x

theorem Heard.step {m : Move} (hs : s.Conduct h) (hh : s.Heard h) (ht : s.step m = some t) :
    t.Heard (h ++ s.events m) := by
  have links := step_links_le ht
  refine ⟨?_, ?_, hh.parted hs ht⟩
  · intro n cmd taken
    rcases List.mem_append.mp taken with taken | taken
    · exact Nat.le_trans (hh.known n cmd taken) links
    · rw [(step_taken hs ht taken).1]
      exact links
  · intro n tries cmd taken
    rcases List.mem_append.mp taken with taken | taken
    · rcases step_tries hs ht tries with before | last
      · exact hh.unheard n before cmd taken
      · have := hh.known n cmd taken
        omega
    · exact (step_taken hs ht taken).2 n tries

end Session

end MarketWire.Stream
