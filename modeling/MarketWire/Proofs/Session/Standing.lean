import MarketWire.Proofs.Session.Order
import MarketWire.Proofs.Session.Script

namespace MarketWire.Stream

open Channel (Subscription)

def Link.outward (l : Link) : Nat × List Frame × List Subscription × Bool :=
  (l.number, l.written, l.carried, l.live)

def Link.Past (access : Access) (h : List Event) (l : Link) : Prop :=
  l.live = false ∧ Disciplined access h l.number l.written

def Numbered (ls : List Link) : Prop := ls.map Link.number = List.range' 1 ls.length

theorem Link.Past.mono {access : Access} {h : List Event} {l : Link} (hl : l.Past access h)
    (es : List Event) : l.Past access (h ++ es) :=
  ⟨hl.1, hl.2.mono es⟩

theorem Link.Past.outward {access : Access} {h : List Event} {l m : Link} (hl : l.Past access h)
    (same : m.outward = l.outward) : m.Past access h := by
  simp only [Link.outward, Prod.mk.injEq] at same
  obtain ⟨number, written, _, live⟩ := same
  exact ⟨live.trans hl.1, number ▸ written ▸ hl.2⟩

theorem Numbered.outward {ls ms : List Link} (h : Numbered ls)
    (same : ms.map Link.outward = ls.map Link.outward) : Numbered ms := by
  have length : ms.length = ls.length := by simpa using congrArg List.length same
  have numbers : ms.map Link.number = ls.map Link.number := by
    simpa [List.map_map, Link.outward, Function.comp_def] using congrArg (List.map Prod.fst) same
  rw [Numbered, numbers, length]
  exact h

theorem Numbered.last {past : List Link} {l : Link} (h : Numbered (past ++ [l])) :
    Numbered past ∧ l.number = past.length + 1 ∧ ∀ m ∈ past, m.number ≠ l.number := by
  have split : past.map Link.number = List.range' 1 past.length ∧ l.number = past.length + 1 := by
    simpa [Numbered, List.range'_concat, Nat.add_comm] using h
  obtain ⟨hp, hl⟩ := split
  refine ⟨hp, hl, ?_⟩
  intro m hm
  have hm : m.number ∈ List.range' 1 past.length := hp ▸ List.mem_map_of_mem hm
  rw [List.mem_range'_1] at hm
  omega

theorem Numbered.concat {past : List Link} {l : Link} (h : Numbered past)
    (hl : l.number = past.length + 1) : Numbered (past ++ [l]) := by
  simpa [Numbered, List.range'_concat, Nat.add_comm, hl] using h

namespace Session

variable {s t u : Session} {h : List Event} {n : Nat}
  {P Q : List Frame → List Subscription → Prop}

structure Down (s : Session) (h : List Event) : Prop where
  numbered : Numbered s.links
  linked : s.opened = true → s.links ≠ []
  past : ∀ l ∈ s.links, l.Past s.profile.access h

def InUse (s : Session) (h : List Event) (n : Nat)
    (P : List Frame → List Subscription → Prop) : Prop :=
  ∃ past l, s.links = past ++ [l] ∧ Numbered s.links ∧
    (∀ m ∈ past, m.Past s.profile.access h) ∧ l.number = n ∧ l.live = true ∧ P l.written l.carried

structure Alike (s t : Session) : Prop where
  profile : t.profile = s.profile
  links : t.links.map Link.outward = s.links.map Link.outward

theorem Alike.refl (s : Session) : Alike s s := ⟨rfl, rfl⟩

theorem Alike.trans (first : Alike s t) (second : Alike t u) : Alike s u :=
  ⟨second.profile.trans first.profile, second.links.trans first.links⟩

theorem alike_onLink (s : Session) (n : Nat) {f : Link → Link}
    (hf : ∀ l, (f l).outward = l.outward) : Alike s (s.onLink n f) := by
  refine ⟨rfl, ?_⟩
  simp only [onLink, List.map_map]
  apply List.map_congr_left
  intro l _
  simp only [Function.comp_apply]
  split
  · exact hf l
  · rfl

theorem nextArrival_alike {a : Arrival} (hr : s.nextArrival n = some (a, t)) : Alike s t := by
  obtain ⟨rest, rfl⟩ := nextArrival_eq hr
  exact alike_onLink s n fun _ => rfl

theorem nextCommand_alike {cmd : Command} (hn : s.nextCommand = some (cmd, t)) : Alike s t := by
  rcases nextCommand_eq hn with ⟨rest, _, rfl⟩ | ⟨_, _, _, _, rfl⟩
  · exact ⟨rfl, rfl⟩
  · exact .refl _

theorem Down.alike {es : List Event} (hd : s.Down h) (same : Alike s t)
    (opened : t.opened = s.opened) : t.Down (h ++ es) := by
  refine ⟨hd.numbered.outward same.links, ?_, ?_⟩
  · intro ho hnil
    have empty : s.links.map Link.outward = [] := by rw [← same.links, hnil, List.map_nil]
    exact hd.linked (opened ▸ ho) (List.map_eq_nil_iff.mp empty)
  · intro l hl
    obtain ⟨m, hm, e⟩ := List.mem_map.mp (same.links ▸ List.mem_map_of_mem hl)
    rw [same.profile]
    exact ((hd.past m hm).outward e.symm).mono es

theorem InUse.alike {es : List Event} (hi : s.InUse h n P) (same : Alike s t)
    (hP : ∀ {fs carried}, P fs carried → Q fs carried) : t.InUse (h ++ es) n Q := by
  obtain ⟨past, l, links, numbered, hpast, rfl, live, hl⟩ := hi
  have split := same.links
  rw [links, List.map_append, List.map_singleton] at split
  obtain ⟨past', ls, links', hpast', hls⟩ := List.map_eq_append_iff.mp split
  obtain ⟨l', rfl, hl'⟩ := List.map_eq_singleton_iff.mp hls
  simp only [Link.outward, Prod.mk.injEq] at hl'
  obtain ⟨number, written, carried, live'⟩ := hl'
  refine ⟨past', l', links', numbered.outward same.links, ?_, number, live'.trans live, ?_⟩
  · intro m hm
    obtain ⟨m', hm', e⟩ := List.mem_map.mp (hpast' ▸ List.mem_map_of_mem hm)
    rw [same.profile]
    exact ((hpast m' hm').outward e.symm).mono es
  · rw [written, carried]
    exact hP hl

theorem Down.still (hd : s.Down h) (same : Alike s t) (opened : t.opened = s.opened) : t.Down h := by
  rw [← List.append_nil h]
  exact hd.alike same opened

theorem InUse.still (hi : s.InUse h n P) (same : Alike s t) : t.InUse h n P := by
  rw [← List.append_nil h]
  exact hi.alike same id

theorem InUse.numbered (hi : s.InUse h n P) : Numbered s.links := by
  obtain ⟨_, _, _, numbered, _⟩ := hi
  exact numbered

theorem InUse.last (hi : s.InUse h n P) : n = s.links.length := by
  obtain ⟨past, l, links, numbered, _, rfl, _⟩ := hi
  rw [links] at numbered ⊢
  simpa using numbered.last.2.1

theorem InUse.pos (hi : s.InUse h n P) : 0 < s.links.length := by
  obtain ⟨past, l, links, _⟩ := hi
  rw [links]
  simp

theorem InUse.imp (hi : s.InUse h n P) (hP : ∀ {fs carried}, P fs carried → Q fs carried) :
    s.InUse h n Q := by
  obtain ⟨past, l, links, numbered, hpast, number, live, hl⟩ := hi
  exact ⟨past, l, links, numbered, hpast, number, live, hP hl⟩

theorem onLink_last {past : List Link} {l : Link} (links : s.links = past ++ [l])
    (numbered : Numbered s.links) (f : Link → Link) :
    (s.onLink l.number f).links = past ++ [f l] := by
  rw [links] at numbered
  have others := numbered.last.2.2
  have kept : past.map (fun m => if m.number = l.number then f m else m) = past.map id := by
    apply List.map_congr_left
    intro m hm
    exact if_neg (others m hm)
  rw [onLink, links, List.map_append, kept, List.map_id]
  simp

theorem InUse.onLink (hi : s.InUse h n P) {f : Link → Link}
    (number : ∀ l, (f l).number = l.number) (live : ∀ l, (f l).live = l.live)
    (hf : ∀ l, P l.written l.carried → Q (f l).written (f l).carried) :
    (s.onLink n f).InUse h n Q := by
  obtain ⟨past, l, links, numbered, hpast, rfl, hl, hP⟩ := hi
  refine ⟨past, f l, onLink_last links numbered f, ?_, hpast, number l, (live l).trans hl, hf l hP⟩
  rw [onLink_last links numbered f]
  rw [links] at numbered
  obtain ⟨hn, hlast, _⟩ := numbered.last
  exact hn.concat ((number l).trans hlast)

theorem InUse.drop (hi : s.InUse h n P)
    (hP : ∀ {fs carried}, P fs carried → Disciplined s.profile.access h n fs) :
    (s.dropLink n).Down h := by
  obtain ⟨past, l, links, numbered, hpast, rfl, _, hl⟩ := hi
  have after : (s.dropLink l.number).links = past ++ [l.drop] := onLink_last links numbered _
  rw [links] at numbered
  obtain ⟨hn, hlast, _⟩ := numbered.last
  refine ⟨?_, ?_, ?_⟩
  · rw [after]
    exact hn.concat hlast
  · rw [after]
    simp
  · rw [after]
    intro m hm
    rcases List.mem_append.mp hm with hm | hm
    · exact hpast m hm
    · rw [List.mem_singleton.mp hm]
      exact ⟨rfl, hP hl⟩

theorem Down.dial (hd : s.Down h) (address : Address) (headers : List (String × String))
    (links : t.links = s.links ++ [Link.opening (s.links.length + 1) address headers])
    (profile : t.profile = s.profile) : t.InUse h (s.links.length + 1) Untouched := by
  refine ⟨s.links, _, links, ?_, ?_, rfl, rfl, rfl, rfl⟩
  · rw [links]
    exact hd.numbered.concat rfl
  · rw [profile]
    exact hd.past

end Session

def Session.Founding (s : Session) (n : Nat) : Prop := n = 1 → s.opened = false

def Attempt.Stands (s : Session) (h : List Event) : Attempt → Prop
  | .starting => s.phase = .connecting ∧ s.Down h
  | .upgrading n _ => s.phase = .connecting ∧ s.Founding n ∧ s.InUse h n Untouched
  | .loggingIn n _ =>
      s.phase = .authenticating ∧ s.Founding n ∧ s.InUse h n (Greeted s.profile.access)
  | .connected n =>
      s.phase = .ready ∧ s.Founding n ∧ (s.profile.access.isPrivate = true → .loggedIn n ∈ h) ∧
        s.InUse h n (Greeted s.profile.access)
  | .replaying n rest => s.phase = .ready ∧ s.InUse h n (Restoring s.profile.access h n rest)

def Progress.Stands (s : Session) (h : List Event) : Progress → Prop
  | .more a => a.Stands s h
  | .done n => s.phase = .ready ∧ s.InUse h n (Serving s.profile.access h n)
  | .failed _ => s.phase = .closed ∧ s.Down h

def Worker.Stands (s : Session) (h : List Event) : Worker → Prop
  | .idle => s.Down h
  | .reading n _ => s.phase = .ready ∧ s.InUse h n (Serving s.profile.access h n)
  | .pushing n _ _ => s.phase = .ready ∧ s.InUse h n (Serving s.profile.access h n)
  | .stopping n _ =>
      s.phase = .closing ∧ s.InUse h n fun fs _ => Disciplined s.profile.access h n fs
  | .deciding _ _ => s.phase = .closed ∧ s.Down h
  | .waiting _ _ => s.phase = .disconnected ∧ s.Down h
  | .attempting _ a => a.Stands s h

namespace Session

variable {s t : Session}

structure Beside (s t : Session) : Prop where
  alike : Alike s t
  phase : t.phase = s.phase
  opened : t.opened = s.opened

theorem Founding.beside {n : Nat} (hf : s.Founding n) (opened : t.opened = s.opened) :
    t.Founding n :=
  fun e => opened.trans (hf e)

end Session

variable {s t : Session} {h : List Event}

theorem Attempt.Stands.beside {a : Attempt} {es : List Event} (ha : a.Stands s h)
    (same : s.Beside t) : a.Stands t (h ++ es) := by
  obtain ⟨alike, phase, opened⟩ := same
  cases a with
  | starting => exact ⟨phase.trans ha.1, ha.2.alike alike opened⟩
  | upgrading n d =>
      obtain ⟨hp, hf, hi⟩ := ha
      exact ⟨phase.trans hp, hf.beside opened, hi.alike alike id⟩
  | loggingIn n d =>
      obtain ⟨hp, hf, hi⟩ := ha
      refine ⟨phase.trans hp, hf.beside opened, ?_⟩
      rw [alike.profile]
      exact hi.alike alike id
  | connected n =>
      obtain ⟨hp, hf, hw, hi⟩ := ha
      refine ⟨phase.trans hp, hf.beside opened, ?_⟩
      rw [alike.profile]
      exact ⟨fun e => List.mem_append_left _ (hw e), hi.alike alike id⟩
  | replaying n rest =>
      obtain ⟨hp, hi⟩ := ha
      refine ⟨phase.trans hp, ?_⟩
      rw [alike.profile]
      exact hi.alike alike fun hr => hr.mono es

theorem Attempt.Stands.still {a : Attempt} (ha : a.Stands s h) (same : s.Beside t) :
    a.Stands t h := by
  rw [← List.append_nil h]
  exact ha.beside same

theorem Worker.Stands.beside {w : Worker} {es : List Event} (hw : w.Stands s h)
    (same : s.Beside t) : w.Stands t (h ++ es) := by
  obtain ⟨alike, phase, opened⟩ := same
  cases w with
  | idle => exact Session.Down.alike hw alike opened
  | reading n k =>
      obtain ⟨hp, hi⟩ := hw
      refine ⟨phase.trans hp, ?_⟩
      rw [alike.profile]
      exact hi.alike alike fun hs => hs.mono es
  | pushing n m k =>
      obtain ⟨hp, hi⟩ := hw
      refine ⟨phase.trans hp, ?_⟩
      rw [alike.profile]
      exact hi.alike alike fun hs => hs.mono es
  | stopping n why =>
      obtain ⟨hp, hi⟩ := hw
      refine ⟨phase.trans hp, ?_⟩
      rw [alike.profile]
      exact hi.alike alike fun hd => hd.mono es
  | deciding attempts e => exact ⟨phase.trans hw.1, hw.2.alike alike opened⟩
  | waiting attempts wakeAt => exact ⟨phase.trans hw.1, hw.2.alike alike opened⟩
  | attempting attempts a => exact Attempt.Stands.beside hw ⟨alike, phase, opened⟩

theorem Attempt.Stands.down {a : Attempt} (ha : a.Stands s h) (none : a.link? = none) :
    s.Down h := by
  cases a with
  | starting => exact ha.2
  | _ => cases none

theorem Attempt.Stands.inUse {a : Attempt} {n : Nat} (ha : a.Stands s h)
    (link : a.link? = some n) :
    s.InUse h n fun fs _ => Disciplined s.profile.access h n fs := by
  cases a with
  | starting => cases link
  | upgrading k d =>
      cases link
      exact ha.2.2.imp Untouched.disciplined
  | loggingIn k d =>
      cases link
      exact ha.2.2.imp Greeted.disciplined
  | connected k =>
      cases link
      exact ha.2.2.2.imp Greeted.disciplined
  | replaying k rest =>
      cases link
      exact ha.2.imp Restoring.disciplined

theorem Worker.Stands.down {w : Worker} (hw : w.Stands s h) (none : w.link? = none) :
    s.Down h := by
  cases w with
  | idle => exact hw
  | deciding attempts e => exact hw.2
  | waiting attempts wakeAt => exact hw.2
  | attempting attempts a => exact Attempt.Stands.down hw none
  | _ => cases none

theorem Worker.Stands.inUse {w : Worker} {n : Nat} (hw : w.Stands s h)
    (link : w.link? = some n) :
    s.InUse h n fun fs _ => Disciplined s.profile.access h n fs := by
  cases w with
  | reading k l =>
      cases link
      exact hw.2.imp Serving.disciplined
  | pushing k m l =>
      cases link
      exact hw.2.imp Serving.disciplined
  | stopping k why =>
      cases link
      exact hw.2
  | attempting attempts a => exact Attempt.Stands.inUse hw link
  | _ => cases link

theorem Worker.Stands.aborted (hw : s.worker.Stands s h) : s.abortWorker.Down h := by
  cases link : s.worker.link? with
  | none =>
      rw [Session.abortWorker_of_none link]
      exact (hw.down link).still ⟨rfl, rfl⟩ rfl
  | some n =>
      rw [Session.abortWorker_of_link link]
      exact ((hw.inUse link).drop id).still ⟨rfl, rfl⟩ rfl

end MarketWire.Stream
