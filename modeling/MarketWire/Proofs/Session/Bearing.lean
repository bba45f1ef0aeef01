import MarketWire.Proofs.Session.Conduct
import MarketWire.Proofs.Session.Prospect

namespace MarketWire.Stream

open Channel (Subscription)

def Stage.outgoing : Stage → Option Command
  | .sending cmd => some cmd
  | _ => none

def Stage.isTelling : Stage → Bool
  | .observing _ => true
  | .sending _ => true
  | _ => false

def Attempt.bears : Attempt → Option (Nat × List Subscription)
  | .replaying n rest => some (n, rest)
  | _ => none

def Progress.bears : Progress → Option (Nat × List Subscription)
  | .more a => a.bears
  | .done n => some (n, [])
  | .failed _ => none

def Worker.bears : Worker → Option (Nat × List Subscription)
  | .reading n _ => some (n, [])
  | .pushing n _ _ => some (n, [])
  | .attempting _ a => a.bears
  | _ => none

def Event.isAside : Event → Bool
  | .added _ => false
  | .skipped _ => false
  | .taken _ _ => false
  | _ => true

theorem abandoned_append_aside {h es : List Event} {x : Subscription}
    (aside : ∀ e ∈ es, e.isAside = true) : Abandoned (h ++ es) x ↔ Abandoned h x := by
  induction es generalizing h with
  | nil => rw [List.append_nil]
  | cons e es ih =>
      have he := aside e List.mem_cons_self
      rw [List.append_cons, ih fun d hd => aside d (List.mem_cons_of_mem _ hd), abandoned_append]
      cases e <;> simp_all [Event.isAside]

theorem stray_append_aside {h es : List Event} {n : Nat} {x : Subscription}
    (aside : ∀ e ∈ es, e.isAside = true) : Stray (h ++ es) n x ↔ Stray h n x := by
  induction es generalizing h with
  | nil => rw [List.append_nil]
  | cons e es ih =>
      have he := aside e List.mem_cons_self
      rw [List.append_cons, ih fun d hd => aside d (List.mem_cons_of_mem _ hd), stray_append]
      cases e <;> simp_all [Event.isAside]

namespace Session

variable {s t : Session} {c : Call} {h es : List Event} {n : Nat} {rest : List Subscription}
  {x y : Subscription}

def outgoing (s : Session) : List Command := s.calls.filterMap fun c => c.stage.outgoing

def coming (s : Session) : List Command := s.channel.buffer ++ s.outgoing

def prospect (s : Session) (h : List Event) (x : Subscription) : Prospect where
  registered := s.registry.contains x = true
  observed := ∃ c ∈ s.calls, c.stage = .observing x
  abandoned := Abandoned h x
  word := lastWord x s.coming

def Carries (s : Session) (n : Nat) (x : Subscription) : Prop :=
  ∃ l ∈ s.links, l.number = n ∧ x ∈ l.carried

def Holds (s : Session) (n : Nat) (rest : List Subscription) (x : Subscription) : Prop :=
  s.Carries n x ∨ x ∈ rest

def Bears (s : Session) (n : Nat) (rest : List Subscription) : Prop :=
  s.worker.bears = some (n, rest) ∨
    ∃ c ∈ s.calls, ∃ a, c.stage = .attempting a ∧ a.bears = some (n, rest)

theorem carries_onLink {k : Nat} {f : Link → Link} (number : ∀ l, (f l).number = l.number) :
    (s.onLink k f).Carries n x ↔
      ∃ l ∈ s.links, l.number = n ∧ x ∈ (if l.number = k then f l else l).carried := by
  simp only [Carries, onLink, List.mem_map]
  constructor
  · rintro ⟨_, ⟨l, hl, rfl⟩, hn, hx⟩
    refine ⟨l, hl, ?_, hx⟩
    rw [← hn]
    split
    · exact (number l).symm
    · rfl
  · rintro ⟨l, hl, hn, hx⟩
    refine ⟨_, ⟨l, hl, rfl⟩, ?_, hx⟩
    rw [← hn]
    split
    · exact number l
    · rfl

theorem carries_onLink_of_same {k : Nat} {f : Link → Link} (number : ∀ l, (f l).number = l.number)
    (carried : ∀ l, (f l).carried = l.carried) :
    (s.onLink k f).Carries n x ↔ s.Carries n x := by
  rw [carries_onLink number]
  have same : ∀ l : Link, (if l.number = k then f l else l).carried = l.carried := by
    intro l
    split
    · exact carried l
    · rfl
  simp only [same]
  rfl

theorem carries_of_alike (same : Alike s t) : t.Carries n x ↔ s.Carries n x := by
  have back : ∀ {u v : Session}, u.links.map Link.outward = v.links.map Link.outward →
      u.Carries n x → v.Carries n x := by
    rintro u v e ⟨l, hl, hn, hx⟩
    obtain ⟨m, hm, hml⟩ := List.mem_map.mp (e ▸ List.mem_map_of_mem hl)
    simp only [Link.outward, Prod.mk.injEq] at hml
    obtain ⟨number, _, carried, _⟩ := hml
    exact ⟨m, hm, number.trans hn, carried ▸ hx⟩
  exact ⟨back same.links, back same.links.symm⟩

theorem carries_read {a : Arrival} {k : Nat} (hr : s.nextArrival k = some (a, t)) :
    t.Carries n x ↔ s.Carries n x :=
  carries_of_alike (nextArrival_alike hr)

theorem carries_command {cmd : Command} (hn : s.nextCommand = some (cmd, t)) :
    t.Carries n x ↔ s.Carries n x :=
  carries_of_alike (nextCommand_alike hn)

theorem mem_subscribe (l : Link) : y ∈ (l.subscribe x).carried ↔ y ∈ l.carried ∨ y = x := by
  by_cases hx : x ∈ l.carried
  · rw [subscribe_of_mem hx]
    constructor
    · exact Or.inl
    · rintro (hy | rfl)
      · exact hy
      · exact hx
  · rw [(subscribe_of_not_mem hx).2, List.mem_append, List.mem_singleton]

theorem carries_subscribe {P : List Frame → List Subscription → Prop} (hi : s.InUse h n P) :
    (s.onLink n (·.subscribe x)).Carries n y ↔ s.Carries n y ∨ y = x := by
  rw [carries_onLink fun l => subscribe_number l x]
  obtain ⟨past, m, links, _, _, hm, _⟩ := hi
  have present : m ∈ s.links := links ▸ List.mem_append_right _ List.mem_cons_self
  constructor
  · rintro ⟨l, hl, hn, hy⟩
    rw [if_pos hn, mem_subscribe] at hy
    rcases hy with hy | rfl
    · exact Or.inl ⟨l, hl, hn, hy⟩
    · exact Or.inr rfl
  · rintro (⟨l, hl, hn, hy⟩ | rfl)
    · exact ⟨l, hl, hn, by rw [if_pos hn, mem_subscribe]; exact Or.inl hy⟩
    · exact ⟨m, present, hm, by rw [if_pos hm, mem_subscribe]; exact Or.inr rfl⟩

theorem carries_unsubscribe :
    (s.onLink n (·.unsubscribe x)).Carries n y ↔ s.Carries n y ∧ y ≠ x := by
  have number : ∀ l : Link, (l.unsubscribe x).number = l.number := fun _ => rfl
  rw [carries_onLink number]
  constructor
  · rintro ⟨l, hl, hn, hy⟩
    rw [if_pos hn] at hy
    obtain ⟨hy, hne⟩ := List.mem_filter.mp hy
    exact ⟨⟨l, hl, hn, hy⟩, bne_iff_ne.mp hne⟩
  · rintro ⟨⟨l, hl, hn, hy⟩, hne⟩
    refine ⟨l, hl, hn, ?_⟩
    rw [if_pos hn]
    exact List.mem_filter.mpr ⟨hy, bne_iff_ne.mpr hne⟩

theorem prospect_congr {h' : List Event}
    (registered : t.registry.contains x = s.registry.contains x)
    (observed : (∃ c ∈ t.calls, c.stage = .observing x) ↔ ∃ c ∈ s.calls, c.stage = .observing x)
    (abandoned : Abandoned h' x ↔ Abandoned h x)
    (word : lastWord x t.coming = lastWord x s.coming) : t.prospect h' x = s.prospect h x := by
  simp only [prospect, registered, word, propext observed, propext abandoned]

theorem Locking.telling (h : s.Locking) (hc : c ∈ s.calls)
    (others : ∀ d ∈ s.calls, d.id ≠ c.id → d.stage.isTelling = false) :
    s.outgoing = c.stage.outgoing.toList ∧
      ∀ x, (∃ d ∈ s.calls, d.stage = .observing x) ↔ c.stage = .observing x := by
  have silent : ∀ d ∈ s.calls, d ≠ c → d.stage.isTelling = false := by
    intro d hd hne
    exact others d hd fun e => hne (h.eq_of_id hd hc e)
  refine ⟨?_, ?_⟩
  · obtain ⟨before, after, split⟩ := List.append_of_mem hc
    have nodup : (before ++ c :: after).Nodup := split ▸ List.Nodup.of_map _ h.nodup
    have none : ∀ d ∈ s.calls, d ≠ c → d.stage.outgoing = none := by
      intro d hd hne
      have := silent d hd hne
      cases hst : d.stage <;> simp_all [Stage.isTelling, Stage.outgoing]
    have first : before.filterMap (fun c => c.stage.outgoing) = [] := by
      rw [List.filterMap_eq_nil_iff]
      intro d hd
      refine none d (split ▸ List.mem_append_left _ hd) ?_
      rintro rfl
      exact (List.nodup_append.mp nodup).2.2 d hd d List.mem_cons_self rfl
    have last : after.filterMap (fun c => c.stage.outgoing) = [] := by
      rw [List.filterMap_eq_nil_iff]
      intro d hd
      refine none d (split ▸ List.mem_append_right _ (List.mem_cons_of_mem _ hd)) ?_
      rintro rfl
      exact (List.nodup_cons.mp (List.nodup_append.mp nodup).2.1).1 hd
    rw [outgoing, split, List.filterMap_append, first, List.filterMap_cons, last]
    cases c.stage.outgoing <;> rfl
  · intro x
    constructor
    · rintro ⟨d, hd, hx⟩
      by_cases hne : d = c
      · exact hne ▸ hx
      · have := silent d hd hne
        rw [hx] at this
        cases this
    · exact fun hx => ⟨c, hc, hx⟩

theorem Locking.others (h : s.Locking) (hc : c ∈ s.calls) (held : c.holdsLock = true) :
    ∀ d ∈ s.calls, d.id ≠ c.id → d.stage.isTelling = false := by
  intro d hd hid
  cases ht : d.stage.isTelling with
  | false => rfl
  | true =>
      have held' : d.holdsLock = true := by
        cases hst : d.stage <;> simp_all [Stage.isTelling, Call.holdsLock, Stage.underLock]
      exact absurd (congrArg Call.id (h.eq_of_holdsLock hd hc held' held)) hid

theorem Locking.untold (h : s.Locking) (hc : c ∈ s.calls) {stage : Stage}
    (before : c.stage.isTelling = false) (after : stage.isTelling = false)
    (calls : t.calls = (s.setStage c.id stage).calls) :
    t.outgoing = s.outgoing ∧
      ∀ x, (∃ d ∈ t.calls, d.stage = .observing x) ↔ ∃ d ∈ s.calls, d.stage = .observing x := by
  have silent : ∀ st : Stage, st.isTelling = false → st.outgoing = none ∧ ∀ x, st ≠ .observing x := by
    intro st hst
    cases st <;> simp_all [Stage.isTelling, Stage.outgoing]
  refine ⟨?_, ?_⟩
  · rw [outgoing, outgoing, calls, setStage, List.filterMap_map]
    apply List.filterMap_congr
    intro d hd
    simp only [Function.comp_apply]
    by_cases hid : d.id = c.id
    · rw [if_pos hid, h.eq_of_id hd hc hid, (silent _ before).1]
      exact (silent _ after).1
    · rw [if_neg hid]
  · intro x
    rw [calls]
    constructor
    · rintro ⟨d, hd, hx⟩
      rcases (h.mem_setStage hc).mp hd with rfl | ⟨hd, _⟩
      · exact absurd hx ((silent _ after).2 x)
      · exact ⟨d, hd, hx⟩
    · rintro ⟨d, hd, hx⟩
      refine ⟨d, (h.mem_setStage hc).mpr (Or.inr ⟨hd, ?_⟩), hx⟩
      intro hid
      exact (silent _ before).2 x (h.eq_of_id hd hc hid ▸ hx)

end Session

end MarketWire.Stream
