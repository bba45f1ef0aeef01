import MarketWire.Proofs.Session.Record

namespace MarketWire.Stream

inductive Trial where
  | lost
  | paused (number since span : Nat)
  | heard (c : Command)
  | dialled (number now : Nat)
  | failed (e : StreamError)
  | restored (link : Nat)
  | gaveUp (e : StreamError)
  | aborted
  deriving DecidableEq

namespace Trial

def isLost : Trial → Bool
  | lost => true
  | _ => false

def pause? : Trial → Option Nat
  | paused number _ _ => some number
  | _ => none

def dial? : Trial → Option Nat
  | dialled number _ => some number
  | _ => none

def verdict? : Trial → Option (Except StreamError Nat)
  | failed e => some (.error e)
  | restored link => some (.ok link)
  | _ => none

end Trial

def pauses (log : List Trial) : List Nat := log.filterMap Trial.pause?

def dials (log : List Trial) : List Nat := log.filterMap Trial.dial?

def verdicts (log : List Trial) : List (Except StreamError Nat) := log.filterMap Trial.verdict?

def Command.isChange : Command → Bool
  | .subscribe _ => true
  | .unsubscribe _ => true
  | _ => false

def Waited (b : Backoff) (before : List Trial) : Trial → Prop
  | .dialled number now => ∃ early since draw, ∃ cs : List Command,
      before = early ++ .paused number since (b.delay number draw) :: cs.map .heard ∧
        (∀ c ∈ cs, c.isChange = true) ∧ since + b.delay number draw ≤ now
  | _ => True

section

variable {b : Backoff} {log ps es : List Trial} {fails : List StreamError} {p d wakeAt now : Nat}

theorem waited_append (h : Throughout (Waited b) log) (aside : ∀ t ∈ es, t.dial? = none) :
    Throughout (Waited b) (log ++ es) := by
  induction es generalizing log with
  | nil => rwa [List.append_nil]
  | cons t es ih =>
      rw [← List.singleton_append, ← List.append_assoc]
      refine ih (h.append ?_) fun u hu => aside u (List.mem_cons_of_mem _ hu)
      have other := aside t List.mem_cons_self
      cases t with
      | dialled => cases other
      | _ => trivial

structure Counts (b : Backoff) (log : List Trial) (p d : Nat) : Prop where
  pauses : pauses log = List.range p
  dials : dials log = List.range d
  budget : ∀ max, b.maxAttempts = some max → p ≤ max
  waited : Throughout (Waited b) log

theorem counts_nil (b : Backoff) : Counts b [] 0 0 :=
  ⟨rfl, rfl, fun _ _ => Nat.zero_le _, throughout_nil⟩

theorem Counts.aside (h : Counts b log p d) (aside : ∀ t ∈ es, t.pause? = none ∧ t.dial? = none) :
    Counts b (log ++ es) p d := by
  have unpaused : es.filterMap Trial.pause? = [] :=
    List.filterMap_eq_nil_iff.mpr fun t ht => (aside t ht).1
  have undialled : es.filterMap Trial.dial? = [] :=
    List.filterMap_eq_nil_iff.mpr fun t ht => (aside t ht).2
  refine ⟨?_, ?_, h.budget, waited_append h.waited fun t ht => (aside t ht).2⟩
  · rw [Stream.pauses, List.filterMap_append, unpaused, List.append_nil]
    exact h.pauses
  · rw [Stream.dials, List.filterMap_append, undialled, List.append_nil]
    exact h.dials

inductive Pause (b : Backoff) (number : Nat) : Nat → List Trial → Prop where
  | mk {since : Nat} {draw : Float} {cs : List Command} :
      (∀ c ∈ cs, c.isChange = true) →
      Pause b number (since + b.delay number draw)
        (.paused number since (b.delay number draw) :: cs.map .heard)

theorem pause_begun (b : Backoff) (number since : Nat) (draw : Float) :
    Pause b number (since + b.delay number draw) [.paused number since (b.delay number draw)] :=
  @Pause.mk b number since draw [] (by simp)

theorem Counts.pause (h : Counts b log p p) (allowed : b.allows p = true)
    (pause : Pause b p wakeAt ps) : Counts b (log ++ ps) (p + 1) p := by
  obtain ⟨changes⟩ := pause
  rename_i since draw cs
  have unpaused : (cs.map Trial.heard).filterMap Trial.pause? = [] := by
    simp [List.filterMap_map, Function.comp_def, Trial.pause?]
  have undialled : (cs.map Trial.heard).filterMap Trial.dial? = [] := by
    simp [List.filterMap_map, Function.comp_def, Trial.dial?]
  refine ⟨?_, ?_, fun max hmax => ?_, waited_append h.waited ?_⟩
  · rw [Stream.pauses, List.filterMap_append, List.range_succ]
    refine congrArg₂ _ h.pauses ?_
    rw [List.filterMap_cons, unpaused]
    rfl
  · rw [Stream.dials, List.filterMap_append, List.filterMap_cons, undialled]
    exact (List.append_nil _).trans h.dials
  · simp only [Backoff.allows, hmax, decide_eq_true_eq] at allowed
    omega
  · intro t ht
    rcases List.mem_cons.mp ht with rfl | ht
    · rfl
    · obtain ⟨c, _, rfl⟩ := List.mem_map.mp ht
      rfl

theorem Counts.dial (h : Counts b (log ++ ps) (d + 1) d) (pause : Pause b d wakeAt ps)
    (due : wakeAt ≤ now) : Counts b (log ++ ps ++ [.dialled d now]) (d + 1) (d + 1) := by
  refine ⟨?_, ?_, h.budget, h.waited.append ?_⟩
  · rw [Stream.pauses, List.filterMap_append]
    exact (List.append_nil _).trans h.pauses
  · rw [Stream.dials, List.filterMap_append, List.range_succ]
    exact congrArg₂ _ h.dials rfl
  · obtain ⟨changes⟩ := pause
    exact ⟨log, _, _, _, rfl, changes, due⟩

inductive Rounds (b : Backoff) : List Trial → List StreamError → Prop where
  | none : Rounds b [] []
  | more {log ps : List Trial} {fails : List StreamError} {e : StreamError} {wakeAt now : Nat} :
      Rounds b log fails → b.allows fails.length = true → Pause b fails.length wakeAt ps →
      wakeAt ≤ now → e.isAuth = false →
      Rounds b (log ++ ps ++ [.dialled fails.length now, .failed e]) (fails ++ [e])

theorem Counts.round (h : Counts b log p p) (allowed : b.allows p = true)
    (pause : Pause b p wakeAt ps) (due : wakeAt ≤ now)
    (aside : ∀ t ∈ es, t.pause? = none ∧ t.dial? = none) :
    Counts b (log ++ ps ++ .dialled p now :: es) (p + 1) (p + 1) := by
  have counts := ((h.pause allowed pause).dial pause due).aside aside
  rwa [List.append_assoc, List.singleton_append] at counts

theorem Rounds.counts (h : Rounds b log fails) : Counts b log fails.length fails.length := by
  induction h with
  | none => exact counts_nil b
  | more _ allowed pause due _ ih =>
      rw [List.length_append]
      exact ih.round allowed pause due (by simp [Trial.pause?, Trial.dial?])

theorem Pause.verdicts (h : Pause b p wakeAt ps) : verdicts ps = [] := by
  obtain ⟨changes⟩ := h
  simp [Stream.verdicts, List.filterMap_cons, Trial.verdict?, List.filterMap_map,
    Function.comp_def]

theorem verdicts_append (log es : List Trial) :
    verdicts (log ++ es) = verdicts log ++ verdicts es :=
  List.filterMap_append

theorem Rounds.verdicts (h : Rounds b log fails) : verdicts log = fails.map .error := by
  induction h with
  | none => rfl
  | more _ _ pause _ _ ih =>
      rw [verdicts_append, verdicts_append, ih, pause.verdicts, List.append_nil, List.map_append]
      rfl

theorem Rounds.passing (h : Rounds b log fails) : ∀ e ∈ fails, e.isAuth = false := by
  induction h with
  | none => simp
  | more _ _ _ _ passing ih =>
      intro e he
      rcases List.mem_append.mp he with he | he
      · exact ih e he
      · rw [List.mem_singleton.mp he]
        exact passing

def latestError (e : StreamError) (fails : List StreamError) : StreamError := fails.getLast?.getD e

inductive Conclusion (b : Backoff) (e : StreamError) (log : List Trial) : Nat → Nat → Prop where
  | connected {early : List Trial} {fails : List StreamError} {link : Nat} :
      log = early ++ [.restored link] → verdicts log = fails.map .error ++ [.ok link] →
      (∀ f ∈ fails, f.isAuth = false) →
      Conclusion b e log (fails.length + 1) (fails.length + 1)
  | rejected {early : List Trial} {fails : List StreamError} {last : StreamError} :
      log = early ++ [.gaveUp last] → verdicts log = fails.map .error ++ [.error last] →
      (∀ f ∈ fails, f.isAuth = false) → last.isAuth = true →
      Conclusion b e log (fails.length + 1) (fails.length + 1)
  | exhausted {early : List Trial} {fails : List StreamError} :
      b.maxAttempts = some fails.length →
      log = early ++ [.gaveUp (.exhausted fails.length (latestError e fails).message)] →
      verdicts log = fails.map .error → (∀ f ∈ fails, f.isAuth = false) →
      Conclusion b e log fails.length fails.length
  | stopped {early : List Trial} {fails : List StreamError} {c : Command} :
      log = early ++ [.heard c] → c = .close ∨ c = .detach → verdicts log = fails.map .error →
      (∀ f ∈ fails, f.isAuth = false) → Conclusion b e log (fails.length + 1) fails.length
  | aborted {early : List Trial} {fails : List StreamError} {p d : Nat} :
      log = early ++ [.aborted] → p = d ∨ p = d + 1 → d = fails.length ∨ d = fails.length + 1 →
      verdicts log = fails.map .error → (∀ f ∈ fails, f.isAuth = false) → Conclusion b e log p d

theorem Conclusion.near {e : StreamError} (h : Conclusion b e log p d) : p = d ∨ p = d + 1 := by
  cases h with
  | stopped => exact Or.inr rfl
  | aborted _ near => exact near
  | _ => exact Or.inl rfl

end

end MarketWire.Stream
