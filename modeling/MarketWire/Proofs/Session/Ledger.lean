import MarketWire.Proofs.Routing
import MarketWire.Proofs.Session.Frame

namespace MarketWire.Stream

open Channel (Subscription)

def Event.account (xs : List Subscription) : Event → List Subscription
  | .added x => xs ++ [x]
  | .removed x => xs.filter (· != x)
  | _ => xs

def wanted (h : List Event) : List Subscription := h.foldl Event.account []

def Event.isNeutral : Event → Bool
  | .added _ => false
  | .removed _ => false
  | _ => true

theorem wanted_append_added (h : List Event) (x : Subscription) :
    wanted (h ++ [.added x]) = wanted h ++ [x] := by
  simp [wanted, Event.account]

theorem wanted_append_removed (h : List Event) (x : Subscription) :
    wanted (h ++ [.removed x]) = (wanted h).filter (· != x) := by
  simp [wanted, Event.account]

theorem wanted_append_neutral (h : List Event) {es : List Event}
    (neutral : ∀ e ∈ es, e.isNeutral = true) : wanted (h ++ es) = wanted h := by
  rw [wanted, List.foldl_append]
  have keep : ∀ xs : List Subscription, es.foldl Event.account xs = xs := by
    induction es with
    | nil => intro xs; rfl
    | cons e es ih =>
        intro xs
        have first : Event.account xs e = xs := by
          have he := neutral e List.mem_cons_self
          cases e with
          | added x => cases he
          | removed x => cases he
          | _ => rfl
        rw [List.foldl_cons, first]
        exact ih (fun d hd => neutral d (List.mem_cons_of_mem _ hd)) xs
  exact keep _

namespace Session

variable {s t : Session}

inductive RegistryDeed (s : Session) : List Event → Session → Prop where
  | added {t : Session} (x : Subscription) :
      s.registry.contains x = false → t.registry = (s.registry.add x).1 →
      RegistryDeed s [.added x] t
  | removed {t : Session} (x : Subscription) :
      s.registry.contains x = true → t.registry = (s.registry.remove x).1 →
      RegistryDeed s [.removed x] t
  | kept {t : Session} {es : List Event} :
      (∀ e ∈ es, e.isNeutral = true) → s.registry.Same t.registry → RegistryDeed s es t

theorem AttemptDeed.same {a : Attempt} {es : List Event} {p : Progress}
    (deed : AttemptDeed s a es t p) : s.registry.Same t.registry := by
  rcases deed.registry with e | e
  · rw [e]
    exact .refl _
  · rw [e]
    exact Registry.same_resetConfirmations _

theorem AttemptDeed.neutral {a : Attempt} {es : List Event} {p : Progress}
    (deed : AttemptDeed s a es t p) : ∀ e ∈ es, e.isNeutral = true := by
  cases deed <;> simp [Event.isNeutral]

theorem onCallProgress_registry (c : Call) (p : Progress) :
    (s.onCallProgress c p).registry = s.registry := by
  cases p with
  | more a => rfl
  | done n => rfl
  | failed e =>
      simp only [onCallProgress]
      split <;> rfl

theorem CallDeed.registry {c : Call} {es : List Event} (deed : CallDeed s c es t) :
    RegistryDeed s es t := by
  cases deed with
  | added _ hx => exact .added _ hx rfl
  | removed _ hx => exact .removed _ hx rfl
  | attempted _ hd =>
      refine .kept hd.neutral ?_
      rw [onCallProgress_registry]
      exact hd.same
  | ended =>
      refine .kept ?_ (.refl _)
      split <;> simp [Event.isNeutral]
  | _ => exact .kept (by simp [Event.isNeutral]) (.refl _)

theorem onProgress_registry (attempts : Nat) (p : Progress) :
    (s.onProgress attempts p).registry = s.registry := by
  cases p with
  | more a => rfl
  | done n => rfl
  | failed e =>
      simp only [onProgress]
      split <;> rfl

theorem WorkerDeed.same {es : List Event} (deed : WorkerDeed s es t) :
    (∀ e ∈ es, e.isNeutral = true) ∧ s.registry.Same t.registry := by
  have kept : t.registry = s.registry → s.registry.Same t.registry := by
    intro e
    rw [e]
    exact .refl _
  have routed : ∀ {content : String} {r : Registry} {routed : Router.Routed},
      Router.route s.settings.forwardAcks s.registry content = (r, routed) →
      s.registry.Same r := by
    intro content r routed hroute
    have := Router.route_same s.settings.forwardAcks s.registry content
    rwa [hroute] at this
  cases deed with
  | ponged _ _ hroute => exact ⟨by simp, (routed hroute)⟩
  | consumed _ _ hroute => exact ⟨by simp, (routed hroute)⟩
  | routed _ _ hroute => exact ⟨by simp [Event.isNeutral], (routed hroute)⟩
  | answered _ hr | ignored _ hr | lost _ hr => exact ⟨by simp, kept (nextArrival_registry hr :)⟩
  | subscribed _ hn | unsubscribed _ hn | unready _ hn | told _ hn =>
      exact ⟨by simp [Event.isNeutral], kept (nextCommand_registry hn :)⟩
  | stopped =>
      rename_i why _
      cases why <;> exact ⟨by simp, .refl _⟩
  | drained _ hn =>
      rename_i cmd s' _
      refine ⟨by simp, ?_⟩
      cases cmd <;> exact kept (nextCommand_registry hn :)
  | attempted _ hd =>
      refine ⟨hd.neutral, ?_⟩
      rw [onProgress_registry]
      exact hd.same
  | _ => exact ⟨by simp, .refl _⟩

theorem Deed.registry {m : Move} {es : List Event} (deed : Deed s m es t) :
    RegistryDeed s es t := by
  cases deed with
  | called _ hd => exact hd.registry
  | worked hd => exact .kept hd.same.1 hd.same.2
  | _ => exact .kept (by simp) (.refl _)

structure Booked (s : Session) (h : List Event) : Prop where
  tidy : s.registry.Tidy
  listed : s.registry.all = wanted h

theorem booked_initial (p : Profile) (seconds : List Int) (draws : List Float) :
    (initial p seconds draws).Booked [] :=
  ⟨Registry.tidy_empty, rfl⟩

theorem Booked.contains {h : List Event} (hb : s.Booked h) {x : Subscription} :
    s.registry.contains x = true ↔ x ∈ wanted h := by
  rw [← hb.listed, Registry.mem_all]

theorem Booked.step {h : List Event} (hb : s.Booked h) {m : Move} (hs : s.step m = some t) :
    t.Booked (h ++ s.events m) := by
  generalize hes : s.events m = es
  have deed : RegistryDeed s es t := hes ▸ (step_deed hs).registry
  cases deed with
  | added x hx ht =>
      refine ⟨ht ▸ hb.tidy.add, ?_⟩
      rw [ht, hb.tidy.all_add hx, hb.listed, wanted_append_added]
  | removed x hx ht =>
      refine ⟨ht ▸ hb.tidy.remove, ?_⟩
      rw [ht, hb.tidy.all_remove, hb.listed, wanted_append_removed]
  | kept neutral same =>
      refine ⟨same.tidy hb.tidy, ?_⟩
      rw [same.all, hb.listed, wanted_append_neutral h neutral]

end Session

end MarketWire.Stream
