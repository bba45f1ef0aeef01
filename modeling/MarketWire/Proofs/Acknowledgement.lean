import MarketWire.Proofs.Listing
import MarketWire.Proofs.Members
import MarketWire.Router

namespace MarketWire

open Channel (Subscription)

namespace Registry

variable {r : Registry} {x y : Subscription}

theorem isConfirmed_iff :
    r.isConfirmed x = true ↔ ∃ e, r.find? x = some e ∧ e.confirmed = true := by
  rw [isConfirmed]
  cases r.find? x <;> simp

@[simp] theorem isConfirmed_add : (r.add x).1.isConfirmed y = r.isConfirmed y := by
  cases hx : r.contains x with
  | true => simp [add, hx]
  | false =>
      simp only [add, hx, isConfirmed, find?, Bool.false_eq_true, if_false, List.lookup_cons]
      by_cases hy : y = x
      · have absent : r.entries.lookup x = none := by simpa [contains, find?] using hx
        simp [hy, absent]
      · rw [beq_false_of_ne hy]

theorem isConfirmed_remove :
    (r.remove x).1.isConfirmed y = true ↔ y ≠ x ∧ r.isConfirmed y = true := by
  simp only [isConfirmed_iff, find?, remove, Members.lookup_filter]
  by_cases hy : y = x <;> simp [hy]

theorem isConfirmed_confirm :
    (r.confirm x).1.isConfirmed y = true ↔
      r.isConfirmed y = true ∨ y = x ∧ r.contains x = true := by
  have keys : ∀ e : Subscription × Entry,
      (if e.1 = x then (e.1, { e.2 with confirmed := true }) else e).1 = e.1 := by
    intro e
    split <;> rfl
  simp only [isConfirmed_iff, contains, find?, confirm, Members.lookup_map keys]
  by_cases hy : y = x
  · subst hy
    cases r.entries.lookup y <;> simp
  · simp [hy]

@[simp] theorem isConfirmed_resetConfirmations : r.resetConfirmations.isConfirmed y = false := by
  rw [Bool.eq_false_iff, Ne, isConfirmed_iff]
  rintro ⟨e, he, confirmed⟩
  have keys : ∀ e : Subscription × Entry,
      ((e.1, { e.2 with confirmed := false }) : Subscription × Entry).1 = e.1 := fun _ => rfl
  have found : r.resetConfirmations.find? y
      = (r.entries.lookup y).map fun e => { e with confirmed := false } :=
    Members.lookup_map keys r.entries
  rw [found] at he
  obtain ⟨d, _, rfl⟩ := Option.map_eq_some_iff.mp he
  cases confirmed

end Registry

namespace Router

def Acknowledges (content : String) (x : Subscription) : Prop :=
  ∃ e, Message.decode content = .ok (.event e) ∧ e.kind = .subscribe ∧ e.arg = some x

variable {forward : Bool} {r : Registry} {content : String} {x : Subscription}

theorem route_registry (forward : Bool) (r : Registry) (content : String) :
    (∃ y, Acknowledges content y ∧ (route forward r content).1 = (r.confirm y).1) ∨
      (∀ y, ¬Acknowledges content y) ∧ (route forward r content).1 = r := by
  have silent : ∀ {k : Message}, Message.decode content = .ok k →
      (∀ e, k = .event e → e.kind = .subscribe → e.arg = none) → ∀ y, ¬Acknowledges content y := by
    rintro k hk none y ⟨e, he, kind, arg⟩
    rw [hk] at he
    cases he
    rw [none e rfl kind] at arg
    cases arg
  simp only [route]
  split
  · next hp =>
      refine Or.inr ⟨?_, rfl⟩
      rintro y ⟨e, he, _⟩
      rw [hp] at he
      have unread : Message.decode pong = .error .json := rfl
      rw [unread] at he
      cases he
  · split
    · next hd =>
        refine Or.inr ⟨?_, rfl⟩
        rintro y ⟨e, he, _⟩
        rw [hd] at he
        cases he
    · next e hd =>
        simp only [routeEvent]
        split
        · next hk =>
            split
            · next y hy => exact Or.inl ⟨y, ⟨e, hd, hk, hy⟩, rfl⟩
            · next none =>
                refine Or.inr ⟨silent hd ?_, rfl⟩
                rintro d hd' _
                cases hd'
                exact none
        · next hk =>
            refine Or.inr ⟨silent hd ?_, rfl⟩
            rintro d hd' kind
            cases hd'
            rw [hk] at kind
            cases kind
        · next other _ =>
            refine Or.inr ⟨silent hd ?_, rfl⟩
            rintro d hd' kind
            cases hd'
            exact absurd kind other
    · next d hd =>
        refine Or.inr ⟨silent hd ?_, rfl⟩
        rintro e he
        cases he

theorem Acknowledges.eq {y : Subscription} (hx : Acknowledges content x)
    (hy : Acknowledges content y) : x = y := by
  obtain ⟨d, hd, _, hx⟩ := hx
  obtain ⟨e, he, _, hy⟩ := hy
  rw [hd] at he
  cases he
  rw [hx] at hy
  exact Option.some.inj hy

theorem Acknowledges.route (h : Acknowledges content x) :
    (Router.route forward r content).1 = (r.confirm x).1 := by
  rcases route_registry forward r content with ⟨y, hy, confirmed⟩ | ⟨none, _⟩
  · rw [confirmed, h.eq hy]
  · exact absurd h (none x)

theorem isConfirmed_route :
    (route forward r content).1.isConfirmed x = true ↔
      r.isConfirmed x = true ∨ Acknowledges content x ∧ r.contains x = true := by
  rcases route_registry forward r content with
    ⟨y, hy, confirmed⟩ | ⟨none, same⟩
  · rw [confirmed, Registry.isConfirmed_confirm]
    constructor
    · rintro (before | ⟨rfl, held⟩)
      · exact Or.inl before
      · exact Or.inr ⟨hy, held⟩
    · rintro (before | ⟨hx, held⟩)
      · exact Or.inl before
      · exact Or.inr ⟨hx.eq hy, hx.eq hy ▸ held⟩
  · rw [same, or_iff_left fun acked => none x acked.1]

end Router

end MarketWire
