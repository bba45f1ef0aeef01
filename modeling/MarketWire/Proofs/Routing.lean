import MarketWire.Proofs.Acknowledgement

namespace MarketWire

open Channel (Subscription)

namespace Message

def Kind.isAck : Kind → Bool
  | .subscribe => true
  | .unsubscribe => true
  | _ => false

def isAck : Message → Bool
  | .event e => e.kind.isAck
  | .data _ => false

theorem raw_of_decode {text : String} {e : Event} (h : decode text = .ok (.event e)) :
    e.raw = text := by
  rw [decode] at h
  split at h
  · rw [ofFrame] at h
    split at h
    · cases h
      rfl
    · split at h
      · split at h <;> cases h
      · cases h
  · cases h

end Message

namespace Router

def Routed.message? : Routed → Option Message
  | .deliver m => some m
  | _ => none

def delivered (outcomes : List Routed) : List Message := outcomes.filterMap Routed.message?

def routeAll (forward : Bool) (r : Registry) : List String → Registry × List Routed
  | [] => (r, [])
  | text :: rest =>
      let (r, outcome) := route forward r text
      let (r, outcomes) := routeAll forward r rest
      (r, outcome :: outcomes)

inductive Fate (forward : Bool) (text : String) : Routed → Prop where
  | pong : text = pong → Fate forward text .pong
  | consumed {e : Message.Event} :
      Message.decode text = .ok (.event e) → e.kind.isAck = true → forward = false →
      Fate forward text .consumed
  | delivered {m : Message} :
      Message.decode text = .ok m → (m.isAck = true → forward = true) →
      (∀ e, m = .event e → e.raw = text) → Fate forward text (.deliver m)
  | unreadable {fault : Message.Fault} :
      Message.decode text = .error fault → text ≠ Router.pong →
      Fate forward text (.deliver (.event ⟨.parseError, none, none, some fault.text, none, text⟩))

variable {forward : Bool} {r : Registry} {text : String} {texts : List String} {o : Routed}
  {x : Subscription}

theorem decode_pong : Message.decode pong = .error .json := rfl

theorem ne_pong_of_decode {m : Message} (decoded : Message.decode text = .ok m) : text ≠ pong := by
  rintro rfl
  rw [decode_pong] at decoded
  cases decoded

theorem routeEvent_outcome (forward : Bool) (r : Registry) (e : Message.Event) :
    (routeEvent forward r e).2
      = if e.kind.isAck then acknowledge forward e else .deliver (.event e) := by
  rw [routeEvent]
  split
  · next kind =>
      rw [kind]
      split <;> rfl
  · next kind =>
      rw [kind]
      rfl
  · next subscribe unsubscribe => cases kind : e.kind <;> simp_all [Message.Kind.isAck]

theorem route_fate (forward : Bool) (r : Registry) (text : String) :
    Fate forward text (route forward r text).2 := by
  rw [route]
  split
  · next here => exact .pong here
  · next other =>
      split
      · next fault decoded => exact .unreadable decoded other
      · next e decoded =>
          have raw : ∀ e', Message.event e = .event e' → e'.raw = text := by
            rintro _ ⟨⟩
            exact Message.raw_of_decode decoded
          rw [routeEvent_outcome]
          split
          · next ack =>
              cases forward with
              | true => exact .delivered decoded (fun _ => rfl) raw
              | false => exact .consumed decoded ack rfl
          · next unack => exact .delivered decoded (fun ack => absurd ack unack) raw
      · next d decoded => exact .delivered decoded (fun ack => by cases ack) fun _ same => by cases same

theorem Fate.route (h : Fate forward text o) (r : Registry) :
    (Router.route forward r text).2 = o := by
  rw [Router.route]
  cases h with
  | pong here => rw [if_pos here]
  | consumed decoded ack silent =>
      rw [if_neg (ne_pong_of_decode decoded), decoded]
      simp only [routeEvent_outcome, ack, silent]
      rfl
  | @delivered m decoded open' _ =>
      rw [if_neg (ne_pong_of_decode decoded), decoded]
      cases m with
      | data d => rfl
      | event e =>
          simp only [routeEvent_outcome]
          split
          · next ack =>
              rw [open' ack]
              rfl
          · rfl
  | unreadable decoded other =>
      rw [if_neg other, decoded]
      rfl

theorem fate_iff (r : Registry) : Fate forward text o ↔ (route forward r text).2 = o := by
  constructor
  · exact fun h => h.route r
  · rintro rfl
    exact route_fate forward r text

theorem route_registry_same (r : Registry) (text : String) :
    (route true r text).1 = (route false r text).1 := by
  rcases route_registry true r text with ⟨x, acked, confirmed⟩ | ⟨unacked, same⟩
  · rw [confirmed, acked.route]
  · rcases route_registry false r text with ⟨x, acked, _⟩ | ⟨_, same'⟩
    · exact absurd acked (unacked x)
    · rw [same, same']

theorem route_same (forward : Bool) (r : Registry) (text : String) :
    r.Same (route forward r text).1 := by
  rcases route_registry forward r text with ⟨x, _, confirmed⟩ | ⟨_, same⟩
  · rw [confirmed]
    exact Registry.same_confirm r x
  · rw [same]
    exact Registry.Same.refl r

theorem message?_route (r r' : Registry) (text : String) :
    (route false r text).2.message?.toList
      = (route true r' text).2.message?.toList.filter fun m => !m.isAck := by
  have forwarded := route_fate true r' text
  generalize (route true r' text).2 = o at forwarded
  cases forwarded with
  | pong here =>
      rw [(Fate.pong here).route]
      rfl
  | consumed _ _ silent => cases silent
  | @delivered m decoded _ raw =>
      cases ack : m.isAck with
      | false =>
          rw [(Fate.delivered decoded (fun h => by rw [ack] at h; cases h) raw).route]
          simp [Routed.message?, ack]
      | true =>
          cases m with
          | event e =>
              rw [(Fate.consumed decoded ack rfl).route]
              simp [Routed.message?, ack]
          | data d => cases ack
  | unreadable decoded other =>
      rw [(Fate.unreadable decoded other).route]
      rfl

theorem routeAll_cons (forward : Bool) (r : Registry) (text : String) (texts : List String) :
    routeAll forward r (text :: texts)
      = ((routeAll forward (route forward r text).1 texts).1,
        (route forward r text).2 :: (routeAll forward (route forward r text).1 texts).2) := rfl

theorem routeAll_same (forward : Bool) (r : Registry) (texts : List String) :
    r.Same (routeAll forward r texts).1 := by
  induction texts generalizing r with
  | nil => exact Registry.Same.refl r
  | cons text texts ih =>
      have first := route_same forward r text
      have rest := ih (route forward r text).1
      exact ⟨fun tidy => rest.tidy (first.tidy tidy), rest.all.trans first.all⟩

theorem isConfirmed_routeAll :
    (routeAll forward r texts).1.isConfirmed x = true ↔
      r.isConfirmed x = true ∨ r.contains x = true ∧ ∃ text ∈ texts, Acknowledges text x := by
  induction texts generalizing r with
  | nil => simp [routeAll]
  | cons text texts ih =>
      rw [routeAll_cons, ih, isConfirmed_route, (route_same forward r text).contains]
      constructor
      · rintro ((before | ⟨acked, held⟩) | ⟨held, t, ht, acked⟩)
        · exact Or.inl before
        · exact Or.inr ⟨held, text, List.mem_cons_self, acked⟩
        · exact Or.inr ⟨held, t, List.mem_cons_of_mem _ ht, acked⟩
      · rintro (before | ⟨held, t, ht, acked⟩)
        · exact Or.inl (Or.inl before)
        · rcases List.mem_cons.mp ht with rfl | ht
          · exact Or.inl (Or.inr ⟨acked, held⟩)
          · exact Or.inr ⟨held, t, ht, acked⟩

theorem routeAll_fates (forward : Bool) (r : Registry) (texts : List String) :
    List.Forall₂ (fun text o => ∀ o', Fate forward text o' ↔ o' = o) texts
      (routeAll forward r texts).2 := by
  induction texts generalizing r with
  | nil => exact .nil
  | cons text texts ih => exact .cons (fun _ => (fate_iff r).trans eq_comm) (ih _)

theorem routeAll_registry_same (r : Registry) (texts : List String) :
    (routeAll true r texts).1 = (routeAll false r texts).1 := by
  induction texts generalizing r with
  | nil => rfl
  | cons text texts ih =>
      rw [routeAll_cons, routeAll_cons, route_registry_same]
      exact ih _

theorem delivered_cons (o : Routed) (outcomes : List Routed) :
    delivered (o :: outcomes) = o.message?.toList ++ delivered outcomes := by
  rw [delivered, List.filterMap_cons]
  cases o.message? <;> rfl

theorem delivered_routeAll (r r' : Registry) (texts : List String) :
    delivered (routeAll false r texts).2
      = (delivered (routeAll true r' texts).2).filter fun m => !m.isAck := by
  induction texts generalizing r r' with
  | nil => rfl
  | cons text texts ih =>
      rw [routeAll_cons, routeAll_cons, delivered_cons, delivered_cons, List.filter_append,
        ih _ (route true r' text).1, message?_route r r']

structure Routes (forward : Bool) (r : Registry) (texts : List String) (r' : Registry)
    (outcomes : List Routed) : Prop where
  listed : r'.all = r.all
  confirmed : ∀ x, r'.isConfirmed x = true ↔
    r.isConfirmed x = true ∨ r.contains x = true ∧ ∃ text ∈ texts, Acknowledges text x
  fates : List.Forall₂ (fun text o => ∀ o', Fate forward text o' ↔ o' = o) texts outcomes

theorem routeAll_transparent (r : Registry) (texts : List String) :
    (∀ forward, Routes forward r texts (routeAll forward r texts).1
      (routeAll forward r texts).2) ∧
      (routeAll true r texts).1 = (routeAll false r texts).1 ∧
      delivered (routeAll false r texts).2
        = (delivered (routeAll true r texts).2).filter fun m => !m.isAck := by
  refine ⟨fun forward => ⟨?_, fun x => isConfirmed_routeAll, routeAll_fates forward r texts⟩,
    routeAll_registry_same r texts, delivered_routeAll r r texts⟩
  exact (routeAll_same forward r texts).all

example : (routeAll false Registry.empty ["pong", "\x7b\"event\":\"subscribe\"\x7d", "[]"]).2
    = [.pong, .consumed, .deliver (Message.unreadable "[]" .neither)] := by
  decide +kernel

end Router

end MarketWire
