import MarketWire.Stream.Session.Step

namespace MarketWire.Stream

open Channel (Subscription)

inductive Event where
  | added (x : Subscription)
  | removed (x : Subscription)
  | skipped (x : Subscription)
  | taken (link : Nat) (c : Command)
  | loggedIn (link : Nat)
  | listed (link : Nat) (xs : List Subscription)
  | routed (link : Nat) (m : Message)
  | returned (m : Message)
  | shut (call : Nat)
  | redialled (call : Nat)
  | closed (call : Nat)
  deriving DecidableEq

namespace Session

def attemptEvents (s : Session) : Attempt → Branch → List Event
  | .loggingIn n _, .read =>
      match s.nextArrival n with
      | some (.text content, _) =>
          match loginVerdict content with
          | some (.ok ()) => [.loggedIn n]
          | _ => []
      | _ => []
  | .connected n, .proceed => [.listed n s.registry.all]
  | _, _ => []

def beginEvents (s : Session) (id : Nat) : Action → List Event
  | .receive =>
      match s.mailbox.take with
      | .item m _ => [.returned m]
      | _ => []
  | .close => if s.shut then [] else [.shut id]
  | _ => []

def changeEvents (s : Session) : Action → List Event
  | .subscribe x => if s.registry.contains x then [] else [.added x]
  | .unsubscribe x => if s.registry.contains x then [.removed x] else []
  | _ => []

def callEvents (s : Session) (c : Call) (b : Branch) : List Event :=
  match c.stage, b with
  | .begun, .proceed => s.beginEvents c.id c.action
  | .changing a, .proceed => s.changeEvents a
  | .observing x, .proceed => if s.phase = .ready then [] else [.skipped x]
  | .joining .detach _, .proceed => [.redialled c.id]
  | .joining .close _, .proceed => [.closed c.id]
  | .attempting a, b => s.attemptEvents a b
  | _, _ => []

def readEvents (s : Session) (n : Nat) : List Event :=
  match s.nextArrival n with
  | some (.text content, _) =>
      match (Router.route s.settings.forwardAcks s.registry content).2 with
      | .deliver m => [.routed n m]
      | _ => []
  | _ => []

def workerEvents (s : Session) (b : Branch) : List Event :=
  match s.worker, b with
  | .reading n _, .read => s.readEvents n
  | .reading n _, .command => s.nextCommand.toList.map fun r => .taken n r.1
  | .attempting _ a, b => s.attemptEvents a b
  | _, _ => []

def events (s : Session) : Move → List Event
  | .call id b => (s.call? id).elim [] fun c => s.callEvents c b
  | .worker b => s.workerEvents b
  | _ => []

def chronicle (s : Session) : List Move → List Event
  | [] => []
  | m :: ms => s.events m ++ (s.step m).elim [] fun t => t.chronicle ms

theorem chronicle_cons {s t : Session} {m : Move} (ms : List Move) (h : s.step m = some t) :
    s.chronicle (m :: ms) = s.events m ++ t.chronicle ms := by
  simp [chronicle, h]

theorem Run.keeps_where {I : Session → List Event → Prop} {P : Move → Prop}
    (hstep : ∀ {s t : Session} {m : Move} {h : List Event},
      P m → I s h → s.step m = some t → I t (h ++ s.events m))
    {s t : Session} {ms : List Move} (run : Run s ms t) :
    (∀ m ∈ ms, P m) → ∀ {h : List Event}, I s h → I t (h ++ s.chronicle ms) := by
  induction run with
  | nil s =>
      intro _ h hs
      simpa [chronicle] using hs
  | cons first _ ih =>
      intro hP h hs
      rw [chronicle_cons _ first, ← List.append_assoc]
      refine ih (fun m hm => hP m (List.mem_cons_of_mem _ hm)) ?_
      exact hstep (hP _ List.mem_cons_self) hs first

theorem Run.keeps {I : Session → List Event → Prop}
    (hstep : ∀ {s t : Session} {m : Move} {h : List Event},
      I s h → s.step m = some t → I t (h ++ s.events m))
    {s t : Session} {ms : List Move} (run : Run s ms t) {h : List Event} (hs : I s h) :
    I t (h ++ s.chronicle ms) :=
  run.keeps_where (P := fun _ => True) (fun _ => hstep) (fun _ _ => trivial) hs

def play (s : Session) : List Move → Option Session
  | [] => some s
  | m :: ms => (s.step m).bind fun t => t.play ms

theorem run_iff_play {s t : Session} {ms : List Move} : Run s ms t ↔ s.play ms = some t := by
  constructor
  · intro run
    induction run with
    | nil s => rfl
    | cons first _ ih => simp [play, first, ih]
  · intro h
    induction ms generalizing s with
    | nil =>
        cases h
        exact .nil _
    | cons m ms ih =>
        obtain ⟨u, first, rest⟩ := Option.bind_eq_some_iff.mp h
        exact .cons first (ih rest)

theorem exists_run {α : Type} (s : Session) (ms : List Move) (f : Session → α) {a : α}
    (h : (s.play ms).map f = some a) : ∃ t, Run s ms t ∧ f t = a := by
  obtain ⟨t, ht, hf⟩ := Option.map_eq_some_iff.mp h
  exact ⟨t, run_iff_play.mpr ht, hf⟩

def visitor (settings : Settings) : Session :=
  initial ⟨⟨"", "ws://a", "ws://a", false⟩, settings, .marketData⟩ [] []

def member (settings : Settings) : Session :=
  initial ⟨⟨"", "ws://a", "ws://a", false⟩, settings, .account ⟨"a", "b", "c"⟩⟩ [] []

def connecting : List Move :=
  [.invoke .connect, .call 0 .proceed, .call 0 .proceed, .answer 1 .accepted, .call 0 .read,
    .call 0 .proceed, .call 0 .proceed]

theorem Run.append {s t u : Session} {ms ns : List Move} (first : Run s ms t) (rest : Run t ns u) :
    Run s (ms ++ ns) u := by
  induction first with
  | nil _ => exact rest
  | cons hm _ ih => exact .cons hm (ih rest)

end Session

end MarketWire.Stream
