import MarketWire.Proofs.Handover.Account

namespace MarketWire.Stream.Handover

variable {α : Type} {h t : Handover α} {c : Call α} {id : Nat} {x : α} {r : Request α} {a : Answer α}
  {q : Mailbox α} {es xs ys : List (Event α)} {capacity : Nat} {overflow : Overflow}

def Replies (es : List (Event α)) (h : Handover α) (id : Nat) (a : Answer α) : Prop :=
  .ended id a ∈ es ∨ ∃ c ∈ h.calls, c.id = id ∧ c.stage.phase = .answering a

def Vain (es : List (Event α)) (id : Nat) : Prop :=
  (∃ x, .begun id (.put x) ∈ es ∧ .ended id (.done false) ∈ es) ∨ .cancelled id ∈ es

def without (es : List (Event α)) (id : Nat) : List (Event α) := es.filter fun e => e.call != id

def Call.Seeks (c : Call α) : Prop :=
  (∃ k, c.stage = .checking k ∧ c.request = .take) ∨
    c.stage = .entering ∧ c.request = .takeNow

def Request.closedAnswer : Request α → Answer α
  | .put _ => .done false
  | .take => .got none
  | .takeNow => .got none
  | .finish => .none
  | .reopen => .done false
  | .close => .none

structure Finishing (held : List α) (pre post : List (Event α)) (es : List (Event α))
    (h : Handover α) : Prop where
  refuses : arrivals post = []
  keeps : (∀ id, .shut id ∉ post) → held = (deliveries post).map Prod.snd ++ h.mailbox.items
  declines : ∀ id x a, .begun id (.put x) ∈ es → (id, x) ∉ arrivals pre → .ended id a ∈ es →
    a = .done false
  unparked : ∀ id x, .begun id (.put x) ∈ post → ∀ c ∈ h.calls, c.id = id → ∀ k, c.stage ≠ .parked k

structure Closing (dropped : Nat) (pre post : List (Event α)) (es : List (Event α))
    (h : Handover α) : Prop where
  closed : h.mailbox.closed = true
  empty : h.mailbox.items = []
  still : arrivals post = [] ∧ departures post = [] ∧ ∀ id, .reopened id ∉ post
  counted : h.mailbox.dropped = dropped
  answers : ∀ id r a, .begun id r ∈ es → (∀ e ∈ pre, e.call = id → e.Idle) → .ended id a ∈ es →
    a = r.closedAnswer
  unparked : ∀ id r, .begun id r ∈ post → ∀ c ∈ h.calls, c.id = id → ∀ k, c.stage ≠ .parked k

structure Conserves (capacity : Nat) (overflow : Overflow) (es : List (Event α)) (h : Handover α) :
    Prop where
  answered : h.answers = es.flatMap Event.answer
  bounded : h.mailbox.length ≤ max capacity 1
  conserved : (∀ id, .shut id ∉ es) →
    (departures es).map Prod.snd ++ h.mailbox.items = (arrivals es).map Prod.snd
  counted : h.mailbox.dropped = (losses es).length
  lossless : overflow = .wait → losses es = []
  accepting : ∀ id x, (id, x) ∈ arrivals es ↔
    .begun id (.put x) ∈ es ∧ Replies es h id (.done true)
  returning : ∀ id x, (id, x) ∈ deliveries es ↔
    (.begun id .take ∈ es ∨ .begun id .takeNow ∈ es) ∧ Replies es h id (.got (some x))
  once : ((arrivals es).map Prod.fst).Nodup ∧ ((deliveries es).map Prod.fst).Nodup
  traceless : ∀ id, Vain es id →
    Lawful (.empty capacity overflow) (without es id) ∧
      h.mailbox = replay (.empty capacity overflow) (without es id) ∧
      ∀ side, id ∉ (h.turnstile side).waiting
  deliverable : ∀ x rest, h.mailbox.closed = false → h.mailbox.items = x :: rest →
    ∀ c ∈ h.calls, c.Seeks → h.advance c ≠ none ∧ h.events c = [.returned c.id x]
  finishing : ∀ pre id post, es = pre ++ .finished id :: post → (∀ id, .reopened id ∉ post) →
    Finishing (replay (.empty capacity overflow) pre).items pre post es h
  closing : ∀ pre id post, es = pre ++ .shut id :: post →
    Closing (replay (.empty capacity overflow) pre).dropped pre post es h

theorem Deal.busy {made : List (Event α)} (deal : Deal id r a made) : ∀ e ∈ made, ¬ e.Idle := by
  cases deal with
  | put x lost =>
      intro e he
      rcases List.mem_append.mp he with gone | last
      · obtain ⟨y, _, rfl⟩ := List.mem_map.mp gone
        exact not_false
      · rw [List.mem_singleton.mp last]
        exact not_false
  | _ => simp [Event.Idle]

theorem Form.answer {s : Option (Request α × Phase α)} (form : Form id es s) {e : Event α}
    (he : e ∈ es) (busy : ¬ e.Idle) :
    ∃ r a made, Deal id r a made ∧ e ∈ made ∧ .begun id r ∈ es ∧
      (.ended id a ∈ es ∨ s = some (r, .answering a)) := by
  cases form with
  | unborn => cases he
  | pending _ =>
      obtain rfl := List.mem_singleton.mp he
      exact absurd trivial busy
  | answering deal =>
      refine ⟨_, _, _, deal, ?_, List.mem_cons_self, Or.inr rfl⟩
      rcases List.mem_cons.mp he with rfl | made
      · exact absurd trivial busy
      · exact made
  | ended deal =>
      refine ⟨_, _, _, deal, ?_, List.mem_cons_self, Or.inl (by simp)⟩
      rcases List.mem_append.mp he with before | last
      · rcases List.mem_cons.mp before with rfl | made
        · exact absurd trivial busy
        · exact made
      · obtain rfl := List.mem_singleton.mp last
        exact absurd trivial busy
  | cancelled r =>
      simp only [List.mem_cons, List.not_mem_nil, or_false] at he
      rcases he with rfl | rfl <;> exact absurd trivial busy

theorem Form.made {s : Option (Request α × Phase α)} (form : Form id es s)
    (begun : .begun id r ∈ es)
    (replies : .ended id a ∈ es ∨ ∃ r, s = some (r, .answering a)) :
    ∃ made, Deal id r a made ∧ (∀ e ∈ made, e ∈ es) ∧ ∀ e ∈ es, e.Idle ∨ e ∈ made := by
  have outside {r' : Request α} {a' : Answer α} {made : List (Event α)}
      (deal : Deal id r' a' made) : .begun id r ∉ made ∧ .ended id a ∉ made :=
    ⟨fun he => deal.busy _ he trivial, fun he => deal.busy _ he trivial⟩
  cases form with
  | unborn => cases begun
  | pending hp =>
      rcases replies with ended | ⟨r', status⟩
      · simp at ended
      · cases status
        exact hp.elim
  | answering deal =>
      obtain rfl : r = _ := by simpa [(outside deal).1] using begun
      rcases replies with ended | ⟨r', status⟩
      · simp [(outside deal).2] at ended
      · cases status
        refine ⟨_, deal, fun e he => List.mem_cons_of_mem _ he, ?_⟩
        intro e he
        rcases List.mem_cons.mp he with rfl | made
        · exact Or.inl trivial
        · exact Or.inr made
  | ended deal =>
      obtain rfl : r = _ := by simpa [(outside deal).1] using begun
      rcases replies with ended | ⟨r', status⟩
      · obtain rfl : a = _ := by simpa [(outside deal).2] using ended
        refine ⟨_, deal, fun e he => by simp [he], ?_⟩
        intro e he
        rcases List.mem_append.mp he with before | last
        · rcases List.mem_cons.mp before with rfl | made
          · exact Or.inl trivial
          · exact Or.inr made
        · obtain rfl := List.mem_singleton.mp last
          exact Or.inl trivial
      · cases status
  | cancelled r' =>
      rcases replies with ended | ⟨r', status⟩
      · simp at ended
      · cases status

theorem begun_mem : .begun id r ∈ record es id ↔ .begun id r ∈ es := by
  simp [mem_record, Event.call]

theorem ended_mem : .ended id a ∈ record es id ↔ .ended id a ∈ es := by
  simp [mem_record, Event.call]

theorem roll_call {p : Phase α} (status : h.roll.lookup id = some (r, p)) :
    ∃ c ∈ h.calls, c.id = id ∧ c.request = r ∧ c.stage.phase = p := by
  obtain ⟨before, after, split, _⟩ := List.lookup_eq_some_iff.mp status
  have line : (id, r, p) ∈ h.roll := by simp [split]
  obtain ⟨c, hc, same⟩ := List.mem_map.mp line
  simp only [Call.line, Prod.mk.injEq] at same
  exact ⟨c, hc, same⟩

theorem Accounted.answer (accounts : Accounted es h) {e : Event α} (he : e ∈ es)
    (busy : ¬ e.Idle) :
    ∃ r a made, Deal e.call r a made ∧ e ∈ made ∧ .begun e.call r ∈ es ∧
      Replies es h e.call a := by
  obtain ⟨r, a, made, deal, mem, begun, replies⟩ :=
    (accounts e.call).answer (mem_record.mpr ⟨he, rfl⟩) busy
  refine ⟨r, a, made, deal, mem, begun_mem.mp begun, ?_⟩
  rcases replies with ended | status
  · exact Or.inl (ended_mem.mp ended)
  · obtain ⟨c, hc, own, _, phase⟩ := roll_call status
    exact Or.inr ⟨c, hc, own, phase⟩

theorem Accounted.made (tidy : h.Tidy) (accounts : Accounted es h) (begun : .begun id r ∈ es)
    (replies : Replies es h id a) :
    ∃ made, Deal id r a made ∧ (∀ e ∈ made, e ∈ es) ∧
      ∀ e ∈ es, e.call = id → e.Idle ∨ e ∈ made := by
  have status : .ended id a ∈ record es id ∨
      ∃ r, h.roll.lookup id = some (r, .answering a) := by
    rcases replies with ended | ⟨c, hc, rfl, phase⟩
    · exact Or.inl (ended_mem.mpr ended)
    · exact Or.inr ⟨c.request, phase ▸ tidy.lookup hc⟩
  obtain ⟨made, deal, within, all⟩ := (accounts id).made (begun_mem.mpr begun) status
  exact ⟨made, deal, fun e he => (mem_record.mp (within e he)).1,
    fun e he own => all e (mem_record.mpr ⟨he, own⟩)⟩

theorem accepting_iff (tidy : h.Tidy) (accounts : Accounted es h) :
    (id, x) ∈ arrivals es ↔ .begun id (.put x) ∈ es ∧ Replies es h id (.done true) := by
  rw [mem_arrivals]
  constructor
  · intro accepted
    obtain ⟨r, a, made, deal, mem, begun, replies⟩ := accounts.answer accepted not_false
    cases deal <;> simp_all [Event.call]
  · rintro ⟨begun, replies⟩
    obtain ⟨made, deal, within, _⟩ := accounts.made tidy begun replies
    cases deal with
    | put x lost => exact within _ (List.mem_append_right _ (List.mem_singleton_self _))

theorem returning_iff (tidy : h.Tidy) (accounts : Accounted es h) :
    (id, x) ∈ deliveries es ↔
      (.begun id .take ∈ es ∨ .begun id .takeNow ∈ es) ∧ Replies es h id (.got (some x)) := by
  rw [mem_deliveries]
  constructor
  · intro returned
    obtain ⟨r, a, made, deal, mem, begun, replies⟩ := accounts.answer returned not_false
    cases deal <;> simp_all [Event.call]
  · rintro ⟨begun | begun, replies⟩
    · obtain ⟨made, deal, within, _⟩ := accounts.made tidy begun replies
      cases deal
      exact within _ (List.mem_singleton_self _)
    · obtain ⟨made, deal, within, _⟩ := accounts.made tidy begun replies
      cases deal
      exact within _ (List.mem_singleton_self _)

theorem count_moves (f : Event α → List (Nat × α)) (own : ∀ e, ∀ m ∈ f e, m.1 = e.call) :
    ((es.flatMap f).map Prod.fst).count id = ((record es id).flatMap f).length := by
  have calls (e : Event α) : (f e).map Prod.fst = List.replicate (f e).length e.call := by
    refine List.eq_replicate_iff.mpr ⟨List.length_map .., ?_⟩
    intro i hi
    obtain ⟨m, hm, rfl⟩ := List.mem_map.mp hi
    exact own e m hm
  induction es with
  | nil => rfl
  | cons e es ih =>
      rw [List.flatMap_cons, List.map_append, List.count_append, ih, calls, List.count_replicate]
      by_cases here : e.call = id
      · simp [record, here]
      · simp [record, here]

theorem Form.single {s : Option (Request α × Phase α)} (form : Form id es s) :
    (arrivals es).length ≤ 1 ∧ (deliveries es).length ≤ 1 := by
  have lost (ys : List α) :
      (ys.map (Event.dropped id)).flatMap Event.arrival = [] ∧
        (ys.map (Event.dropped id)).flatMap Event.delivery = [] := by
    induction ys with
    | nil => exact ⟨rfl, rfl⟩
    | cons y ys ih => exact ih
  cases form with
  | answering deal =>
      cases deal <;>
        simp [arrivals, deliveries, Event.arrival, Event.delivery, List.flatMap_append, lost]
  | ended deal =>
      cases deal <;>
        simp [arrivals, deliveries, Event.arrival, Event.delivery, List.flatMap_append, lost]
  | _ => simp [arrivals, deliveries, Event.arrival, Event.delivery]

theorem Accounted.once (accounts : Accounted es h) :
    ((arrivals es).map Prod.fst).Nodup ∧ ((deliveries es).map Prod.fst).Nodup := by
  refine ⟨List.nodup_iff_count_le_one.mpr fun id => ?_,
    List.nodup_iff_count_le_one.mpr fun id => ?_⟩
  · rw [arrivals, count_moves Event.arrival]
    · exact (accounts id).single.1
    · intro e m hm
      cases e <;> simp_all [Event.arrival, Event.call]
  · rw [deliveries, count_moves Event.delivery]
    · exact (accounts id).single.2
    · intro e m hm
      cases e <;> simp_all [Event.delivery, Event.call]

theorem Form.gone {s : Option (Request α × Phase α)} (form : Form id es s)
    (ended : .ended id a ∈ es ∨ .cancelled id ∈ es) : s = none := by
  cases form with
  | pending _ => simp at ended
  | answering deal =>
      simp only [List.mem_cons, reduceCtorEq, false_or] at ended
      rcases ended with he | he
      · exact absurd trivial (deal.busy _ he)
      · exact absurd trivial (deal.busy _ he)
  | _ => rfl

theorem Form.idle_of_cancelled {s : Option (Request α × Phase α)} (form : Form id es s)
    (cancelled : .cancelled id ∈ es) : ∀ e ∈ es, e.Idle := by
  have unmade {a : Answer α} {made : List (Event α)} {r : Request α} (deal : Deal id r a made) :
      .cancelled id ∉ made := fun he => deal.busy _ he trivial
  cases form with
  | unborn => nofun
  | pending _ => simp at cancelled
  | answering deal => simp [unmade deal] at cancelled
  | ended deal => simp [unmade deal] at cancelled
  | cancelled r => simp [Event.Idle]

theorem Accounted.vain (tidy : h.Tidy) (accounts : Accounted es h) (vain : Vain es id) :
    (∀ e ∈ es, e.call = id → e.Idle) ∧ h.roll.lookup id = none := by
  rcases vain with ⟨x, begun, ended⟩ | cancelled
  · obtain ⟨made, deal, _, all⟩ := accounts.made tidy begun (Or.inl ended)
    refine ⟨fun e he own => ?_, (accounts id).gone (Or.inl (ended_mem.mpr ended))⟩
    cases deal
    exact (all e he own).resolve_right List.not_mem_nil
  · have here : .cancelled id ∈ record es id := mem_record.mpr ⟨cancelled, rfl⟩
    exact ⟨fun e he own => (accounts id).idle_of_cancelled here e (mem_record.mpr ⟨he, own⟩),
      (accounts id).gone (a := .none) (Or.inr here)⟩

theorem Tidy.absent (tidy : h.Tidy) (gone : h.roll.lookup id = none) (side : Side) :
    id ∉ (h.turnstile side).waiting := by
  intro here
  obtain ⟨c, hc, rfl⟩ := tidy.known side id here
  exact absurd (gone.symm.trans (tidy.lookup hc)) nofun

theorem Accounted.begins (accounts : Accounted (xs ++ ys) h) (begun : .begun id r ∈ ys) :
    ∀ e ∈ xs, e.call ≠ id := by
  intro e he own
  have none : record xs id = [] := by
    have form := accounts id
    rw [record_append] at form
    exact form.begins (begun_mem.mpr begun)
  exact absurd (none ▸ mem_record.mpr ⟨he, own⟩) List.not_mem_nil

theorem Waited.after (waited : Waited q (xs ++ ys) id r) (before : ∀ e ∈ xs, e.call ≠ id) :
    ∃ as bs, ys = as ++ bs ∧ r.Stalls (replay (replay q xs) as) := by
  obtain ⟨as, bs, split, begun, stalls⟩ := waited
  rcases List.append_eq_append_iff.mp split with ⟨zs, rfl, rfl⟩ | ⟨zs, rfl, rfl⟩
  · exact ⟨zs, bs, rfl, replay_append ▸ stalls⟩
  · exact absurd rfl (before _ (List.mem_append_left _ begun))

theorem Run.unparked (run : Run capacity overflow (xs ++ ys) h) (begun : .begun id r ∈ ys)
    (free : ∀ as bs, ys = as ++ bs → ¬ r.Stalls (replay (replay (.empty capacity overflow) xs) as)) :
    ∀ c ∈ h.calls, c.id = id → ∀ k, c.stage ≠ .parked k := by
  rintro c hc rfl k stage
  obtain ⟨tidy, accounts⟩ := run.accounted
  have status := tidy.lookup hc
  rw [stage] at status
  have request : r = c.request := by
    have form := accounts c.id
    have mem := begun_mem.mpr (List.mem_append_right xs begun)
    generalize record (xs ++ ys) c.id = zs at form mem
    rw [status] at form
    cases form with
    | pending _ => simpa using mem
  obtain ⟨as, bs, split, stalls⟩ := (run.waited status).after (accounts.begins begun)
  exact free as bs split (request ▸ stalls)

theorem not_stalls_closed (closed : q.closed = true) : ¬ r.Stalls q := by
  cases r <;> simp [Request.Stalls, Mailbox.offer, Mailbox.take, closed]

theorem not_stalls_finished (finished : q.finished = true) : ¬ (Request.put x).Stalls q := by
  simp [Request.Stalls, Mailbox.offer, finished]

theorem deliverable {rest : List α} (open' : h.mailbox.closed = false)
    (items : h.mailbox.items = x :: rest) (seeks : c.Seeks) :
    h.advance c ≠ none ∧ h.events c = [.returned c.id x] := by
  rcases seeks with ⟨k, stage, request⟩ | ⟨stage, request⟩
  · simp [advance, events, checkEvents, stage, request, Mailbox.take, open', items]
  · simp [advance, events, enterEvents, stage, request, Mailbox.takeNow, open', items]

theorem Run.finishing (run : Run capacity overflow (xs ++ .finished id :: ys) h)
    (unopened : ∀ id, .reopened id ∉ ys) :
    Finishing (replay (.empty capacity overflow) xs).items xs ys (xs ++ .finished id :: ys) h := by
  obtain ⟨tidy, accounts⟩ := run.accounted
  obtain ⟨legal, mailbox⟩ := run.lawful
  obtain ⟨-, -, later⟩ := lawful_append.mp legal
  have after : replay (.empty capacity overflow) (xs ++ [Event.finished id])
      = (replay (.empty capacity overflow) xs).finish := replay_append
  obtain ⟨quiet, kept, -⟩ := later.finished rfl unopened
  refine ⟨quiet, ?_, ?_, ?_⟩
  · intro unshut
    have conserved := later.conserves unshut
    rw [quiet, departures_eq kept, List.map_nil, List.append_nil] at conserved
    rw [mailbox, replay_append]
    exact conserved
  · intro i x a begun untaken ended
    obtain ⟨made, deal, within, _⟩ := accounts.made tidy begun (Or.inl ended)
    cases deal with
    | refused x => rfl
    | put x lost =>
        have accepted := within _ (List.mem_append_right _ (List.mem_singleton_self _))
        have taken : .accepted i x ∈ xs ∨ .accepted i x ∈ ys := by simpa using accepted
        rw [← mem_arrivals, ← mem_arrivals, quiet] at taken
        exact absurd taken (not_or.mpr ⟨untaken, List.not_mem_nil⟩)
  · intro i x begun
    rw [List.append_cons] at run
    refine run.unparked begun ?_
    rintro as bs rfl
    obtain ⟨legal', -⟩ := lawful_append.mp later
    rw [after]
    exact not_stalls_finished (legal'.finished rfl fun i hi =>
      unopened i (List.mem_append_left _ hi)).2.2

theorem Run.closing (run : Run capacity overflow (xs ++ .shut id :: ys) h) :
    Closing (replay (.empty capacity overflow) xs).dropped xs ys (xs ++ .shut id :: ys) h := by
  obtain ⟨tidy, accounts⟩ := run.accounted
  obtain ⟨legal, mailbox⟩ := run.lawful
  obtain ⟨-, -, later⟩ := lawful_append.mp legal
  have after : replay (.empty capacity overflow) (xs ++ [Event.shut id])
      = (replay (.empty capacity overflow) xs).close := replay_append
  rw [List.append_cons, replay_append, after] at mailbox
  obtain ⟨quiet, idle, unopened, shut, empty⟩ := later.closed rfl rfl
  obtain ⟨unreturned, kept⟩ := departures_nil idle
  refine ⟨mailbox ▸ shut, mailbox ▸ empty, ⟨quiet, idle, unopened⟩, ?_, ?_, ?_⟩
  · rw [mailbox, dropped_replay, kept]
    rfl
  · intro i r a begun waits ended
    obtain ⟨made, deal, within, _⟩ := accounts.made tidy begun (Or.inl ended)
    have since : ∀ e ∈ made, e = .shut id ∨ e ∈ ys := fun e he =>
      List.mem_cons.mp ((List.mem_append.mp (within e he)).resolve_left fun before =>
        deal.busy e he (waits e before (deal.own e he)))
    cases deal with
    | put x lost =>
        have accepted := since _ (List.mem_append_right _ (List.mem_singleton_self _))
        have taken := mem_arrivals.mpr (accepted.resolve_left nofun)
        exact absurd (quiet ▸ taken) List.not_mem_nil
    | take x =>
        have returned := (since _ (List.mem_singleton_self _)).resolve_left nofun
        exact absurd (unreturned ▸ mem_deliveries.mpr returned) List.not_mem_nil
    | takeNow x =>
        have returned := (since _ (List.mem_singleton_self _)).resolve_left nofun
        exact absurd (unreturned ▸ mem_deliveries.mpr returned) List.not_mem_nil
    | reopen =>
        have reopened := (since _ (List.mem_singleton_self _)).resolve_left nofun
        exact absurd reopened (unopened _)
    | _ => rfl
  · intro i r begun
    rw [List.append_cons] at run
    refine run.unparked begun ?_
    rintro as bs rfl
    obtain ⟨legal', -⟩ := lawful_append.mp later
    rw [after]
    exact not_stalls_closed (legal'.closed rfl rfl).2.2.2.1

theorem run_conserves (run : Run capacity overflow es h) : Conserves capacity overflow es h := by
  obtain ⟨tidy, accounts⟩ := run.accounted
  obtain ⟨legal, mailbox⟩ := run.lawful
  refine ⟨run.answers, ?_, ?_, ?_, ?_, ?_, ?_, accounts.once, ?_, ?_, ?_, ?_⟩
  · rw [mailbox]
    exact legal.bounded (Nat.zero_le _)
  · intro unshut
    rw [mailbox]
    exact (legal.conserves unshut).symm
  · rw [mailbox, dropped_replay]
    exact Nat.zero_add _
  · exact legal.lossless
  · exact fun id x => accepting_iff tidy accounts
  · exact fun id x => returning_iff tidy accounts
  · intro id vain
    obtain ⟨idle, gone⟩ := accounts.vain tidy vain
    have left := lawful_filter (q := .empty capacity overflow) (p := fun e => e.call != id)
      fun e he own => idle e he (by simpa using own)
    exact ⟨left.2 legal, mailbox.trans left.1.symm, tidy.absent gone⟩
  · exact fun x rest open' items c _ seeks => deliverable open' items seeks
  · rintro xs id ys rfl unopened
    exact run.finishing unopened
  · rintro xs id ys rfl
    exact run.closing

def drainage : List (Move Nat) :=
  [.start 0 (.put 7), .advance 0, .advance 0, .advance 0, .advance 0, .start 1 (.put 8), .advance 1,
    .advance 1, .cancel 1, .start 2 .finish, .advance 2, .start 3 (.put 9), .advance 3, .advance 3,
    .advance 3, .start 4 .take, .advance 4, .advance 4, .advance 4, .advance 4, .start 5 .close,
    .advance 5, .start 6 .takeNow, .advance 6, .start 7 .reopen, .advance 7]

theorem drainage_conserves :
    ∃ s, play ([], .empty 0 .wait) drainage = some s ∧
      s.2.answers = [(0, .done true), (3, .done false), (4, .got (some 7)), (6, .got none),
        (7, .done false)] ∧
      Conserves 0 .wait s.1 s.2 := by
  have played : (play ([], .empty 0 .wait) drainage).map (fun s => s.2.answers)
      = some [(0, .done true), (3, .done false), (4, .got (some 7)), (6, .got none),
        (7, .done false)] := rfl
  obtain ⟨s, hs, answers⟩ := Option.map_eq_some_iff.mp played
  exact ⟨s, hs, answers, run_conserves (Run.opened.play hs)⟩

end MarketWire.Stream.Handover
